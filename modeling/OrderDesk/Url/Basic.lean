import OrderDesk.Url.Host

/-!
# Absolute URLs

Whether a text reads as an absolute URL, as the URL Standard reads one without a base, and its
scheme. Leading and trailing controls and spaces are ignored, as are tabs and line breaks
anywhere.

The scheme is a letter followed by letters, digits, `+`, `-` or `.`, and a `:`; it is compared in
lower case. The schemes `ftp`, `http`, `https`, `ws` and `wss` always have an authority, after
any number of slashes or backslashes. Other schemes have one only after `//`, and `file` has
one of its own, which may be empty or a drive letter. An authority is an optional user part ending
in its last `@`, which must then be followed by a host, then a host and an optional `:` with a
socket number of at most 65535. A host may be empty only where the scheme has no fixed meaning,
and only when no socket number follows. Paths, queries and fragments never fail to read.
-/

namespace OrderDesk.Url

/-- Whether a character is a C0 control or a space, which a URL is trimmed of at both ends. -/
def c0OrSpace (c : Char) : Bool := c.toNat ≤ 0x20

/-- The text of a URL as it is read: trimmed at both ends, without tabs or line breaks. -/
def urlChars (s : String) : List Char :=
  (((s.toList.dropWhile c0OrSpace).reverse.dropWhile c0OrSpace).reverse).filter fun c =>
    c != '\t' && c != '\n' && c != '\r'

/-- Whether a character may follow the first letter of a scheme. -/
def schemeChar (c : Char) : Bool := c.isAlphanum || c == '+' || c == '-' || c == '.'

/-- The scheme, in lower case, and the text after its `:`. -/
def splitScheme : List Char → Option (String × List Char)
  | [] => none
  | c :: rest =>
    if c.isAlpha then
      let (more, after) := rest.span schemeChar
      match after with
      | ':' :: tail => some (String.ofList ((c :: more).map Char.toLower), tail)
      | _ => none
    else none

/-- The schemes of fixed meaning that always have an authority. -/
def authoritySchemes : List String := ["ftp", "http", "https", "ws", "wss"]

/-- Whether a socket number is empty or at most 65535. -/
def validSocketNumber (cs : List Char) : Bool :=
  cs.all Char.isDigit &&
    cs.foldl (fun n c => min 65536 (n * 10 + (c.toNat - '0'.toNat))) 0 ≤ 65535

/-- The host of an authority's host part, up to the first `:` outside brackets, and the text
after that `:` when there is one. -/
def splitHost (cs : List Char) : List Char × Option (List Char) :=
  go false [] cs
where
  go (inside : Bool) (acc : List Char) : List Char → List Char × Option (List Char)
    | [] => (acc.reverse, none)
    | c :: rest =>
      if c == ':' && !inside then (acc.reverse, some rest)
      else go (if c == '[' then true else if c == ']' then false else inside) (c :: acc) rest

/-- Whether an authority reads; `special` tells whether the scheme has a fixed meaning. -/
def authorityValid (special : Bool) (auth : List Char) : Bool :=
  let hostPart := (auth.reverse.takeWhile (· != '@')).reverse
  if auth.contains '@' && hostPart.isEmpty then false
  else
    match splitHost hostPart with
    | (host, some number) => !host.isEmpty && hostValid special host && validSocketNumber number
    | (host, none) => (!special || !host.isEmpty) && (host.isEmpty || hostValid special host)

/-- Whether two characters are a drive letter, as in `C:` or `c|`. -/
def driveLetter : List Char → Bool
  | [l, c] => l.isAlpha && (c == ':' || c == '|')
  | _ => false

/-- Whether what follows `file:` reads. -/
def fileRestValid (rest : List Char) : Bool :=
  let slash (c : Char) : Bool := c == '/' || c == '\\'
  match rest with
  | a :: b :: more =>
    if slash a && slash b then
      let host := more.takeWhile fun c => !"/\\?#".toList.contains c
      driveLetter host || host.isEmpty || hostValid true host
    else true
  | _ => true

/-- The scheme of a text that reads as an absolute URL, in lower case; `none` when the text does
not read as one. -/
def scheme? (text : String) : Option String := do
  let (scheme, rest) ← splitScheme (urlChars text)
  let valid :=
    if scheme == "file" then fileRestValid rest
    else if authoritySchemes.contains scheme then
      let afterSlashes := rest.dropWhile fun c => c == '/' || c == '\\'
      authorityValid true (afterSlashes.takeWhile fun c => !"/\\?#".toList.contains c)
    else
      match rest with
      | '/' :: '/' :: tail => authorityValid false (tail.takeWhile fun c => !"/?#".toList.contains c)
      | _ => true
  if valid then some scheme else none

end OrderDesk.Url
