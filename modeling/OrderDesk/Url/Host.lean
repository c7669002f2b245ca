import OrderDesk.Text.UrlEncoded
import OrderDesk.Url.Domain

/-!
# Hosts of URLs

Which hosts a URL may have, as the URL Standard reads them.

* A host in brackets is an IPv6 address: eight groups of up to four hex digits separated by
  colons, where one `::` may stand for one or more zero groups, and the last two groups may be
  written as a dotted IPv4 address of four decimal numbers up to 255 without leading zeros.
* A host of a URL whose scheme has no fixed meaning is kept as written, but may not hold a
  space or any of `#/:<>?@[\]^|`.
* Any other host is a domain. It is percent-decoded, read as UTF-8 with each bad sequence
  standing for a replacement character, and processed as an internationalized domain
  (`domainLabels`). The result may not be empty or hold a control character, a space, or any of
  `#%/:<>?@[\]^|`.
* A domain whose last label is a number is an IPv4 address. Each of its one to four parts is a
  decimal number, an octal one after a leading `0`, or a hex one after `0x`; every part but the
  last must be at most 255, and the last must fit the bytes the others leave.
-/

namespace OrderDesk.Url

/-- The value of a character as a digit of the radix (up to sixteen), if it is one. -/
def radixDigit (radix : Nat) (c : Char) : Option Nat :=
  let l := c.toLower
  let v :=
    if c.isDigit then some (c.toNat - '0'.toNat)
    else if 'a' ≤ l && l ≤ 'f' then some (l.toNat - 'a'.toNat + 10)
    else none
  v.filter (· < radix)

/-- Whether a character is a hex digit. -/
def hexDigit (c : Char) : Bool := (radixDigit 16 c).isSome

/-- The number a part of an IPv4 address stands for: decimal, octal after a leading `0`, or hex
after `0x`, where the bare prefix stands for zero. -/
def ipv4Number? (part : List Char) : Option Nat :=
  let (radix, digits) := match part with
    | '0' :: x :: rest => if x == 'x' || x == 'X' then (16, rest) else (8, x :: rest)
    | cs => (10, cs)
  if part.isEmpty then none
  else digits.foldlM (fun acc c => (radixDigit radix c).map (acc * radix + ·)) 0

/-- The dot-separated parts of a host, without the empty part after a final dot. -/
def dottedParts (host : List Char) : List (List Char) :=
  let parts := ((String.ofList host).splitOn ".").map String.toList
  match parts.getLast? with
  | some [] => if parts.length > 1 then parts.dropLast else parts
  | _ => parts

/-- Whether the last label of a domain is a number, which makes the domain an IPv4 address. -/
def endsInNumber (host : List Char) : Bool :=
  match (dottedParts host).getLast? with
  | some last => (!last.isEmpty && last.all Char.isDigit) || (ipv4Number? last).isSome
  | none => false

/-- Whether a domain that ends in a number is a valid IPv4 address. -/
def ipv4Valid (host : List Char) : Bool :=
  match (dottedParts host).mapM ipv4Number? with
  | none => false
  | some ns =>
    ns.length ≤ 4 && ns.dropLast.all (· ≤ 255) &&
      match ns.getLast? with
      | some last => last < Nat.pow 256 (5 - ns.length)
      | none => false

/-- Whether text is a dotted IPv4 address ending an IPv6 address. -/
def embeddedIpv4 (cs : List Char) : Bool :=
  let parts := ((String.ofList cs).splitOn ".").map String.toList
  parts.length == 4 && parts.all fun p =>
    !p.isEmpty && p.all Char.isDigit && (p.length == 1 || p.head? != some '0') &&
      p.foldl (fun n c => n * 10 + (c.toNat - '0'.toNat)) 0 ≤ 255

/-- Whether the rest of an IPv6 address reads, after `pieces` groups, a `::` counting as one,
and knowing whether the `::` was seen. -/
def ipv6Rest (cs : List Char) (pieces : Nat) (compressed : Bool) : Bool :=
  match cs with
  | [] => compressed || pieces == 8
  | c :: rest =>
    if pieces == 8 then false
    else if c == ':' then !compressed && ipv6Rest rest (pieces + 1) true
    else
      let n := (((c :: rest).take 4).takeWhile hexDigit).length
      match h : (c :: rest).drop n with
      | '.' :: _ =>
        n != 0 && pieces ≤ 6 && embeddedIpv4 (c :: rest) && (compressed || pieces + 2 == 8)
      | ':' :: after =>
        have : after.length < (c :: rest).length := by
          have e := congrArg List.length h
          simp only [List.length_drop, List.length_cons] at e ⊢
          omega
        n != 0 && !after.isEmpty && ipv6Rest after (pieces + 1) compressed
      | [] => n != 0 && (compressed || pieces + 1 == 8)
      | _ => false
termination_by cs.length
decreasing_by
  all_goals simp only [List.length_cons] at *
  all_goals omega

/-- Whether the text between brackets is an IPv6 address. -/
def ipv6Valid : List Char → Bool
  | ':' :: ':' :: rest => ipv6Rest rest 1 true
  | ':' :: _ => false
  | cs => ipv6Rest cs 0 false

/-- Whether a character may not stand in any host. -/
def forbiddenHostChar (c : Char) : Bool :=
  c.toNat == 0 || c == '\t' || c == '\n' || c == '\r' || " #/:<>?@[\\]^|".toList.contains c

/-- Whether a character may not stand in a domain. -/
def forbiddenDomainChar (c : Char) : Bool :=
  forbiddenHostChar c || c.toNat ≤ 0x1F || c == '%' || c.toNat == 0x7F

/-- Whether a host of a URL with a scheme of fixed meaning reads as a domain or an IPv4
address. -/
def domainValid (host : List Char) : Bool :=
  let bytes := percentDecode false (String.ofList host).toUTF8.toList
  match domainLabels (decodeLossy (bytes.length + 1) bytes) with
  | none => false
  | some labels =>
    let d := List.intercalate ['.'] labels
    !d.isEmpty && !d.any forbiddenDomainChar && (!endsInNumber d || ipv4Valid d)

/-- Whether a host reads; `special` tells whether the URL's scheme has a fixed meaning. -/
def hostValid (special : Bool) (host : List Char) : Bool :=
  match host with
  | '[' :: inside =>
    match inside.getLast? with
    | some ']' => ipv6Valid inside.dropLast
    | _ => false
  | _ => if special then domainValid host else !host.any forbiddenHostChar

end OrderDesk.Url
