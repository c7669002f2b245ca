/-!
# Well-formed regular expressions

Whether a text reads as a regular expression in the common dialect of `|`, groups, classes and
repetitions. Only the form is checked; nothing is compiled.

* Groups are `(…)`, `(?:…)`, named `(?P<name>…)` or `(?<name>…)`, or carry flags from
  `imsUuxR`, as `(?i)` or `(?i-s:…)`: at least one flag, none twice, at most one `-`, and not a
  `-` last. Every `(` needs its `)` and every `)` its `(`.
* `*`, `+`, `?` and counted repetitions `{n}`, `{n,}`, `{n,m}` with `n ≤ m` need something before
  them: not the start, a `(`, a `|` or a group of flags alone. Each may be followed by a `?`.
* A class is `[…]`, possibly negated by `^`; a `]` right after the opening (and its `^`) stands for
  itself. It holds characters, ranges `a-z` whose ends are single characters in order, escapes,
  nested classes, named classes such as `[:alpha:]`, and the operators `&&`, `--` and `~~`. An
  escape that stands for a class cannot start a range.
* After `\` comes a class (`d`, `w`, `s` and their capitals, `p` or `P` with a one-letter name or a
  name in braces), an assertion (`b`, `B`, `A`, `z`, `<`, `>`), a control (`a`, `f`, `t`, `n`,
  `r`, `v`), a code point (`x` with two hex digits, `u` with four, `U` with eight, or any of them
  with hex digits in braces), or any ASCII character that is neither a letter nor a digit.
-/

namespace OrderDesk.RegexSyntax

/-- Whether a character is a hex digit. -/
def hexChar (c : Char) : Bool := c.isDigit || ('a' ≤ c && c ≤ 'f') || ('A' ≤ c && c ≤ 'F')

/-- The value of hex digits. -/
def hexValue (cs : List Char) : Nat :=
  cs.foldl (fun n c =>
    n * 16 + (if c.isDigit then c.toNat - '0'.toNat else c.toLower.toNat - 'a'.toNat + 10)) 0

/-- The character hex digits name, if they are hex digits naming a character. -/
def hexCharacter (cs : List Char) : Option Char :=
  if cs.isEmpty || !cs.all hexChar || cs.length > 8 then none
  else
    let v := hexValue cs
    if v ≤ 0x10FFFF && !(0xD800 ≤ v && v ≤ 0xDFFF) then some (Char.ofNat v) else none

/-- What an escape or a class member stands for: one character, or something else (a class or
an assertion), which cannot end a range. -/
inductive Atom where
  | literal (c : Char)
  | other

/-- The general categories that a one-letter class name may give. -/
def categoryLetters : List Char := ['C', 'L', 'M', 'N', 'P', 'S', 'Z']

/-- Reads a code point escape after its `x`, `u` or `U`: hex digits in braces, or exactly
`width` of them. -/
def codePointEscape (width : Nat) : List Char → Option (Atom × List Char)
  | '{' :: rest =>
    let digits := rest.takeWhile (· != '}')
    match rest.dropWhile (· != '}') with
    | '}' :: after => (hexCharacter digits).map fun c => (.literal c, after)
    | _ => none
  | cs =>
    if cs.length < width then none
    else (hexCharacter (cs.take width)).map fun c => (.literal c, cs.drop width)

/-- Reads an escape after its `\`. -/
def escape : List Char → Option (Atom × List Char)
  | [] => none
  | c :: rest =>
    if c == 'x' then codePointEscape 2 rest
    else if c == 'u' then codePointEscape 4 rest
    else if c == 'U' then codePointEscape 8 rest
    else if c == 'p' || c == 'P' then
      match rest with
      | '{' :: more =>
        let name := more.takeWhile (· != '}')
        match more.dropWhile (· != '}') with
        | '}' :: after => if name.isEmpty then none else some (.other, after)
        | _ => none
      | l :: after => if categoryLetters.contains l then some (.other, after) else none
      | [] => none
    else if "dDwWsSbBAz<>".toList.contains c then some (.other, rest)
    else if c == 'a' then some (.literal (Char.ofNat 7), rest)
    else if c == 'f' then some (.literal (Char.ofNat 12), rest)
    else if c == 't' then some (.literal '\t', rest)
    else if c == 'n' then some (.literal '\n', rest)
    else if c == 'r' then some (.literal '\r', rest)
    else if c == 'v' then some (.literal (Char.ofNat 11), rest)
    else if c.toNat < 128 && !c.isAlphanum then some (.literal c, rest)
    else none

/-- The value of decimal digits, if it fits in 32 bits. -/
def decimal32 (ds : List Char) : Option Nat :=
  let v := ds.foldl (fun n c => n * 10 + (c.toNat - '0'.toNat)) 0
  if ds.isEmpty || v ≥ Nat.pow 2 32 then none else some v

/-- Reads a counted repetition after its `{`. -/
def counted (cs : List Char) : Option (List Char) := do
  let (lo, rest) := cs.span Char.isDigit
  let low ← decimal32 lo
  match rest with
  | '}' :: after => pure after
  | ',' :: more =>
    let (hi, rest') := more.span Char.isDigit
    match rest' with
    | '}' :: after =>
      if hi.isEmpty then pure after
      else
        let high ← decimal32 hi
        if low ≤ high then pure after else none
    | _ => none
  | _ => none

/-- The names of the classes that may stand in `[:…:]`. -/
def namedClasses : List String :=
  ["alnum", "alpha", "ascii", "blank", "cntrl", "digit", "graph", "lower", "print", "punct",
    "space", "upper", "word", "xdigit"]

/-- Reads a named class after its `[:`, giving what follows its `:]`. -/
def namedClass (cs : List Char) : Option (List Char) :=
  let body := match cs with
    | '^' :: rest => rest
    | rest => rest
  let name := body.takeWhile (· != ':')
  match body.dropWhile (· != ':') with
  | ':' :: ']' :: after => if namedClasses.contains (String.ofList name) then some after else none
  | _ => none

/-- What follows the opening of a class: its optional `^`, then a `]` that stands for itself. -/
def classStart (cs : List Char) : List Char :=
  let cs := match cs with
    | '^' :: rest => rest
    | rest => rest
  match cs with
  | ']' :: rest => rest
  | rest => rest

/-- Reads the end of a range after its `-`, which must be a single character at least `low`. -/
def rangeEnd (low : Char) : List Char → Option (List Char)
  | '\\' :: rest =>
    match escape rest with
    | some (.literal high, after) => if low ≤ high then some after else none
    | _ => none
  | '[' :: _ => none
  | high :: after => if low ≤ high then some after else none
  | [] => none

/-- After a single character of a class: a range to read when a `-` follows that does not close
the class. -/
def afterMember (low : Char) : List Char → Option (List Char)
  | '-' :: rest@(c :: _) => if c == ']' then some ('-' :: rest) else rangeEnd low rest
  | cs => some cs

/-- Reads the rest of a class within `depth` open classes, giving what follows the `]` that
closes the outermost. -/
def classRest : Nat → Nat → List Char → Option (List Char)
  | 0, _, _ => none
  | _, _, [] => none
  | fuel + 1, depth, c :: rest =>
    if c == ']' then
      if depth ≤ 1 then some rest else classRest fuel (depth - 1) rest
    else if c == '[' then
      match rest with
      | ':' :: more =>
        match namedClass more with
        | some after => classRest fuel depth after
        | none => classRest fuel (depth + 1) (classStart rest)
      | _ => classRest fuel (depth + 1) (classStart rest)
    else if c == '\\' then
      match escape rest with
      | some (.literal l, after) => (afterMember l after).bind (classRest fuel depth)
      | some (.other, after) =>
        match after with
        | '-' :: c :: _ => if c == ']' then classRest fuel depth after else none
        | _ => classRest fuel depth after
      | none => none
    else
      match c, rest with
      | '&', '&' :: after | '-', '-' :: after | '~', '~' :: after => classRest fuel depth after
      | _, _ => (afterMember c rest).bind (classRest fuel depth)

/-- Whether a character may stand in a group's name after its first. -/
def nameChar (c : Char) : Bool := c.isAlphanum || c == '_' || c == '.' || c == '[' || c == ']'

/-- Reads a group's name after its `<`, giving what follows the `>`. -/
def groupName (cs : List Char) : Option (List Char) :=
  match cs.span (· != '>') with
  | (first :: more, '>' :: after) =>
    if (first.isAlpha || first == '_') && more.all nameChar then some after else none
  | _ => none

/-- Whether flags are well formed: at least one flag, none twice, at most one `-`, and not a
`-` last. -/
def flagsValid (flags : List Char) : Bool :=
  let letters := flags.filter (· != '-')
  !flags.isEmpty && flags.all (fun c => c == '-' || "imsUuxR".toList.contains c) &&
    flags.count '-' ≤ 1 && flags.getLast? != some '-' && letters.eraseDups.length == letters.length

/-- How a group opens: a group of flags alone, which closes at once, or a group whose body
follows. -/
inductive Opening where
  | flagsAlone (after : List Char)
  | body (after : List Char)

/-- Reads what follows a `(`. -/
def groupOpening : List Char → Option Opening
  | '?' :: ':' :: rest => some (.body rest)
  | '?' :: 'P' :: '<' :: rest => (groupName rest).map .body
  | '?' :: '<' :: rest => (groupName rest).map .body
  | '?' :: rest =>
    let flags := rest.takeWhile fun c => c != ':' && c != ')'
    if !flagsValid flags then none
    else
      match rest.dropWhile fun c => c != ':' && c != ')' with
      | ')' :: after => some (.flagsAlone after)
      | ':' :: after => some (.body after)
      | _ => none
  | rest => some (.body rest)

/-- Drops the `?` that makes a repetition lazy. -/
def dropLazy : List Char → List Char
  | '?' :: rest => rest
  | cs => cs

/-- Whether the rest of a pattern reads, within `depth` open groups; `repeatable` tells whether
a repetition may follow here. -/
def patternRest : Nat → Nat → Bool → List Char → Bool
  | 0, _, _, _ => false
  | _, depth, _, [] => depth == 0
  | fuel + 1, depth, repeatable, c :: rest =>
    if c == '(' then
      match groupOpening rest with
      | some (.flagsAlone after) => patternRest fuel depth false after
      | some (.body after) => patternRest fuel (depth + 1) false after
      | none => false
    else if c == ')' then depth != 0 && patternRest fuel (depth - 1) true rest
    else if c == '|' then patternRest fuel depth false rest
    else if c == '*' || c == '+' || c == '?' then
      repeatable && patternRest fuel depth true (dropLazy rest)
    else if c == '{' then
      repeatable && match counted rest with
        | some after => patternRest fuel depth true (dropLazy after)
        | none => false
    else if c == '[' then
      match classRest (rest.length + 1) 1 (classStart rest) with
      | some after => patternRest fuel depth true after
      | none => false
    else if c == '\\' then
      match escape rest with
      | some (_, after) => patternRest fuel depth true after
      | none => false
    else patternRest fuel depth true rest

/-- Whether a text reads as a regular expression. -/
def wellFormed (pattern : String) : Bool :=
  patternRest (pattern.length + 1) 0 false pattern.toList

end OrderDesk.RegexSyntax
