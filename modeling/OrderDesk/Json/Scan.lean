import OrderDesk.Json.Fault
import OrderDesk.Decimal

/-!
# Scanning JSON text

`Scan` reads a byte array from a position that it moves forward. A fault stops the scan and
keeps the position reached, because faults about the shape of a value are placed only later, at
the end of the value that contains them.

Places follow two rules. A fault raised *after* consuming the offending bytes is placed at the
consumed count (`here`); a fault raised on *looking at* the next byte is placed on that byte,
one column further (`ahead`). Lines are counted by newline bytes and columns in bytes from the
start of the line.

Numbers are read as an unsigned or negative integer while they fit in 64 bits, and otherwise as
a float: the digits kept (at most what fits in 64 bits) times a power of ten, each taken to the
nearest float, then multiplied or divided once. The exponent beyond 308 is applied in steps of
`1e308`.
-/

namespace OrderDesk.Json

/-- The scanning monad: the text, the position, and a fault that keeps the position. -/
abbrev Scan := ReaderT ByteArray (ExceptT ReadError (StateM Nat))

namespace Scan

/-- The byte at the position, if any. -/
def peek? : Scan (Option UInt8) := do
  let bytes ← read
  let i ← get
  return bytes[i]?

/-- Moves past one byte. -/
def bump : Scan Unit := modify (· + 1)

/-- The byte at the position, moving past it. -/
def next? : Scan (Option UInt8) := do
  let b ← peek?
  if b.isSome then bump
  return b

/-- The place of byte offset `i`: one line per newline before it, the column counted from the
byte after the last of them. -/
def placeOf (bytes : ByteArray) (i : Nat) : Place :=
  let before := (bytes.extract 0 i).toList
  let line := 1 + before.count 10
  let column := (before.reverse.takeWhile (· != 10)).length
  { line, column }

/-- The place after the bytes consumed so far. -/
def here : Scan Place := do
  return placeOf (← read) (← get)

/-- The place of the next byte, or of the end. -/
def ahead : Scan Place := do
  let bytes ← read
  let i ← get
  return placeOf bytes (min (i + 1) bytes.size)

/-- Fails with an issue placed at the consumed count. -/
def fail {α : Type} (issue : Issue) : Scan α := do
  throw { issue, place := some (← here) }

/-- Fails with an issue placed on the next byte. -/
def failAhead {α : Type} (issue : Issue) : Scan α := do
  throw { issue, place := some (← ahead) }

/-- Places a fault that has no place yet at the consumed count. -/
def fix (e : ReadError) : Scan ReadError := do
  return e.placed (← here)

/-- Runs a reader, filling the path of a fault that has none. -/
def within {α : Type} (path : Path) (x : Scan α) : Scan α :=
  tryCatch x fun e => throw (e.within path)

/-- Whether a byte is JSON blank: space, tab, newline or carriage return. -/
def isBlank (b : UInt8) : Bool := b == 32 || b == 9 || b == 10 || b == 13

/-- Whether a byte is a decimal digit. -/
def isDigit (b : UInt8) : Bool := 48 ≤ b && b ≤ 57

/-- The value of a digit byte. -/
def digitValue (b : UInt8) : Nat := b.toNat - 48

/-- Skips blanks with at most `fuel` steps. -/
def skipBlanksFor : Nat → Scan Unit
  | 0 => pure ()
  | fuel + 1 => do
    match ← peek? with
    | some b => if isBlank b then do bump; skipBlanksFor fuel else pure ()
    | none => pure ()

/-- Skips blanks and returns the next byte without consuming it. -/
def blankPeek : Scan (Option UInt8) := do
  skipBlanksFor (← read).size
  peek?

/-- Reads the rest of a keyword whose first letter was consumed. -/
def keyword : List UInt8 → Scan Unit
  | [] => pure ()
  | c :: rest => do
    match ← next? with
    | none => fail .eofWhileParsingValue
    | some b => if b == c then keyword rest else fail .expectedSomeIdent

/-- The remaining letters of `null`, `true` and `false`. -/
def ull : List UInt8 := [117, 108, 108]
/-- The remaining letters of `true`. -/
def rue : List UInt8 := [114, 117, 101]
/-- The remaining letters of `false`. -/
def alse : List UInt8 := [97, 108, 115, 101]

/-! ## Strings -/

/-- The value of a hexadecimal digit byte. -/
def hexValue (b : UInt8) : Option Nat :=
  if 48 ≤ b && b ≤ 57 then some (b.toNat - 48)
  else if 97 ≤ b && b ≤ 102 then some (b.toNat - 87)
  else if 65 ≤ b && b ≤ 70 then some (b.toNat - 55)
  else none

/-- Reads four hexadecimal digits. Fewer than four bytes left is an unterminated string; the
four bytes are consumed before their digits are checked. -/
def hexEscape : Scan Nat := do
  let bytes ← read
  let i ← get
  if i + 4 ≤ bytes.size then
    set (i + 4)
    match hexValue bytes[i]!, hexValue bytes[i+1]!, hexValue bytes[i+2]!, hexValue bytes[i+3]! with
    | some a, some b, some c, some d => return ((a * 16 + b) * 16 + c) * 16 + d
    | _, _, _, _ => fail .invalidEscape
  else
    set bytes.size
    fail .eofWhileParsingString

/-- The UTF-8 bytes of a code point. -/
def utf8 (n : Nat) : ByteArray := (String.singleton (Char.ofNat n)).toUTF8

/-- Consumes one byte of a string, failing at the end of the text. -/
def stringByte : Scan UInt8 := do
  match ← next? with
  | some b => return b
  | none => fail .eofWhileParsingString

/-- Looks at one byte of a string, failing at the end of the text. -/
def stringPeek : Scan UInt8 := do
  match ← peek? with
  | some b => return b
  | none => fail .eofWhileParsingString

/-- Reads a `\u` escape after the `u`. A trailing surrogate alone, or a leading one not followed
by `\u` and a trailing one, is refused. -/
def unicodeEscape : Scan ByteArray := do
  let n ← hexEscape
  if 0xDC00 ≤ n ∧ n ≤ 0xDFFF then fail .loneLeadingSurrogate
  else if n < 0xD800 ∨ 0xDBFF < n then return utf8 n
  else
    if (← stringPeek) == 92 then bump else do bump; fail .unexpectedEndOfHexEscape
    if (← stringPeek) == 117 then bump else do bump; fail .unexpectedEndOfHexEscape
    let n2 ← hexEscape
    if n2 < 0xDC00 ∨ 0xDFFF < n2 then fail .loneLeadingSurrogate
    else return utf8 (((n - 0xD800) * 1024 + (n2 - 0xDC00)) + 0x10000)

/-- Reads an escape after its backslash. -/
def escape : Scan ByteArray := do
  let c ← stringByte
  match c with
  | 34 => return ByteArray.mk #[34]
  | 92 => return ByteArray.mk #[92]
  | 47 => return ByteArray.mk #[47]
  | 98 => return ByteArray.mk #[8]
  | 102 => return ByteArray.mk #[12]
  | 110 => return ByteArray.mk #[10]
  | 114 => return ByteArray.mk #[13]
  | 116 => return ByteArray.mk #[9]
  | 117 => unicodeEscape
  | _ => fail .invalidEscape

/-- Reads string bytes after the opening quote, at most `fuel` steps. -/
def stringBodyFor : Nat → ByteArray → Scan ByteArray
  | 0, acc => return acc
  | fuel + 1, acc => do
    match ← next? with
    | none => fail .eofWhileParsingString
    | some 34 => return acc
    | some 92 => stringBodyFor fuel (acc ++ (← escape))
    | some b =>
      if b < 32 then fail .controlCharacterInString
      else stringBodyFor fuel (acc.push b)

/-- Reads a string after its opening quote. -/
def string : Scan String := do
  let body ← stringBodyFor ((← read).size + 1) ByteArray.empty
  return (String.fromUTF8? body).getD ""

/-- Skips an escape after its backslash, checking only its form. -/
def skipEscape : Scan Unit := do
  let c ← stringByte
  if c == 34 || c == 92 || c == 47 || c == 98 || c == 102 || c == 110 || c == 114 || c == 116 then
    pure ()
  else if c == 117 then do let _ ← hexEscape
  else fail .invalidEscape

/-- Skips string bytes after the opening quote, at most `fuel` steps. A control character is
refused before it is consumed. -/
def skipStringFor : Nat → Scan Unit
  | 0 => pure ()
  | fuel + 1 => do
    match ← peek? with
    | none => fail .eofWhileParsingString
    | some 34 => bump
    | some 92 => do bump; skipEscape; skipStringFor fuel
    | some b => if b < 32 then fail .controlCharacterInString else do bump; skipStringFor fuel

/-- Skips a string after its opening quote. -/
def skipString : Scan Unit := do skipStringFor ((← read).size + 1)

/-! ## Numbers -/

/-- A number as read: an unsigned integer, a negative integer, or a float. -/
inductive Number where
  | unsigned (n : Nat)
  | signed (n : Int)
  | float (x : Float)

/-- The largest value of the 64-bit accumulator of digits. -/
def wordMax : Nat := Nat.pow 2 64 - 1

/-- Whether appending `digit` to `acc` leaves 64 bits. -/
def overflows (acc digit : Nat) (limit : Nat) : Bool :=
  decide (acc ≥ limit / 10 ∧ (acc > limit / 10 ∨ digit > limit % 10))

/-- `significand · 10^exponent` with the sign, as described in the module header; too large a
result is a fault. -/
def floatOf (positive : Bool) (significand : Nat) (exponent : Int) : Scan Float := do
  let rec go : Nat → Float → Int → Scan Float
    | 0, f, _ => return f
    | fuel + 1, f, e =>
      if e.natAbs ≤ 308 then
        if 0 ≤ e then
          let g := f * Decimal.powerOfTen e.natAbs
          if g.isInf then fail .numberOutOfRange else return g
        else return f / Decimal.powerOfTen e.natAbs
      else if f == 0 then return f
      else if 0 ≤ e then fail .numberOutOfRange
      else go fuel (f / Decimal.powerOfTen 308) (e + 308)
  let f ← go (exponent.natAbs / 308 + 2) (Decimal.nearestFloat significand) exponent
  return if positive then f else -f

/-- Skips digits, counting them, at most `fuel` steps. -/
def countDigitsFor : Nat → Nat → Scan Nat
  | 0, n => return n
  | fuel + 1, n => do
    match ← peek? with
    | some b => if isDigit b then do bump; countDigitsFor fuel (n + 1) else return n
    | none => return n

/-- Reads the exponent after `e` or `E`. -/
def exponentPart (positive : Bool) (significand : Nat) (start : Int) : Scan Float := do
  bump
  let positiveExp ← do
    match ← peek? with
    | some 43 => bump; pure true
    | some 45 => bump; pure false
    | _ => pure true
  match ← next? with
  | none => fail .eofWhileParsingValue
  | some c =>
    if !isDigit c then fail .invalidNumber
    else
      let rec digits : Nat → Nat → Scan (Option Nat)
        | 0, e => return some e
        | fuel + 1, e => do
          match ← peek? with
          | some b =>
            if isDigit b then
              bump
              if overflows e (digitValue b) (Nat.pow 2 31 - 1) then return none
              else digits fuel (e * 10 + digitValue b)
            else return some e
          | none => return some e
      match ← digits (← read).size (digitValue c) with
      | some e =>
        let final : Int := if positiveExp then start + e else start - e
        floatOf positive significand final
      | none =>
        if significand != 0 && positiveExp then fail .numberOutOfRange
        else do
          let _ ← countDigitsFor (← read).size 0
          return if positive then 0.0 else -0.0

/-- Reads the fraction after the point, then an exponent if one follows. -/
def fractionPart (positive : Bool) (significand : Nat) (start : Int) : Scan Float := do
  bump
  let rec digits : Nat → Nat → Int → Scan (Nat × Int × Bool)
    | 0, m, e => return (m, e, false)
    | fuel + 1, m, e => do
      match ← peek? with
      | some b =>
        if isDigit b then
          if overflows m (digitValue b) wordMax then return (m, e, true)
          else do bump; digits fuel (m * 10 + digitValue b) (e - 1)
        else return (m, e, false)
      | none => return (m, e, false)
  let (m, after, overflowed) ← digits (← read).size significand 0
  if overflowed then
    let _ ← countDigitsFor (← read).size 0
    match ← peek? with
    | some 101 | some 69 => exponentPart positive m (start + after)
    | _ => floatOf positive m (start + after)
  else if after = 0 then
    match ← peek? with
    | some _ => failAhead .invalidNumber
    | none => failAhead .eofWhileParsingValue
  else
    match ← peek? with
    | some 101 | some 69 => exponentPart positive m (start + after)
    | _ => floatOf positive m (start + after)

/-- Continues a number whose digits overflowed 64 bits: further digits only raise the
exponent. -/
def longInteger (positive : Bool) (significand : Nat) : Scan Float := do
  let extra ← countDigitsFor (← read).size 0
  match ← peek? with
  | some 46 => fractionPart positive significand extra
  | some 101 | some 69 => exponentPart positive significand extra
  | _ => floatOf positive significand extra

/-- The end of a number after its integer digits: a fraction, an exponent, or an integer. A
negative zero is a float. -/
def numberTail (positive : Bool) (significand : Nat) : Scan Number := do
  match ← peek? with
  | some 46 => return .float (← fractionPart positive significand 0)
  | some 101 | some 69 => return .float (← exponentPart positive significand 0)
  | _ =>
    if positive then return .unsigned significand
    else if significand = 0 then return .float (-0.0)
    else if significand ≤ Nat.pow 2 63 then return .signed (-(significand : Int))
    else return .float (-(Decimal.nearestFloat significand))

/-- Reads a number after its optional minus sign. -/
def number (positive : Bool) : Scan Number := do
  match ← next? with
  | none => fail .eofWhileParsingValue
  | some 48 =>
    match ← peek? with
    | some b => if isDigit b then failAhead .invalidNumber else numberTail positive 0
    | none => numberTail positive 0
  | some c =>
    if !isDigit c then fail .invalidNumber
    else
      let rec digits : Nat → Nat → Scan Number
        | 0, m => numberTail positive m
        | fuel + 1, m => do
          match ← peek? with
          | some b =>
            if isDigit b then
              if overflows m (digitValue b) wordMax then
                return .float (← longInteger positive m)
              else do bump; digits fuel (m * 10 + digitValue b)
            else numberTail positive m
          | none => numberTail positive m
      digits (← read).size (digitValue c)

/-- Skips the exponent after `e` or `E`, checking its form. -/
def skipExponent : Scan Unit := do
  bump
  match ← peek? with
  | some 43 | some 45 => bump
  | _ => pure ()
  match ← peek? with
  | some b => do bump; if !isDigit b then fail .invalidNumber
  | none => fail .invalidNumber
  let _ ← countDigitsFor (← read).size 0

/-- Skips a number after its optional minus sign, checking its form. -/
def skipNumber : Scan Unit := do
  match ← peek? with
  | some 48 =>
    bump
    match ← peek? with
    | some b => if isDigit b then failAhead .invalidNumber else pure ()
    | none => pure ()
  | some b =>
    bump
    if isDigit b then do let _ ← countDigitsFor (← read).size 0
    else fail .invalidNumber
  | none => fail .invalidNumber
  match ← peek? with
  | some 46 =>
    bump
    let n ← countDigitsFor (← read).size 0
    if n = 0 then failAhead .invalidNumber
    match ← peek? with
    | some 101 | some 69 => skipExponent
    | _ => pure ()
  | some 101 | some 69 => skipExponent
  | _ => pure ()

/-! ## Skipping a whole value -/

/-- An open array or object while skipping. -/
inductive Frame where
  | list
  | object
  deriving DecidableEq

/-- Skips one value of any shape, keeping the open arrays and objects on a stack. After a
scalar or a closing bracket the enclosing frame expects a comma or its own end; after an opening
bracket the frame may end at once; an object member needs a key and a colon. -/
def skipValueFor : Nat → List Frame → Scan Unit
  | 0, _ => fail .recursionLimitExceeded
  | fuel + 1, stack => do
    let opened ← do
      match ← blankPeek with
      | none => failAhead .eofWhileParsingValue
      | some 110 => bump; keyword ull; pure none
      | some 116 => bump; keyword rue; pure none
      | some 102 => bump; keyword alse; pure none
      | some 45 => bump; skipNumber; pure none
      | some 34 => bump; skipString; pure none
      | some 91 => bump; pure (some Frame.list)
      | some 123 => bump; pure (some Frame.object)
      | some b => if isDigit b then do skipNumber; pure none else failAhead .expectedSomeValue
    let start : Option (Bool × Frame × List Frame) :=
      match opened, stack with
      | some f, s => some (false, f, s)
      | none, f :: s => some (true, f, s)
      | none, [] => none
    match start with
    | none => pure ()
    | some (acceptComma, frame, rest) =>
      let rec close : Nat → Bool → Frame → List Frame → Scan (Option (Frame × List Frame))
        | 0, _, _, _ => fail .recursionLimitExceeded
        | n + 1, accept, f, s => do
          match ← blankPeek with
          | none =>
            failAhead (if f = .list then .eofWhileParsingList else .eofWhileParsingObject)
          | some b =>
            if b == 44 && accept then do bump; return some (f, s)
            else if (b == 93 && f = .list) || (b == 125 && f = .object) then
              bump
              match s with
              | [] => return none
              | g :: s' => close n true g s'
            else if accept then
              failAhead (if f = .list then .expectedListCommaOrEnd else .expectedObjectCommaOrEnd)
            else return some (f, s)
      match ← close (fuel + 1) acceptComma frame rest with
      | none => pure ()
      | some (f, s) =>
        if f = .object then
          match ← blankPeek with
          | some 34 => bump
          | some _ => failAhead .keyMustBeAString
          | none => failAhead .eofWhileParsingObject
          skipString
          match ← blankPeek with
          | some 58 => bump
          | some _ => failAhead .expectedColon
          | none => failAhead .eofWhileParsingObject
        skipValueFor fuel (f :: s)

/-- Skips one value of any shape. -/
def skipValue : Scan Unit := do skipValueFor ((← read).size + 1) []

/-! ## What was found instead -/

/-- A number as the found value of a message. -/
def Number.found : Number → Found
  | .unsigned n => .unsigned n
  | .signed n => .signed n
  | .float x => .float x

/-- Reads the value at the position far enough to name it, and fails with an invalid-type
issue placed after what was read. Brackets are named without being read. -/
def invalidType {α : Type} (expected : String) : Scan α := do
  let found ← do
    match ← peek? with
    | some 110 => bump; keyword ull; pure Found.unit
    | some 116 => bump; keyword rue; pure (Found.bool true)
    | some 102 => bump; keyword alse; pure (Found.bool false)
    | some 45 => bump; pure (← number false).found
    | some 34 => bump; pure (Found.str (← string))
    | some 91 => pure Found.seq
    | some 123 => pure Found.map
    | some b => if isDigit b then pure (← number true).found else failAhead .expectedSomeValue
    | none => failAhead .expectedSomeValue
  fail (.invalidType found expected)

/-! ## Arrays and objects -/

/-- Before an array element: `true` when one follows. Every element but the first needs a
comma before it, and a comma before the closing bracket is refused. -/
def element? (first : Bool) : Scan Bool := do
  let b ← do
    match ← blankPeek with
    | some 93 => return false
    | some 44 => if first then pure (some 44) else do bump; blankPeek
    | some b => if first then pure (some b) else failAhead .expectedListCommaOrEnd
    | none => failAhead .eofWhileParsingList
  match b with
  | some 93 => failAhead .trailingComma
  | some _ => return true
  | none => failAhead .eofWhileParsingValue

/-- Before an object member: its key when one follows. -/
def key? (first : Bool) : Scan (Option String) := do
  let b ← do
    match ← blankPeek with
    | some 125 => return none
    | some 44 => if first then pure (some 44) else do bump; blankPeek
    | some b => if first then pure (some b) else failAhead .expectedObjectCommaOrEnd
    | none => failAhead .eofWhileParsingObject
  match b with
  | some 34 => do bump; return some (← string)
  | some 125 => failAhead .trailingComma
  | some _ => failAhead .keyMustBeAString
  | none => failAhead .eofWhileParsingValue

/-- The colon between a key and its value. -/
def colon : Scan Unit := do
  match ← blankPeek with
  | some 58 => bump
  | some _ => failAhead .expectedColon
  | none => failAhead .eofWhileParsingObject

/-- The end of an array whose reader has stopped: a closing bracket, or a fault naming what
stands there instead. -/
def endSeq : Scan Unit := do
  match ← blankPeek with
  | some 93 => bump
  | some 44 =>
    bump
    match ← blankPeek with
    | some 93 => failAhead .trailingComma
    | _ => failAhead .trailingCharacters
  | some _ => failAhead .trailingCharacters
  | none => failAhead .eofWhileParsingList

/-- The end of an object whose reader has stopped. -/
def endMap : Scan Unit := do
  match ← blankPeek with
  | some 125 => bump
  | some 44 => failAhead .trailingComma
  | some _ => failAhead .trailingCharacters
  | none => failAhead .eofWhileParsingObject

/-- Runs the inside of an array or object, then its end. A fault from the inside wins over one
from the end, but the end still consumes what it can, and a fault without a place is placed
after that. -/
def closing {α : Type} (body : Scan α) (close : Scan Unit) : Scan α := do
  match ← tryCatch (Except.ok <$> body) (fun e => pure (Except.error e)) with
  | .ok a => close; pure a
  | .error e =>
    tryCatch close (fun _ => pure ())
    throw (← fix e)

/-- Requires the end of the text, blanks apart. -/
def finish : Scan Unit := do
  match ← blankPeek with
  | some _ => failAhead .trailingCharacters
  | none => pure ()

/-- Runs a scan over the UTF-8 bytes of a text. -/
def run {α : Type} (x : Scan α) (text : String) : Except ReadError α :=
  ((ReaderT.run x text.toUTF8).run.run 0).1

end Scan

end OrderDesk.Json
