/-!
# Decimal numerals

Integers written in decimal: an optional sign, then at least one ASCII digit. Only `+` is
accepted as the sign of an unsigned numeral; a sign alone is an invalid digit.

The numeral is read from the left, and the first fault met decides the reason: a character
that is not a digit, or a prefix whose value no longer fits the target type. So for 64 bits
`"99999999999999999999x"` is too large, while `"9x"` has an invalid digit.
-/

namespace OrderDesk

/-- The greatest unsigned 64-bit integer. -/
def u64Max : Nat := Nat.pow 2 64 - 1

/-- Why a numeral could not be read. -/
inductive NumeralFault where
  | empty
  | invalidDigit
  | tooLarge
  | tooSmall
  deriving DecidableEq

/-- The reason a numeral fault gives. -/
def NumeralFault.reason : NumeralFault → String
  | .empty => "cannot parse integer from empty string"
  | .invalidDigit => "invalid digit found in string"
  | .tooLarge => "number too large to fit in target type"
  | .tooSmall => "number too small to fit in target type"

/-- Reads decimal digits onto the magnitude `n` read so far, from the left; a magnitude beyond
`bound` is the fault `beyond`. -/
def accumulateWithin (bound : Nat) (beyond : NumeralFault) :
    Nat → List Char → Except NumeralFault Nat
  | n, [] => .ok n
  | n, c :: rest =>
    if c.isDigit then
      let m := n * 10 + (c.toNat - '0'.toNat)
      if m > bound then .error beyond else accumulateWithin bound beyond m rest
    else .error .invalidDigit

/-- Reads decimal digits onto the value `n` read so far, within 64 bits. -/
def accumulateDigits : Nat → List Char → Except NumeralFault Nat :=
  accumulateWithin u64Max .tooLarge

/-- Reads an unsigned 64-bit numeral: an optional `+`, then at least one digit. -/
def readU64 : List Char → Except NumeralFault Nat
  | [] => .error .empty
  | ['+'] | ['-'] => .error .invalidDigit
  | '+' :: rest => accumulateDigits 0 rest
  | cs => accumulateDigits 0 cs

/-- Reads a signed numeral whose value lies between `-low` and `high`. -/
def readSigned (low high : Nat) : List Char → Except NumeralFault Int
  | [] => .error .empty
  | ['+'] | ['-'] => .error .invalidDigit
  | '+' :: rest => (accumulateWithin high .tooLarge 0 rest).map Int.ofNat
  | '-' :: rest => (accumulateWithin low .tooSmall 0 rest).map fun n => -(n : Int)
  | cs => (accumulateWithin high .tooLarge 0 cs).map Int.ofNat

/-- Reads a signed 32-bit numeral. -/
def readI32 (cs : List Char) : Except NumeralFault Int := readSigned (Nat.pow 2 31) (Nat.pow 2 31 - 1) cs

end OrderDesk
