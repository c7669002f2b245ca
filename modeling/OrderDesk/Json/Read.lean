import OrderDesk.Json.Scan
import OrderDesk.Json.Value

/-!
# Reading a JSON value

`Json.parse` reads a whole text as one value of any shape: numbers keep the integer/float
distinction of `Scan.number`, object members keep their order, and anything after the value
other than blanks is refused.
-/

namespace OrderDesk.Json

open Scan

/-- A number as a value. -/
def Scan.Number.toJson : Scan.Number → Json
  | .unsigned n => .int n
  | .signed n => .int n
  | .float x => .float x

mutual

/-- One value, with at most `fuel` nested steps. -/
def valueFor : Nat → Scan Json
  | 0 => fail .recursionLimitExceeded
  | fuel + 1 => do
    match ← blankPeek with
    | none => failAhead .eofWhileParsingValue
    | some 110 => bump; keyword ull; pure .null
    | some 116 => bump; keyword rue; pure (.bool true)
    | some 102 => bump; keyword alse; pure (.bool false)
    | some 45 => bump; pure (← number false).toJson
    | some 34 => bump; pure (.str (← string))
    | some 91 =>
      bump
      let items ← closing (itemsFor fuel true #[]) endSeq
      pure (.arr items.toList)
    | some 123 =>
      bump
      let fields ← closing (fieldsFor fuel true #[]) endMap
      pure (.obj fields.toList)
    | some b => if isDigit b then pure (← number true).toJson else failAhead .expectedSomeValue

/-- The elements of an array after its opening bracket. -/
def itemsFor : Nat → Bool → Array Json → Scan (Array Json)
  | 0, _, _ => fail .recursionLimitExceeded
  | fuel + 1, first, acc => do
    if ← element? first then itemsFor fuel false (acc.push (← valueFor fuel))
    else pure acc

/-- The members of an object after its opening brace. -/
def fieldsFor : Nat → Bool → Array (String × Json) → Scan (Array (String × Json))
  | 0, _, _ => fail .recursionLimitExceeded
  | fuel + 1, first, acc => do
    match ← key? first with
    | none => pure acc
    | some k =>
      colon
      let v ← valueFor fuel
      fieldsFor fuel false (acc.push (k, v))

end

/-- Reads a whole text as one JSON value. -/
def parse (text : String) : Except ReadError Json :=
  Scan.run (do
    let v ← valueFor (2 * text.utf8ByteSize + 2)
    finish
    pure v) text

end OrderDesk.Json
