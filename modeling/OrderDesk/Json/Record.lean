import OrderDesk.Json.Scan

/-!
# Reading typed values from JSON text

Readers for the shapes a request body takes: 32-bit integers, strings, optional values, names
from a fixed list, lists, and records with named fields. Each reader takes the path of the value
it reads, so that a fault names where it happened, and reads the text in one pass: the first
fault met, in text order, is the one reported.

A record may be written as an object (keys in any order, unknown keys skipped, a key given
twice refused) or as an array of its fields in declaration order. Fields that have a default may
be left out of either form; a missing required field is reported once the record is closed.
Faults about the shape of a value are placed at the end of the innermost list, record or scalar
being read when they arose.
-/

namespace OrderDesk.Json

open Scan

/-- A reader of one value at a path. -/
abbrev Reader (α : Type) := Path → Scan α

/-- Runs a reader and places its unplaced faults at the position where it stopped. -/
def shaped {α : Type} (x : Scan α) : Scan α :=
  tryCatch x fun e => do throw (← fix e)

namespace Reader

/-- A 32-bit signed integer. Integers out of range and floats are refused. -/
def int32 : Reader Int := fun path => within path <| shaped do
  let n ← do
    match ← blankPeek with
    | none => failAhead .eofWhileParsingValue
    | some 45 => bump; number false
    | some b => if isDigit b then number true else invalidType "i32"
  match n with
  | .unsigned n =>
    if n < Nat.pow 2 31 then pure (n : Int) else throw { issue := .invalidValue (.unsigned n) "i32" }
  | .signed n =>
    if -2147483648 ≤ n then pure n else throw { issue := .invalidValue (.signed n) "i32" }
  | .float x => throw { issue := .invalidType (.float x) "i32" }

/-- A string. -/
def text : Reader String := fun path => within path <| shaped do
  match ← blankPeek with
  | none => failAhead .eofWhileParsingValue
  | some 34 => bump; string
  | some _ => invalidType "a string"

/-- `null` as absent, anything else through the inner reader at the same path. -/
def optional {α : Type} (inner : Reader α) : Reader (Option α) := fun path => within path do
  match ← blankPeek with
  | some 110 => bump; keyword ull; pure none
  | _ => some <$> inner path

/-- A name from a fixed list, written as a string or as a one-member object whose value is
`null`. The list gives each name with its value. -/
def choice {α : Type} (names : List (String × α)) : Reader α := fun path => within path do
  let variants := names.map (·.1)
  let identifier : Scan (String × α) := shaped do
    match ← blankPeek with
    | none => failAhead .eofWhileParsingValue
    | some 34 =>
      bump
      let s ← string
      match names.find? (·.1 == s) with
      | some (n, a) => pure (n, a)
      | none => throw { issue := .unknownVariant s variants }
    | some _ => invalidType "variant identifier"
  match ← blankPeek with
  | some 34 => pure (← identifier).2
  | some 123 =>
    bump
    let (n, a) ← identifier
    colon
    within (path ++ [.variant n]) <| shaped do
      match ← blankPeek with
      | some 110 => bump; keyword ull
      | some _ => invalidType "unit"
      | none => failAhead .eofWhileParsingValue
    match ← blankPeek with
    | some 125 => bump; pure a
    | some _ => fail .expectedSomeValue
    | none => fail .eofWhileParsingObject
  | some _ => failAhead .expectedSomeValue
  | none => failAhead .eofWhileParsingValue

/-- The elements of a list after its opening bracket, at most `fuel` of them. -/
def elementsFor {α : Type} (inner : Reader α) (path : Path) :
    Nat → Nat → Array α → Scan (Array α)
  | 0, _, acc => pure acc
  | fuel + 1, i, acc => do
    let more ← within (path ++ [.index i]) (element? (i == 0))
    if more then elementsFor inner path fuel (i + 1) (acc.push (← inner (path ++ [.index i])))
    else pure acc

/-- A list of values read by the inner reader. -/
def list {α : Type} (inner : Reader α) : Reader (List α) := fun path => within path <| shaped do
  match ← blankPeek with
  | none => failAhead .eofWhileParsingValue
  | some 91 =>
    bump
    let items ← closing (elementsFor inner path ((← read).size + 1) 0 #[]) endSeq
    pure items.toList
  | some _ => invalidType "a sequence"

end Reader

/-- How a record is read. Its fields are numbered in declaration order; `β` holds the fields read
so far, starting from `empty`. -/
structure RecordForm (β γ : Type) where
  name : String
  /-- Field names in declaration order, as faults name them. -/
  fields : List String
  /-- The field a key names, aliases included. -/
  position? : String → Option Nat
  empty : β
  /-- Whether the field was read already. -/
  has : β → Nat → Bool
  /-- Reads the field's value into the record. -/
  readField : Nat → Path → β → Scan β
  /-- Whether the field may be left out. -/
  defaulted : Nat → Bool
  /-- The record from its fields. -/
  build : β → γ

namespace RecordForm

variable {β γ : Type}

/-- The first required field, in declaration order, that is missing. -/
def missing? (r : RecordForm β γ) (b : β) : Option String :=
  ((List.range r.fields.length).find? fun i => !r.has b i && !r.defaulted i).map fun i =>
    r.fields.getD i ""

/-- Members of the object form after its opening brace, at most `fuel` of them. -/
def membersFor (r : RecordForm β γ) (path : Path) : Nat → Bool → β → Scan β
  | 0, _, b => pure b
  | fuel + 1, first, b => do
    match ← within (path ++ [.unknown]) (key? first) with
    | none => pure b
    | some k =>
      match r.position? k with
      | none =>
        within (path ++ [.key k]) do colon; skipValue
        r.membersFor path fuel false b
      | some i =>
        if r.has b i then throw { issue := .duplicateField (r.fields.getD i "") }
        else
          let b' ← within (path ++ [.key k]) do colon; r.readField i (path ++ [.key k]) b
          r.membersFor path fuel false b'

/-- The object form: members, then the check for missing required fields. -/
def objectBody (r : RecordForm β γ) (path : Path) : Scan γ := do
  let b ← r.membersFor path ((← read).size + 1) true r.empty
  match r.missing? b with
  | some f => throw { issue := .missingField f }
  | none => pure (r.build b)

/-- Fields of the array form in declaration order, from position `i`. -/
def elementsFrom (r : RecordForm β γ) (path : Path) : Nat → Nat → β → Scan β
  | 0, _, b => pure b
  | fuel + 1, i, b => do
    if i ≥ r.fields.length then pure b
    else
      let more ← within (path ++ [.index i]) (element? (i == 0))
      if more then r.elementsFrom path fuel (i + 1) (← r.readField i (path ++ [.index i]) b)
      else if r.defaulted i then r.elementsFrom path fuel (i + 1) b
      else
        let expected := "struct " ++ r.name ++ " with " ++ toString r.fields.length ++ " elements"
        throw { issue := .invalidLength i expected }

/-- The array form. -/
def arrayBody (r : RecordForm β γ) (path : Path) : Scan γ := do
  let b ← r.elementsFrom path (r.fields.length + 1) 0 r.empty
  pure (r.build b)

/-- Reads a record in either form. -/
def reader (r : RecordForm β γ) : Reader γ := fun path => within path <| shaped do
  match ← blankPeek with
  | none => failAhead .eofWhileParsingValue
  | some 91 => bump; closing (r.arrayBody path) endSeq
  | some 123 => bump; closing (r.objectBody path) endMap
  | some _ => invalidType ("struct " ++ r.name)

end RecordForm

/-- Reads a whole text as one value, refusing anything but blanks after it. -/
def readDocument {α : Type} (reader : Reader α) (text : String) : Except ReadError α :=
  Scan.run (do
    let v ← within [] (reader [])
    within [] finish
    pure v) text

end OrderDesk.Json
