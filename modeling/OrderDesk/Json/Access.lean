import OrderDesk.Json.Value
import OrderDesk.Decimal

/-!
# Reading fields of a JSON value

Accessors that take a field of an object, or a value of a given shape, falling back to a default
when the field is absent, `null` or of another shape.
-/

namespace OrderDesk.Json

/-- The member `key`, or `null`. -/
def field (j : Json) (key : String) : Json := (j.get? key).getD .null

/-- Whether the member `key` is present and not `null`. -/
def has (j : Json) (key : String) : Bool :=
  match j.get? key with
  | some .null | none => false
  | some _ => true

/-- An integer, if the value is one. -/
def int? : Json → Option Int
  | .int n => some n
  | _ => none

/-- A boolean, if the value is one. -/
def bool? : Json → Option Bool
  | .bool b => some b
  | _ => none

/-- A string, if the value is one. -/
def str? : Json → Option String
  | .str s => some s
  | _ => none

/-- A number as a float: a float as it is, an integer rounded to the nearest float. -/
def float? : Json → Option Float
  | .float x => some x
  | .int n =>
    let f := Decimal.nearestFloat n.natAbs
    some (if n < 0 then -f else f)
  | _ => none

/-- The elements of an array, or none. -/
def items : Json → List Json
  | .arr xs => xs
  | _ => []

/-- The members of an object, or none. -/
def members : Json → List (String × Json)
  | .obj fs => fs
  | _ => []

/-- An integer member with a default. -/
def intAt (j : Json) (key : String) (d : Int) : Int := (int? (j.field key)).getD d

/-- A boolean member with a default. -/
def boolAt (j : Json) (key : String) (d : Bool) : Bool := (bool? (j.field key)).getD d

/-- A string member with a default. -/
def strAt (j : Json) (key : String) (d : String) : String := (str? (j.field key)).getD d

/-- A number member as a float with a default. -/
def floatAt (j : Json) (key : String) (d : Float) : Float := (float? (j.field key)).getD d

end OrderDesk.Json
