import OrderDesk.Decimal

/-!
# JSON values and their compact text

`Json` keeps what a JSON reader distinguishes: integers apart from floats (so `1` and `1.0` stay
different), the sign of a zero float, and object members in the order they were written.
`Json.render` writes the compact text: no blanks, floats in their shortest form with a fractional
part or an exponent, and strings escaped only where JSON requires it.
-/

namespace OrderDesk

/-- A JSON value. Objects are member lists in written order. -/
inductive Json where
  | null
  | bool (b : Bool)
  | int (n : Int)
  | float (x : Float)
  | str (s : String)
  | arr (items : List Json)
  | obj (fields : List (String × Json))

namespace Json

/-- The last member named `key`, as a map built from the members would hold it. -/
def get? (j : Json) (key : String) : Option Json :=
  match j with
  | .obj fields => (fields.reverse.find? (·.1 == key)).map (·.2)
  | _ => none

/-- The hexadecimal digit of a number below sixteen, in lower case. -/
def hexDigit (n : Nat) : Char :=
  if n < 10 then Char.ofNat (48 + n) else Char.ofNat (87 + n)

/-- The escaped form of one character inside a string literal: the quote, the backslash and
the control characters below U+0020 are escaped, everything else is written as it is. -/
def escapeChar (c : Char) : String :=
  match c with
  | '"' => "\\\""
  | '\\' => "\\\\"
  | '\n' => "\\n"
  | '\r' => "\\r"
  | '\t' => "\\t"
  | '\x08' => "\\b"
  | '\x0c' => "\\f"
  | c =>
    if c.toNat < 32 then
      "\\u00" ++ String.singleton (hexDigit (c.toNat / 16)) ++
        String.singleton (hexDigit (c.toNat % 16))
    else String.singleton c

/-- A string literal with its quotes. -/
def quote (s : String) : String :=
  "\"" ++ String.join (s.toList.map escapeChar) ++ "\""

/-- The text of a float inside JSON; a value that is not finite has no JSON form and is
written `null`. -/
def floatText (x : Float) : String :=
  if x.isFinite then Decimal.Layout.json.render x else "null"

mutual

/-- The compact text of a value. -/
def render : Json → String
  | .null => "null"
  | .bool b => if b then "true" else "false"
  | .int n => toString n
  | .float x => floatText x
  | .str s => quote s
  | .arr items => "[" ++ renderItems items ++ "]"
  | .obj fields => "\x7b" ++ renderFields fields ++ "\x7d"

/-- Array elements separated by commas. -/
def renderItems : List Json → String
  | [] => ""
  | [j] => render j
  | j :: rest => render j ++ "," ++ renderItems rest

/-- Object members separated by commas. -/
def renderFields : List (String × Json) → String
  | [] => ""
  | [(k, v)] => quote k ++ ":" ++ render v
  | (k, v) :: rest => quote k ++ ":" ++ render v ++ "," ++ renderFields rest

end

/-- A natural number as a JSON integer. -/
def nat (n : Nat) : Json := .int n

/-- An optional value, `null` when absent. -/
def opt {α : Type} (f : α → Json) : Option α → Json
  | some a => f a
  | none => .null

end Json

end OrderDesk

/-! ## Values with ordered members

A JSON object read into a map keeps one member per key, the last one written, and lists its
members by key. `Json.ordered` puts a value in that form at every depth, so that its text is
what a writer over such a map gives.
-/

namespace OrderDesk.Json

/-- Puts a member into members sorted by key, replacing a member of the same key. -/
def insertMember (k : String) (v : Json) : List (String × Json) → List (String × Json)
  | [] => [(k, v)]
  | (k', v') :: rest =>
    if k == k' then (k, v) :: rest
    else if k < k' then (k, v) :: (k', v') :: rest
    else (k', v') :: insertMember k v rest

mutual

/-- The value with every object's members sorted by key, each key once with its last value. -/
def ordered : Json → Json
  | .arr items => .arr (orderedItems items)
  | .obj fields => .obj (orderedFields [] fields)
  | j => j

/-- The items, each ordered. -/
def orderedItems : List Json → List Json
  | [] => []
  | j :: rest => ordered j :: orderedItems rest

/-- The members, each value ordered, put into `acc` in the order written. -/
def orderedFields (acc : List (String × Json)) : List (String × Json) → List (String × Json)
  | [] => acc
  | (k, v) :: rest => orderedFields (insertMember k (ordered v) acc) rest

end

end OrderDesk.Json
