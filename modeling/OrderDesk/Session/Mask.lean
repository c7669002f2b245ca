import OrderDesk.Json.Value

/-!
# Masking factory numbers

Factories name the rows they make after a counter, as in `Restaurant 7`, and the counter is
shared by every session that runs in one process, so the numbers say more about what ran before
than about the session. An answer therefore masks them: each of `Restaurant `, `Menu Item `,
`Modifier ` and `Option ` followed by ASCII digits keeps the words and has the digits replaced by
a single `#`, wherever it stands in any text of the answer.
-/

namespace OrderDesk.Session

/-- The words a factory puts before a row's number. -/
def numberedNames : List (List Char) :=
  ["Restaurant ".toList, "Menu Item ".toList, "Modifier ".toList, "Option ".toList]

/-- The text after a numbered name at the front of `cs`, without the number's digits, when the
name is there and a digit follows it. -/
def skipNumbered (name cs : List Char) : Option { r : List Char // r.length < cs.length } :=
  if name.isPrefixOf cs then
    match h : cs.drop name.length with
    | d :: more =>
      if d.isDigit then
        some ⟨more.dropWhile Char.isDigit, by
          have h1 := (List.dropWhile_sublist (l := more) Char.isDigit).length_le
          have h2 := List.length_drop (l := cs) (i := name.length)
          rw [h] at h2
          simp at h2
          omega⟩
      else none
    | [] => none
  else none

/-- The first numbered name at the front of `cs`, with the text after its number. -/
def frontNumbered (cs : List Char) :
    Option (List Char × { r : List Char // r.length < cs.length }) :=
  numberedNames.findSome? fun name => (skipNumbered name cs).map (name, ·)

/-- Text with every factory number masked. -/
def maskChars (cs : List Char) : List Char :=
  match frontNumbered cs with
  | some (name, rest) => name ++ '#' :: maskChars rest.1
  | none =>
    match cs with
    | [] => []
    | c :: more => c :: maskChars more
termination_by cs.length
decreasing_by
  · exact rest.2
  · simp

/-- A string with every factory number masked. -/
def maskText (s : String) : String := String.ofList (maskChars s.toList)

mutual

/-- A value with every factory number masked, in keys and strings alike. -/
def maskJson : Json → Json
  | .str s => .str (maskText s)
  | .arr items => .arr (maskItems items)
  | .obj fields => .obj (maskFields fields)
  | j => j

/-- Items with every factory number masked. -/
def maskItems : List Json → List Json
  | [] => []
  | j :: rest => maskJson j :: maskItems rest

/-- Members with every factory number masked. -/
def maskFields : List (String × Json) → List (String × Json)
  | [] => []
  | (k, v) :: rest => (maskText k, maskJson v) :: maskFields rest

end

end OrderDesk.Session
