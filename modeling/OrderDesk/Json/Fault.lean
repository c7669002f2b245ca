import OrderDesk.Decimal
import OrderDesk.Text.Quoted

/-!
# Faults found while reading JSON text

A reading fault has an `Issue` (what was wrong), the place in the text where it was noticed
(line and byte column), and the path from the top value down to the value being read. Issues
fall into three categories: the text is not JSON (`malformed`), the text ends too early (`eof`), or
the text is JSON but does not fit the expected shape (`data`).

A place is taken from the reader's position when the issue is raised; issues about the shape
of a value get the place of the enclosing value once it is finished (`ReadError.placed`). The
path is the one of the innermost value being read when the issue arose: a reader that passes a
fault on only fills the path in when it is still empty.
-/

namespace OrderDesk.Json

/-- What was found where something else was expected. -/
inductive Found where
  | bool (b : Bool)
  | unsigned (n : Nat)
  | signed (n : Int)
  | float (x : Float)
  | str (s : String)
  | unit
  | seq
  | map

/-- How the found value is named in a message. -/
def Found.describe : Found → String
  | .bool b => "boolean `" ++ (if b then "true" else "false") ++ "`"
  | .unsigned n => "integer `" ++ toString n ++ "`"
  | .signed n => "integer `" ++ toString n ++ "`"
  | .float x => "floating point `" ++ Decimal.Layout.quoted.render x ++ "`"
  | .str s => "string " ++ Text.quoted s
  | .unit => "null"
  | .seq => "sequence"
  | .map => "map"

/-- What went wrong. -/
inductive Issue where
  | eofWhileParsingList
  | eofWhileParsingObject
  | eofWhileParsingString
  | eofWhileParsingValue
  | expectedColon
  | expectedListCommaOrEnd
  | expectedObjectCommaOrEnd
  | expectedSomeIdent
  | expectedSomeValue
  | invalidEscape
  | invalidNumber
  | numberOutOfRange
  | controlCharacterInString
  | keyMustBeAString
  | loneLeadingSurrogate
  | trailingComma
  | trailingCharacters
  | unexpectedEndOfHexEscape
  | recursionLimitExceeded
  | invalidType (found : Found) (expected : String)
  | invalidValue (found : Found) (expected : String)
  | invalidLength (length : Nat) (expected : String)
  | unknownVariant (name : String) (variants : List String)
  | missingField (name : String)
  | duplicateField (name : String)

/-- The three kinds of fault a reader reports. -/
inductive Category where
  | malformed
  | eof
  | data
  deriving DecidableEq

/-- Names in backquotes, the last two joined by `or`, more than two after `one of`. -/
def oneOf (names : List String) : String :=
  let quoted := names.map fun n => "`" ++ n ++ "`"
  match quoted with
  | [] => "there are no variants"
  | [a] => "expected " ++ a
  | [a, b] => "expected " ++ a ++ " or " ++ b
  | _ => "expected one of " ++ ", ".intercalate quoted

namespace Issue

/-- The category of an issue. -/
def category : Issue → Category
  | .eofWhileParsingList | .eofWhileParsingObject | .eofWhileParsingString
  | .eofWhileParsingValue => .eof
  | .invalidType .. | .invalidValue .. | .invalidLength .. | .unknownVariant ..
  | .missingField .. | .duplicateField .. => .data
  | _ => .malformed

/-- Whether the issue is about the shape of a value rather than the text; such issues are
placed by the enclosing reader. -/
def isShape (i : Issue) : Bool := i.category == .data

/-- The message of an issue. -/
def message : Issue → String
  | .eofWhileParsingList => "EOF while parsing a list"
  | .eofWhileParsingObject => "EOF while parsing an object"
  | .eofWhileParsingString => "EOF while parsing a string"
  | .eofWhileParsingValue => "EOF while parsing a value"
  | .expectedColon => "expected `:`"
  | .expectedListCommaOrEnd => "expected `,` or `]`"
  | .expectedObjectCommaOrEnd => "expected `,` or `\x7d`"
  | .expectedSomeIdent => "expected ident"
  | .expectedSomeValue => "expected value"
  | .invalidEscape => "invalid escape"
  | .invalidNumber => "invalid number"
  | .numberOutOfRange => "number out of range"
  | .controlCharacterInString => "control character (\\u0000-\\u001F) found while parsing a string"
  | .keyMustBeAString => "key must be a string"
  | .loneLeadingSurrogate => "lone leading surrogate in hex escape"
  | .trailingComma => "trailing comma"
  | .trailingCharacters => "trailing characters"
  | .unexpectedEndOfHexEscape => "unexpected end of hex escape"
  | .recursionLimitExceeded => "recursion limit exceeded"
  | .invalidType found expected => "invalid type: " ++ found.describe ++ ", expected " ++ expected
  | .invalidValue found expected =>
    "invalid value: " ++ found.describe ++ ", expected " ++ expected
  | .invalidLength n expected => "invalid length " ++ toString n ++ ", expected " ++ expected
  | .unknownVariant name variants => "unknown variant `" ++ name ++ "`, " ++ oneOf variants
  | .missingField name => "missing field `" ++ name ++ "`"
  | .duplicateField name => "duplicate field `" ++ name ++ "`"

end Issue

/-- A step of a path: an array index, an object key, the variant of a tagged value, or a step
whose key was never read. -/
inductive Segment where
  | index (i : Nat)
  | key (k : String)
  | variant (v : String)
  | unknown

/-- A path from the top value, outermost step first. -/
abbrev Path := List Segment

/-- The text of a path: keys and variants joined by dots, indices in brackets with no dot
before them. -/
def pathText (path : Path) : String :=
  let step (acc : String × Bool) (s : Segment) : String × Bool :=
    match s with
    | .index i => (acc.1 ++ "[" ++ toString i ++ "]", true)
    | .key k => (acc.1 ++ (if acc.2 then "." else "") ++ k, true)
    | .variant v => (acc.1 ++ (if acc.2 then "." else "") ++ v, true)
    | .unknown => (acc.1 ++ (if acc.2 then "." else "") ++ "?", true)
  (path.foldl step ("", false)).1

/-- Whether a path names nothing but unread steps (or nothing at all). -/
def Segment.isUnknown : Segment → Bool
  | .unknown => true
  | _ => false

/-- A line and a byte column; line `0` means no place is known. -/
structure Place where
  line : Nat
  column : Nat

/-- A fault with where it was found. -/
structure ReadError where
  issue : Issue
  place : Option Place := none
  path : Option Path := none

namespace ReadError

/-- Fills in the path unless an inner reader already did. -/
def within (e : ReadError) (path : Path) : ReadError :=
  match e.path with
  | some _ => e
  | none => { e with path := some path }

/-- Fills in the place unless it is already known. -/
def placed (e : ReadError) (p : Place) : ReadError :=
  match e.place with
  | some _ => e
  | none => { e with place := some p }

/-- The message with its place, `… at line L column C`. -/
def text (e : ReadError) : String :=
  match e.place with
  | some p =>
    if p.line = 0 then e.issue.message
    else e.issue.message ++ " at line " ++ toString p.line ++ " column " ++ toString p.column
  | none => e.issue.message

/-- The message led by the path, when the path names anything beyond unread steps. -/
def textWithPath (e : ReadError) : String :=
  match e.path with
  | some path => if path.all Segment.isUnknown then e.text else pathText path ++ ": " ++ e.text
  | none => e.text

/-- The category of the fault. -/
def category (e : ReadError) : Category := e.issue.category

end ReadError

end OrderDesk.Json
