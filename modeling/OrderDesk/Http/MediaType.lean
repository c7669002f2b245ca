/-!
# Media types

A request body is read as JSON only when its `Content-Type` is a JSON media type: type
`application` with subtype `json`, or any subtype with the suffix `json`, such as
`application/vnd.api+json`. Names compare without regard to case.

A media type is read strictly. The type is one or more token characters and a `/`. The subtype
section runs to the first `;` and holds token characters only; its suffix is what follows its
last `+`, unless that `+` opens the section. Each parameter after a `;` is a name of token
characters, a `=` and a value. The value is either token characters, possibly none when it
ends the text, or a quoted run of characters without escapes. Spaces may stand before a
parameter's name and after a quoted value, nowhere else. A header that is not visible ASCII, or
that does not read this way, is not JSON.
-/

namespace OrderDesk.Http

/-- Whether a character may appear in a media type name or an unquoted value. -/
def tokenChar (c : Char) : Bool :=
  c.isAlphanum || "!#$%&'*+-.^_`|~".toList.contains c

/-- Whether a character may appear between the quotes of a quoted value: anything but a control
character. -/
def quotableChar (c : Char) : Bool := 32 ≤ c.toNat && c.toNat != 127

/-- Whether the character is visible ASCII or a tab, as header text must be. -/
def headerTextChar (c : Char) : Bool := c == '\t' || (32 ≤ c.toNat && c.toNat < 127)

/-- Lower-case ASCII text. -/
def lowerText (cs : List Char) : String := String.ofList (cs.map Char.toLower)

/-- Where the reader of a parameter list stands. -/
inductive ParamState where
  /-- Before a name, where spaces are skipped. -/
  | nameStart
  /-- Inside a name. -/
  | name
  /-- Right after the `=`. -/
  | valueStart
  /-- Inside an unquoted value. -/
  | value
  /-- Right after the opening quote, where even a quote is part of the value. -/
  | quotedStart
  /-- Inside a quoted value. -/
  | quoted
  /-- After the closing quote, where spaces are skipped. -/
  | afterQuote
  /-- The text does not read as parameters. -/
  | failed
  deriving DecidableEq

namespace ParamState

/-- The state after one more character. -/
def step : ParamState → Char → ParamState
  | .nameStart, c => if c == ' ' then .nameStart else if tokenChar c then .name else .failed
  | .name, c => if c == '=' then .valueStart else if tokenChar c then .name else .failed
  | .valueStart, c => if c == '"' then .quotedStart else if tokenChar c then .value else .failed
  | .value, c => if c == ';' then .nameStart else if tokenChar c then .value else .failed
  | .quotedStart, c => if quotableChar c then .quoted else .failed
  | .quoted, c => if c == '"' then .afterQuote else if quotableChar c then .quoted else .failed
  | .afterQuote, c => if c == ';' then .nameStart else if c == ' ' then .afterQuote else .failed
  | .failed, _ => .failed

/-- Whether the text may end in this state: not inside a name or a quoted value. -/
def accepts : ParamState → Bool
  | .nameStart | .valueStart | .value | .afterQuote => true
  | .name | .quotedStart | .quoted | .failed => false

end ParamState

/-- Whether the text after the `;` that ends a subtype is a well-formed parameter list. -/
def paramsWellFormed (cs : List Char) : Bool :=
  (cs.foldl ParamState.step .nameStart).accepts

/-- A media type as its names compare: the type, the subtype and the suffix, in lower case. -/
structure MediaType where
  type : String
  subtype : String
  suffix : Option String

/-- The subtype and suffix of a subtype section: the suffix follows the last `+` that is not the
section's first character. -/
def splitSuffix : List Char → List Char × Option (List Char)
  | [] => ([], none)
  | c :: rest =>
    if rest.contains '+' then
      let back := rest.reverse
      (c :: ((back.dropWhile (· != '+')).drop 1).reverse, some (back.takeWhile (· != '+')).reverse)
    else (c :: rest, none)

/-- Reads a media type, checking its parameters but keeping only its names. -/
def MediaType.read? (value : String) : Option MediaType := do
  let cs := value.toList
  guard (cs.all headerTextChar)
  let (type, afterType) := cs.span tokenChar
  let rest ← match afterType with
    | '/' :: rest => some rest
    | _ => none
  guard !type.isEmpty
  let (subtypePart, afterSubtype) := rest.span (· != ';')
  guard (subtypePart.all tokenChar)
  match afterSubtype with
  | ';' :: params => guard (!subtypePart.isEmpty && paramsWellFormed params)
  | _ => pure ()
  let (subtype, suffix) := splitSuffix subtypePart
  pure { type := lowerText type, subtype := lowerText subtype, suffix := suffix.map lowerText }

/-- Whether a media type is JSON. -/
def MediaType.isJson (m : MediaType) : Bool :=
  m.type == "application" && (m.subtype == "json" || m.suffix == some "json")

/-- Whether a `Content-Type` value names a JSON media type. -/
def isJsonMediaType (value : String) : Bool :=
  (MediaType.read? value).any MediaType.isJson

end OrderDesk.Http
