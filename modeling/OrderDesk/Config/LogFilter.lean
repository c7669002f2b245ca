import OrderDesk.Text.Alphanumeric
import OrderDesk.Text.RegexSyntax
import OrderDesk.Text.UrlEncoded

/-!
# Log filters

Which log events are written is decided by a filter: a comma-separated list of directives, empty
ones skipped. A directive is a target, a span in brackets, or a target followed by a span, each
optionally followed by `=` and a level; a target or level alone is read as a level when it names
one, and as a target otherwise. Without a level a directive lets everything through. A span is a
name, optionally followed by field filters in braces (`[request{id=7}]`); a filter's value, when
it has one, is a number, a boolean or a well-formed regular expression.

Levels are `off`, `error`, `warn`, `info`, `debug` and `trace` in any ASCII case, or a number
from 0 to 5 for the same, written with an optional `+` and any leading zeros; an empty level is
`error`.

A directive is read from its text trimmed of white space, one character at a time. Its first
character must be `[`, `-`, `:`, `_` or alphanumeric. The pieces it cuts out are taken from the
text before trimming, at the byte offsets they have in the trimmed text, so leading white space
shifts every piece to the left: ` info` is the target ` info`, not a level.

An event outside any span is governed by the directives without a span name and without field
values. Of those whose target is a prefix of the event's target and whose fields the event has,
the most specific counts: a longer target first, then more fields; of two with the same target
and fields, the later one. The event is written when that directive's level allows it; when none
applies, it is dropped. Every event of the program carries one field, `message`.

The filter comes from `RUST_LOG` when that variable is set and every directive in it reads;
otherwise from the configured log level, where directives that do not read are skipped, each
with a complaint on the error stream.
-/
namespace OrderDesk

/-- How much a log filter lets through, from nothing to everything; an event's level is one of
the five below `off`. -/
inductive Verbosity where
  | off
  | error
  | warn
  | info
  | debug
  | trace
  deriving DecidableEq

namespace Verbosity

/-- The position of a verbosity, from `off` at 0 to `trace` at 5. -/
def rank : Verbosity → Nat
  | .off => 0
  | .error => 1
  | .warn => 2
  | .info => 3
  | .debug => 4
  | .trace => 5

/-- The number a word names as a count: an optional `+`, then one or more ASCII digits, below
2^64. -/
def countOf? (s : String) : Option Nat :=
  let digits := match s.toList with
    | '+' :: rest => rest
    | cs => cs
  if digits.isEmpty || !digits.all Char.isDigit then none
  else
    let n := digits.foldl (fun n c => n * 10 + (c.toNat - '0'.toNat)) 0
    if n < Nat.pow 2 64 then some n else none

/-- The verbosity a word names: a number from 0 to 5, or a name compared without regard to
ASCII case; the empty word names `error`. -/
def ofName? (s : String) : Option Verbosity :=
  match countOf? s with
  | some 0 => some .off
  | some 1 => some .error
  | some 2 => some .warn
  | some 3 => some .info
  | some 4 => some .debug
  | some 5 => some .trace
  | _ =>
    match s.toLower with
    | "" | "error" => some .error
    | "warn" => some .warn
    | "info" => some .info
    | "debug" => some .debug
    | "trace" => some .trace
    | "off" => some .off
    | _ => none

end Verbosity

/-- A field filter of a span: a field name, and the value it must have, if any. -/
structure FieldMatch where
  name : String
  value : Option String

/-- A field filter from its text: the name up to the first `=`, and the value up to the next. -/
def FieldMatch.ofText (s : String) : FieldMatch :=
  match s.splitOn "=" with
  | name :: value :: _ => { name, value := some value }
  | parts => { name := parts.headD "", value := none }

/-- Whether text is a floating-point number: an optional sign, then `inf`, `infinity` or `nan`
in any case, or digits with an optional point (at least one digit in all) and an optional
exponent of `e` or `E`, an optional sign and digits. -/
def floatText (s : String) : Bool :=
  let cs := match s.toList with
    | '+' :: rest | '-' :: rest => rest
    | rest => rest
  let word := (String.ofList cs).toLower
  if word == "inf" || word == "infinity" || word == "nan" then true
  else
    let (whole, rest) := cs.span Char.isDigit
    let (fraction, rest) := match rest with
      | '.' :: more => more.span Char.isDigit
      | _ => ([], rest)
    let exponentReads : List Char → Bool
      | [] => true
      | e :: more =>
        (e == 'e' || e == 'E') &&
          let ds := match more with
            | '+' :: r | '-' :: r => r
            | r => r
          !ds.isEmpty && ds.all Char.isDigit
    (!whole.isEmpty || !fraction.isEmpty) && exponentReads rest

/-- Whether a field filter's value reads: a number or a boolean, or else a regular
expression. -/
def FieldMatch.valueReads (f : FieldMatch) : Bool :=
  match f.value with
  | none => true
  | some v => floatText v || RegexSyntax.wellFormed v

/-- One directive of a filter. -/
structure Directive where
  target : Option String
  /-- The span the directive acts in, when it names one; a span may have an empty name. -/
  span : Option String
  fields : List FieldMatch
  level : Verbosity

/-- Where the reader of a directive stands; positions are byte offsets in the trimmed text. -/
inductive DirectiveState where
  /-- Before the first character. -/
  | start
  /-- Inside a word from `start`, which is a level or a target. -/
  | levelOrTarget (start : Nat)
  /-- Inside a span whose name starts at `start`. -/
  | span (start : Nat)
  /-- Inside a field filter that starts at `start`. -/
  | field (start : Nat)
  /-- After the field filters, before the `]`. -/
  | fields
  /-- After a target's span, where only `=` may follow. -/
  | target
  /-- Inside a level that starts at `start`. -/
  | level (start : Nat)
  deriving DecidableEq

/-- The reader of a directive, part way through. -/
structure DirectiveReading where
  state : DirectiveState := .start
  target : Option String := none
  span : Option String := none
  fields : List FieldMatch := []

/-- Whether a character is white space: a character of the Unicode property White_Space. -/
def whiteSpace (c : Char) : Bool :=
  let n := c.toNat
  (0x9 ≤ n && n ≤ 0xD) || n == 0x20 || n == 0x85 || n == 0xA0 || n == 0x1680 ||
    (0x2000 ≤ n && n ≤ 0x200A) || n == 0x2028 || n == 0x2029 || n == 0x202F || n == 0x205F ||
    n == 0x3000

/-- The characters of a text without white space at either end, each with its byte offset from
the first of them. -/
def trimmedOffsets (s : String) : List (Nat × Char) :=
  let cs := ((s.toList.dropWhile whiteSpace).reverse.dropWhile whiteSpace).reverse
  (cs.foldl (fun (acc, pos) c => ((pos, c) :: acc, pos + c.utf8Size)) ([], 0)).1.reverse

/-- The complaint about a directive that does not read. -/
def badDirective : String := "invalid filter directive"

/-- The complaint about a level that does not read. -/
def badLevel : String :=
  "error parsing level filter: expected one of \"off\", \"error\", \"warn\", \"info\", " ++
    "\"debug\", \"trace\", or a number 0-5"

/-- The complaint about a field filter whose value does not read. -/
def badField : String := "invalid field filter: error building NFA"

namespace DirectiveReading

/-- Reads the character at byte offset `i` of the trimmed text; `piece a b` is the text between
two byte offsets of the text before trimming. -/
def step (piece : Nat → Nat → String) (r : DirectiveReading) (i : Nat) (c : Char) :
    Except String DirectiveReading :=
  match r.state with
  | .start =>
    if c == '[' then pure { r with state := .span (i + 1) }
    else if c == '-' || c == ':' || c == '_' || Text.alphanumeric c then
      pure { r with state := .levelOrTarget i }
    else throw badDirective
  | .levelOrTarget start =>
    if c == '=' then pure { r with target := some (piece start i), state := .level (i + 1) }
    else if c == '[' then pure { r with target := some (piece start i), state := .span (i + 1) }
    else pure r
  | .target => if c == '=' then pure { r with state := .level (i + 1) } else throw badDirective
  | .span start =>
    if c == ']' then pure { r with span := some (piece start i), state := .target }
    else if c == '{' then
      pure { r with span := if i == start then none else some (piece start i), state := .field (i + 1) }
    else pure r
  | .field start =>
    if c == '}' then
      if i == start then throw badDirective
      else
        let f := FieldMatch.ofText (piece start i)
        if f.valueReads then pure { r with fields := r.fields ++ [f], state := .fields }
        else throw badField
    else pure r
  | .fields => if c == ']' then pure { r with state := .target } else throw badDirective
  | .level _ => pure r

/-- The directive once the text is read; `rest start` is the text before trimming from a byte
offset on. -/
def finish (rest : Nat → String) (r : DirectiveReading) : Except String Directive :=
  let done (target : Option String) (level : Verbosity) : Directive :=
    { target, span := r.span, fields := r.fields, level }
  match r.state with
  | .levelOrTarget start =>
    let word := rest start
    if word.isEmpty then pure (done none .trace)
    else
      match Verbosity.ofName? word with
      | some v => pure (done none v)
      | none => pure (done (some word) .trace)
  | .level start =>
    let word := rest start
    if word.isEmpty then pure (done r.target .trace)
    else
      match Verbosity.ofName? word with
      | some v => pure (done r.target v)
      | none => throw badLevel
  | .target => pure (done r.target .trace)
  | _ => throw badDirective

end DirectiveReading

/-- Reads one directive, or tells why it does not read. A directive holds no comma, as the filter
is split at commas first. -/
def readDirective (s : String) : Except String Directive := do
  let bytes := s.toUTF8.toList
  let piece (a b : Nat) : String := textOfBytes ((bytes.drop a).take (b - a))
  let r ← (trimmedOffsets s).foldlM (fun (r : DirectiveReading) (i, c) => r.step piece i c) {}
  r.finish fun a => textOfBytes (bytes.drop a)

/-- A log filter: its directives, in the order given. -/
structure LogFilter where
  directives : List Directive

/-- The parts of a filter text: the pieces between commas, empty ones skipped. -/
def filterParts (s : String) : List String := (s.splitOn ",").filter (!·.isEmpty)

/-- A filter whose every directive reads. -/
def LogFilter.strict? (s : String) : Option LogFilter :=
  ((filterParts s).mapM readDirective).toOption.map LogFilter.mk

/-- A filter of the directives that read, with a complaint for each that does not. -/
def LogFilter.lossy (s : String) : LogFilter × List String :=
  let parts := filterParts s
  ({ directives := parts.filterMap fun p => (readDirective p).toOption },
    parts.filterMap fun p =>
      match readDirective p with
      | .ok _ => none
      | .error why => some ("ignoring `" ++ p ++ "`: " ++ why))

/-- The filter of a program: `RUST_LOG` when set and readable, else the configured level; with
the complaints written while reading it. -/
def LogFilter.choose (filterVariable : Option String) (logLevel : String) : LogFilter × List String :=
  match filterVariable.bind LogFilter.strict? with
  | some f => (f, [])
  | none => LogFilter.lossy logLevel

namespace Directive

/-- Whether a directive governs events outside spans: it names no span and gives no field a
value. -/
def outsideSpans (d : Directive) : Bool := d.span.isNone && d.fields.all (·.value.isNone)

/-- Whether a directive outside spans applies to an event of the target with the fields. -/
def appliesTo (d : Directive) (target : String) (fields : List String) : Bool :=
  (match d.target with
    | none => true
    | some t => t.isPrefixOf target) && d.fields.all fun f => fields.contains f.name

/-- Compares two lists of names, one name at a time. -/
def compareNames : List String → List String → Ordering
  | [], [] => .eq
  | [], _ :: _ => .lt
  | _ :: _, [] => .gt
  | a :: as, b :: bs => (compare a b).then (compareNames as bs)

/-- How specific a directive is against another: a target over none, then a longer target, then
more fields; then by the target and the field names as text. -/
def compareSpecific (d e : Directive) : Ordering :=
  let lengths : Ordering := match d.target, e.target with
    | none, none => .eq
    | none, some _ => .lt
    | some _, none => .gt
    | some a, some b => compare a.utf8ByteSize b.utf8ByteSize
  let texts : Ordering := match d.target, e.target with
    | some a, some b => compare a b
    | _, _ => lengths
  lengths.then ((compare d.fields.length e.fields.length).then
    (texts.then (compareNames (d.fields.map (·.name)) (e.fields.map (·.name)))))

end Directive

/-- The fields every event of the program carries. -/
def eventFields : List String := ["message"]

/-- Whether the filter writes an event of the target and level, outside any span. -/
def LogFilter.enables (f : LogFilter) (target : String) (level : Verbosity) : Bool :=
  let applies := f.directives.filter fun d => d.outsideSpans && d.appliesTo target eventFields
  let best := applies.foldl (fun acc d =>
    match acc with
    | none => some d
    | some b => if d.compareSpecific b != .lt then some d else some b) none
  match best with
  | some d => level.rank ≤ d.level.rank
  | none => false

end OrderDesk
