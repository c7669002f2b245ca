import OrderDesk.Store.Error
import OrderDesk.Text.UrlEncoded

/-!
# Opening a database by name

The embedded engine opens a database by a name and flags: the access asked for (reading only,
reading and writing, or creating as well) and whether the database lives in memory.

A name that starts with `file:` is a URI. After an optional `//` authority, which must be empty
or `localhost`, comes the path, then `?` and options `name=value` separated by `&`, up to a `#`.
Escapes `%XX` stand for bytes; an escaped zero byte cuts off the rest of the path, name or value
it stands in. An option without a name is skipped whole. The options the engine itself reads are:

* `vfs`, the file system to open the database with (the last one counts);
* `cache`, which must be `shared` or `private`;
* `mode`, which must be `ro`, `rw`, `rwc` or `memory` and replaces the access, but may not ask
  for more than the flags allow: `rwc` needs them to allow creating, `rw` to allow writing;
* `immutable`, read by the file system: a file that may not change is opened read-only.

Any other name is a path as written. A database lives only as long as its connection when its
path is `:memory:` or empty, when the flags or `mode=memory` put it in memory, or when its file
system is `memdb`; otherwise it is a file.
-/

namespace OrderDesk.Store

/-- The access a database is opened with. -/
inductive Access where
  /-- No access is named: `mode=memory` puts the database in memory. -/
  | unnamed
  | readOnly
  | readWrite
  | readWriteCreate
  deriving DecidableEq

/-- The access as the engine's flag bits, which order the accesses by what they allow. -/
def Access.bits : Access → Nat
  | .unnamed => 0
  | .readOnly => 1
  | .readWrite => 2
  | .readWriteCreate => 6

/-- How a database is asked to be opened. -/
structure OpenFlags where
  access : Access
  memory : Bool

/-- What the engine opened. -/
inductive Opened where
  /-- A database that lives only as long as its connection. -/
  | transient (readOnly : Bool)
  /-- A database file, which may be created when `create` is set, and which does not change
  when `immutable` is set. -/
  | file (path : String) (readOnly create immutable : Bool)

/-- The file systems the engine has. -/
def fileSystems : List String := ["unix", "unix-none", "unix-dotfile", "unix-excl", "memdb"]

/-- A piece of a name in URI form: a byte as written, or one given by a `%` escape. -/
inductive UriUnit where
  | raw (b : UInt8)
  | escaped (b : UInt8)
  deriving DecidableEq

/-- The pieces of a name in URI form. -/
def uriUnits : List UInt8 → List UriUnit
  | [] => []
  | b :: tail =>
    match _h : tail with
    | h :: l :: rest =>
      match b == 37, hexNibble h, hexNibble l with
      | true, some x, some y => .escaped (UInt8.ofNat (x * 16 + y)) :: uriUnits rest
      | _, _, _ => .raw b :: uriUnits tail
    | _ => .raw b :: uriUnits tail
termination_by bs => bs.length
decreasing_by all_goals simp_all; try omega

/-- The part of a name in URI form being read. -/
inductive UriPart where
  | path
  | name
  | value
  deriving DecidableEq

/-- What the reader of a name in URI form passes over: nothing, everything up to the next
separator of the part (after an escaped zero byte), or everything up to and including the next
`&` (after an option without a name). -/
inductive UriSkip where
  | nothing
  | toSeparator
  | pastAmpersand
  deriving DecidableEq

/-- The reader of a name in URI form, part way through. -/
structure UriReading where
  part : UriPart := .path
  skip : UriSkip := .nothing
  path : List UInt8 := []
  options : List (List UInt8 × List UInt8) := []
  name : List UInt8 := []
  value : List UInt8 := []

namespace UriReading

/-- Adds a byte to the part being read. -/
def push (r : UriReading) (b : UInt8) : UriReading :=
  match r.part with
  | .path => { r with path := r.path ++ [b] }
  | .name => { r with name := r.name ++ [b] }
  | .value => { r with value := r.value ++ [b] }

/-- Whether a byte as written ends the part being read: `?` the path, `=` or `&` a name, and `&`
a value. -/
def separates (r : UriReading) (b : UInt8) : Bool :=
  match r.part with
  | .path => b == 63
  | .name => b == 61 || b == 38
  | .value => b == 38

/-- Ends the option being read and starts the next. -/
def endOption (r : UriReading) : UriReading :=
  { r with options := r.options ++ [(r.name, r.value)], name := [], value := [], part := .name }

/-- Reads a piece when nothing is being passed over. -/
def read (r : UriReading) : UriUnit → UriReading
  | .escaped b => if b == 0 then { r with skip := .toSeparator } else r.push b
  | .raw b =>
    if r.part == .name && (b == 38 || b == 61) then
      if r.name.isEmpty then (if b == 38 then r else { r with skip := .pastAmpersand })
      else if b == 38 then r.endOption
      else { r with part := .value }
    else if r.part == .path && b == 63 then { r with part := .name }
    else if r.part == .value && b == 38 then r.endOption
    else r.push b

/-- Reads one more piece. -/
def step (r : UriReading) (u : UriUnit) : UriReading :=
  match r.skip, u with
  | .nothing, u => r.read u
  | .toSeparator, .raw b => if r.separates b then { r with skip := .nothing }.read (.raw b) else r
  | .toSeparator, .escaped _ => r
  | .pastAmpersand, .raw b => if b == 38 then { r with skip := .nothing } else r
  | .pastAmpersand, .escaped _ => r

/-- The path and the options once the name is read; a name left without `=` has an empty
value. -/
def finish (r : UriReading) : List UInt8 × List (List UInt8 × List UInt8) :=
  match r.part with
  | .path => (r.path, r.options)
  | .name => (r.path, if r.name.isEmpty then r.options else r.options ++ [(r.name, [])])
  | .value => (r.path, r.options ++ [(r.name, r.value)])

end UriReading

/-- Reads what follows the `file:` of a name in URI form: the path and the options, or the fault
of an authority other than `localhost`. -/
def readUriName (rest : List UInt8) :
    Except EngineFault (List UInt8 × List (List UInt8 × List UInt8)) := do
  let body ← match rest with
    | 47 :: 47 :: after =>
      let authority := after.takeWhile (· != 47)
      if authority.isEmpty || authority == "localhost".toUTF8.toList then
        pure (after.dropWhile (· != 47))
      else throw (.foreignAuthority (textOfBytes authority))
    | _ => pure rest
  pure (((uriUnits body).takeWhile (· != .raw 35)).foldl UriReading.step {}).finish

/-- The access a `mode` option asks for, and whether it puts the database in memory. -/
def modeAccess : String → Option (Access × Bool)
  | "ro" => some (.readOnly, false)
  | "rw" => some (.readWrite, false)
  | "rwc" => some (.readWriteCreate, false)
  | "memory" => some (.unnamed, true)
  | _ => none

/-- Applies the options the engine reads to the flags, giving the flags and the file system
named last. -/
def applyUriOptions (flags : OpenFlags) (options : List (String × String)) :
    Except EngineFault (OpenFlags × Option String) :=
  options.foldlM (fun (flags, fs) (name, value) =>
    match name with
    | "vfs" => pure (flags, some value)
    | "cache" =>
      if value == "shared" || value == "private" then pure (flags, fs)
      else throw (.unknownMode "cache" value)
    | "mode" =>
      match modeAccess value with
      | none => throw (.unknownMode "access" value)
      | some (access, memory) =>
        if access.bits > flags.access.bits + (if flags.memory then 128 else 0) then
          throw (.modeNotAllowed "access" value)
        else pure ({ access, memory }, fs)
    | _ => pure (flags, fs)) (flags, none)

/-- The truth an option's value stands for: a number other than zero (modulo 256), or `yes`,
`on` or `true` in any case. -/
def optionTruth (value : String) : Bool :=
  match value.toList with
  | c :: _ =>
    if c.isDigit then
      let n := (value.toList.takeWhile Char.isDigit).foldl
        (fun n c => n * 10 + (c.toNat - '0'.toNat)) 0
      n ≤ 2147483647 && n % 256 != 0
    else ["yes", "on", "true"].contains value.toLower
  | [] => false

/-- Opens a database by name with the flags. -/
def openByName (name : String) (flags : OpenFlags) : Except EngineFault Opened := do
  let bytes := name.toUTF8.toList
  let (path, options, flags, fs) ←
    if "file:".toUTF8.toList.isPrefixOf bytes then do
      let (path, options) ← readUriName (bytes.drop 5)
      let options := options.map fun (n, v) => (textOfBytes n, textOfBytes v)
      let (flags, fs) ← applyUriOptions flags options
      pure (path, options, flags, fs)
    else pure (bytes, [], flags, none)
  if let some f := fs then
    if !fileSystems.contains f then throw (.noSuchFileSystem f)
  let readOnly := flags.access == .readOnly
  if flags.memory || path == ":memory:".toUTF8.toList || path.isEmpty || fs == some "memdb" then
    pure (.transient readOnly)
  else
    let immutable := ((options.find? (·.1 == "immutable")).map (optionTruth ·.2)).getD false
    pure (.file (textOfBytes path) readOnly (flags.access == .readWriteCreate) immutable)

end OrderDesk.Store
