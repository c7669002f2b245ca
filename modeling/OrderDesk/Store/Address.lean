import OrderDesk.Store.Migrations
import OrderDesk.Store.FileName
import OrderDesk.Text.UrlEncoded
import OrderDesk.Text.Utf8
import OrderDesk.Text.Quoted
import OrderDesk.Url.Basic

/-!
# Database addresses

A store is named by a URL, which must first read as one (`Url.scheme?`). Its scheme picks the
kind of database: `postgres` or `postgresql` names a database server, `sqlite` an embedded
database, and any other scheme has no driver.

An embedded address is the text after the leading `sqlite://` and `sqlite:` marks, up to the
first `?`: `:memory:` is a database in memory, anything else a file name, percent-decoded, which
must then be UTF-8. After the `?` come URL-encoded options: `mode` (`ro`, `rw`, `rwc` or
`memory`), `cache` (`private` or `shared`), `immutable` (`true`, `1`, `false` or `0`) and `vfs`;
any other option or value is a configuration error.

The engine is handed the file name as it is, or, when `immutable` or `vfs` is given, as a name in
URI form that carries them. A file name handed as it is may not hold a zero byte.

Opening a store runs the migrations on it. No database file exists beforehand, so a file opens
only when it may be created, in a directory that exists. A store opened read-only refuses the
first statement of the migrations. No database server can be reached.
-/

namespace OrderDesk.Store

/-- The options of an embedded database, as its address gives them. -/
structure EmbeddedOptions where
  /-- The file name, percent-decoded; a database in memory has a name of its own. -/
  fileName : String
  inMemory : Bool := false
  readOnly : Bool := false
  create : Bool := false
  immutable : Bool := false
  fileSystem : Option String := none

/-- What a database URL names. -/
inductive Address where
  /-- A database server. -/
  | server
  /-- An embedded database. -/
  | embedded (options : EmbeddedOptions)

/-- The text with every leading copy of `p` removed. -/
def dropRepeated (p cs : List Char) : List Char :=
  if _h : p ≠ [] ∧ p.isPrefixOf cs = true then dropRepeated p (cs.drop p.length) else cs
termination_by cs.length
decreasing_by
  obtain ⟨hp, hpre⟩ := _h
  have hcs : cs ≠ [] := by
    rintro rfl
    cases p with
    | nil => exact hp rfl
    | cons _ _ => simp [List.isPrefixOf] at hpre
  have h1 : 0 < p.length := List.length_pos_iff.mpr hp
  have h2 : 0 < cs.length := List.length_pos_iff.mpr hcs
  simp only [List.length_drop]
  omega

/-- Applies one option of an embedded address. -/
def applyOption (o : EmbeddedOptions) : String × String → Except StoreError EmbeddedOptions
  | ("mode", v) =>
    match v with
    | "ro" => pure { o with readOnly := true }
    | "rw" => pure o
    | "rwc" => pure { o with create := true }
    | "memory" => pure { o with inMemory := true }
    | _ => throw (.badConfiguration ("unknown value " ++ Text.quoted v ++ " for `mode`"))
  | ("cache", v) =>
    if v == "private" || v == "shared" then pure o
    else throw (.badConfiguration ("unknown value " ++ Text.quoted v ++ " for `cache`"))
  | ("immutable", v) =>
    if v == "true" || v == "1" then pure { o with immutable := true }
    else if v == "false" || v == "0" then pure { o with immutable := false }
    else throw (.badConfiguration ("unknown value " ++ Text.quoted v ++ " for `immutable`"))
  | ("vfs", v) => pure { o with fileSystem := some v }
  | (k, _) =>
    throw (.badConfiguration
      ("unknown query parameter `" ++ k ++ "` while parsing connection URL"))

/-- The name a database in memory is opened by. -/
def inMemoryName : String := "file:in-memory"

/-- The embedded database an address names. -/
def readEmbedded (url : String) : Except StoreError EmbeddedOptions := do
  let rest := dropRepeated "sqlite:".toList (dropRepeated "sqlite://".toList url.toList)
  let (database, params) := rest.span (· != '?')
  let base : EmbeddedOptions ←
    if database == ":memory:".toList then pure { fileName := inMemoryName, inMemory := true }
    else
      let bytes := percentDecode false (String.ofList database).toUTF8.toList
      match Utf8.fault? bytes with
      | some (valid, length) => throw (.badEncoding valid length)
      | none => pure { fileName := textOfBytes bytes }
  (queryPairs (String.ofList (params.drop 1))).foldlM applyOption base

/-- The two hex digits of a byte, in upper case. -/
def hexByte (b : UInt8) : String :=
  let digit (n : Nat) : Char := if n < 10 then Char.ofNat (48 + n) else Char.ofNat (55 + n)
  String.ofList ['%', digit (b.toNat / 16), digit (b.toNat % 16)]

/-- Text with every byte but ASCII letters and digits escaped as `%XX`. -/
def escapeAll (s : String) : String :=
  String.join (s.toUTF8.toList.map fun b =>
    if (b.toNat < 128 && (Char.ofNat b.toNat).isAlphanum) then String.singleton (Char.ofNat b.toNat)
    else hexByte b)

/-- Text as a form value: ASCII letters, digits and `*-._` kept, a space as `+`, and every other
byte escaped as `%XX`. -/
def formEncode (s : String) : String :=
  String.join (s.toUTF8.toList.map fun b =>
    let c := Char.ofNat b.toNat
    if b.toNat < 128 && (c.isAlphanum || "*-._".toList.contains c) then String.singleton c
    else if b == 32 then "+"
    else hexByte b)

namespace EmbeddedOptions

/-- The flags the engine is asked to open the database with. -/
def flags (o : EmbeddedOptions) : OpenFlags :=
  { access := if o.readOnly then .readOnly else if o.create then .readWriteCreate else .readWrite,
    memory := o.inMemory }

/-- The name the engine is handed: the file name, or a name in URI form carrying `immutable` and
`vfs` when they are given. -/
def engineName (o : EmbeddedOptions) : Except StoreError String :=
  let params := (if o.immutable then ["immutable=true"] else []) ++
    (o.fileSystem.map fun f => "vfs=" ++ formEncode f).toList
  if !params.isEmpty then pure ("file:" ++ escapeAll o.fileName ++ "?" ++ "&".intercalate params)
  else if o.fileName.contains (Char.ofNat 0) then
    throw (.communication "filename passed to SQLite must not contain nul bytes")
  else pure o.fileName

end EmbeddedOptions

/-- What a database URL names. -/
def readAddress (url : String) : Except StoreError Address :=
  match Url.scheme? url with
  | none => .error (.unparsableUrl url)
  | some scheme =>
    if scheme == "postgres" || scheme == "postgresql" then .ok .server
    else if scheme == "sqlite" then .embedded <$> readEmbedded url
    else .error (.noDriver url)

/-- The directory a database file is in: its path up to the last `/`, without trailing
slashes; the working directory is the empty path, and the root is `/`. -/
def fileDirectory (file : String) : String :=
  match (file.toList.reverse.dropWhile (· != '/')).dropWhile (· == '/') with
  | [] => if file.startsWith "/" then "/" else ""
  | cs => String.ofList cs.reverse

/-- The directories that exist where the store is opened; a database file can be made only in
one of them. -/
def existingDirectories : List String := ["", ".", "/", "/tmp"]

/-- Opens the store a URL names and applies every migration to it. -/
def openStore (url : String) : Except StoreError Db := do
  match ← readAddress url with
  | .server => throw .poolTimedOut
  | .embedded o =>
    let name ← o.engineName
    let opened ← (openByName name o.flags).mapError .connection
    let readOnly ← match opened with
      | .transient readOnly => pure readOnly
      | .file path readOnly create immutable =>
        if create && existingDirectories.contains (fileDirectory path) then pure (readOnly || immutable)
        else throw (.connection .cannotOpen)
    if readOnly then throw (.execution .readOnly)
    match Db.empty.migrateUp none with
    | (none, db) => pure db
    | (some f, _) => throw (.execution f)

end OrderDesk.Store
