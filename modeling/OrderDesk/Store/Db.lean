import OrderDesk.Store.Rows
import OrderDesk.Store.Error

/-!
# The database

`Db` is the whole state of one database: the rows of every table, which tables exist and in
what order they were created, the named indexes, the highest id ever handed out per table, and
whether foreign keys are enforced. It also holds the clock the store reads when it stamps a row,
whether the connection pool has been closed, and whether the engine refuses to commit.

Rows of a table that does not exist are always empty. The functions here are the primitives the
statements are built from: finding rows by key or by the rows they reference, removing a row,
creating and dropping tables and indexes.

The creation order matters: when a row is removed, the tables referencing it are visited from
the most recently created one back, which decides whether a cascade has removed a referencing row
before a restriction looks for it.
-/

namespace OrderDesk.Store

/-- The state of one database. -/
structure Db where
  restaurants : List Restaurant
  menuItems : List MenuItem
  groups : List ModifierGroup
  links : List Link
  options : List ModifierOption
  orders : List OrderRow
  items : List ItemRow
  selections : List SelectionRow
  /-- Names of the applied migrations, in the order they were applied. -/
  applied : List String
  /-- The existing tables, in the order they were created. -/
  tables : List Table
  /-- The named indexes, with the table each belongs to. -/
  indexes : List (String × Table)
  /-- The highest id ever handed out in each table. -/
  sequence : Table → Int
  /-- Whether the engine's table of id counters exists: it is made with the first table keyed by
  an id and is never dropped. -/
  counters : Bool
  keysEnforced : Bool
  /-- Ticks of the clock read so far. -/
  clock : Nat
  closed : Bool
  /-- The engine's refusal of a commit, when it refuses one. -/
  commitRefusal : Option CommitRefusal := none

/-- The instant the store's clock starts from: 2026-11-12T00:00:00Z. -/
def clockStart : Instant := { seconds := 1794441600, nanos := 0 }

namespace Db

/-- A database without tables. -/
def empty : Db :=
  { restaurants := [], menuItems := [], groups := [], links := [], options := [], orders := [],
    items := [], selections := [], applied := [], tables := [], indexes := [],
    sequence := fun _ => 0, counters := false, keysEnforced := true, clock := 0, closed := false }

/-- Whether the table exists. -/
def has (db : Db) (t : Table) : Bool := db.tables.contains t

/-- The first of the tables, in the order given, that does not exist. -/
def need (db : Db) : List Table → Except EngineFault Unit
  | [] => pure ()
  | t :: rest => if db.has t then db.need rest else throw (.noSuchTable t.name)

/-- The ids of the rows of a table keyed by id. -/
def ids (db : Db) : Table → List Int
  | .restaurant => db.restaurants.map (·.id)
  | .menuItem => db.menuItems.map (·.id)
  | .modifier => db.groups.map (·.id)
  | .modifierOption => db.options.map (·.id)
  | .order => db.orders.map (·.id)
  | .orderItem => db.items.map (·.id)
  | _ => []

/-- The number of rows of a table. -/
def size (db : Db) : Table → Nat
  | .menuItemModifier => db.links.length
  | .orderItemOption => db.selections.length
  | .migrations => db.applied.length
  | t => (db.ids t).length

/-- Whether the row exists. -/
def contains (db : Db) : RowRef → Bool
  | .keyed t n => (db.ids t).contains n
  | .link m g => db.links.any fun l => l.menuItemId == m && l.modifierId == g
  | .selection i o => db.selections.any fun s => s.itemId == i && s.optionId == o

/-- The database without the row. -/
def remove (db : Db) : RowRef → Db
  | .keyed .restaurant n => { db with restaurants := db.restaurants.filter (·.id != n) }
  | .keyed .menuItem n => { db with menuItems := db.menuItems.filter (·.id != n) }
  | .keyed .modifier n => { db with groups := db.groups.filter (·.id != n) }
  | .keyed .modifierOption n => { db with options := db.options.filter (·.id != n) }
  | .keyed .order n => { db with orders := db.orders.filter (·.id != n) }
  | .keyed .orderItem n => { db with items := db.items.filter (·.id != n) }
  | .keyed _ _ => db
  | .link m g =>
    { db with links := db.links.filter fun l => !(l.menuItemId == m && l.modifierId == g) }
  | .selection i o =>
    { db with selections := db.selections.filter fun s => !(s.itemId == i && s.optionId == o) }

/-- The rows whose reference names the row with id `k` of the referenced table. -/
def referencing (db : Db) (k : Int) : Reference → List RowRef
  | .menuItemRestaurant =>
    (db.menuItems.filter (·.restaurantId == k)).map fun m => .keyed .menuItem m.id
  | .modifierRestaurant =>
    (db.groups.filter (·.restaurantId == k)).map fun g => .keyed .modifier g.id
  | .linkMenuItem =>
    (db.links.filter (·.menuItemId == k)).map fun l => .link l.menuItemId l.modifierId
  | .linkModifier =>
    (db.links.filter (·.modifierId == k)).map fun l => .link l.menuItemId l.modifierId
  | .optionModifier =>
    (db.options.filter (·.groupId == k)).map fun o => .keyed .modifierOption o.id
  | .orderRestaurant => (db.orders.filter (·.restaurantId == k)).map fun o => .keyed .order o.id
  | .itemOrder => (db.items.filter (·.orderId == k)).map fun i => .keyed .orderItem i.id
  | .itemMenuItem => (db.items.filter (·.menuItemId == k)).map fun i => .keyed .orderItem i.id
  | .selectionItem =>
    (db.selections.filter (·.itemId == k)).map fun s => .selection s.itemId s.optionId
  | .selectionOption =>
    (db.selections.filter (·.optionId == k)).map fun s => .selection s.itemId s.optionId

/-- The references to a table from existing tables, the most recently created table first and,
within a table, the last declared reference first. -/
def referencesTo (db : Db) (t : Table) : List Reference :=
  db.tables.reverse.flatMap fun c => c.references.reverse.filter (·.parent == t)

/-- The id a new row of the table gets: one more than any id the table has had. -/
def nextId (db : Db) (t : Table) : Int :=
  max (db.sequence t) ((db.ids t).foldl max 0) + 1

/-- Records that the table has handed out the id. -/
def noteId (db : Db) (t : Table) (n : Int) : Db :=
  { db with sequence := fun u => if u = t then max (db.sequence u) n else db.sequence u }

/-- The database with the table's rows removed. -/
def clear (db : Db) : Table → Db
  | .restaurant => { db with restaurants := [] }
  | .menuItem => { db with menuItems := [] }
  | .modifier => { db with groups := [] }
  | .menuItemModifier => { db with links := [] }
  | .modifierOption => { db with options := [] }
  | .order => { db with orders := [] }
  | .orderItem => { db with items := [] }
  | .orderItemOption => { db with selections := [] }
  | .migrations => { db with applied := [] }

/-- The database with a new, empty table; a table keyed by an id brings the table of id counters
with it. -/
def addTable (db : Db) (t : Table) : Db :=
  { db.clear t with tables := db.tables ++ [t], counters := db.counters || t.keyedById }

/-- Creates an empty table; an existing table is refused. -/
def createTable (db : Db) (t : Table) : Except EngineFault Db :=
  if db.has t then throw (.tableExists t.name) else pure (db.addTable t)

/-- Creates the table unless it exists. -/
def ensureTable (db : Db) (t : Table) : Db :=
  if db.has t then db else db.addTable t

/-- Drops a table with its rows, its indexes and its id counter. -/
def dropTable (db : Db) (t : Table) : Except EngineFault Db :=
  if db.has t then
    let db := db.clear t
    pure { db with
      tables := db.tables.filter (· != t),
      indexes := db.indexes.filter (·.2 != t),
      sequence := fun u => if u = t then 0 else db.sequence u }
  else throw (.noSuchTable t.name)

/-- Creates a named index on a table. -/
def createIndex (db : Db) (name : String) (t : Table) : Except EngineFault Db :=
  if db.indexes.any (·.1 == name) then throw (.indexExists name)
  else if db.has t then pure { db with indexes := db.indexes ++ [(name, t)] }
  else throw (.noSuchTable t.name)

/-- The tables a statement on `t` must see while keys are enforced: those `t` refers to, the
last declared first. -/
def needParents (db : Db) (t : Table) : Except EngineFault Unit :=
  if db.keysEnforced then
    (t.references.reverse.map (·.parent)).forM fun p =>
      if db.has p then pure () else throw (.noSuchTable ("main." ++ p.name))
  else pure ()

/-- The references of a new row, each with the id it names, must name existing rows while keys
are enforced; the last declared reference is checked first. -/
def checkReferences (db : Db) (refs : List (Reference × Int)) : Except EngineFault Unit :=
  if db.keysEnforced then
    refs.reverse.forM fun (r, k) =>
      if (db.ids r.parent).contains k then pure () else throw .foreignKey
  else pure ()

/-- The instant of the clock's next reading, and the clock moved on. -/
def tick (db : Db) : Instant × Db :=
  (Instant.ofNanos (clockStart.seconds * 1000000000 + db.clock * 1000),
    { db with clock := db.clock + 1 })

end Db

end OrderDesk.Store
