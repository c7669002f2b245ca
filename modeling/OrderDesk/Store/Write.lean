import OrderDesk.Store.Db

/-!
# Writing rows

Inserting, removing and changing rows, with the checks the engine makes.

An insert first needs its table, and, while keys are enforced, every table its row refers to.
A row without an id gets one more than the highest id its table has ever had, so ids are not
reused after a removal. Then the key must be new, and every reference must name an existing row.
A failed statement changes nothing.

Removing a row visits the tables that refer to it, the most recently created first: a
restricting reference refuses the removal while a referencing row exists, and a cascading one
removes the referencing rows in turn, with the same rules. Before anything is removed, every
table that the removal may reach must have the tables it refers to.
-/

namespace OrderDesk.Store

namespace Db

/-- The checks of an insert into a table keyed by id: the table and the tables it refers to
exist, the id (given, or the next one) is new, and the references name existing rows. Gives the
id and the database with the id recorded. -/
def acceptRow (db : Db) (t : Table) (id? : Option Int) (refs : List (Reference × Int)) :
    Except EngineFault (Int × Db) := do
  db.need [t]
  db.needParents t
  let id := id?.getD (db.nextId t)
  if (db.ids t).contains id then throw (.primaryKey t.name ["id"])
  db.checkReferences refs
  pure (id, db.noteId t id)

/-- Inserts a restaurant. -/
def insertRestaurant (db : Db) (id? : Option Int) (name currency : String) :
    Except EngineFault (Restaurant × Db) := do
  let (id, db) ← db.acceptRow .restaurant id? []
  let r : Restaurant := { id, name, currency }
  pure (r, { db with restaurants := db.restaurants ++ [r] })

/-- Inserts a menu item under the given id, or the next one; the item's own id is ignored. -/
def insertMenuItem (db : Db) (id? : Option Int) (m : MenuItem) :
    Except EngineFault (MenuItem × Db) := do
  let (id, db) ← db.acceptRow .menuItem id? [(.menuItemRestaurant, m.restaurantId)]
  let m := { m with id, price := storedReal m.price }
  pure (m, { db with menuItems := db.menuItems ++ [m] })

/-- Inserts a modifier group. -/
def insertGroup (db : Db) (id? : Option Int) (g : ModifierGroup) :
    Except EngineFault (ModifierGroup × Db) := do
  let (id, db) ← db.acceptRow .modifier id? [(.modifierRestaurant, g.restaurantId)]
  let g := { g with id }
  pure (g, { db with groups := db.groups ++ [g] })

/-- Inserts a modifier option. -/
def insertOption (db : Db) (id? : Option Int) (o : ModifierOption) :
    Except EngineFault (ModifierOption × Db) := do
  let (id, db) ← db.acceptRow .modifierOption id? [(.optionModifier, o.groupId)]
  let o := { o with id, price := storedReal o.price }
  pure (o, { db with options := db.options ++ [o] })

/-- Inserts an order header. -/
def insertOrder (db : Db) (id? : Option Int) (o : OrderRow) :
    Except EngineFault (OrderRow × Db) := do
  let (id, db) ← db.acceptRow .order id? [(.orderRestaurant, o.restaurantId)]
  let o := { o with id }
  pure (o, { db with orders := db.orders ++ [o] })

/-- Inserts an order line. -/
def insertItem (db : Db) (id? : Option Int) (i : ItemRow) : Except EngineFault (ItemRow × Db) := do
  let (id, db) ←
    db.acceptRow .orderItem id? [(.itemOrder, i.orderId), (.itemMenuItem, i.menuItemId)]
  let i := { i with id, price := storedReal i.price }
  pure (i, { db with items := db.items ++ [i] })

/-- Attaches a modifier group to a menu item. -/
def insertLink (db : Db) (l : Link) : Except EngineFault Db := do
  db.need [.menuItemModifier]
  db.needParents .menuItemModifier
  if db.contains (.link l.menuItemId l.modifierId) then
    throw (.primaryKey "menu_item_modifier" ["menu_item_id", "modifier_id"])
  db.checkReferences [(.linkMenuItem, l.menuItemId), (.linkModifier, l.modifierId)]
  pure { db with links := db.links ++ [l] }

/-- Inserts an option chosen on an order line. -/
def insertSelection (db : Db) (s : SelectionRow) : Except EngineFault Db := do
  db.need [.orderItemOption]
  db.needParents .orderItemOption
  if db.contains (.selection s.itemId s.optionId) then
    throw (.primaryKey "order_item_modifier_option" ["order_item_id", "modifier_option_id"])
  db.checkReferences [(.selectionItem, s.itemId), (.selectionOption, s.optionId)]
  pure { db with selections := db.selections ++ [{ s with price := storedReal s.price }] }

/-- The tables a removal from `t` reaches, each of which must have the tables it refers to:
`t`, and the tables cascading from it. -/
def prepareRemoval (db : Db) : Nat → Table → Except EngineFault Unit
  | 0, _ => pure ()
  | fuel + 1, t => do
    db.needParents t
    (db.referencesTo t).forM fun r =>
      match r.onDelete with
      | .cascade => db.prepareRemoval fuel r.child
      | .restrict => pure ()

/-- Removes a row and what cascades from it, the tables referring to it visited most recently
created first. A restricting reference to the row refuses the removal. -/
def removeRow : Nat → Db → RowRef → Except EngineFault Db
  | 0, db, _ => pure db
  | fuel + 1, db, row =>
    if !db.contains row then pure db
    else
      let db' := db.remove row
      match row.id? with
      | none => pure db'
      | some k =>
        if !db.keysEnforced then pure db'
        else
          (db'.referencesTo row.table).foldlM (fun acc r =>
            let children := acc.referencing k r
            match r.onDelete with
            | .restrict => if children.isEmpty then pure acc else throw .restricted
            | .cascade => children.foldlM (removeRow fuel) acc) db'

/-- The number of rows in the database, which bounds how deep a removal can cascade. -/
def rowCount (db : Db) : Nat := (Table.all.map db.size).foldl (· + ·) 0

/-- Removes the row with the key, if it exists, with all the checks of a removal; gives the
number of rows removed from its own table. -/
def removeByKey (db : Db) (row : RowRef) : Except EngineFault (Nat × Db) := do
  db.need [row.table]
  db.prepareRemoval (Table.all.length + 1) row.table
  if db.contains row then
    let db' ← db.removeRow (db.rowCount + 1) row
    pure (1, db')
  else pure (0, db)

end Db

end OrderDesk.Store
