import OrderDesk.Store.Orders

/-!
# Maintaining the catalog

Catalog rows come in bulk, with their own ids: `loadCatalog` inserts restaurants, then menu items,
groups, links and options, in that order and one row at a time, with foreign keys unchecked, so
that a catalog may be loaded in any order or even left inconsistent. The first row refused stops
the load; the rows before it stay.

Single rows are changed or removed with keys enforced: a change of a referencing column must
name an existing row, and a removal cascades or is refused as the schema says.

`related` follows one relation of the schema from a row, as the entities declare them, and
gives the keys of the rows at the other end.
-/

namespace OrderDesk.Store

/-- Catalog rows to load, each with its id. -/
structure CatalogRows where
  restaurants : List Restaurant
  menuItems : List MenuItem
  groups : List ModifierGroup
  links : List Link
  options : List ModifierOption

/-- Row counts of the order and catalog tables. -/
structure RowCounts where
  orders : Nat
  orderItems : Nat
  selections : Nat
  menuItems : Nat
  options : Nat

/-- Columns of a menu item to change. -/
structure MenuItemChange where
  name : Option String
  price : Option Float
  isAvailable : Option Bool
  restaurantId : Option Int

/-- Columns of a modifier group to change. -/
structure GroupChange where
  name : Option String
  required : Option Bool
  multiSelect : Option Bool
  max : Option Int

/-- Columns of a modifier option to change. -/
structure OptionChange where
  name : Option String
  price : Option Float
  available : Option Bool
  groupId : Option Int

namespace Db

/-- Inserts rows one at a time; the database as far as it got, and the first refusal. -/
def insertEach {α : Type} (ins : Db → α → Except EngineFault Db) :
    Db → List α → Option EngineFault × Db
  | db, [] => (none, db)
  | db, x :: rest =>
    match ins db x with
    | .ok db' => insertEach ins db' rest
    | .error f => (some f, db)

/-- Continues a bulk insert with more rows unless it has stopped. -/
def thenEach {α : Type} (acc : Option EngineFault × Db)
    (ins : Db → α → Except EngineFault Db) (xs : List α) : Option EngineFault × Db :=
  match acc with
  | (some f, db) => (some f, db)
  | (none, db) => insertEach ins db xs

/-- Loads catalog rows with foreign keys unchecked; gives the database as far as the load got and
the first refusal. -/
def loadCatalog (db : Db) (rows : CatalogRows) : Option StoreError × Db :=
  if db.closed then (some .poolClosed, db)
  else
    let start : Db := { db with keysEnforced := false }
    let acc := insertEach (fun d r => (·.2) <$> d.insertRestaurant (some r.id) r.name r.currency)
      start rows.restaurants
    let acc := thenEach acc (fun d m => (·.2) <$> d.insertMenuItem (some m.id) m) rows.menuItems
    let acc := thenEach acc (fun d g => (·.2) <$> d.insertGroup (some g.id) g) rows.groups
    let acc := thenEach acc (fun d l => d.insertLink l) rows.links
    let (fault, db') :=
      thenEach acc (fun d o => (·.2) <$> d.insertOption (some o.id) o) rows.options
    (fault.map .query, { db' with keysEnforced := db.keysEnforced })

/-- The row counts, read table by table: orders, lines, chosen options, menu items, options. -/
def counts (db : Db) : Except StoreError RowCounts := do
  let orders ← db.select [.order] (·.orders.length)
  let orderItems ← db.select [.orderItem] (·.items.length)
  let selections ← db.select [.orderItemOption] (·.selections.length)
  let menuItems ← db.select [.menuItem] (·.menuItems.length)
  let options ← db.select [.modifierOption] (·.options.length)
  pure { orders, orderItems, selections, menuItems, options }

/-- Changes a menu item; `none` when there is no such item. -/
def changeMenuItem (db : Db) (id : Int) (c : MenuItemChange) : Except StoreError (Option Db) := do
  let some m ← db.select [.menuItem] (·.menuItems.find? (·.id == id)) | pure none
  let m' := { m with name := c.name.getD m.name, price := storedReal (c.price.getD m.price),
                     isAvailable := c.isAvailable.getD m.isAvailable,
                     restaurantId := c.restaurantId.getD m.restaurantId }
  let ((), db') ← db.returning fun db => do
    if let some r := c.restaurantId then
      if db.keysEnforced then
        if !db.has .restaurant then throw (.noSuchTable "main.restaurant")
        db.checkReferences [(.menuItemRestaurant, r)]
    pure ((), { db with menuItems := db.menuItems.map fun x => if x.id == id then m' else x })
  pure (some db')

/-- Changes a modifier group; `none` when there is no such group. -/
def changeGroup (db : Db) (id : Int) (c : GroupChange) : Except StoreError (Option Db) := do
  let some g ← db.select [.modifier] (·.groups.find? (·.id == id)) | pure none
  let g' := { g with name := c.name.getD g.name, required := c.required.getD g.required,
                     multiSelect := c.multiSelect.getD g.multiSelect, max := c.max.getD g.max }
  let ((), db') ← db.returning fun db =>
    pure ((), { db with groups := db.groups.map fun x => if x.id == id then g' else x })
  pure (some db')

/-- Changes a modifier option; `none` when there is no such option. -/
def changeOption (db : Db) (id : Int) (c : OptionChange) : Except StoreError (Option Db) := do
  let some o ← db.select [.modifierOption] (·.options.find? (·.id == id)) | pure none
  let o' := { o with name := c.name.getD o.name, price := storedReal (c.price.getD o.price),
                     available := c.available.getD o.available,
                     groupId := c.groupId.getD o.groupId }
  let ((), db') ← db.returning fun db => do
    if let some g := c.groupId then
      if db.keysEnforced then
        if !db.has .modifier then throw (.noSuchTable "main.modifier")
        db.checkReferences [(.optionModifier, g)]
    pure ((), { db with options := db.options.map fun x => if x.id == id then o' else x })
  pure (some db')

/-- Removes one row with the checks of a removal; the number of rows removed from its table. -/
def removeOne (db : Db) (row : RowRef) : Except StoreError (Nat × Db) :=
  db.execute fun db => db.removeByKey row

/-- How the schema relates a row to the rows of table `target`: the tables read, the target first
and the link table after it where the relation goes through one, and the keys of the related
rows; `none` when the schema relates no such tables. -/
def relation (row : RowRef) (target : Table) : Option (List Table × (Db → List RowRef)) :=
  let ids (t : Table) (xs : List Int) : List RowRef := xs.map (.keyed t)
  let links (db : Db) (p : Link → Bool) : List RowRef :=
    (db.links.filter p).map fun l => .link l.menuItemId l.modifierId
  let chosen (db : Db) (p : SelectionRow → Bool) : List RowRef :=
    (db.selections.filter p).map fun s => .selection s.itemId s.optionId
  match row, target with
  | .keyed .restaurant k, .menuItem =>
    some ([.menuItem], fun db =>
      ids .menuItem ((db.menuItems.filter (·.restaurantId == k)).map (·.id)))
  | .keyed .restaurant k, .modifier =>
    some ([.modifier], fun db =>
      ids .modifier ((db.groups.filter (·.restaurantId == k)).map (·.id)))
  | .keyed .restaurant k, .order =>
    some ([.order], fun db => ids .order ((db.orders.filter (·.restaurantId == k)).map (·.id)))
  | .keyed .menuItem k, .restaurant =>
    some ([.restaurant], fun db => ids .restaurant ((db.restaurants.filter fun r =>
      db.menuItems.any fun m => m.id == k && m.restaurantId == r.id).map (·.id)))
  | .keyed .menuItem k, .menuItemModifier =>
    some ([.menuItemModifier], fun db => links db (·.menuItemId == k))
  | .keyed .menuItem k, .orderItem =>
    some ([.orderItem], fun db =>
      ids .orderItem ((db.items.filter (·.menuItemId == k)).map (·.id)))
  | .keyed .menuItem k, .modifier =>
    some ([.modifier, .menuItemModifier], fun db => ids .modifier ((db.groups.filter fun g =>
      db.links.any fun l => l.menuItemId == k && l.modifierId == g.id).map (·.id)))
  | .keyed .modifier k, .restaurant =>
    some ([.restaurant], fun db => ids .restaurant ((db.restaurants.filter fun r =>
      db.groups.any fun g => g.id == k && g.restaurantId == r.id).map (·.id)))
  | .keyed .modifier k, .modifierOption =>
    some ([.modifierOption], fun db =>
      ids .modifierOption ((db.options.filter (·.groupId == k)).map (·.id)))
  | .keyed .modifier k, .menuItemModifier =>
    some ([.menuItemModifier], fun db => links db (·.modifierId == k))
  | .keyed .modifier k, .menuItem =>
    some ([.menuItem, .menuItemModifier], fun db => ids .menuItem ((db.menuItems.filter fun m =>
      db.links.any fun l => l.modifierId == k && l.menuItemId == m.id).map (·.id)))
  | .link m _, .menuItem =>
    some ([.menuItem], fun db => ids .menuItem ((db.menuItems.filter (·.id == m)).map (·.id)))
  | .link _ g, .modifier =>
    some ([.modifier], fun db => ids .modifier ((db.groups.filter (·.id == g)).map (·.id)))
  | .keyed .modifierOption k, .modifier =>
    some ([.modifier], fun db => ids .modifier ((db.groups.filter fun g =>
      db.options.any fun o => o.id == k && o.groupId == g.id).map (·.id)))
  | .keyed .modifierOption k, .orderItemOption =>
    some ([.orderItemOption], fun db => chosen db (·.optionId == k))
  | .keyed .order k, .restaurant =>
    some ([.restaurant], fun db => ids .restaurant ((db.restaurants.filter fun r =>
      db.orders.any fun o => o.id == k && o.restaurantId == r.id).map (·.id)))
  | .keyed .order k, .orderItem =>
    some ([.orderItem], fun db => ids .orderItem ((db.items.filter (·.orderId == k)).map (·.id)))
  | .keyed .orderItem k, .order =>
    some ([.order], fun db => ids .order ((db.orders.filter fun o =>
      db.items.any fun i => i.id == k && i.orderId == o.id).map (·.id)))
  | .keyed .orderItem k, .menuItem =>
    some ([.menuItem], fun db => ids .menuItem ((db.menuItems.filter fun m =>
      db.items.any fun i => i.id == k && i.menuItemId == m.id).map (·.id)))
  | .keyed .orderItem k, .orderItemOption =>
    some ([.orderItemOption], fun db => chosen db (·.itemId == k))
  | .selection i _, .orderItem =>
    some ([.orderItem], fun db => ids .orderItem ((db.items.filter (·.id == i)).map (·.id)))
  | .selection _ o, .modifierOption =>
    some ([.modifierOption], fun db =>
      ids .modifierOption ((db.options.filter (·.id == o)).map (·.id)))
  | _, _ => none

/-- Follows a relation from a row: `none` when the row does not exist. The related rows are read
back, so one with a key too large to read fails the query. -/
def related (db : Db) (row : RowRef) (tables : List Table) (follow : Db → List RowRef) :
    Except StoreError (Option (List RowRef)) := do
  let found ← db.select [row.table] (·.contains row)
  if !found then return none
  let keys ← db.select tables follow
  match keys.findSome? RowRef.oversizedColumn? with
  | some c => throw (.keyTooLarge c)
  | none => pure (some keys)

end Db

end OrderDesk.Store
