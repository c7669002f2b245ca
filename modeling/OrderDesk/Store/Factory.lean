import OrderDesk.Store.Catalog
import OrderDesk.Catalog

/-!
# Making test rows

Factories insert one row with sensible defaults, taken from the sample rows, and give the row as
stored, with the id the store handed out. Each factory of a named row is numbered from a counter,
and a row not given a name is named after its number, as in `Restaurant 7`.

A row is stored even when its id is too large to be read back; the factory then fails, and the
row stays. A line is made from a menu item that must exist: it copies the item's name and price, has no
instructions, and one unit unless told otherwise. `makeWithDependencies` makes a restaurant, a
menu item of it, a group of it attached to the item, and an option of the group; a failure stops
it, keeping what was made.
-/

namespace OrderDesk.Store

/-- A restaurant to make. -/
def restaurantDraft (n : Nat) (name? currency? : Option String) : Restaurant :=
  { id := 0, name := name?.getD ("Restaurant " ++ toString n),
    currency := currency?.getD sampleRestaurant.currency }

/-- A menu item to make. -/
def menuItemDraft (n : Nat) (restaurantId : Int) (name? : Option String) (price? : Option Float)
    (available? : Option Bool) : MenuItem :=
  { sampleMenuItem with
    id := 0, restaurantId, name := name?.getD ("Menu Item " ++ toString n),
    price := price?.getD sampleMenuItem.price,
    isAvailable := available?.getD sampleMenuItem.isAvailable }

/-- A modifier group to make. -/
def groupDraft (n : Nat) (restaurantId : Int) (name? : Option String) (required? : Option Bool)
    (multiSelect? : Option Bool) (max? : Option Int) : ModifierGroup :=
  { sampleGroup with
    id := 0, restaurantId, name := name?.getD ("Modifier " ++ toString n),
    required := required?.getD sampleGroup.required,
    multiSelect := multiSelect?.getD sampleGroup.multiSelect, max := max?.getD sampleGroup.max }

/-- A modifier option to make. -/
def optionDraft (n : Nat) (groupId : Int) (name? : Option String) (price? : Option Float)
    (available? preSelect? : Option Bool) : ModifierOption :=
  { sampleOption with
    id := 0, groupId, name := name?.getD ("Option " ++ toString n),
    price := price?.getD sampleOption.price, available := available?.getD sampleOption.available,
    preSelect := preSelect?.getD sampleOption.preSelect }

/-- The rows `makeWithDependencies` makes. -/
structure Dependencies where
  restaurant : Restaurant
  menuItem : MenuItem
  group : ModifierGroup
  option : ModifierOption

namespace Db

/-- Makes a restaurant. -/
def makeRestaurant (db : Db) (r : Restaurant) : Except StoreError Restaurant × Db :=
  db.made (.keyed .restaurant ·.id) fun db => db.insertRestaurant none r.name r.currency

/-- Makes a menu item. -/
def makeMenuItem (db : Db) (m : MenuItem) : Except StoreError MenuItem × Db :=
  db.made (.keyed .menuItem ·.id) fun db => db.insertMenuItem none m

/-- Makes a modifier group. -/
def makeGroup (db : Db) (g : ModifierGroup) : Except StoreError ModifierGroup × Db :=
  db.made (.keyed .modifier ·.id) fun db => db.insertGroup none g

/-- Attaches a group to a menu item. -/
def attach (db : Db) (l : Link) : Except StoreError Link × Db :=
  db.made (fun l => .link l.menuItemId l.modifierId) fun db => do pure (l, ← db.insertLink l)

/-- Makes a modifier option. -/
def makeOption (db : Db) (o : ModifierOption) : Except StoreError ModifierOption × Db :=
  db.made (.keyed .modifierOption ·.id) fun db => db.insertOption none o

/-- Makes an order header, stamped `createdAt` for both its creation and its last change, or
with the clock's reading when no time is given. -/
def makeOrder (db : Db) (restaurantId : Int) (orderType : Option OrderType)
    (orderStatus : Option OrderStatus) (paymentStatus : Option PaymentStatus)
    (createdAt : Option Instant) : Except StoreError OrderRow × Db :=
  let (now, db) := match createdAt with
    | some t => (t, db)
    | none => db.tick
  let row : OrderRow :=
    { id := 0, orderType := orderType.getD .dineIn, orderStatus := orderStatus.getD .opened,
      paymentStatus := paymentStatus.getD .unpaid, restaurantId, createdAt := now,
      updatedAt := now }
  db.made (.keyed .order ·.id) fun db => db.insertOrder none row

/-- Makes a line of an order from the menu item with the id; `none` when there is no such item. -/
def makeOrderItem (db : Db) (orderId menuItemId quantity : Int) :
    Except StoreError (Option ItemRow) × Db :=
  match db.select [.menuItem] (·.menuItems.find? (·.id == menuItemId)) with
  | .error e => (.error e, db)
  | .ok none => (.ok none, db)
  | .ok (some m) =>
    let row : ItemRow :=
      { id := 0, quantity, instructions := none, name := m.name, price := m.price,
        menuItemId := m.id, orderId }
    let (made, db) := db.made (.keyed .orderItem ·.id) fun db => db.insertItem none row
    (made.map some, db)

/-- Makes a restaurant with a menu item, a group attached to it and an option of the group,
numbered from `n`; a failure keeps what was made before it. -/
def makeWithDependencies (db : Db) (n : Nat) : Except StoreError Dependencies × Db :=
  match db.makeRestaurant (restaurantDraft n none none) with
  | (.error e, db) => (.error e, db)
  | (.ok r, db) =>
  match db.makeMenuItem (menuItemDraft (n + 1) r.id none none none) with
  | (.error e, db) => (.error e, db)
  | (.ok m, db) =>
  match db.makeGroup (groupDraft (n + 2) r.id none none none none) with
  | (.error e, db) => (.error e, db)
  | (.ok g, db) =>
  match db.attach { menuItemId := m.id, modifierId := g.id } with
  | (.error e, db) => (.error e, db)
  | (.ok _, db) =>
  match db.makeOption (optionDraft (n + 3) g.id none none none none) with
  | (.error e, db) => (.error e, db)
  | (.ok o, db) => (.ok { restaurant := r, menuItem := m, group := g, option := o }, db)

end Db

end OrderDesk.Store
