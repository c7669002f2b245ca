/-!
# The database schema

The store has eight tables, five for the catalog and three for orders, and a ninth that records
which schema migrations have been applied. Six tables are keyed by an integer id handed out in
increasing order and never reused; the two link tables, menu items to modifier groups and order
items to chosen options, are keyed by the pair of ids they link.

A `Reference` is a foreign key: a column of a child table that must name a row of a parent table.
Removing a parent row either removes the rows that reference it too (`cascade`), or is refused
while such rows exist (`restrict`). Menu items and modifier options that have been ordered are
the only rows protected this way: an order keeps its items, but a catalog row cannot vanish from
under an order that names it.
-/

namespace OrderDesk.Store

/-- The tables of the store. -/
inductive Table where
  | restaurant
  | menuItem
  | modifier
  | menuItemModifier
  | modifierOption
  | order
  | orderItem
  | orderItemOption
  | migrations
  deriving DecidableEq, Repr

namespace Table

/-- The table's name in the database. -/
def name : Table → String
  | .restaurant => "restaurant"
  | .menuItem => "menu_item"
  | .modifier => "modifier"
  | .menuItemModifier => "menu_item_modifier"
  | .modifierOption => "modifier_option"
  | .order => "order"
  | .orderItem => "order_item"
  | .orderItemOption => "order_item_modifier_option"
  | .migrations => "seaql_migrations"

/-- Every table. -/
def all : List Table :=
  [.restaurant, .menuItem, .modifier, .menuItemModifier, .modifierOption, .order, .orderItem,
    .orderItemOption, .migrations]

/-- The table with the given name. -/
def ofName? (s : String) : Option Table := all.find? (·.name == s)

/-- The tables of the catalog, in the order they depend on each other. -/
def catalogTables : List Table :=
  [.restaurant, .menuItem, .modifier, .menuItemModifier, .modifierOption]

/-- The catalog and order tables, in the order they depend on each other. -/
def orderTables : List Table := catalogTables ++ [.order, .orderItem, .orderItemOption]

/-- Whether rows are keyed by a single id handed out by the store. -/
def keyedById : Table → Bool
  | .menuItemModifier | .orderItemOption | .migrations => false
  | _ => true

end Table

/-- What removing a referenced row does to the rows referencing it. -/
inductive OnDelete where
  | cascade
  | restrict
  deriving DecidableEq

/-- The foreign keys of the schema. -/
inductive Reference where
  | menuItemRestaurant
  | modifierRestaurant
  | linkMenuItem
  | linkModifier
  | optionModifier
  | orderRestaurant
  | itemOrder
  | itemMenuItem
  | selectionItem
  | selectionOption
  deriving DecidableEq, Repr

namespace Reference

/-- The table holding the referencing column. -/
def child : Reference → Table
  | .menuItemRestaurant => .menuItem
  | .modifierRestaurant => .modifier
  | .linkMenuItem | .linkModifier => .menuItemModifier
  | .optionModifier => .modifierOption
  | .orderRestaurant => .order
  | .itemOrder | .itemMenuItem => .orderItem
  | .selectionItem | .selectionOption => .orderItemOption

/-- The referenced table; a reference names a row by its id. -/
def parent : Reference → Table
  | .menuItemRestaurant | .modifierRestaurant | .orderRestaurant => .restaurant
  | .linkMenuItem | .itemMenuItem => .menuItem
  | .linkModifier | .optionModifier => .modifier
  | .itemOrder => .order
  | .selectionItem => .orderItem
  | .selectionOption => .modifierOption

/-- What removing a referenced row does. -/
def onDelete : Reference → OnDelete
  | .itemMenuItem | .selectionOption => .restrict
  | _ => .cascade

end Reference

/-- The foreign keys of a table, in the order they are declared. -/
def Table.references : Table → List Reference
  | .menuItem => [.menuItemRestaurant]
  | .modifier => [.modifierRestaurant]
  | .menuItemModifier => [.linkMenuItem, .linkModifier]
  | .modifierOption => [.optionModifier]
  | .order => [.orderRestaurant]
  | .orderItem => [.itemOrder, .itemMenuItem]
  | .orderItemOption => [.selectionItem, .selectionOption]
  | _ => []

end OrderDesk.Store
