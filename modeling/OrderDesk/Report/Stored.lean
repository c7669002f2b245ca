import OrderDesk.Catalog
import OrderDesk.Json.Value
import OrderDesk.Service.Orders

/-!
# Rows and orders as JSON

Catalog rows, stored orders and rows, and the errors of the service are reported as JSON
objects of their columns or parts.
-/

/-! ## Catalog rows as JSON

Each catalog row is reported as an object of its columns under their column names.
-/

namespace OrderDesk

/-- A restaurant row. -/
def Restaurant.toJson (r : Restaurant) : Json :=
  .obj [("id", .int r.id), ("name", .str r.name), ("currency", .str r.currency)]

/-- A modifier group row. -/
def ModifierGroup.toJson (g : ModifierGroup) : Json :=
  .obj [("id", .int g.id), ("name", .str g.name), ("required", .bool g.required),
    ("multi_select", .bool g.multiSelect), ("max", .int g.max),
    ("restaurant_id", .int g.restaurantId)]

/-- A modifier group as loaded for a menu item, with its least number. -/
def ModifierGroup.toLoadedJson (g : ModifierGroup) : Json :=
  .obj [("id", .int g.id), ("name", .str g.name), ("required", .bool g.required),
    ("multi_select", .bool g.multiSelect), ("max", .int g.max), ("min", .int g.min),
    ("restaurant_id", .int g.restaurantId)]

/-- A menu item row. -/
def MenuItem.toJson (m : MenuItem) : Json :=
  .obj [("id", .int m.id), ("name", .str m.name), ("description", .str m.description),
    ("price", .float m.price), ("is_available", .bool m.isAvailable),
    ("restaurant_id", .int m.restaurantId)]

/-- A menu item with its loaded groups (`null` when they were not loaded). -/
def Offer.toJson (o : Offer) : Json :=
  .obj [("id", .int o.item.id), ("name", .str o.item.name), ("price", .float o.item.price),
    ("is_available", .bool o.item.isAvailable), ("restaurant_id", .int o.item.restaurantId),
    ("modifiers", Json.opt (fun gs => .arr (gs.map ModifierGroup.toLoadedJson)) o.groups)]

/-- A modifier option row. -/
def ModifierOption.toJson (o : ModifierOption) : Json :=
  .obj [("id", .int o.id), ("name", .str o.name), ("price", .float o.price),
    ("available", .bool o.available), ("pre_select", .bool o.preSelect),
    ("modifier_id", .int o.groupId)]

/-! ## Stored orders and rows as JSON

An order is reported with its header, and its lines in id order, each with the options chosen on
it by ascending option id. Times are left out: they come from the clock and say nothing about
what the service did. A page adds its counts to its orders. Stored rows are reported as objects
of their columns.
-/

open Store

/-- An option chosen on a stored line. -/
def Store.SelectionRow.toJson (s : SelectionRow) : Json :=
  .obj [("modifier_option_id", .int s.optionId), ("quantity", .int s.quantity),
    ("option_name", .str s.name), ("option_price", .float s.price)]

/-- A stored line with its options. -/
def Store.StoredLine.toJson (l : StoredLine) : Json :=
  .obj [("id", .int l.row.id), ("menu_item_id", .int l.row.menuItemId),
    ("quantity", .int l.row.quantity), ("special_instructions", Json.opt .str l.row.instructions),
    ("item_name", .str l.row.name), ("item_price", .float l.row.price),
    ("modifier_options", .arr (l.options.map (·.toJson)))]

/-- A stored order with its lines. -/
def Store.StoredOrder.toJson (o : StoredOrder) : Json :=
  .obj [("id", .int o.header.id), ("order_type", .str o.header.orderType.name),
    ("order_status", .str o.header.orderStatus.name),
    ("payment_status", .str o.header.paymentStatus.name),
    ("restaurant_id", .int o.header.restaurantId),
    ("order_items", .arr (o.lines.map (·.toJson)))]

/-- A page of orders with its counts. -/
def OrderPage.toJson (p : OrderPage) : Json :=
  .obj [("orders", .arr (p.orders.map (·.toJson))), ("total", Json.nat p.total),
    ("page", Json.nat p.page), ("per_page", Json.nat p.perPage),
    ("total_pages", Json.nat p.totalPages)]

/-- An order header row. -/
def Store.OrderRow.toJson (o : OrderRow) : Json :=
  .obj [("id", .int o.id), ("order_type", .str o.orderType.name),
    ("order_status", .str o.orderStatus.name), ("payment_status", .str o.paymentStatus.name),
    ("restaurant_id", .int o.restaurantId)]

/-- An order line row. -/
def Store.ItemRow.toJson (i : ItemRow) : Json :=
  .obj [("id", .int i.id), ("quantity", .int i.quantity),
    ("special_instructions", Json.opt .str i.instructions), ("item_name", .str i.name),
    ("item_price", .float i.price), ("menu_item_id", .int i.menuItemId),
    ("order_id", .int i.orderId)]

/-- A link row. -/
def Store.Link.toJson (l : Link) : Json :=
  .obj [("menu_item_id", .int l.menuItemId), ("modifier_id", .int l.modifierId)]

/-- A service error as a report: its variant and its text. -/
def ServiceError.toJson (e : ServiceError) : Json :=
  .obj [("error", .str e.variant), ("message", .str e.display)]

/-- A store error as a report. -/
def Store.StoreError.toJson (e : StoreError) : Json := (ServiceError.store e).toJson

end OrderDesk
