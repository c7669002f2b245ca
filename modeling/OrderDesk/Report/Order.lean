import OrderDesk.Order.Snapshot
import OrderDesk.Order.Form
import OrderDesk.Json.Value

/-!
# Order errors and drafts as JSON

An order error is reported as its variant name, its kind, its message and the values it names;
a draft as its header and its item snapshots in order; a checked request as its lines with
the ids to fetch, and a change as the fields it sets.
-/

namespace OrderDesk

/-- The values an order error names, as report fields. -/
def OrderError.fields : OrderError → List (String × Json)
  | .emptyOrder | .catalog (.store _) | .storage _ => []
  | .catalog (.notFound entity requested found) =>
    [("entity", .str entity), ("requested", Json.nat requested), ("found", Json.nat found)]
  | .menuItemNotFound m | .menuItemUnavailable m | .groupsNotLoaded m => [("menu_item_id", .int m)]
  | .menuItemWrongRestaurant m r => [("menu_item_id", .int m), ("restaurant_id", .int r)]
  | .optionNotFound o | .optionUnavailable o => [("modifier_option_id", .int o)]
  | .optionNotOnMenuItem o m | .duplicateOption o m =>
    [("modifier_option_id", .int o), ("menu_item_id", .int m)]
  | .requiredGroupMissing g name m =>
    [("modifier_id", .int g), ("modifier_name", .str name), ("menu_item_id", .int m)]
  | .selectionOutOfRange g name m selected lo hi =>
    [("modifier_id", .int g), ("modifier_name", .str name), ("menu_item_id", .int m),
      ("selected", .int selected), ("min", .int lo), ("max", .int hi)]
  | .groupNotLoaded g m => [("modifier_id", .int g), ("menu_item_id", .int m)]
  | .writeFailed stage cause =>
    [("stage", .str stage.name), ("constraint_violation", .bool cause.isConstraintViolation)]
  | .missingAfterCommit o => [("order_id", .int o)]

/-- An order error as a report. -/
def OrderError.toJson (e : OrderError) : Json :=
  .obj [("error", .str e.variant), ("kind", .str e.kind.name), ("message", .str e.message),
    ("fields", .obj e.fields)]

/-- A catalog error as a report. -/
def CatalogError.toJson : CatalogError → Json
  | .notFound entity requested found =>
    .obj [("error", .str "NotFound"),
      ("message", .str (CatalogError.notFound entity requested found).message),
      ("fields", .obj [("entity", .str entity), ("requested", Json.nat requested),
        ("found", Json.nat found)])]
  | .store e => .obj [("error", .str "Db"), ("message", .str e.message)]

/-- An option snapshot. -/
def OptionSnapshot.toJson (o : OptionSnapshot) : Json :=
  .obj [("modifier_option_id", .int o.optionId), ("quantity", .int o.quantity),
    ("option_name", .str o.name), ("option_price", .float o.price)]

/-- An item snapshot. -/
def ItemSnapshot.toJson (i : ItemSnapshot) : Json :=
  .obj [("menu_item_id", .int i.menuItemId), ("quantity", .int i.quantity),
    ("special_instructions", Json.opt .str i.instructions), ("item_name", .str i.name),
    ("item_price", .float i.price),
    ("modifier_options", .arr (i.options.map OptionSnapshot.toJson))]

/-- A draft order. -/
def OrderDraft.toJson (d : OrderDraft) : Json :=
  .obj [("order_type", .str d.orderType.name), ("order_status", .str d.orderStatus.name),
    ("payment_status", .str d.paymentStatus.name), ("restaurant_id", .int d.restaurantId),
    ("items", .arr (d.items.map ItemSnapshot.toJson))]

/-- A selection of a request. -/
def Selection.toJson (s : Selection) : Json :=
  .obj [("modifier_option_id", .int s.optionId), ("quantity", .int s.quantity)]

/-- A line of a request. -/
def Line.toJson (l : Line) : Json :=
  .obj [("menu_item_id", .int l.menuItemId), ("quantity", .int l.quantity),
    ("special_instructions", Json.opt .str l.instructions),
    ("modifier_selections", .arr (l.selections.map Selection.toJson))]

/-- A checked request, with the menu items and options it names. -/
def OrderRequest.toJson (r : OrderRequest) : Json :=
  .obj [("order_type", .str r.orderType.name), ("restaurant_id", .int r.restaurantId),
    ("lines", .arr (r.lines.map Line.toJson)),
    ("menu_item_ids", .arr (r.menuItemIds.map .int)),
    ("modifier_option_ids", .arr (r.optionIds.map .int))]

/-- A change of order `id`; fields it leaves alone are `null`. -/
def OrderPatch.toJson (id : Int) (p : OrderPatch) : Json :=
  .obj [("id", .int id), ("order_type", Json.opt (.str ·.name) p.orderType),
    ("order_status", Json.opt (.str ·.name) p.orderStatus),
    ("payment_status", Json.opt (.str ·.name) p.paymentStatus),
    ("is_empty", .bool p.isEmpty)]

end OrderDesk
