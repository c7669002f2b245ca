import OrderDesk.Json.Record
import OrderDesk.Order.Form

/-!
# Reading order forms from request bodies

The record forms of the bodies that create and change orders. Field names are those clients
write; `notes`, `modifiers` and `modifier_id` are accepted as other names of
`special_instructions`, `modifier_options` and `modifier_option_id`, and giving a field under
both of its names is refused as a field given twice. Lines and their selections may be left
out, as may instructions and every field of a change.
-/

namespace OrderDesk

open Json

/-- The fields of a selection read so far. -/
structure SelectionFields where
  optionId : Option Int
  quantity : Option Int

/-- How a selection is read. -/
def selectionRecord : RecordForm SelectionFields Selection where
  name := "ModifierSelectionDto"
  fields := ["modifier_option_id", "quantity"]
  position? := fun
    | "modifier_option_id" | "modifier_id" => some 0
    | "quantity" => some 1
    | _ => none
  empty := ⟨none, none⟩
  has := fun b i => match i with
    | 0 => b.optionId.isSome
    | _ => b.quantity.isSome
  readField := fun i path b => match i with
    | 0 => do pure { b with optionId := some (← Reader.int32 path) }
    | _ => do pure { b with quantity := some (← Reader.int32 path) }
  defaulted := fun _ => false
  build := fun b => { optionId := b.optionId.getD 0, quantity := b.quantity.getD 0 }

/-- The fields of a line read so far. -/
structure ItemFields where
  menuItemId : Option Int
  quantity : Option Int
  instructions : Option (Option String)
  selections : Option (List Selection)

/-- How a line of a creation form is read. -/
def itemRecord : RecordForm ItemFields ItemForm where
  name := "CreateOrderItemDto"
  fields := ["menu_item_id", "quantity", "special_instructions", "modifier_options"]
  position? := fun
    | "menu_item_id" => some 0
    | "quantity" => some 1
    | "special_instructions" | "notes" => some 2
    | "modifier_options" | "modifiers" => some 3
    | _ => none
  empty := ⟨none, none, none, none⟩
  has := fun b i => match i with
    | 0 => b.menuItemId.isSome
    | 1 => b.quantity.isSome
    | 2 => b.instructions.isSome
    | _ => b.selections.isSome
  readField := fun i path b => match i with
    | 0 => do pure { b with menuItemId := some (← Reader.int32 path) }
    | 1 => do pure { b with quantity := some (← Reader.int32 path) }
    | 2 => do pure { b with instructions := some (← Reader.optional Reader.text path) }
    | _ => do pure { b with selections := some (← Reader.list selectionRecord.reader path) }
  defaulted := fun i => i ≥ 2
  build := fun b =>
    { menuItemId := b.menuItemId.getD 0, quantity := b.quantity.getD 0,
      instructions := b.instructions.getD none, selections := b.selections.getD [] }

/-- The fields of a creation form read so far. -/
structure OrderFields where
  orderType : Option OrderType
  restaurantId : Option Int
  items : Option (List ItemForm)

/-- How a creation form is read. -/
def orderRecord : RecordForm OrderFields OrderForm where
  name := "CreateOrderDto"
  fields := ["order_type", "restaurant_id", "order_items"]
  position? := fun
    | "order_type" => some 0
    | "restaurant_id" => some 1
    | "order_items" => some 2
    | _ => none
  empty := ⟨none, none, none⟩
  has := fun b i => match i with
    | 0 => b.orderType.isSome
    | 1 => b.restaurantId.isSome
    | _ => b.items.isSome
  readField := fun i path b => match i with
    | 0 => do pure { b with orderType := some (← Reader.choice OrderType.named path) }
    | 1 => do pure { b with restaurantId := some (← Reader.int32 path) }
    | _ => do pure { b with items := some (← Reader.list itemRecord.reader path) }
  defaulted := fun i => i ≥ 2
  build := fun b =>
    { orderType := b.orderType.getD .dineIn, restaurantId := b.restaurantId.getD 0,
      items := b.items.getD [] }

/-- The fields of a change read so far; a field read as `null` is read but sets nothing. -/
structure PatchFields where
  orderType : Option (Option OrderType)
  orderStatus : Option (Option OrderStatus)
  paymentStatus : Option (Option PaymentStatus)

/-- How a change of an order is read. -/
def patchRecord : RecordForm PatchFields OrderPatch where
  name := "UpdateOrderDto"
  fields := ["order_type", "order_status", "payment_status"]
  position? := fun
    | "order_type" => some 0
    | "order_status" => some 1
    | "payment_status" => some 2
    | _ => none
  empty := ⟨none, none, none⟩
  has := fun b i => match i with
    | 0 => b.orderType.isSome
    | 1 => b.orderStatus.isSome
    | _ => b.paymentStatus.isSome
  readField := fun i path b => match i with
    | 0 => do
      pure { b with orderType := some (← Reader.optional (Reader.choice OrderType.named) path) }
    | 1 => do
      let status ← Reader.optional (Reader.choice OrderStatus.named) path
      pure { b with orderStatus := some status }
    | _ => do
      pure { b with
        paymentStatus := some (← Reader.optional (Reader.choice PaymentStatus.named) path) }
  defaulted := fun _ => true
  build := fun b =>
    { orderType := b.orderType.getD none, orderStatus := b.orderStatus.getD none,
      paymentStatus := b.paymentStatus.getD none }

/-- Reads a creation form from a body. -/
def readOrderForm (body : String) : Except ReadError OrderForm :=
  readDocument orderRecord.reader body

/-- Reads a change from a body. -/
def readOrderPatch (body : String) : Except ReadError OrderPatch :=
  readDocument patchRecord.reader body

end OrderDesk
