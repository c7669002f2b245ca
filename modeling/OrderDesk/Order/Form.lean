import OrderDesk.Order.Request

/-!
# Order forms

What a client sends to create or change an order, before any check against the catalog.

`OrderForm.toRequest` accepts a creation form when every line and selection quantity is at
least one and every line's instructions are at most `maxInstructions` characters long; empty
instructions count as none. Otherwise it names the first offending place, walking the lines in
order and, within a line, its quantity, then its instructions, then its selections in order.
The request keeps the form's type, restaurant, lines and selections as they were sent.

An `OrderPatch` names the header fields a change sets; a patch that sets none is empty.
-/

namespace OrderDesk

/-- The most characters a line's instructions may hold. -/
def maxInstructions : Nat := 255

/-- One line of a creation form. -/
structure ItemForm where
  menuItemId : Int
  quantity : Int
  instructions : Option String
  selections : List Selection

/-- A form asking for a new order. -/
structure OrderForm where
  orderType : OrderType
  restaurantId : Int
  items : List ItemForm

/-- Where a creation form breaks a rule; lines and selections are counted from zero. -/
inductive FormFault where
  | lineQuantity (line : Nat)
  | instructionsTooLong (line : Nat)
  | selectionQuantity (line selection : Nat)
  deriving DecidableEq

/-- The message of a form fault, naming the field as the client wrote it. -/
def FormFault.message : FormFault → String
  | .lineQuantity i => "order_items[" ++ toString i ++ "].quantity must be at least 1"
  | .instructionsTooLong i =>
    "order_items[" ++ toString i ++ "].special_instructions must be at most " ++
      toString maxInstructions ++ " characters"
  | .selectionQuantity i j =>
    "order_items[" ++ toString i ++ "].modifier_options[" ++ toString j ++
      "].quantity must be at least 1"

/-- Instructions as kept: empty text is no instructions. -/
def keptInstructions : Option String → Option String
  | some s => if s.isEmpty then none else some s
  | none => none

/-- Each selection of line `line`, from position `j`, has a positive quantity. -/
def checkSelections (line : Nat) : Nat → List Selection → Except FormFault Unit
  | _, [] => pure ()
  | j, s :: rest => do
    if s.quantity < 1 then throw (.selectionQuantity line j)
    checkSelections line (j + 1) rest

/-- The line for the form's item at position `line`. -/
def ItemForm.toLine (line : Nat) (item : ItemForm) : Except FormFault Line := do
  if item.quantity < 1 then throw (.lineQuantity line)
  let instructions := keptInstructions item.instructions
  if let some text := instructions then
    if text.length > maxInstructions then throw (.instructionsTooLong line)
  checkSelections line 0 item.selections
  pure { menuItemId := item.menuItemId, quantity := item.quantity, instructions,
         selections := item.selections }

/-- The lines for the items from position `i` on, in order. -/
def itemsToLines : Nat → List ItemForm → Except FormFault (List Line)
  | _, [] => pure []
  | i, item :: rest => do
    let line ← item.toLine i
    let lines ← itemsToLines (i + 1) rest
    pure (line :: lines)

/-- The request a creation form asks for, or the first rule it breaks. -/
def OrderForm.toRequest (f : OrderForm) : Except FormFault OrderRequest := do
  let lines ← itemsToLines 0 f.items
  pure { orderType := f.orderType, restaurantId := f.restaurantId, lines }

/-- The header fields a change of an order sets. -/
structure OrderPatch where
  orderType : Option OrderType
  orderStatus : Option OrderStatus
  paymentStatus : Option PaymentStatus

/-- Whether a patch sets nothing. -/
def OrderPatch.isEmpty (p : OrderPatch) : Bool :=
  p.orderType.isNone && p.orderStatus.isNone && p.paymentStatus.isNone

end OrderDesk
