/-!
# Order requests

What an order request holds: its kind, its restaurant and its lines, each with the options
chosen on it; and the kinds and states an order goes through.
-/

/-! ## Kinds and states of an order

How an order is served (`OrderType`), how far it has come (`OrderStatus`) and whether it is paid
(`PaymentStatus`). Each has a fixed upper-case name used in requests and answers.
-/

namespace OrderDesk

/-- How an order is served. -/
inductive OrderType where
  | dineIn
  | takeout
  | delivery
  deriving DecidableEq

/-- How far an order has come. -/
inductive OrderStatus where
  | opened
  | confirmed
  | completed
  | cancelled
  deriving DecidableEq

/-- Whether an order is paid. -/
inductive PaymentStatus where
  | unpaid
  | pending
  | paid
  | refunded
  deriving DecidableEq

/-- Every order type with its name, in declaration order. -/
def OrderType.named : List (String × OrderType) :=
  [("DINE_IN", .dineIn), ("TAKEOUT", .takeout), ("DELIVERY", .delivery)]

/-- Every order status with its name, in declaration order. -/
def OrderStatus.named : List (String × OrderStatus) :=
  [("OPEN", .opened), ("CONFIRMED", .confirmed), ("COMPLETED", .completed),
    ("CANCELLED", .cancelled)]

/-- Every payment status with its name, in declaration order. -/
def PaymentStatus.named : List (String × PaymentStatus) :=
  [("UNPAID", .unpaid), ("PENDING", .pending), ("PAID", .paid), ("REFUNDED", .refunded)]

/-- The name of an order type. -/
def OrderType.name : OrderType → String
  | .dineIn => "DINE_IN"
  | .takeout => "TAKEOUT"
  | .delivery => "DELIVERY"

/-- The name of an order status. -/
def OrderStatus.name : OrderStatus → String
  | .opened => "OPEN"
  | .confirmed => "CONFIRMED"
  | .completed => "COMPLETED"
  | .cancelled => "CANCELLED"

/-- The name of a payment status. -/
def PaymentStatus.name : PaymentStatus → String
  | .unpaid => "UNPAID"
  | .pending => "PENDING"
  | .paid => "PAID"
  | .refunded => "REFUNDED"

/-- The order type with a name. -/
def OrderType.ofName? (s : String) : Option OrderType :=
  (OrderType.named.find? (·.1 == s)).map (·.2)

/-- The order status with a name. -/
def OrderStatus.ofName? (s : String) : Option OrderStatus :=
  (OrderStatus.named.find? (·.1 == s)).map (·.2)

/-- The payment status with a name. -/
def PaymentStatus.ofName? (s : String) : Option PaymentStatus :=
  (PaymentStatus.named.find? (·.1 == s)).map (·.2)

/-! ## Order requests

An order request names its type, its restaurant and its lines; a line names a menu item, a
quantity, optional instructions and the modifier options chosen for it, each with a quantity.
The request's menu items and options, each once and in ascending order, are what must be fetched
from the catalog before it can be checked.
-/

/-- A modifier option chosen on a line. -/
structure Selection where
  optionId : Int
  quantity : Int

/-- One line of an order request. -/
structure Line where
  menuItemId : Int
  quantity : Int
  instructions : Option String
  selections : List Selection

/-- A request to create an order. -/
structure OrderRequest where
  orderType : OrderType
  restaurantId : Int
  lines : List Line

/-- Inserts into an ascending list without repeats. -/
def insertSorted (x : Int) : List Int → List Int
  | [] => [x]
  | y :: ys => if x < y then x :: y :: ys else if x = y then y :: ys else y :: insertSorted x ys

/-- The values of a list, each once, in ascending order. -/
def sortedDistinct (xs : List Int) : List Int := xs.foldl (fun acc x => insertSorted x acc) []

/-- The menu items a request names, each once, ascending. -/
def OrderRequest.menuItemIds (r : OrderRequest) : List Int :=
  sortedDistinct (r.lines.map (·.menuItemId))

/-- The modifier options a request names, each once, ascending. -/
def OrderRequest.optionIds (r : OrderRequest) : List Int :=
  sortedDistinct (r.lines.flatMap fun l => l.selections.map (·.optionId))

end OrderDesk
