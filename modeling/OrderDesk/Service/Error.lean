import OrderDesk.Order.Error
import OrderDesk.Config.Settings

/-!
# Service errors and their replies

Every failure the service reports is a `ServiceError`. It has a one-line text, and a reply: an
HTTP status with a short JSON object `{"error": …}`. Only a missing resource and a bad request
show their own text to the client; an order that could not be created says only that, and every
other failure is an internal error whose details stay in the log.
-/

namespace OrderDesk

open Store

/-- A failure of an input or output operation, with the name of its kind. -/
inductive IoFault where
  /-- A failure with a fixed text. -/
  | simple (kind message : String)
  /-- A failure the operating system reported by its error number. -/
  | os (code : Nat) (kind message : String)
  /-- A failure with a text made up where it arose. -/
  | custom (kind message : String)
  deriving DecidableEq

namespace IoFault

/-- The text of a failure; the system's own failures end with their number. -/
def message : IoFault → String
  | .simple _ m | .custom _ m => m
  | .os code _ m => m ++ " (os error " ++ toString code ++ ")"

/-- The diagnostic form of a failure. -/
def dump : IoFault → String
  | .simple k m => "Error \x7b kind: " ++ k ++ ", message: " ++ Text.quoted m ++ " \x7d"
  | .os code k m =>
    "Os \x7b code: " ++ toString code ++ ", kind: " ++ k ++ ", message: " ++ Text.quoted m ++
      " \x7d"
  | .custom k m => "Custom \x7b kind: " ++ k ++ ", error: " ++ Text.quoted m ++ " \x7d"

end IoFault

/-- Every failure the service reports. -/
inductive ServiceError where
  | config (e : ConfigError)
  | order (e : OrderError)
  | store (e : StoreError)
  | io (e : IoFault)
  | notFound (message : String)
  | badRequest (message : String)
  | internal (message : String)

/-- The reply text of a failed order creation. -/
def createOrderFailed : String := "Failed to create order"

/-- The reply text of an internal error. -/
def internalServerError : String := "Internal server error"

namespace ServiceError

/-- The text of an error. Wrapped errors show their own text. -/
def display : ServiceError → String
  | .config e => e.message
  | .order e => e.message
  | .store e => e.message
  | .io e => e.message
  | .notFound m | .badRequest m | .internal m => m

/-- The HTTP status of the reply. -/
def status : ServiceError → Nat
  | .notFound _ => 404
  | .badRequest _ => 400
  | _ => 500

/-- The text the reply shows the client. -/
def reply : ServiceError → String
  | .notFound m | .badRequest m => m
  | .order _ => createOrderFailed
  | _ => internalServerError

/-- The name of the variant, looking through configuration and order errors to theirs. -/
def variant : ServiceError → String
  | .config c => c.variant
  | .order o => o.variant
  | .store _ => "DbErr"
  | .io _ => "IoErr"
  | .notFound _ => "NotFound"
  | .badRequest _ => "BadRequest"
  | .internal _ => "InternalError"

/-- The diagnostic form of an error, naming each variant with what it holds; an order error is
named by its variant alone. -/
def dump : ServiceError → String
  | .config e => "ConfigErr(" ++ e.dump ++ ")"
  | .order e => "OrderErr(" ++ e.variant ++ ")"
  | .store e => "DbErr(" ++ e.dump ++ ")"
  | .io e => "IoErr(" ++ e.dump ++ ")"
  | .notFound m => "NotFound(" ++ Text.quoted m ++ ")"
  | .badRequest m => "BadRequest(" ++ Text.quoted m ++ ")"
  | .internal m => "InternalError(" ++ Text.quoted m ++ ")"

end ServiceError

end OrderDesk
