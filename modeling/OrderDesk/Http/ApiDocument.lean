import OrderDesk.Json.Value

/-!
# The API description

The service describes its own API as an OpenAPI 3.1 document, served at
`/api-docs/openapi.json`: every operation with its tag, summary, description, parameters, body
and responses, and the schemas of the bodies.

A schema of a record lists its properties and, under `required`, those a body must have: every
property that is neither optional nor defaulted. An optional plain value may be `null`; an
optional reference is one of `null` and the referenced schema. Unsigned counts are 64-bit
integers with a minimum of 0.
-/

namespace OrderDesk.Http

open Json

/-- A reference to a named schema. -/
def schemaRef (name : String) : Json := .obj [("$ref", .str ("#/components/schemas/" ++ name))]

/-- A 32-bit integer schema. -/
def int32Schema : Json := .obj [("type", .str "integer"), ("format", .str "int32")]

/-- An unsigned 64-bit integer schema. -/
def uint64Schema : Json :=
  .obj [("type", .str "integer"), ("format", .str "int64"), ("minimum", .int 0)]

/-- A string schema. -/
def stringSchema : Json := .obj [("type", .str "string")]

/-- A string schema that also admits `null`. -/
def optionalStringSchema : Json := .obj [("type", .arr [.str "string", .str "null"])]

/-- A double-precision number schema. -/
def doubleSchema : Json := .obj [("type", .str "number"), ("format", .str "double")]

/-- An instant, written as a date and time. -/
def dateTimeSchema : Json := .obj [("type", .str "string"), ("format", .str "date-time")]

/-- A list of the named schema. -/
def listOf (name : String) : Json := .obj [("type", .str "array"), ("items", schemaRef name)]

/-- Either `null` or the named schema. -/
def optionalRef (name : String) : Json :=
  .obj [("oneOf", .arr [.obj [("type", .str "null")], schemaRef name])]

/-- A record schema: its properties, and the names of those that are required. -/
def recordSchema (props : List (String × Json)) (required : List String) : Json :=
  .obj ([("type", .str "object")] ++
    (if required.isEmpty then [] else [("required", .arr (required.map .str))]) ++
    [("properties", .obj props)])

/-- A schema of named text values. -/
def textEnum (values : List String) : Json :=
  .obj [("type", .str "string"), ("enum", .arr (values.map .str))]

/-- The schemas of the bodies, by name. -/
def apiSchemas : List (String × Json) :=
  [ ("CreateOrderDto", recordSchema
      [("order_type", schemaRef "OrderTypeDto"), ("restaurant_id", int32Schema),
        ("order_items", listOf "CreateOrderItemDto")]
      ["order_type", "restaurant_id"]),
    ("CreateOrderItemDto", recordSchema
      [("menu_item_id", int32Schema), ("quantity", int32Schema),
        ("special_instructions", optionalStringSchema),
        ("modifier_options", listOf "ModifierSelectionDto")]
      ["menu_item_id", "quantity"]),
    ("ErrorDto", recordSchema [("error", stringSchema)] ["error"]),
    ("HealthDto", recordSchema [("status", stringSchema)] ["status"]),
    ("ModifierSelectionDto", recordSchema
      [("modifier_option_id", int32Schema), ("quantity", int32Schema)]
      ["modifier_option_id", "quantity"]),
    ("OrderDto", recordSchema
      [("id", int32Schema), ("order_type", schemaRef "OrderTypeDto"),
        ("order_status", schemaRef "OrderStatusDto"),
        ("payment_status", schemaRef "PaymentStatusDto"), ("restaurant_id", int32Schema),
        ("created_at", dateTimeSchema), ("updated_at", dateTimeSchema),
        ("order_items", listOf "OrderItemDto")]
      ["id", "order_type", "order_status", "payment_status", "restaurant_id", "created_at",
        "updated_at", "order_items"]),
    ("OrderItemDto", recordSchema
      [("id", int32Schema), ("menu_item_id", int32Schema), ("quantity", int32Schema),
        ("special_instructions", optionalStringSchema), ("item_name", stringSchema),
        ("item_price", doubleSchema), ("modifier_options", listOf "OrderItemModifierOptionDto")]
      ["id", "menu_item_id", "quantity", "item_name", "item_price", "modifier_options"]),
    ("OrderItemModifierOptionDto", recordSchema
      [("modifier_option_id", int32Schema), ("quantity", int32Schema),
        ("option_name", stringSchema), ("option_price", doubleSchema)]
      ["modifier_option_id", "quantity", "option_name", "option_price"]),
    ("OrderStatusDto", textEnum ["OPEN", "CONFIRMED", "COMPLETED", "CANCELLED"]),
    ("OrderTypeDto", textEnum ["DINE_IN", "TAKEOUT", "DELIVERY"]),
    ("PaginatedOrdersDto", recordSchema
      [("orders", listOf "OrderDto"), ("total", uint64Schema), ("page", uint64Schema),
        ("per_page", uint64Schema), ("total_pages", uint64Schema)]
      ["orders", "total", "page", "per_page", "total_pages"]),
    ("PaymentStatusDto", textEnum ["UNPAID", "PENDING", "PAID", "REFUNDED"]),
    ("UpdateOrderDto", recordSchema
      [("order_type", optionalRef "OrderTypeDto"), ("order_status", optionalRef "OrderStatusDto"),
        ("payment_status", optionalRef "PaymentStatusDto")]
      []) ]

/-- A JSON body of the named schema. -/
def jsonContent (name : String) : Json :=
  .obj [("application/json", .obj [("schema", schemaRef name)])]

/-- A response with a description and, when given, a body of the named schema. -/
def apiResponse (description : String) (body : Option String) : Json :=
  .obj ([("description", .str description)] ++
    match body with
    | some name => [("content", jsonContent name)]
    | none => [])

/-- A parameter of an operation. -/
def apiParameter (name place description : String) (required : Bool) (schema : Json) : Json :=
  .obj [("name", .str name), ("in", .str place), ("description", .str description),
    ("required", .bool required), ("schema", schema)]

/-- The parameter naming an order in the path. -/
def orderIdParameter : Json := apiParameter "order_id" "path" "Order ID" true int32Schema

/-- An operation: its tag, summary, description lines, id, parameters, body and responses. -/
def apiOperation (tag summary : String) (description : List String) (operationId : String)
    (parameters : List Json) (body : Option String) (responses : List (String × Json)) : Json :=
  .obj ([("tags", .arr [.str tag]), ("summary", .str summary),
      ("description", .str ("\n".intercalate description)), ("operationId", .str operationId)] ++
    (if parameters.isEmpty then [] else [("parameters", .arr parameters)]) ++
    (match body with
     | some name =>
       [("requestBody", .obj [("content", jsonContent name), ("required", .bool true)])]
     | none => []) ++
    [("responses", .obj responses)])

/-- Creating an order. -/
def createOperation : Json :=
  apiOperation "order" "Create a new order."
    [ "Validates the requested lines against the current catalog and stores the order with",
      "snapshotted names and prices. Every rejection by the order core, whether a missing menu",
      "item or a modifier rule violation, is reported as a 500 with a fixed message; the",
      "specific reason is logged.",
      "",
      "# Arguments",
      "- `state` - Application state containing the database connection",
      "- `payload` - Order type, restaurant and requested lines",
      "",
      "# Returns",
      "- `201 Created` - The stored order with items and selections",
      "- `400 Bad Request` - Malformed body, unknown order type, quantity below 1 or overlong",
      "  special instructions",
      "- `500 Internal Server Error` - The order was rejected or could not be stored" ]
    "create_order" [] (some "CreateOrderDto")
    [ ("201", apiResponse "Successfully created order" (some "OrderDto")),
      ("400", apiResponse "Invalid order payload" (some "ErrorDto")),
      ("500", apiResponse "Failed to create order" (some "ErrorDto")) ]

/-- Listing a restaurant's orders. -/
def listOperation : Json :=
  apiOperation "order" "Get paginated orders for a restaurant."
    [ "# Arguments",
      "- `state` - Application state containing the database connection",
      "- `params` - Restaurant ID and pagination parameters (page and entries)",
      "",
      "# Returns",
      "- `200 OK` - Page of orders, newest first",
      "- `400 Bad Request` - Missing `restaurant_id`, `entries` of 0 or a page beyond the",
      "  addressable range",
      "- `500 Internal Server Error` - Database error" ]
    "get_orders"
    [ apiParameter "restaurant_id" "query" "Restaurant ID" true int32Schema,
      apiParameter "page" "query" "Page number (default: 0)" false
        (.obj [("type", .arr [.str "integer", .str "null"]), ("format", .str "int64"),
          ("minimum", .int 0)]),
      apiParameter "entries" "query" "Items per page (default: 10)" false
        (.obj [("type", .arr [.str "integer", .str "null"]), ("format", .str "int64"),
          ("minimum", .int 0)]) ]
    none
    [ ("200", apiResponse "Successfully retrieved orders" (some "PaginatedOrdersDto")),
      ("400", apiResponse "Missing restaurant_id or invalid pagination" (some "ErrorDto")),
      ("500", apiResponse "Internal server error" (some "ErrorDto")) ]

/-- Reading one order. -/
def getOperation : Json :=
  apiOperation "order" "Get a specific order by ID."
    [ "# Returns",
      "- `200 OK` - The order with items and selections",
      "- `404 Not Found` - Order not found",
      "- `500 Internal Server Error` - Database error" ]
    "get_order_by_id" [orderIdParameter] none
    [ ("200", apiResponse "Successfully retrieved order" (some "OrderDto")),
      ("404", apiResponse "Order not found" (some "ErrorDto")),
      ("500", apiResponse "Internal server error" (some "ErrorDto")) ]

/-- Changing one order. -/
def patchOperation : Json :=
  apiOperation "order" "Update an order's type, status or payment status."
    [ "Items, selections and the restaurant cannot be changed.",
      "",
      "# Arguments",
      "- `state` - Application state containing the database connection",
      "- `order_id` - Order to update",
      "- `payload` - Fields to change; omitted fields keep their value",
      "",
      "# Returns",
      "- `200 OK` - The updated order",
      "- `400 Bad Request` - Malformed body or no fields given",
      "- `404 Not Found` - Order not found",
      "- `500 Internal Server Error` - Database error" ]
    "update_order" [orderIdParameter] (some "UpdateOrderDto")
    [ ("200", apiResponse "Successfully updated order" (some "OrderDto")),
      ("400", apiResponse "Invalid update payload" (some "ErrorDto")),
      ("404", apiResponse "Order not found" (some "ErrorDto")),
      ("500", apiResponse "Internal server error" (some "ErrorDto")) ]

/-- Removing one order. -/
def deleteOperation : Json :=
  apiOperation "order" "Delete an order with its items and selections."
    [ "# Returns",
      "- `204 No Content` - Order deleted",
      "- `404 Not Found` - Order not found",
      "- `500 Internal Server Error` - Database error" ]
    "delete_order" [orderIdParameter] none
    [ ("204", apiResponse "Successfully deleted order" none),
      ("404", apiResponse "Order not found" (some "ErrorDto")),
      ("500", apiResponse "Internal server error" (some "ErrorDto")) ]

/-- The health check. -/
def healthOperation : Json :=
  apiOperation "health" "Liveness check."
    [ "Verifies the database connection answers before reporting healthy.",
      "",
      "# Returns",
      "- `200 OK` - Service and database are reachable",
      "- `500 Internal Server Error` - Database is unreachable" ]
    "health" [] none
    [ ("200", apiResponse "Service is healthy" (some "HealthDto")),
      ("500", apiResponse "Database unreachable" (some "ErrorDto")) ]

/-- The API document. -/
def apiDocument : Json :=
  .obj [("openapi", .str "3.1.0"),
    ("info", .obj [("title", .str "Backoffice API"),
      ("description", .str "Restaurant back-office order service"), ("version", .str "0.1.0")]),
    ("paths", .obj [
      ("/api/orders", .obj [("get", listOperation), ("post", createOperation)]),
      ("/api/orders/{order_id}",
        .obj [("get", getOperation), ("delete", deleteOperation), ("patch", patchOperation)]),
      ("/api/health", .obj [("get", healthOperation)])]),
    ("components", .obj [("schemas", .obj apiSchemas)]),
    ("tags", .arr [
      .obj [("name", .str "order"), ("description", .str "Order creation and management")],
      .obj [("name", .str "health"), ("description", .str "Service health")]])]

end OrderDesk.Http
