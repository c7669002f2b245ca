import OrderDesk.Text.Numeral
import OrderDesk.Text.UrlEncoded

/-!
# Listing parameters

The listing parameters are read from the pairs of a query string, in order: `restaurant_id`
as a 32-bit integer, `page` and `entries` as unsigned 64-bit integers, each at most once; other
names are ignored. `page` is 0 and `entries` is 10 when absent. A value that cannot be read is
reported with the name of its parameter before the reason; a repeated name is reported alone.
-/

namespace OrderDesk.Http

/-- The parameters of a listing request. -/
structure ListParams where
  restaurantId : Option Int
  page : Nat
  entries : Nat

/-- The parameters read so far. -/
structure ListFields where
  restaurantId : Option Int
  page : Option Nat
  entries : Option Nat

/-- Reads the listing parameters from the pairs, in order; the text of the first fault. -/
def readListFields : ListFields → List (String × String) → Except String ListFields
  | acc, [] => pure acc
  | acc, (name, value) :: rest => do
    let acc ← match name with
      | "restaurant_id" =>
        if acc.restaurantId.isSome then throw "duplicate field `restaurant_id`"
        else match readI32 value.toList with
          | .ok n => pure { acc with restaurantId := some n }
          | .error f => throw ("restaurant_id: " ++ f.reason)
      | "page" =>
        if acc.page.isSome then throw "duplicate field `page`"
        else match readU64 value.toList with
          | .ok n => pure { acc with page := some n }
          | .error f => throw ("page: " ++ f.reason)
      | "entries" =>
        if acc.entries.isSome then throw "duplicate field `entries`"
        else match readU64 value.toList with
          | .ok n => pure { acc with entries := some n }
          | .error f => throw ("entries: " ++ f.reason)
      | _ => pure acc
    readListFields acc rest

/-- The listing parameters of a query string, with their defaults. -/
def readListParams (query : String) : Except String ListParams := do
  let f ← readListFields ⟨none, none, none⟩ (queryPairs query)
  pure { restaurantId := f.restaurantId, page := f.page.getD 0, entries := f.entries.getD 10 }

end OrderDesk.Http
