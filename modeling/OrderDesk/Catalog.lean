/-!
# The catalog

What a restaurant offers: menu items, modifier groups attached to them, and the options of each
group. A group says whether a choice from it is required and how many units may be chosen at
most; the least number is one for a required group and zero otherwise.

An `Offer` is a menu item together with the groups that were loaded for it, in the order they
were loaded. Groups that were not loaded at all (`none`) differ from an item without groups
(`some []`).
-/

namespace OrderDesk

/-- A restaurant. -/
structure Restaurant where
  id : Int
  name : String
  currency : String

/-- A modifier group: a named choice attached to menu items. -/
structure ModifierGroup where
  id : Int
  name : String
  required : Bool
  multiSelect : Bool
  max : Int
  restaurantId : Int

/-- The least number of units to choose from a group: one when it is required. -/
def ModifierGroup.min (g : ModifierGroup) : Int := if g.required then 1 else 0

/-- A menu item. -/
structure MenuItem where
  id : Int
  name : String
  description : String
  price : Float
  isAvailable : Bool
  restaurantId : Int

/-- An option of a modifier group, with its own price. -/
structure ModifierOption where
  id : Int
  name : String
  price : Float
  available : Bool
  preSelect : Bool
  groupId : Int

/-- A menu item with the modifier groups loaded for it, if they were. -/
structure Offer where
  item : MenuItem
  groups : Option (List ModifierGroup)

/-- The first loaded group with the given id. -/
def Offer.group? (o : Offer) (id : Int) : Option ModifierGroup :=
  o.groups.bind fun gs => gs.find? (·.id == id)

/-- The catalog rows an order is checked against, looked up by id. -/
structure Catalog where
  offer? : Int → Option Offer
  option? : Int → Option ModifierOption

/-- A catalog from lists; when an id repeats, the later entry wins. -/
def Catalog.ofLists (offers : List Offer) (options : List ModifierOption) : Catalog :=
  { offer? := fun id => offers.reverse.find? (·.item.id == id),
    option? := fun id => options.reverse.find? (·.id == id) }

/-! ## Sample catalog rows

One row of each catalog table with fixed values, for building test data and for filling in the
columns a caller leaves unset. Every sample has id 1 and belongs to restaurant 1, or, for the
option, to group 1.
-/

/-- The sample restaurant. -/
def sampleRestaurant : Restaurant := { id := 1, name := "Test Diner", currency := "USD" }

/-- The description every sample menu item has. -/
def sampleDescription : String := "Beef patty on a brioche bun"

/-- The sample menu item. -/
def sampleMenuItem : MenuItem :=
  { id := 1, name := "Burger", description := sampleDescription, price := 9.5,
    isAvailable := true, restaurantId := 1 }

/-- The sample modifier group: optional, single choice, at most one unit. -/
def sampleGroup : ModifierGroup :=
  { id := 1, name := "Size", required := false, multiSelect := false, max := 1, restaurantId := 1 }

/-- The sample option: free, available, not chosen in advance. -/
def sampleOption : ModifierOption :=
  { id := 1, name := "Regular", price := 0.0, available := true, preSelect := false, groupId := 1 }

end OrderDesk
