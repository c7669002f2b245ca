import OrderDesk.Catalog
import OrderDesk.Order.Request
import OrderDesk.Order.Error

/-!
# Checking order lines against the catalog

`checkLines` accepts a request's lines when each line passes `checkLine`, and otherwise
reports the first violation of the first line that has one. A line is checked in this order:

1. its menu item exists, belongs to the restaurant, is available, and has its groups loaded;
2. each selection, in request order: the option exists, is available, belongs to one of the
   item's groups, and was not chosen before on this line;
3. every required group of the item, in the item's order, has a selection;
4. for each group with selections, in ascending group id, the units chosen lie between the
   group's least and greatest number. Units are summed in 32 bits, stopping at the bounds.

The steps are small `Except` functions so that each rule can be reasoned about on its own.
-/

namespace OrderDesk

/-- The least 32-bit integer, `-2 ^ 31`. -/
def int32Min : Int := -2147483648

/-- The greatest 32-bit integer, `2 ^ 31 - 1`. -/
def int32Max : Int := 2147483647

/-- Addition that stops at the 32-bit bounds instead of wrapping. -/
def saturatingAdd (a b : Int) : Int := max int32Min (min int32Max (a + b))

/-- Units chosen per group, by ascending group id. -/
abbrev Tally := List (Int × Int)

/-- Adds units to a group's count, keeping the ids ascending. -/
def Tally.add (g q : Int) : Tally → Tally
  | [] => [(g, saturatingAdd 0 q)]
  | (k, n) :: rest =>
    if g < k then (g, saturatingAdd 0 q) :: (k, n) :: rest
    else if g = k then (k, saturatingAdd n q) :: rest
    else (k, n) :: Tally.add g q rest

/-- Whether a group has a count. -/
def Tally.counts (t : Tally) (g : Int) : Bool := t.any (·.1 == g)

/-- What the selection walk has gathered: options seen on the line, and units per group. -/
structure Walk where
  seen : List Int
  tally : Tally

/-- The item of a line, which must exist, belong to the restaurant, be available and have its
groups loaded. -/
def lineOffer (cat : Catalog) (restaurantId : Int) (line : Line) :
    Except OrderError (Offer × List ModifierGroup) := do
  let some offer := cat.offer? line.menuItemId | throw (.menuItemNotFound line.menuItemId)
  if offer.item.restaurantId ≠ restaurantId then
    throw (.menuItemWrongRestaurant line.menuItemId restaurantId)
  if !offer.item.isAvailable then throw (.menuItemUnavailable line.menuItemId)
  let some groups := offer.groups | throw (.groupsNotLoaded line.menuItemId)
  pure (offer, groups)

/-- One selection: its option exists, is available, belongs to one of the groups, and is new
on the line; its units are added to its group. -/
def stepSelection (cat : Catalog) (menuItemId : Int) (groups : List ModifierGroup) (w : Walk)
    (s : Selection) : Except OrderError Walk := do
  let some option := cat.option? s.optionId | throw (.optionNotFound s.optionId)
  if !option.available then throw (.optionUnavailable s.optionId)
  if !groups.any (·.id == option.groupId) then throw (.optionNotOnMenuItem s.optionId menuItemId)
  if w.seen.contains s.optionId then throw (.duplicateOption s.optionId menuItemId)
  pure { seen := s.optionId :: w.seen, tally := w.tally.add option.groupId s.quantity }

/-- Walks the selections of a line in request order. -/
def walkSelections (cat : Catalog) (menuItemId : Int) (groups : List ModifierGroup) :
    Walk → List Selection → Except OrderError Walk
  | w, [] => pure w
  | w, s :: rest => do
    let w' ← stepSelection cat menuItemId groups w s
    walkSelections cat menuItemId groups w' rest

/-- The first required group, in the item's order, without a selection. -/
def checkRequired (menuItemId : Int) (groups : List ModifierGroup) (t : Tally) :
    Except OrderError Unit :=
  match groups.find? (fun g => g.required && !t.counts g.id) with
  | some g => throw (.requiredGroupMissing g.id g.name menuItemId)
  | none => pure ()

/-- Each counted group, by ascending id, against its least and greatest number; the group used
is the first one loaded with that id. -/
def checkRanges (menuItemId : Int) (groups : List ModifierGroup) :
    Tally → Except OrderError Unit
  | [] => pure ()
  | (k, selected) :: rest => do
    let some g := groups.find? (·.id == k) | throw (.groupNotLoaded k menuItemId)
    if selected > g.max || selected < g.min then
      throw (.selectionOutOfRange k g.name menuItemId selected g.min g.max)
    checkRanges menuItemId groups rest

/-- Checks one line. -/
def checkLine (cat : Catalog) (restaurantId : Int) (line : Line) : Except OrderError Unit := do
  let (_, groups) ← lineOffer cat restaurantId line
  let w ← walkSelections cat line.menuItemId groups ⟨[], []⟩ line.selections
  checkRequired line.menuItemId groups w.tally
  checkRanges line.menuItemId groups w.tally

/-- Checks the lines in order; the first violation wins. -/
def checkLines (cat : Catalog) (restaurantId : Int) : List Line → Except OrderError Unit
  | [] => pure ()
  | line :: rest => do
    checkLine cat restaurantId line
    checkLines cat restaurantId rest

end OrderDesk
