import OrderDesk.Store.Error

/-!
# Why an order could not be created

`OrderError` names every way creating an order fails: an empty request, catalog rows that are
missing, a line that breaks a rule of the catalog, or the store failing while reading or
writing. Each error has a kind, which sorts it for callers, and a one-line message.

A failed write also says how far the write had come: nothing is kept of a failed write, and
the stage only tells which statement failed.
-/

namespace OrderDesk

open Store

/-- Catalog rows that could not be fetched. -/
inductive CatalogError where
  /-- Fewer rows were found than distinct ids were asked for. -/
  | notFound (entity : String) (requested found : Nat)
  | store (e : StoreError)

/-- The message of a catalog error. -/
def CatalogError.message : CatalogError → String
  | .notFound entity requested found =>
    entity ++ " not found: requested " ++ toString requested ++ ", found " ++ toString found
  | .store e => e.message

/-- A fetch of `requested` distinct ids found all of them: fewer rows is an error. -/
def ensureAllFound (entity : String) (requested found : Nat) : Except CatalogError Unit :=
  if found < requested then .error (.notFound entity requested found) else .ok ()

/-- How far an order write had come when it failed. -/
inductive WriteStage where
  | started
  | headerWritten
  | itemsWritten
  | modifiersWritten
  | committed
  deriving DecidableEq

/-- The name of a write stage. -/
def WriteStage.name : WriteStage → String
  | .started => "started"
  | .headerWritten => "header written"
  | .itemsWritten => "items written"
  | .modifiersWritten => "modifiers written"
  | .committed => "committed"

/-- The sorts of order errors. -/
inductive OrderErrorKind where
  | notFound
  | businessRule
  | storageInvariant
  | storage
  | internal
  deriving DecidableEq

/-- The name of a kind. -/
def OrderErrorKind.name : OrderErrorKind → String
  | .notFound => "not_found"
  | .businessRule => "business_rule"
  | .storageInvariant => "storage_invariant"
  | .storage => "storage"
  | .internal => "internal"

/-- Why an order could not be created. -/
inductive OrderError where
  | emptyOrder
  | catalog (e : CatalogError)
  | menuItemNotFound (menuItemId : Int)
  | menuItemWrongRestaurant (menuItemId restaurantId : Int)
  | menuItemUnavailable (menuItemId : Int)
  | groupsNotLoaded (menuItemId : Int)
  | optionNotFound (optionId : Int)
  | optionUnavailable (optionId : Int)
  | optionNotOnMenuItem (optionId menuItemId : Int)
  | duplicateOption (optionId menuItemId : Int)
  | requiredGroupMissing (groupId : Int) (groupName : String) (menuItemId : Int)
  | selectionOutOfRange (groupId : Int) (groupName : String) (menuItemId selected min max : Int)
  | groupNotLoaded (groupId menuItemId : Int)
  | writeFailed (stage : WriteStage) (cause : StoreError)
  | storage (cause : StoreError)
  | missingAfterCommit (orderId : Int)

namespace OrderError

/-- The kind of an order error. A failed write is a broken invariant of the store when the store
refused a row because of a key, and a plain storage failure otherwise. -/
def kind : OrderError → OrderErrorKind
  | .catalog (.notFound ..) | .menuItemNotFound _ | .optionNotFound _ => .notFound
  | .catalog (.store _) | .storage _ => .storage
  | .emptyOrder | .menuItemWrongRestaurant .. | .menuItemUnavailable _ | .optionUnavailable _
  | .optionNotOnMenuItem .. | .duplicateOption .. | .requiredGroupMissing ..
  | .selectionOutOfRange .. => .businessRule
  | .writeFailed _ cause => if cause.isConstraintViolation then .storageInvariant else .storage
  | .groupsNotLoaded _ | .groupNotLoaded .. | .missingAfterCommit _ => .internal

/-- The variant name of an order error, as reports name it. -/
def variant : OrderError → String
  | .emptyOrder => "EmptyOrder"
  | .catalog (.notFound ..) => "CatalogNotFound"
  | .catalog (.store _) => "CatalogDb"
  | .menuItemNotFound _ => "MenuItemNotFound"
  | .menuItemWrongRestaurant .. => "MenuItemWrongRestaurant"
  | .menuItemUnavailable _ => "MenuItemUnavailable"
  | .groupsNotLoaded _ => "ModifiersNotLoaded"
  | .optionNotFound _ => "ModifierOptionNotFound"
  | .optionUnavailable _ => "ModifierOptionUnavailable"
  | .optionNotOnMenuItem .. => "ModifierOptionNotOnMenuItem"
  | .duplicateOption .. => "DuplicateModifierOption"
  | .requiredGroupMissing .. => "RequiredGroupMissing"
  | .selectionOutOfRange .. => "GroupSelectionOutOfRange"
  | .groupNotLoaded .. => "GroupNotLoaded"
  | .writeFailed .. => "Write"
  | .storage _ => "Storage"
  | .missingAfterCommit _ => "MissingAfterCommit"

/-- The message of an order error. -/
def message : OrderError → String
  | .emptyOrder => "order must contain at least one item"
  | .catalog e => e.message
  | .menuItemNotFound m => "menu item " ++ toString m ++ " not found"
  | .menuItemWrongRestaurant m r =>
    "menu item " ++ toString m ++ " does not belong to restaurant " ++ toString r
  | .menuItemUnavailable m => "menu item " ++ toString m ++ " is not available"
  | .groupsNotLoaded m => "modifier groups were not loaded for menu item " ++ toString m
  | .optionNotFound o => "modifier option " ++ toString o ++ " not found"
  | .optionUnavailable o => "modifier option " ++ toString o ++ " is not available"
  | .optionNotOnMenuItem o m =>
    "modifier option " ++ toString o ++ " is not valid for menu item " ++ toString m
  | .duplicateOption o m =>
    "modifier option " ++ toString o ++ " selected more than once for menu item " ++ toString m
  | .requiredGroupMissing _ name m =>
    "required modifier group '" ++ name ++ "' is missing for menu item " ++ toString m
  | .selectionOutOfRange _ name m selected lo hi =>
    "modifier group '" ++ name ++ "' for menu item " ++ toString m ++ ": selected " ++
      toString selected ++ ", must be between " ++ toString lo ++ " and " ++ toString hi
  | .groupNotLoaded g m =>
    "modifier group " ++ toString g ++ " not loaded for menu item " ++ toString m
  | .writeFailed stage cause =>
    "order write failed after stage '" ++ stage.name ++ "': " ++ cause.message
  | .storage cause => cause.message
  | .missingAfterCommit o => "order " ++ toString o ++ " not found after commit"

end OrderError

end OrderDesk
