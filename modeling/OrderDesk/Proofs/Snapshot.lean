import OrderDesk.Proofs.StrictFetch

/-!
# What a snapshot copies

A snapshot walks the lines of a request in order. It looks up each line's menu item and then the
options of the line's selections in order, and copies what it finds. This module states the walk
apart from the code: `OrderRequest.rowNames` lists the rows a request names in the order the walk
looks them up.

A snapshot succeeds exactly when the catalog has every row the request names. It then holds an
open, unpaid order of the request's kind and restaurant, with one item per line in line order
(`DraftSnapped`). Each item carries its line's menu item, quantity and instructions and the item's
name and price from the catalog, and one option per selection in the order of the selections,
with the selection's option and quantity and the option's name and price. The ids come from the
rows found, so the catalog must give each row under its own id (`Catalog.KeyedById`), as every
catalog read from lists does. When some row is missing, the snapshot fails with the error naming
the first row of the walk that the catalog lacks (`Catalog.firstMissing`).

Main statement: `snapshot_exact`.
-/

namespace OrderDesk

/-! ## Rows named by a request -/

/-- A catalog row named by a request: a menu item or an option, by id. -/
inductive RowName where
  | menuItem (id : Int)
  | option (id : Int)

/-- The error that names a row the catalog lacks. -/
def RowName.notFound : RowName → OrderError
  | .menuItem k => .menuItemNotFound k
  | .option k => .optionNotFound k

/-- Whether the catalog has the named row. -/
def Catalog.has (cat : Catalog) : RowName → Bool
  | .menuItem k => (cat.offer? k).isSome
  | .option k => (cat.option? k).isSome

@[simp] theorem Catalog.has_menuItem (cat : Catalog) (k : Int) :
    cat.has (.menuItem k) = (cat.offer? k).isSome := rfl

@[simp] theorem Catalog.has_option (cat : Catalog) (k : Int) :
    cat.has (.option k) = (cat.option? k).isSome := rfl

/-- The rows a line names, in the order a snapshot looks them up: its menu item, then the options
    of its selections in order. -/
def Line.rowNames (line : Line) : List RowName :=
  .menuItem line.menuItemId :: line.selections.map fun s => .option s.optionId

/-- The rows a request names, line after line. -/
def OrderRequest.rowNames (req : OrderRequest) : List RowName :=
  req.lines.flatMap Line.rowNames

/-- A catalog gives every row under its own id, as a map keyed by id does. -/
structure Catalog.KeyedById (cat : Catalog) : Prop where
  offer : ∀ k offer, cat.offer? k = some offer → offer.item.id = k
  option : ∀ k o, cat.option? k = some o → o.id = k

theorem Catalog.ofLists_keyedById (offers : List Offer) (options : List ModifierOption) :
    (Catalog.ofLists offers options).KeyedById :=
  ⟨fun _ _ h => Catalog.ofLists_offer?_id h, fun _ _ h => Catalog.ofLists_option?_id h⟩

/-! ## What a snapshot holds -/

/-- The snapshot `o` of selection `s`: the selection's option and quantity, with the name and
    price the catalog gives the option. -/
structure OptionSnapped (cat : Catalog) (s : Selection) (o : OptionSnapshot) : Prop where
  optionId : o.optionId = s.optionId
  quantity : o.quantity = s.quantity
  option : ∃ opt, cat.option? s.optionId = some opt ∧ o.name = opt.name ∧ o.price = opt.price

/-- The snapshot `item` of line `line`: the line's menu item, quantity and instructions, the
    item's name and price from the catalog, and one option per selection, in order. -/
structure LineSnapped (cat : Catalog) (line : Line) (item : ItemSnapshot) : Prop where
  menuItemId : item.menuItemId = line.menuItemId
  quantity : item.quantity = line.quantity
  instructions : item.instructions = line.instructions
  offer : ∃ offer, cat.offer? line.menuItemId = some offer ∧ item.name = offer.item.name ∧
    item.price = offer.item.price
  options : List.Forall₂ (OptionSnapped cat) line.selections item.options

/-- The snapshot `draft` of request `req`: an open, unpaid order of the request's kind and
    restaurant, with one item per line, in order. -/
structure DraftSnapped (cat : Catalog) (req : OrderRequest) (draft : OrderDraft) : Prop where
  orderType : draft.orderType = req.orderType
  restaurantId : draft.restaurantId = req.restaurantId
  opened : draft.orderStatus = .opened
  unpaid : draft.paymentStatus = .unpaid
  items : List.Forall₂ (LineSnapped cat) req.lines draft.items

section Snapped

variable {cat : Catalog} (hkeyed : cat.KeyedById)
include hkeyed

theorem optionSnapped_of_snapshot {s : Selection} {o : OptionSnapshot}
    (h : snapshotSelection cat s = .ok o) : OptionSnapped cat s o := by
  obtain ⟨opt, hopt, rfl⟩ := snapshotSelection_eq_ok h
  exact ⟨hkeyed.option _ _ hopt, rfl, opt, hopt, rfl, rfl⟩

theorem lineSnapped_of_snapshot {line : Line} {item : ItemSnapshot}
    (h : snapshotLine cat line = .ok item) : LineSnapped cat line item := by
  obtain ⟨offer, hoffer, hsels, hitem⟩ := snapshotLine_eq_ok h
  rw [hitem]
  exact ⟨hkeyed.offer _ _ hoffer, rfl, rfl, ⟨offer, hoffer, rfl, rfl⟩,
    hsels.imp fun _ _ => optionSnapped_of_snapshot hkeyed⟩

theorem draftSnapped_of_snapshot {req : OrderRequest} {draft : OrderDraft}
    (h : snapshot cat req = .ok draft) : DraftSnapped cat req draft := by
  obtain ⟨hitems, hdraft⟩ := snapshot_eq_ok h
  rw [hdraft]
  exact ⟨rfl, rfl, rfl, rfl, hitems.imp fun _ _ => lineSnapped_of_snapshot hkeyed⟩

end Snapped

/-! ## The first missing row -/

/-- The error naming the first of the rows that the catalog lacks, if it lacks any. -/
def Catalog.firstMissing (cat : Catalog) (names : List RowName) : Option OrderError :=
  (names.find? fun n => !cat.has n).map RowName.notFound

section Missing

variable {cat : Catalog}

theorem Catalog.firstMissing_cons_of_has {n : RowName} {names : List RowName}
    (h : cat.has n = true) : cat.firstMissing (n :: names) = cat.firstMissing names := by
  simp [Catalog.firstMissing, h]

theorem Catalog.firstMissing_cons_of_lacks {n : RowName} {names : List RowName}
    (h : cat.has n = false) : cat.firstMissing (n :: names) = some n.notFound := by
  simp [Catalog.firstMissing, h]

theorem Catalog.firstMissing_append {names names' : List RowName} :
    cat.firstMissing (names ++ names') = (cat.firstMissing names).or (cat.firstMissing names') := by
  unfold Catalog.firstMissing
  rw [List.find?_append]
  cases names.find? (fun n => !cat.has n) <;> rfl

theorem Catalog.firstMissing_eq_none_iff {names : List RowName} :
    cat.firstMissing names = none ↔ ∀ n ∈ names, cat.has n = true := by
  simp [Catalog.firstMissing]

theorem snapshotSelections_eq_error :
    ∀ {sels : List Selection} {e : OrderError}, sels.mapM (snapshotSelection cat) = .error e ↔
      cat.firstMissing (sels.map fun s => .option s.optionId) = some e
  | [], e => by simp [Catalog.firstMissing]
  | s :: rest, e => by
    rw [List.mapM_cons, List.map_cons]
    cases ho : cat.option? s.optionId with
    | none =>
      rw [Catalog.firstMissing_cons_of_lacks (by simp [ho])]
      simp [snapshotSelection, ho, RowName.notFound]
    | some o =>
      rw [Catalog.firstMissing_cons_of_has (by simp [ho]), ← snapshotSelections_eq_error]
      simp only [snapshotSelection, ho]
      cases rest.mapM (snapshotSelection cat) <;> simp

theorem snapshotLine_eq_error {line : Line} {e : OrderError} :
    snapshotLine cat line = .error e ↔ cat.firstMissing line.rowNames = some e := by
  unfold snapshotLine Line.rowNames
  cases hoffer : cat.offer? line.menuItemId with
  | none =>
    rw [Catalog.firstMissing_cons_of_lacks (by simp [hoffer])]
    simp [RowName.notFound]
  | some offer =>
    rw [Catalog.firstMissing_cons_of_has (by simp [hoffer]), ← snapshotSelections_eq_error]
    simp only
    cases line.selections.mapM (snapshotSelection cat) <;>
      simp

/-- The lines fail to snapshot with the first row missing from the catalog: a line fails at its
    own first missing row, and a line with all its rows leaves it to the rest. -/
theorem snapshotLines_eq_error :
    ∀ {lines : List Line} {e : OrderError}, lines.mapM (snapshotLine cat) = .error e ↔
      cat.firstMissing (lines.flatMap Line.rowNames) = some e
  | [], e => by simp [Catalog.firstMissing]
  | line :: rest, e => by
    rw [List.mapM_cons, List.flatMap_cons, Catalog.firstMissing_append]
    cases hline : snapshotLine cat line with
    | error e' =>
      simp [snapshotLine_eq_error.mp hline]
    | ok item =>
      rw [(Except.exists_ok_iff_of_error_iff fun _ => snapshotLine_eq_error).mp ⟨item, hline⟩,
        Option.none_or, ← snapshotLines_eq_error]
      cases rest.mapM (snapshotLine cat) <;> simp

/-- A snapshot fails exactly with the error naming the first row of the walk that the catalog
    lacks. -/
theorem snapshot_eq_error {req : OrderRequest} {e : OrderError} :
    snapshot cat req = .error e ↔ cat.firstMissing req.rowNames = some e := by
  rw [OrderRequest.rowNames, ← snapshotLines_eq_error]
  unfold snapshot
  cases req.lines.mapM (snapshotLine cat) <;> simp

/-- A snapshot succeeds exactly when the catalog has every row the request names. -/
theorem snapshot_isOk_iff {req : OrderRequest} :
    (∃ draft, snapshot cat req = .ok draft) ↔ ∀ n ∈ req.rowNames, cat.has n = true := by
  rw [← Catalog.firstMissing_eq_none_iff]
  exact Except.exists_ok_iff_of_error_iff fun _ => snapshot_eq_error

end Missing

/-- A snapshot, against a catalog that gives each row under its own id, succeeds exactly when
    the catalog has every row the request names. It then copies the request line by line and
    selection by selection, in order, with the names and prices the catalog gives. Otherwise it
    fails naming the first missing row of the walk, a line's menu item before its options. -/
theorem snapshot_exact (cat : Catalog) (req : OrderRequest) (hkeyed : cat.KeyedById) :
    ((∃ draft, snapshot cat req = .ok draft) ↔ ∀ n ∈ req.rowNames, cat.has n = true) ∧
    (∀ draft, snapshot cat req = .ok draft → DraftSnapped cat req draft) ∧
    (∀ e, snapshot cat req = .error e ↔ cat.firstMissing req.rowNames = some e) :=
  ⟨snapshot_isOk_iff, fun _ h => draftSnapped_of_snapshot hkeyed h, fun _ => snapshot_eq_error⟩

/-- The catalog of the sample burger, with its size group loaded, and the sample option. -/
def sampleCatalog : Catalog :=
  Catalog.ofLists [{ item := sampleMenuItem, groups := some [sampleGroup] }] [sampleOption]

theorem sampleRequest_snapshot_exact :
    sampleCatalog.KeyedById ∧
    ((∃ draft, snapshot sampleCatalog sampleRequest = .ok draft) ↔
      ∀ n ∈ sampleRequest.rowNames, sampleCatalog.has n = true) ∧
    (∀ draft, snapshot sampleCatalog sampleRequest = .ok draft →
      DraftSnapped sampleCatalog sampleRequest draft) ∧
    (∀ e, snapshot sampleCatalog sampleRequest = .error e ↔
      sampleCatalog.firstMissing sampleRequest.rowNames = some e) :=
  ⟨Catalog.ofLists_keyedById _ _,
    snapshot_exact sampleCatalog sampleRequest (Catalog.ofLists_keyedById _ _)⟩

/-- An option missing on the first line is met before a menu item missing on the second. -/
example : snapshot sampleCatalog
    { sampleRequest with
      lines :=
        [{ menuItemId := 1, quantity := 1, instructions := none, selections := [⟨1, 1⟩, ⟨9, 1⟩] },
          { menuItemId := 7, quantity := 1, instructions := none, selections := [] }] } =
      .error (.optionNotFound 9) := rfl

end OrderDesk
