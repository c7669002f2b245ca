import OrderDesk.Proofs.OrderFrame
import OrderDesk.Proofs.OrderRemoval

/-!
# Stored orders stay acceptable

Every order the service stores can be asked for again: read back (`Db.readOrder`), an order is
a request (`StoredOrder.request`) with one line per stored line, the line's item, quantity and
instructions, and its chosen options by ascending option id. The catalog accepts that request as
creating it does (`Db.Accepts`): the menu items and options it names are all found and the
validator passes its lines.

`Db.OrdersFit` gathers what holds of every stored order: it is accepted again, every line and
chosen option has a quantity of at least one, every line's instructions are none or non-empty
text of at most `maxInstructions` characters, and no line or chosen option is an orphan. A
database without orders has it, and every request keeps it, while the catalog stays as it was
(`Db.CatalogKept`):

* creating an order checks its lines and writes them as checked; read back, its chosen options
  come by option id instead of in request order, which the validator does not mind for
  quantities that are not negative (`LineAdmitted.of_perm`), and its menu items and options are
  the same ids (`sortedDistinct_congr`);
* changing an order sets header fields that acceptance does not read;
* deleting an order removes it with its lines and their options (`Db.withoutOrder`), and no other
  order's rows;
* every other request leaves the database as it was.

Main statement: `requests_keep_orders_fit`, over every sequence of requests from a database
without orders, whose keys are enforced and whose line and chosen-option tables exist.
-/

namespace OrderDesk

open Store

/-! ## An order asked for again -/

/-- The line a stored line asks for: its item, quantity and instructions, and its chosen options
    with their quantities. -/
def Store.StoredLine.request (l : StoredLine) : Line :=
  { menuItemId := l.row.menuItemId, quantity := l.row.quantity,
    instructions := l.row.instructions,
    selections := l.options.map fun s => { optionId := s.optionId, quantity := s.quantity } }

/-- The request a stored order asks for again: its kind and restaurant, and one line per stored
    line, in order. -/
def Store.StoredOrder.request (o : StoredOrder) : OrderRequest :=
  { orderType := o.header.orderType, restaurantId := o.header.restaurantId,
    lines := o.lines.map StoredLine.request }

/-- The catalog accepts a request as creating an order does: the menu items and options it names
    are all found, and the validator passes its lines against them. -/
def Store.Db.Accepts (db : Db) (req : OrderRequest) : Prop :=
  ∃ offers options, db.fetchOffers req.menuItemIds true = .ok offers ∧
    db.fetchOptions req.optionIds = .ok options ∧
    checkLines (Catalog.ofLists offers options) req.restaurantId req.lines = .ok ()

/-! ## The ids a request names -/

theorem mem_insertSorted {a x : Int} : ∀ {ys : List Int}, a ∈ insertSorted x ys ↔ a = x ∨ a ∈ ys
  | [] => by simp [insertSorted]
  | y :: ys => by
    unfold insertSorted
    split
    · simp
    · split
      · rename_i heq
        subst heq
        simp
      · simp only [List.mem_cons, mem_insertSorted]
        tauto

theorem pairwise_insertSorted {x : Int} :
    ∀ {ys : List Int}, ys.Pairwise (· < ·) → (insertSorted x ys).Pairwise (· < ·)
  | [], _ => List.pairwise_singleton _ _
  | y :: ys, h => by
    obtain ⟨hy, hys⟩ := List.pairwise_cons.mp h
    unfold insertSorted
    split
    · rename_i hxy
      refine List.pairwise_cons.mpr ⟨fun b hb => ?_, h⟩
      rcases List.mem_cons.mp hb with rfl | hb
      · exact hxy
      · exact lt_trans hxy (hy b hb)
    · split
      · exact h
      · rename_i hxy hne
        refine List.pairwise_cons.mpr ⟨fun b hb => ?_, pairwise_insertSorted hys⟩
        rcases mem_insertSorted.mp hb with rfl | hb
        · omega
        · exact hy b hb

theorem mem_foldl_insertSorted {a : Int} :
    ∀ {xs acc : List Int},
      a ∈ xs.foldl (fun acc x => insertSorted x acc) acc ↔ a ∈ acc ∨ a ∈ xs
  | [], _ => by simp
  | x :: xs, acc => by
    rw [List.foldl_cons, mem_foldl_insertSorted, mem_insertSorted, List.mem_cons]
    tauto

theorem pairwise_foldl_insertSorted :
    ∀ {xs acc : List Int}, acc.Pairwise (· < ·) →
      (xs.foldl (fun acc x => insertSorted x acc) acc).Pairwise (· < ·)
  | [], _, h => h
  | _ :: _, _, h => by
    rw [List.foldl_cons]
    exact pairwise_foldl_insertSorted (pairwise_insertSorted h)

@[simp]
theorem mem_sortedDistinct {a : Int} {xs : List Int} : a ∈ sortedDistinct xs ↔ a ∈ xs := by
  simp [sortedDistinct, mem_foldl_insertSorted]

theorem pairwise_sortedDistinct (xs : List Int) : (sortedDistinct xs).Pairwise (· < ·) :=
  pairwise_foldl_insertSorted List.Pairwise.nil

/-- The ids a request names depend only on which ids its lines hold. -/
theorem sortedDistinct_congr {xs ys : List Int} (h : ∀ a, a ∈ xs ↔ a ∈ ys) :
    sortedDistinct xs = sortedDistinct ys :=
  (pairwise_sortedDistinct xs).eq_of_mem_iff (pairwise_sortedDistinct ys) fun a => by
    simp [h a]

/-! ## Chosen options in another order -/

theorem Catalog.selectedIn_perm (cat : Catalog) {s₁ s₂ : List Selection} (h : s₁.Perm s₂)
    (k : Int) : cat.selectedIn s₁ k = cat.selectedIn s₂ k :=
  ((h.filter _).map _).sum_eq

theorem SelectionsFit.perm {cat : Catalog} {groups : List ModifierGroup}
    {s₁ s₂ : List Selection} (h : SelectionsFit cat groups s₁) (hp : s₁.Perm s₂) :
    SelectionsFit cat groups s₂ := by
  refine ⟨fun s hs => h.offered s (hp.mem_iff.mpr hs), (hp.map _).nodup_iff.mp h.distinct,
    fun g hg hreq => ?_, fun k g hk hfind => ?_⟩
  · obtain ⟨s, hs, hgroup⟩ := h.required g hg hreq
    exact ⟨s, hp.mem_iff.mp hs, hgroup⟩
  · obtain ⟨s, hs, hgroup⟩ := hk
    rw [← cat.selectedIn_perm hp k]
    exact h.inRange k g ⟨s, hp.mem_iff.mpr hs, hgroup⟩ hfind

/-- Whether the catalog admits a line depends on its item and on which options it chooses, in
    whatever order. -/
theorem LineAdmitted.of_perm {cat : Catalog} {restaurantId : Int} {l₁ l₂ : Line}
    (h : LineAdmitted cat restaurantId l₁) (hitem : l₂.menuItemId = l₁.menuItemId)
    (hp : l₁.selections.Perm l₂.selections) : LineAdmitted cat restaurantId l₂ := by
  obtain ⟨offer, groups, hoffer, hrestaurant, havailable, hgroups, hfit⟩ := h
  exact ⟨offer, groups, hitem ▸ hoffer, hrestaurant, havailable, hgroups, hfit.perm hp⟩

/-! ## A kept order is accepted again -/

/-- The line a kept line asks for chooses the request line's options, by option id. -/
theorem LineKept.selections_perm {cat : Catalog} {line : Line} {kept : StoredLine}
    (h : LineKept cat line kept) : line.selections.Perm kept.request.selections := by
  have hpairs := (h.chosen.map fun p : Int × Int => Selection.mk p.1 p.2).symm
  simp only [List.map_map, Function.comp_def] at hpairs
  have hself : line.selections.map (fun s => Selection.mk s.optionId s.quantity) =
      line.selections := List.map_id'' (fun _ => rfl) _
  rw [hself] at hpairs
  exact hpairs

theorem List.Forall₂.map_eq_map {α β γ : Type} {R : α → β → Prop} {f : α → γ} {g : β → γ}
    (hfg : ∀ a b, R a b → g b = f a) {as : List α} {bs : List β} (h : List.Forall₂ R as bs) :
    bs.map g = as.map f := by
  have hmapped : List.Forall₂ (· = ·) (as.map f) (bs.map g) :=
    List.rel_map (fun a b hab => (hfg a b hab).symm) h
  rw [List.forall₂_eq_eq_eq] at hmapped
  exact hmapped.symm

theorem List.Forall₂.flatMap_perm {α β γ : Type} {R : α → β → Prop} {f : α → List γ}
    {g : β → List γ} (hfg : ∀ a b, R a b → (f a).Perm (g b)) :
    ∀ {as : List α} {bs : List β}, List.Forall₂ R as bs → (as.flatMap f).Perm (bs.flatMap g)
  | _, _, .nil => List.Perm.refl _
  | _, _, .cons h rest => by
    rw [List.flatMap_cons, List.flatMap_cons]
    exact (hfg _ _ h).append (List.Forall₂.flatMap_perm hfg rest)

theorem OrderKept.menuItemIds {cat : Catalog} {req : OrderRequest} {o : StoredOrder}
    (h : OrderKept cat req o) : o.request.menuItemIds = req.menuItemIds := by
  have hitems : o.lines.map (fun l => l.request.menuItemId) = req.lines.map (·.menuItemId) :=
    List.Forall₂.map_eq_map (fun _ _ hkept => hkept.menuItem) h.lines
  simp only [OrderRequest.menuItemIds, StoredOrder.request, List.map_map, Function.comp_def,
    hitems]

theorem OrderKept.optionIds {cat : Catalog} {req : OrderRequest} {o : StoredOrder}
    (h : OrderKept cat req o) : o.request.optionIds = req.optionIds := by
  have hperm : (req.lines.flatMap fun l => l.selections.map (·.optionId)).Perm
      (o.lines.flatMap fun l => l.request.selections.map (·.optionId)) :=
    List.Forall₂.flatMap_perm (fun _ _ hkept => hkept.selections_perm.map _) h.lines
  simp only [OrderRequest.optionIds, StoredOrder.request, List.flatMap_map]
  exact sortedDistinct_congr fun a => hperm.mem_iff.symm

/-- The lines a kept order asks for pass the validator when the request's lines did, for
    quantities that are not negative. -/
theorem OrderKept.checkLines {cat : Catalog} {req : OrderRequest} {o : StoredOrder}
    (h : OrderKept cat req o) (hq : ∀ line ∈ req.lines, ∀ s ∈ line.selections, 0 ≤ s.quantity)
    (hcheck : OrderDesk.checkLines cat req.restaurantId req.lines = .ok ()) :
    OrderDesk.checkLines cat o.request.restaurantId o.request.lines = .ok () := by
  have hrestaurant : o.request.restaurantId = req.restaurantId := h.restaurant
  rw [hrestaurant, checkLines_eq_ok]
  intro line' hline'
  obtain ⟨kept, hkept, rfl⟩ := List.mem_map.mp hline'
  obtain ⟨line, hline, hkl⟩ := List.Forall₂.exists_of_mem_right h.lines hkept
  have hperm := hkl.selections_perm
  have hadmitted := (checkLine_eq_ok_iff (hq line hline)).mp
    ((checkLines_eq_ok.mp hcheck) line hline)
  refine (checkLine_eq_ok_iff fun s hs => hq line hline s (hperm.mem_iff.mpr hs)).mpr ?_
  exact hadmitted.of_perm hkl.menuItem hperm

/-! ## What the service leaves of the catalog -/

/-- The catalog rows, the tables, whether keys are enforced and whether the pool is closed are
    those of `db`. -/
structure Store.Db.CatalogKept (db db' : Db) : Prop where
  restaurants : db'.restaurants = db.restaurants
  menuItems : db'.menuItems = db.menuItems
  groups : db'.groups = db.groups
  links : db'.links = db.links
  options : db'.options = db.options
  tables : db'.tables = db.tables
  keys : db'.keysEnforced = db.keysEnforced
  closed : db'.closed = db.closed

namespace Store.Db

/-- Changing only order rows, id counters and the clock keeps the catalog. -/
theorem CatalogKept.orderRows (db : Db) (orders : List OrderRow) (items : List ItemRow)
    (selections : List SelectionRow) (sequence : Table → Int) (clock : Nat) :
    db.CatalogKept { db with orders, items, selections, sequence, clock } :=
  ⟨rfl, rfl, rfl, rfl, rfl, rfl, rfl, rfl⟩

theorem CatalogKept.refl (db : Db) : db.CatalogKept db :=
  CatalogKept.orderRows db db.orders db.items db.selections db.sequence db.clock

theorem CatalogKept.trans {db db' db'' : Db} (h : db.CatalogKept db')
    (h' : db'.CatalogKept db'') : db.CatalogKept db'' :=
  ⟨h'.restaurants.trans h.restaurants, h'.menuItems.trans h.menuItems, h'.groups.trans h.groups,
    h'.links.trans h.links, h'.options.trans h.options, h'.tables.trans h.tables,
    h'.keys.trans h.keys, h'.closed.trans h.closed⟩

theorem CatalogKept.fetchOffers {db db' : Db} (h : db.CatalogKept db') (ids : List Int)
    (withGroups : Bool) : db'.fetchOffers ids withGroups = db.fetchOffers ids withGroups := by
  simp only [Db.fetchOffers, groupsOf, select, need_congr h.tables, h.closed, h.menuItems,
    h.links, h.groups]

theorem CatalogKept.fetchOptions {db db' : Db} (h : db.CatalogKept db') (ids : List Int) :
    db'.fetchOptions ids = db.fetchOptions ids := by
  simp only [Db.fetchOptions, select, need_congr h.tables, h.closed, h.options]

/-- A request with the restaurant and lines of an accepted one is accepted wherever the catalog
    is kept. -/
theorem CatalogKept.accepts {db db' : Db} (h : db.CatalogKept db') {req req' : OrderRequest}
    (ha : db.Accepts req) (hrestaurant : req'.restaurantId = req.restaurantId)
    (hlines : req'.lines = req.lines) : db'.Accepts req' := by
  obtain ⟨offers, options, hoffers, hoptions, hcheck⟩ := ha
  have hitems : req'.menuItemIds = req.menuItemIds := by
    simp only [OrderRequest.menuItemIds, hlines]
  have hopts : req'.optionIds = req.optionIds := by
    simp only [OrderRequest.optionIds, hlines]
  refine ⟨offers, options, ?_, ?_, ?_⟩
  · rw [h.fetchOffers, hitems, hoffers]
  · rw [h.fetchOptions, hopts, hoptions]
  · rw [hrestaurant, hlines, hcheck]

/-- Reading an order sees only the rows `SameOrder` keeps. -/
theorem SameOrder.readOrder_eq {oid : Int} {d0 db : Db} (h : SameOrder oid d0 db)
    {row : OrderRow} (hrow : row.id = oid) : db.readOrder row = d0.readOrder row := by
  have hlines : db.linesOfOrders [oid] = d0.linesOfOrders [oid] := by
    simp only [linesOfOrders, h.lines]
  have hopts := h.options
  simp only [lineIds] at hopts
  simp only [readOrder, readLines, hrow, hlines, optionsOfLines, hopts]

/-- With unique line ids, the lines whose ids a read of order `oid` finds are its own. -/
theorem Cascading.ownsLines {db : Db} (hc : db.Cascading) (oid : Int) : OwnsLines oid db db := by
  intro i hi hmine
  obtain ⟨j, hj, hid⟩ := List.mem_map.mp hmine
  obtain ⟨hj, hjo⟩ := List.mem_filter.mp (List.mem_mergeSort.mp hj)
  obtain rfl : j = i := List.inj_on_of_nodup_map hc.lineIds hj hi hid
  simpa using hjo

theorem exists_find?_of_mem {db : Db} {row : OrderRow} (hrow : row ∈ db.orders) :
    ∃ found, db.orders.find? (·.id == row.id) = some found :=
  Option.isSome_iff_exists.mp (List.find?_isSome.mpr ⟨row, hrow, by simp⟩)

/-- A step that keeps the catalog and reads every older order as before keeps older orders
    accepted. -/
theorem Keeps.accepts {db db' : Db} {row : OrderRow} (h : Keeps row.id db db')
    (hkept : db.CatalogKept db') (ha : db.Accepts (db.readOrder row).request) :
    db'.Accepts (db'.readOrder row).request :=
  hkept.accepts ha rfl (by rw [h.same.readOrder_eq rfl])

end Store.Db

/-! ## Lines as the form check leaves them -/

/-- Instructions as the form check leaves them: none, or non-empty text of at most
    `maxInstructions` characters. -/
def InstructionsFit (instructions : Option String) : Prop :=
  ∀ text, instructions = some text → text ≠ "" ∧ text.length ≤ maxInstructions

/-- A line as the form check leaves it. -/
structure Line.Checked (line : Line) : Prop where
  quantity : 1 ≤ line.quantity
  instructions : InstructionsFit line.instructions
  selections : ∀ s ∈ line.selections, 1 ≤ s.quantity

theorem checkSelections_eq_ok {n : Nat} :
    ∀ {j : Nat} {sels : List Selection}, checkSelections n j sels = .ok () →
      ∀ s ∈ sels, 1 ≤ s.quantity
  | _, [], _ => by simp
  | j, s :: rest, h => by
    unfold checkSelections at h
    split at h
    · simp at h
    · rename_i hq
      intro s' hs'
      rcases List.mem_cons.mp hs' with rfl | hs'
      · omega
      · exact checkSelections_eq_ok h s' hs'

theorem keptInstructions_ne_empty {instructions : Option String} {text : String}
    (h : keptInstructions instructions = some text) : text ≠ "" := by
  unfold keptInstructions at h
  split at h
  · split at h
    · cases h
    · rename_i hempty
      cases h
      simpa using hempty
  · cases h

/-- A line converted from an item is checked: the form check saw its quantities, and its
    instructions, when some are kept, were checked for length. -/
theorem ItemForm.toLine_checked {n : Nat} {item : ItemForm} {line : Line}
    (h : item.toLine n = .ok line) : line.Checked := by
  unfold ItemForm.toLine at h
  split at h
  · simp at h
  rename_i hq
  dsimp only at h
  have hinstr : (∀ text, keptInstructions item.instructions = some text →
      text.length ≤ maxInstructions) ∧
      (checkSelections n 0 item.selections >>= fun _ =>
        pure { menuItemId := item.menuItemId, quantity := item.quantity,
               instructions := keptInstructions item.instructions,
               selections := item.selections }) = Except.ok line := by
    split at h
    · rename_i text htext
      split at h
      · simp at h
      · rename_i hlen
        refine ⟨fun t ht => ?_, h⟩
        rw [htext] at ht
        cases ht
        omega
    · rename_i hnone
      exact ⟨fun t ht => absurd ht (hnone t), h⟩
  obtain ⟨hlen, h⟩ := hinstr
  obtain ⟨⟨⟩, hsel, h⟩ := Except.bind_eq_ok.mp h
  simp only [Except.pure_eq_ok, Except.ok.injEq] at h
  subst h
  exact ⟨show 1 ≤ item.quantity by omega, fun t ht => ⟨keptInstructions_ne_empty ht, hlen t ht⟩,
    checkSelections_eq_ok hsel⟩

theorem itemsToLines_checked :
    ∀ {n : Nat} {items : List ItemForm} {lines : List Line}, itemsToLines n items = .ok lines →
      ∀ line ∈ lines, line.Checked
  | _, [], lines, h => by
    simp only [itemsToLines, Except.pure_eq_ok, Except.ok.injEq] at h
    simp [← h]
  | n, item :: rest, lines, h => by
    unfold itemsToLines at h
    obtain ⟨line, hline, h⟩ := Except.bind_eq_ok.mp h
    obtain ⟨more, hmore, h⟩ := Except.bind_eq_ok.mp h
    simp only [Except.pure_eq_ok, Except.ok.injEq] at h
    subst h
    intro l hl
    rcases List.mem_cons.mp hl with rfl | hl
    · exact ItemForm.toLine_checked hline
    · exact itemsToLines_checked hmore l hl

/-- Every line of a request a creation form asks for is checked. -/
theorem OrderForm.toRequest_checked {f : OrderForm} {req : OrderRequest}
    (h : f.toRequest = .ok req) : ∀ line ∈ req.lines, line.Checked := by
  unfold OrderForm.toRequest at h
  obtain ⟨lines, hlines, h⟩ := Except.bind_eq_ok.mp h
  simp only [Except.pure_eq_ok, Except.ok.injEq] at h
  subst h
  exact itemsToLines_checked hlines

/-! ## What every stored order keeps -/

namespace Store.Db

/-- What holds of the orders of every database the service leaves: each stored order, read
    back, asks for lines the catalog accepts; every line and every chosen option has a quantity
    of at least one; every line's instructions fit; and every line belongs to a stored order and
    every chosen option to a stored line. -/
structure OrdersFit (db : Db) : Prop where
  accepted : ∀ row ∈ db.orders, db.Accepts (db.readOrder row).request
  lineQuantity : ∀ i ∈ db.items, 1 ≤ i.quantity
  instructions : ∀ i ∈ db.items, InstructionsFit i.instructions
  optionQuantity : ∀ s ∈ db.selections, 1 ≤ s.quantity
  linked : db.Linked

theorem OrdersFit.of_empty {db : Db} (horders : db.orders = []) (hitems : db.items = [])
    (hsels : db.selections = []) : db.OrdersFit :=
  ⟨by simp [horders], by simp [hitems], by simp [hitems], by simp [hsels],
    ⟨by simp [hitems], by simp [hsels]⟩⟩

/-- Database `db'`, reached from `db`, is as the service leaves it: its orders fit, removing an
    order still cascades, and the catalog is that of `db`. -/
structure StaysFit (db db' : Db) : Prop where
  fit : db'.OrdersFit
  cascading : db'.Cascading
  catalog : db.CatalogKept db'

theorem StaysFit.refl {db : Db} (hfit : db.OrdersFit) (hc : db.Cascading) : StaysFit db db :=
  ⟨hfit, hc, CatalogKept.refl db⟩

theorem StaysFit.trans {db db' db'' : Db} (h : StaysFit db db') (h' : StaysFit db' db'') :
    StaysFit db db'' :=
  ⟨h'.fit, h'.cascading, h.catalog.trans h'.catalog⟩

end Store.Db

/-! ## Creating an order -/

/-- The rows written for the snapshot of checked lines are checked. -/
theorem snapshot_rows_checked {cat : Catalog} {req : OrderRequest} {draft : OrderDraft}
    (hsnap : snapshot cat req = .ok draft) (hreq : ∀ line ∈ req.lines, line.Checked)
    (orderId : Int) (ids : List Int) :
    (∀ i ∈ draft.itemRows orderId ids, 1 ≤ i.quantity ∧ InstructionsFit i.instructions) ∧
      ∀ s ∈ draft.optionRows ids, 1 ≤ s.quantity := by
  obtain ⟨hlines, -⟩ := snapshot_eq_ok hsnap
  have hitem : ∀ item ∈ draft.items, 1 ≤ item.quantity ∧ InstructionsFit item.instructions ∧
      ∀ o ∈ item.options, 1 ≤ o.quantity := by
    intro item hitem
    obtain ⟨line, hline, hline'⟩ := List.Forall₂.exists_of_mem_right hlines hitem
    obtain ⟨offer, -, hopts, heq⟩ := snapshotLine_eq_ok hline'
    have hchecked := hreq line hline
    refine ⟨by rw [heq]; exact hchecked.quantity, by rw [heq]; exact hchecked.instructions,
      fun o ho => ?_⟩
    obtain ⟨s, hs, hsel⟩ := List.Forall₂.exists_of_mem_right hopts ho
    obtain ⟨opt, -, rfl⟩ := snapshotSelection_eq_ok hsel
    exact hchecked.selections s hs
  constructor
  · intro i hi
    obtain ⟨⟨item, id⟩, hmem, rfl⟩ := List.mem_map.mp hi
    obtain ⟨hq, hinstr, -⟩ := hitem item (List.of_mem_zip hmem).1
    exact ⟨hq, hinstr⟩
  · intro s hs
    obtain ⟨⟨item, id⟩, hmem, hs⟩ := List.mem_flatMap.mp hs
    obtain ⟨o, ho, rfl⟩ := List.mem_map.mp hs
    exact (hitem item (List.of_mem_zip hmem).1).2.2 o ho

/-- A written order adds rows whose references hold. -/
theorem OrderWritten.linked {req : OrderRequest} {db db' : Db} (hw : OrderWritten req db db')
    (hl : db.Linked) : db'.Linked := by
  obtain ⟨header, items, sels, hdb, -, -, hitems, -, hsels, -⟩ := hw
  rw [hdb]
  constructor
  · intro i hi
    show i.orderId ∈ (db.orders ++ [header]).map (·.id)
    rw [List.map_append, List.mem_append]
    rcases List.mem_append.mp hi with hi | hi
    · exact .inl (hl.items i hi)
    · exact .inr (by simp [(hitems i hi).1])
  · intro s hs
    show s.itemId ∈ (db.items ++ items).map (·.id)
    rw [List.map_append, List.mem_append]
    rcases List.mem_append.mp hs with hs | hs
    · exact .inl (hl.selections s hs)
    · obtain ⟨i, hi, hid⟩ := hsels s hs
      exact .inr (hid ▸ List.mem_map_of_mem hi)

namespace Store.Db

variable {db db' : Db} {draft : OrderDraft} {orderId : Int} {now : Instant} {ids : List Int}

theorem Wrote.catalogKept (hw : db.Wrote draft orderId now ids db') : db.CatalogKept db' := by
  rw [hw.rows]
  exact CatalogKept.orderRows db _ _ _ _ _

/-- The new lines have new ids, so line ids stay unique. -/
theorem Wrote.cascading (hw : db.Wrote draft orderId now ids db') (hc : db.Cascading) :
    db'.Cascading := by
  have hkept := hw.catalogKept
  have hitems : db'.ids .orderItem = db.ids .orderItem ++ ids := by
    rw [hw.rows]
    simp only [Db.ids, List.map_append]
    rw [OrderDraft.itemRows_ids hw.idsLength]
  refine ⟨hkept.keys.trans hc.keys, hkept.tables ▸ hc.lines, hkept.tables ▸ hc.options, ?_⟩
  rw [hitems]
  refine List.nodup_append.mpr ⟨hc.lineIds, hw.idsAscending.imp Int.ne_of_lt, ?_⟩
  intro a ha b hb hab
  have hlt := hw.idsFresh b hb a ha
  omega

end Store.Db

/-- A committed order keeps the orders fit: its rows are written from checked lines, read back
    they ask for the request's lines with the options by id, and older orders read as before. -/
theorem Store.Db.StaysFit.commit {db db' : Db} {req : OrderRequest} {id : Int}
    (hfit : db.OrdersFit) (hc : db.Cascading) (hreq : ∀ line ∈ req.lines, line.Checked)
    (hcommit : commitOrder req db = .ok (id, db')) : Db.StaysFit db db' := by
  obtain ⟨offers, options, draft, -, hoffers, hoptions, hcheck, hsnap, hwrite⟩ :=
    commitOrder_eq_ok hcommit
  obtain ⟨now, ids, hw⟩ := Db.writeDraft_eq_ok hwrite
  have hkept := hw.catalogKept
  have hwritten := hw.orderWritten hsnap
  obtain ⟨hitemRows, hoptionRows⟩ := snapshot_rows_checked hsnap hreq id ids
  have hq : ∀ line ∈ req.lines, ∀ s ∈ line.selections, 0 ≤ s.quantity := fun line hline s hs => by
    have := (hreq line hline).selections s hs
    omega
  have horders : db'.orders = db.orders ++ [draft.header id now] := by rw [hw.rows]
  have hitems : db'.items = db.items ++ draft.itemRows id ids := by rw [hw.rows]
  have hsels : db'.selections =
      db.selections ++ (draft.optionRows ids).map SelectionRow.stored := by rw [hw.rows]
  refine ⟨⟨fun row hrow => ?_, ?_, ?_, ?_, hwritten.linked hfit.linked⟩, hw.cascading hc, hkept⟩
  · rw [horders] at hrow
    rcases List.mem_append.mp hrow with hold | hnew
    · obtain ⟨found, hfound⟩ := Db.exists_find?_of_mem hold
      have hkeeps := Db.Keeps.orderWritten ⟨Db.SameOrder.refl row.id db, hc.ownsLines row.id⟩
        ⟨found, hfound⟩ hwritten
      exact hkeeps.accepts hkept (hfit.accepted row hold)
    · rw [List.mem_singleton.mp hnew]
      have hkeptOrder := hw.readOrder_kept hfit.linked hsnap hcheck
      refine ⟨offers, options, ?_, ?_, hkeptOrder.checkLines hq hcheck⟩
      · rw [hkeptOrder.menuItemIds, hkept.fetchOffers, hoffers]
      · rw [hkeptOrder.optionIds, hkept.fetchOptions, hoptions]
  · rw [hitems, List.forall_mem_append]
    exact ⟨hfit.lineQuantity, fun i hi => (hitemRows i hi).1⟩
  · rw [hitems, List.forall_mem_append]
    exact ⟨hfit.instructions, fun i hi => (hitemRows i hi).2⟩
  · rw [hsels, List.forall_mem_append, List.forall_mem_map]
    exact ⟨hfit.optionQuantity, hoptionRows⟩

theorem Store.Db.StaysFit.createOrder {db : Db} (hfit : db.OrdersFit) (hc : db.Cascading)
    {req : OrderRequest} (hreq : ∀ line ∈ req.lines, line.Checked) :
    Db.StaysFit db (createOrder req db).2 := by
  rcases hcommit : commitOrder req db with e | ⟨id, db'⟩
  · rw [createOrder_of_commit_error hcommit]
    exact Db.StaysFit.refl hfit hc
  · rw [(createOrder_of_commit_ok hcommit).1]
    exact Db.StaysFit.commit hfit hc hreq hcommit

/-! ## Changing and deleting an order -/

/-- Setting the header fields of a stored order keeps the orders fit: acceptance reads the
    order's id and restaurant, which stay, and its rows, which are untouched. -/
theorem Store.Db.StaysFit.updateHeader {db db' : Db} {row row' : OrderRow}
    {orderType : Option OrderType} {orderStatus : Option OrderStatus}
    {paymentStatus : Option PaymentStatus} (hfit : db.OrdersFit) (hc : db.Cascading)
    (hrow : row ∈ db.orders)
    (hu : db.updateHeader row orderType orderStatus paymentStatus = .ok (row', db')) :
    Db.StaysFit db db' := by
  obtain ⟨hrow', rfl⟩ := Db.updateHeader_eq_ok hu
  have hkept : db.CatalogKept
      { db with orders := db.orders.map (fun o => if o.id == row.id then row' else o),
                clock := db.clock + 1 } :=
    Db.CatalogKept.orderRows db _ db.items db.selections db.sequence _
  have hid : ∀ o : OrderRow, (if o.id == row.id then row' else o).id = o.id :=
    Db.replaced_id (by rw [hrow'])
  refine ⟨⟨fun r hr => ?_, hfit.lineQuantity, hfit.instructions, hfit.optionQuantity,
    ⟨fun i hi => ?_, hfit.linked.selections⟩⟩,
    ⟨hc.keys, hc.lines, hc.options, hc.lineIds⟩, hkept⟩
  · obtain ⟨o, ho, rfl⟩ := List.mem_map.mp hr
    by_cases hoid : o.id = row.id
    · rw [show (if o.id == row.id then row' else o) = row' by simp [hoid]]
      refine hkept.accepts (hfit.accepted row hrow) (by rw [hrow']; rfl) ?_
      simp only [StoredOrder.request, Db.readOrder, Db.readLines, Db.linesOfOrders,
        Db.optionsOfLines, hrow']
    · rw [show (if o.id == row.id then row' else o) = o by simp [hoid]]
      exact hkept.accepts (hfit.accepted o ho) rfl rfl
  · show i.orderId ∈ (db.orders.map fun o => if o.id == row.id then row' else o).map (·.id)
    rw [List.map_map, Function.comp_def]
    simp only [hid]
    exact hfit.linked.items i hi

theorem Store.Db.StaysFit.updateOrder {db : Db} (hfit : db.OrdersFit) (hc : db.Cascading)
    (k : Int) (p : OrderPatch) : Db.StaysFit db (updateOrder k p db).2 := by
  rcases updateOrder_result k p db with hsame | ⟨row, row', hrow, -, hu⟩
  · rw [hsame]
    exact Db.StaysFit.refl hfit hc
  · exact Db.StaysFit.updateHeader hfit hc hrow hu

/-- Deleting an order keeps the orders fit: the other orders read as before, and the rows left
    are rows that were there. -/
theorem Store.Db.StaysFit.deleteOrder {db : Db} (hfit : db.OrdersFit) (hc : db.Cascading)
    (k : Int) : Db.StaysFit db (OrderDesk.deleteOrder k db).2 := by
  rcases deleteOrder_result hc hfit.linked k with hsame | hgone
  · rw [hsame]
    exact Db.StaysFit.refl hfit hc
  · have hkeeps : ∀ row ∈ db.orders, row.id ≠ k →
        Db.Keeps row.id db (OrderDesk.deleteOrder k db).2 :=
      fun row _ hne => Db.Keeps.deleteOrder' ⟨Db.SameOrder.refl row.id db, hc.ownsLines row.id⟩
        (Ne.symm hne)
    have hkept : db.CatalogKept (db.withoutOrder k) :=
      Db.CatalogKept.orderRows db _ _ _ db.sequence db.clock
    rw [hgone] at hkeeps ⊢
    refine ⟨⟨fun row hrow => ?_, fun i hi => hfit.lineQuantity i (List.mem_filter.mp hi).1,
      fun i hi => hfit.instructions i (List.mem_filter.mp hi).1,
      fun s hs => hfit.optionQuantity s (List.mem_filter.mp hs).1,
      Db.withoutOrder_linked hfit.linked⟩, Db.withoutOrder_cascading hc, hkept⟩
    obtain ⟨hrow, hne⟩ := List.mem_filter.mp hrow
    exact (hkeeps row hrow (by simpa using hne)).accepts hkept (hfit.accepted row hrow)

/-! ## Requests -/

/-- Every request keeps the orders fit: only creating, changing and deleting an order touch the
    database. -/
theorem Store.Db.StaysFit.handle {db : Db} (hfit : db.OrdersFit) (hc : db.Cascading)
    (r : Http.Request) : Db.StaysFit db (Http.handle r db).2 := by
  rcases Http.handle_db_cases r db with hsame | ⟨form, req, hform, hcreated⟩ |
    ⟨k, -, ⟨p, hchanged⟩ | hdeleted⟩
  · rw [hsame]
    exact Db.StaysFit.refl hfit hc
  · rw [hcreated]
    exact Db.StaysFit.createOrder hfit hc (OrderForm.toRequest_checked hform)
  · rw [hchanged]
    exact Db.StaysFit.updateOrder hfit hc k p
  · rw [hdeleted]
    exact Db.StaysFit.deleteOrder hfit hc k

/-- A run of requests keeps the orders fit; the induction is on the requests, each step kept by
    `StaysFit.handle`. -/
theorem Store.Db.StaysFit.run {db : Db} (hfit : db.OrdersFit) (hc : db.Cascading) :
    ∀ reqs : List Http.Request, Db.StaysFit db (reqs.foldl (fun db r => (Http.handle r db).2) db)
  | [] => Db.StaysFit.refl hfit hc
  | r :: rest => by
    have hstep := Db.StaysFit.handle hfit hc r
    exact hstep.trans (Db.StaysFit.run hstep.fit hstep.cascading rest)

/-- From a database without orders, whose keys are enforced and whose tables of lines and of
    chosen options exist, every sequence of requests leaves the catalog as it was and every
    stored order fit: read back, it asks for lines the catalog accepts; its lines and chosen
    options have quantities of at least one; its lines' instructions are none or non-empty text
    of at most `maxInstructions` characters; and no line or chosen option is an orphan. -/
theorem requests_keep_orders_fit (db : Db) (reqs : List Http.Request)
    (horders : db.orders = []) (hitems : db.items = []) (hsels : db.selections = [])
    (hkeys : db.keysEnforced = true) (hlines : Table.orderItem ∈ db.tables)
    (hoptions : Table.orderItemOption ∈ db.tables) :
    (reqs.foldl (fun db r => (Http.handle r db).2) db).OrdersFit ∧
      db.CatalogKept (reqs.foldl (fun db r => (Http.handle r db).2) db) := by
  have hc : db.Cascading := ⟨hkeys, hlines, hoptions, by simp [Db.ids, hitems]⟩
  have hrun := Db.StaysFit.run (Db.OrdersFit.of_empty horders hitems hsels) hc reqs
  exact ⟨hrun.fit, hrun.catalog⟩

/-- The catalog and order tables with one restaurant selling `plainBurger`, and no orders yet. -/
def burgerDesk : Db :=
  { Db.empty with
    tables := Table.orderTables,
    restaurants := [{ id := 1, name := "Diner", currency := "USD" }],
    menuItems := [plainBurger],
    counters := true }

/-- A burger ordered through the service, and the order deleted again. -/
def burgerRequests : List Http.Request :=
  [{ method := "POST", target := "/api/orders", contentType := some "application/json",
     body := "\x7b\"restaurant_id\":1,\"order_type\":\"DINE_IN\",\"order_items\":[\x7b\"menu_item_id\":1,\"quantity\":1\x7d]\x7d" },
   { method := "DELETE", target := "/api/orders/1", contentType := none, body := "" }]

theorem burgerRequests_keep_orders_fit :
    burgerDesk.orders = [] ∧ burgerDesk.items = [] ∧ burgerDesk.selections = [] ∧
      burgerDesk.keysEnforced = true ∧ Table.orderItem ∈ burgerDesk.tables ∧
      Table.orderItemOption ∈ burgerDesk.tables ∧
      (burgerRequests.foldl (fun db r => (Http.handle r db).2) burgerDesk).OrdersFit ∧
      burgerDesk.CatalogKept
        (burgerRequests.foldl (fun db r => (Http.handle r db).2) burgerDesk) :=
  ⟨rfl, rfl, rfl, rfl, by decide, by decide,
    requests_keep_orders_fit burgerDesk burgerRequests rfl rfl rfl rfl (by decide) (by decide)⟩

end OrderDesk
