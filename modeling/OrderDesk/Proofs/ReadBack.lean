import OrderDesk.Proofs.Creation

/-!
# Reading a new order back

A created order is read back from the rows its write appended. When the database keeps its
references (`Db.Linked`: every line belongs to a stored order, every chosen option to a stored
line), the rows of the new order are exactly the rows written: the header is the only one with
the new id, no older line names it, and no older chosen option names one of the new lines.

So the order read back is the request as it was checked (`OrderKept`): the header carries the
request's restaurant and kind and is open and unpaid, there is one line per line of the request,
in order, with the request's item, quantity and instructions and the item's name and price as
the catalog gave them, and the options chosen on each line are the line's selections, by
ascending option id, with the options' names and prices.
-/

namespace OrderDesk

open Store

/-! ## Lookups in a catalog read from lists -/

theorem Catalog.ofLists_offer?_id {offers : List Offer} {options : List ModifierOption}
    {k : Int} {offer : Offer} (h : (Catalog.ofLists offers options).offer? k = some offer) :
    offer.item.id = k := by
  simpa using List.find?_some h

theorem Catalog.ofLists_option?_id {offers : List Offer} {options : List ModifierOption}
    {k : Int} {o : ModifierOption} (h : (Catalog.ofLists offers options).option? k = some o) :
    o.id = k := by
  simpa using List.find?_some h

/-- The snapshot of a selection is the option the catalog gives for it, at the chosen
    quantity. -/
theorem snapshotSelection_eq_ok {cat : Catalog} {s : Selection} {o : OptionSnapshot}
    (h : snapshotSelection cat s = .ok o) :
    ∃ opt, cat.option? s.optionId = some opt ∧
      o = { optionId := opt.id, quantity := s.quantity, name := opt.name, price := opt.price } := by
  unfold snapshotSelection at h
  split at h
  · rename_i opt hopt
    simp only [Except.pure_eq_ok, Except.ok.injEq] at h
    exact ⟨opt, hopt, h.symm⟩
  · simp at h

/-! ## Reading orders -/

namespace Store.Db

/-- Whether chosen option `a` is read before `b`: by line, then by option. -/
def selectionBefore (a b : SelectionRow) : Bool :=
  a.itemId < b.itemId || (a.itemId == b.itemId && a.optionId ≤ b.optionId)

/-- The lines of the orders with the ids, by ascending id, as a read gives them. -/
def linesOfOrders (db : Db) (orderIds : List Int) : List ItemRow :=
  byId (·.id) (db.items.filter fun i => orderIds.contains i.orderId)

/-- The options chosen on the lines, by line and then by option, as a read gives them. -/
def optionsOfLines (db : Db) (items : List ItemRow) : List SelectionRow :=
  (db.selections.filter fun s => (items.map (·.id)).contains s.itemId).mergeSort selectionBefore

/-- The lines read, each with the options it claims among those read for all of them. -/
def readLines (db : Db) (items : List ItemRow) : List StoredLine :=
  claimRows (·.itemId) (·.id) (fun i options => { row := i, options }) (db.optionsOfLines items)
    items

/-- The order with header `row` as a read gives it: its lines by ascending id, each with the
    options chosen on it by ascending option id. -/
def readOrder (db : Db) (row : OrderRow) : StoredOrder :=
  { header := row, lines := db.readLines (db.linesOfOrders [row.id]) }

theorem selectionBefore_trans (a b c : SelectionRow) (hab : selectionBefore a b = true)
    (hbc : selectionBefore b c = true) : selectionBefore a c = true := by
  simp only [selectionBefore, Bool.or_eq_true, decide_eq_true_eq, Bool.and_eq_true,
    beq_iff_eq] at *
  omega

theorem selectionBefore_total (a b : SelectionRow) :
    (selectionBefore a b || selectionBefore b a) = true := by
  simp only [selectionBefore, Bool.or_eq_true, decide_eq_true_eq, Bool.and_eq_true, beq_iff_eq]
  omega

theorem select_eq_ok {α : Type} {db : Db} {tables : List Table} {f : Db → α} {a : α} :
    db.select tables f = .ok a ↔ db.closed = false ∧ db.need tables = .ok () ∧ f db = a := by
  unfold select
  cases db.closed <;> cases db.need tables <;> simp

/-! ### Claiming filed rows -/

section Claims

variable {α β γ δ : Type} (rowKey : α → Int) (key : β → Int) (make : β → List α → γ)

/-- Keys that are all different each claim every row filed under them. -/
theorem claimRows_of_nodup : ∀ (pending : List α) (bs : List β), (bs.map key).Nodup →
    claimRows rowKey key make pending bs =
      bs.map fun b => make b (pending.filter (rowKey · == key b))
  | _, [], _ => rfl
  | pending, b :: bs, h => by
    rw [List.map_cons, List.nodup_cons] at h
    rw [claimRows, claimRows_of_nodup _ bs h.2, List.map_cons]
    refine congrArg _ (List.map_congr_left fun b' hb' => ?_)
    have hne : key b' ≠ key b := fun heq => h.1 (heq ▸ List.mem_map_of_mem hb')
    rw [List.filter_filter]
    refine congrArg _ (List.filter_congr fun r _ => ?_)
    by_cases hr : rowKey r = key b' <;> simp [hr, hne]

/-- What `make` keeps of each key survives the claims. -/
theorem map_claimRows {f : γ → δ} {g : β → δ} (hfg : ∀ b rows, f (make b rows) = g b) :
    ∀ (pending : List α) (bs : List β), (claimRows rowKey key make pending bs).map f = bs.map g
  | _, [] => rfl
  | pending, b :: bs => by
    rw [claimRows, List.map_cons, List.map_cons, hfg, map_claimRows hfg _ bs]

end Claims

/-- The lines read are the rows asked for, in order. -/
theorem readLines_rows (db : Db) (items : List ItemRow) :
    (db.readLines items).map (·.row) = items := by
  have hrows := @map_claimRows SelectionRow ItemRow StoredLine ItemRow (·.itemId) (·.id)
    (fun i options => { row := i, options }) (·.row) id (fun _ _ => rfl) (db.optionsOfLines items)
    items
  rwa [List.map_id] at hrows

/-- Lines with distinct ids each hold every option read for them. -/
theorem readLines_of_nodup {db : Db} {items : List ItemRow} (h : (items.map (·.id)).Nodup) :
    db.readLines items =
      items.map fun i =>
        { row := i, options := (db.optionsOfLines items).filter (·.itemId == i.id) } :=
  claimRows_of_nodup _ _ _ _ _ h

/-- A read of orders gives each header with the lines it claims among those read. -/
theorem hydrate_eq_ok {db : Db} {orders : List OrderRow} {os : List StoredOrder}
    (h : db.hydrate orders = .ok os) :
    os = claimRows (·.row.orderId) (·.id) (fun o lines => { header := o, lines })
      (db.readLines (db.linesOfOrders (orders.map (·.id)))) orders := by
  unfold hydrate at h
  split at h
  · rename_i hempty
    cases List.isEmpty_iff.mp hempty
    simpa [eq_comm, claimRows] using h
  · obtain ⟨items, hitems, h⟩ := Except.bind_eq_ok.mp h
    obtain ⟨-, -, rfl⟩ := select_eq_ok.mp hitems
    split at h
    · rename_i hnone
      have hnil : db.linesOfOrders (orders.map (·.id)) = [] := List.isEmpty_iff.mp hnone
      simp only [Except.pure_eq_ok, Except.ok_bind, Except.ok.injEq] at h
      subst h
      simp only [linesOfOrders] at hnil ⊢
      rw [hnil]
      rfl
    · obtain ⟨sels, hsels, h⟩ := Except.bind_eq_ok.mp h
      obtain ⟨-, -, rfl⟩ := select_eq_ok.mp hsels
      simp only [Except.pure_eq_ok, Except.ok.injEq] at h
      subst h
      rfl

/-- A read of one order gives it as `readOrder` does. -/
theorem hydrate_single {db : Db} {row : OrderRow} {os : List StoredOrder}
    (h : db.hydrate [row] = .ok os) : os = [db.readOrder row] := by
  have hown : (db.readLines (db.linesOfOrders [row.id])).filter (·.row.orderId == row.id) =
      db.readLines (db.linesOfOrders [row.id]) := by
    refine List.filter_eq_self.mpr fun l hl => ?_
    have hrow : l.row ∈ db.linesOfOrders [row.id] := by
      rw [← readLines_rows db (db.linesOfOrders [row.id])]
      exact List.mem_map_of_mem hl
    simpa [linesOfOrders, byId] using (List.mem_filter.mp (List.mem_mergeSort.mp hrow)).2
  rw [hydrate_eq_ok h]
  simp only [List.map_cons, List.map_nil, claimRows, hown]
  rfl

/-- An order found by its id is the first with that id, read with its lines. -/
theorem getOrder_eq_some {db : Db} {id : Int} {o : StoredOrder}
    (h : db.getOrder id = .ok (some o)) :
    ∃ row, db.orders.find? (·.id == id) = some row ∧ db.hydrate [row] = .ok [o] := by
  unfold getOrder at h
  obtain ⟨found, hfound, h⟩ := Except.bind_eq_ok.mp h
  obtain ⟨-, -, rfl⟩ := select_eq_ok.mp hfound
  split at h
  · simp at h
  · rename_i row hrow
    obtain ⟨os, hos, h⟩ := Except.bind_eq_ok.mp h
    have hshape := hydrate_single hos
    subst hshape
    simp only [List.head?_cons, Except.pure_eq_ok, Except.ok.injEq, Option.some.injEq] at h
    subst h
    exact ⟨row, hrow, hos⟩

/-- An order found by its id is what `readOrder` gives for the first header with that id. -/
theorem getOrder_eq_readOrder {db : Db} {id : Int} {o : StoredOrder}
    (h : db.getOrder id = .ok (some o)) :
    ∃ row, db.orders.find? (·.id == id) = some row ∧ o = db.readOrder row := by
  obtain ⟨row, hrow, hread⟩ := getOrder_eq_some h
  exact ⟨row, hrow, List.head_eq_of_cons_eq (hydrate_single hread)⟩

/-- The references the schema declares hold: every line belongs to a stored order, and every
    chosen option to a stored line. -/
structure Linked (db : Db) : Prop where
  items : ∀ i ∈ db.items, i.orderId ∈ db.ids .order
  selections : ∀ s ∈ db.selections, s.itemId ∈ db.ids .orderItem

end Store.Db

/-! ## The rows of a new order -/

theorem OrderDraft.itemRows_ids {draft : OrderDraft} {orderId : Int} {ids : List Int}
    (h : ids.length = draft.items.length) : (draft.itemRows orderId ids).map (·.id) = ids := by
  simp only [OrderDraft.itemRows, List.map_map]
  exact List.map_snd_zip (by omega)

/-- The chosen options of the draft that are written on the line with id `id` are that line's
    own, when the lines' ids are distinct. -/
theorem OrderDraft.optionRows_filter {items : List ItemSnapshot} {ids : List Int}
    (hnodup : ids.Nodup) {item : ItemSnapshot} {id : Int} (hmem : (item, id) ∈ items.zip ids) :
    ((items.zip ids).flatMap fun p => p.1.optionRows p.2).filter (·.itemId == id) =
      item.optionRows id := by
  induction items generalizing ids with
  | nil => simp at hmem
  | cons first rest ih =>
    cases ids with
    | nil => simp at hmem
    | cons firstId later =>
      obtain ⟨hfresh, hlater⟩ := List.nodup_cons.mp hnodup
      have hown : ∀ k, (first.optionRows firstId).filter (·.itemId == k) =
          if firstId = k then first.optionRows firstId else [] := by
        intro k
        by_cases hk : firstId = k
        · simp [ItemSnapshot.optionRows, hk]
        · simp [ItemSnapshot.optionRows, hk]
      simp only [List.zip_cons_cons, List.flatMap_cons, List.filter_append, hown]
      rcases List.mem_cons.mp hmem with heq | hmem
      · obtain ⟨rfl, rfl⟩ := Prod.mk.inj heq
        have hnone : ((rest.zip later).flatMap fun p => p.1.optionRows p.2).filter
            (·.itemId == id) = [] := by
          refine List.filter_eq_nil_iff.mpr fun s hs hid => hfresh ?_
          obtain ⟨⟨_, k⟩, hk, hs⟩ := List.mem_flatMap.mp hs
          obtain ⟨_, -, rfl⟩ := List.mem_map.mp hs
          have hkid : k = id := by simpa using hid
          exact hkid ▸ (List.of_mem_zip hk).2
        simp [hnone]
      · have hne : firstId ≠ id := fun heq => hfresh (heq ▸ (List.of_mem_zip hmem).2)
        simp [hne, ih hlater hmem]

namespace Store.Db

variable {db db' : Db} {draft : OrderDraft} {orderId : Int} {now : Instant} {ids : List Int}

/-- The new header is the only one with its id. -/
theorem Wrote.find_header (hw : db.Wrote draft orderId now ids db') :
    db'.orders.find? (·.id == orderId) = some (draft.header orderId now) := by
  have hold : db.orders.find? (·.id == orderId) = none := by
    refine List.find?_eq_none.mpr fun o ho hid => ?_
    have hlt := hw.orderFresh o.id (List.mem_map_of_mem ho)
    simp only [beq_iff_eq] at hid
    omega
  rw [hw.rows]
  simp [List.find?_append, hold, OrderDraft.header]

/-- The lines of the new order are the lines written, in the order of their ids. -/
theorem Wrote.linesOfOrders (hw : db.Wrote draft orderId now ids db') (hl : db.Linked) :
    db'.linesOfOrders [orderId] = draft.itemRows orderId ids := by
  have hold : db.items.filter (fun i => [orderId].contains i.orderId) = [] := by
    refine List.filter_eq_nil_iff.mpr fun i hi hid => ?_
    have hlt := hw.orderFresh _ (hl.items i hi)
    simp only [List.contains_cons, List.contains_nil, Bool.or_false, beq_iff_eq] at hid
    omega
  have hnew : (draft.itemRows orderId ids).filter (fun i => [orderId].contains i.orderId) =
      draft.itemRows orderId ids := by
    refine List.filter_eq_self.mpr fun i hi => ?_
    simp [(OrderDraft.mem_itemRows hi).1]
  have hsorted : (draft.itemRows orderId ids).Pairwise fun a b => decide (a.id ≤ b.id) = true := by
    have hasc := hw.idsAscending
    rw [← @OrderDraft.itemRows_ids draft orderId ids hw.idsLength, List.pairwise_map] at hasc
    exact hasc.imp fun h => by simpa using Int.le_of_lt h
  rw [Db.linesOfOrders, hw.rows]
  simp only [List.filter_append, hold, hnew, List.nil_append, byId]
  exact List.mergeSort_of_pairwise hsorted

/-- The options read for the new lines are the options written, in the order of the read. -/
theorem Wrote.optionsOfLines (hw : db.Wrote draft orderId now ids db') (hl : db.Linked) :
    db'.optionsOfLines (draft.itemRows orderId ids) =
      ((draft.optionRows ids).map SelectionRow.stored).mergeSort selectionBefore := by
  have hold : db.selections.filter
      (fun s => ((draft.itemRows orderId ids).map (·.id)).contains s.itemId) = [] := by
    refine List.filter_eq_nil_iff.mpr fun s hs hid => ?_
    rw [OrderDraft.itemRows_ids hw.idsLength] at hid
    have hlt := hw.idsFresh s.itemId (by simpa using hid) _ (hl.selections s hs)
    omega
  have hnew : ((draft.optionRows ids).map SelectionRow.stored).filter
      (fun s => ((draft.itemRows orderId ids).map (·.id)).contains s.itemId) =
        (draft.optionRows ids).map SelectionRow.stored := by
    refine List.filter_eq_self.mpr fun s hs => ?_
    obtain ⟨r, hr, rfl⟩ := List.mem_map.mp hs
    obtain ⟨i, hi, hitem⟩ := @OrderDraft.mem_optionRows draft orderId ids _ hr
    have hid : i.id ∈ (draft.itemRows orderId ids).map (·.id) := List.mem_map_of_mem hi
    simpa [SelectionRow.stored, hitem] using hid
  rw [Db.optionsOfLines, hw.rows]
  simp only [List.filter_append, hold, hnew, List.nil_append]

/-- The new order as a read gives it is the header with the lines written, each with the
    options written on it, as the read orders them. -/
theorem Wrote.readOrder_eq (hw : db.Wrote draft orderId now ids db') (hl : db.Linked) :
    db'.readOrder (draft.header orderId now) =
      { header := draft.header orderId now,
        lines := (draft.itemRows orderId ids).map fun i =>
          { row := i,
            options := (((draft.optionRows ids).map SelectionRow.stored).mergeSort
              selectionBefore).filter (·.itemId == i.id) } } := by
  have hnodup : ((draft.itemRows orderId ids).map (·.id)).Nodup := by
    rw [OrderDraft.itemRows_ids hw.idsLength]
    exact hw.idsAscending.imp Int.ne_of_lt
  simp only [readOrder, OrderDraft.header]
  rw [hw.linesOfOrders hl, readLines_of_nodup hnodup, hw.optionsOfLines hl]

/-- The order read back under the new id is the new order as a read gives it. -/
theorem Wrote.getOrder_eq (hw : db.Wrote draft orderId now ids db') {o : StoredOrder}
    (h : db'.getOrder orderId = .ok (some o)) : o = db'.readOrder (draft.header orderId now) := by
  obtain ⟨row, hrow, rfl⟩ := getOrder_eq_readOrder h
  rw [hw.find_header] at hrow
  cases hrow
  rfl

end Store.Db

/-! ## What the order read back keeps -/

/-- How the line `kept` read back keeps the line `line` of a request checked against catalog
    `cat`: the line's item, quantity and instructions, the item's name and price as the catalog
    gave them, and the line's selections by ascending option id, each on this line and with its
    option's name and price. -/
structure LineKept (cat : Catalog) (line : Line) (kept : StoredLine) : Prop where
  menuItem : kept.row.menuItemId = line.menuItemId
  quantity : kept.row.quantity = line.quantity
  instructions : kept.row.instructions = line.instructions
  item : ∃ offer, cat.offer? line.menuItemId = some offer ∧ kept.row.name = offer.item.name ∧
    kept.row.price = storedReal offer.item.price
  chosen : (kept.options.map fun s => (s.optionId, s.quantity)).Perm
    (line.selections.map fun s => (s.optionId, s.quantity))
  ascending : (kept.options.map (·.optionId)).Pairwise (· < ·)
  options : ∀ s ∈ kept.options, s.itemId = kept.row.id ∧
    ∃ o, cat.option? s.optionId = some o ∧ s.name = o.name ∧ s.price = storedReal o.price

/-- The order `o` read back keeps request `req`, checked against catalog `cat`: an open, unpaid
    order of the request's kind and restaurant, with one kept line per line of the request, in
    order. -/
structure OrderKept (cat : Catalog) (req : OrderRequest) (o : StoredOrder) : Prop where
  restaurant : o.header.restaurantId = req.restaurantId
  orderType : o.header.orderType = req.orderType
  opened : o.header.orderStatus = .opened
  unpaid : o.header.paymentStatus = .unpaid
  lines : List.Forall₂ (LineKept cat) req.lines o.lines

theorem List.Forall₂.exists_of_mem_right {α β : Type} {R : α → β → Prop} :
    ∀ {as : List α} {bs : List β}, List.Forall₂ R as bs → ∀ {b}, b ∈ bs → ∃ a ∈ as, R a b
  | _, _, .nil, _, hb => by simp at hb
  | a :: _, _ :: _, .cons hab hrest, _, hb => by
    rcases List.mem_cons.mp hb with rfl | hb
    · exact ⟨a, List.mem_cons_self, hab⟩
    · obtain ⟨a', ha', h⟩ := List.Forall₂.exists_of_mem_right hrest hb
      exact ⟨a', List.mem_cons_of_mem a ha', h⟩

/-- Related lists stay related when the right one is zipped with a list of its length and
    mapped. -/
theorem List.Forall₂.zip_map {α β γ δ : Type} {R : α → β → Prop} {S : α → γ → Prop}
    (f : β → δ → γ) :
    ∀ {as : List α} {bs : List β} {ds : List δ}, List.Forall₂ R as bs → ds.length = bs.length →
      (∀ a b d, a ∈ as → R a b → (b, d) ∈ bs.zip ds → S a (f b d)) →
        List.Forall₂ S as ((bs.zip ds).map fun p => f p.1 p.2)
  | _, _, [], .nil, _, _ => .nil
  | _, _, [], .cons _ _, hlen, _ => by simp at hlen
  | _, _, _ :: _, .nil, hlen, _ => by simp at hlen
  | a :: _, b :: _, d :: _, .cons hab hrest, hlen, hS =>
    .cons (hS a b d List.mem_cons_self hab List.mem_cons_self)
      (List.Forall₂.zip_map f hrest (by simpa using hlen) fun a' b' d' ha' hr hz =>
        hS a' b' d' (List.mem_cons_of_mem a ha') hr (List.mem_cons_of_mem _ hz))

/-- The snapshots of selections keep each selection's option and quantity, when the catalog
    gives each option under its own id. -/
theorem snapshotSelections_pairs {cat : Catalog}
    (hid : ∀ k o, cat.option? k = some o → o.id = k) :
    ∀ {sels : List Selection} {opts : List OptionSnapshot},
      List.Forall₂ (fun s o => snapshotSelection cat s = .ok o) sels opts →
        opts.map (fun o => (o.optionId, o.quantity)) = sels.map fun s => (s.optionId, s.quantity)
  | _, _, .nil => rfl
  | s :: _, _ :: _, .cons hs hrest => by
    obtain ⟨opt, hopt, rfl⟩ := snapshotSelection_eq_ok hs
    simp [hid _ _ hopt, snapshotSelections_pairs hid hrest]

/-- Options of one line, sorted as a read sorts them and with no option twice, ascend strictly
    by option. -/
theorem optionIds_ascending_of_sorted {opts : List SelectionRow} {id : Int}
    (hsame : ∀ s ∈ opts, s.itemId = id)
    (hsorted : opts.Pairwise fun a b => Db.selectionBefore a b = true)
    (hdistinct : (opts.map (·.optionId)).Nodup) :
    (opts.map (·.optionId)).Pairwise (· < ·) := by
  have hle : opts.Pairwise fun a b => a.optionId ≤ b.optionId :=
    hsorted.imp_of_mem fun ha hb h => by
      simp only [Db.selectionBefore, hsame _ ha, hsame _ hb, Int.lt_irrefl, decide_false,
        beq_self_eq_true, Bool.true_and, Bool.false_or, decide_eq_true_eq] at h
      exact h
  exact List.pairwise_map.mpr ((hle.and (List.pairwise_map.mp hdistinct)).imp
    fun h => lt_of_le_of_ne h.1 h.2)

/-- A line written from its snapshot, with its options in any order sorted by the read, keeps
    the line. -/
theorem lineKept_of_snapshot {offers : List Offer} {options : List ModifierOption}
    {line : Line} {item : ItemSnapshot}
    (hline : snapshotLine (Catalog.ofLists offers options) line = .ok item)
    (hnodup : (line.selections.map (·.optionId)).Nodup) {orderId id : Int}
    {opts : List SelectionRow} (hperm : opts.Perm ((item.optionRows id).map SelectionRow.stored))
    (hsorted : opts.Pairwise fun a b => Db.selectionBefore a b = true) :
    LineKept (Catalog.ofLists offers options) line
      { row := item.storedRow orderId id, options := opts } := by
  obtain ⟨offer, hoffer, hsels, hitem⟩ := snapshotLine_eq_ok hline
  have hoptId : ∀ k o, (Catalog.ofLists offers options).option? k = some o → o.id = k :=
    fun _ _ h => Catalog.ofLists_option?_id h
  have hpairs := snapshotSelections_pairs hoptId hsels
  have hwritten : ∀ s ∈ opts, ∃ o ∈ item.options, s = SelectionRow.stored
      { itemId := id, optionId := o.optionId, quantity := o.quantity, name := o.name,
        price := o.price } := by
    intro s hs
    obtain ⟨r, hr, rfl⟩ := List.mem_map.mp (hperm.subset hs)
    obtain ⟨o, ho, rfl⟩ := List.mem_map.mp hr
    exact ⟨o, ho, rfl⟩
  have hsame : ∀ s ∈ opts, s.itemId = id := fun s hs => by
    obtain ⟨o, -, rfl⟩ := hwritten s hs
    rfl
  have hchosen : (opts.map fun s => (s.optionId, s.quantity)).Perm
      (line.selections.map fun s => (s.optionId, s.quantity)) := by
    refine (hperm.map _).trans (List.Perm.of_eq ?_)
    rw [← hpairs]
    simp [ItemSnapshot.optionRows, SelectionRow.stored]
  refine ⟨?_, ?_, ?_, ⟨offer, hoffer, ?_, ?_⟩, hchosen, ?_, ?_⟩
  · rw [hitem]
    exact Catalog.ofLists_offer?_id hoffer
  · rw [hitem]; rfl
  · rw [hitem]; rfl
  · rw [hitem]; rfl
  · rw [hitem]; rfl
  · have hdistinct : (opts.map (·.optionId)).Nodup := by
      have hperm' := (hchosen.map Prod.fst)
      simp only [List.map_map] at hperm'
      exact hperm'.nodup_iff.mpr (by simpa [Function.comp_def] using hnodup)
    exact optionIds_ascending_of_sorted hsame hsorted hdistinct
  · intro s hs
    obtain ⟨o, ho, rfl⟩ := hwritten s hs
    obtain ⟨sel, -, hsel⟩ := List.Forall₂.exists_of_mem_right hsels (hitem ▸ ho)
    obtain ⟨opt, hopt, rfl⟩ := snapshotSelection_eq_ok hsel
    refine ⟨rfl, opt, ?_, rfl, rfl⟩
    simpa [SelectionRow.stored, hoptId _ _ hopt] using hopt

/-- An accepted line chooses no option twice. -/
theorem checkLine_nodup {cat : Catalog} {r : Int} {line : Line}
    (h : checkLine cat r line = .ok ()) : (line.selections.map (·.optionId)).Nodup := by
  unfold checkLine at h
  obtain ⟨⟨_, groups⟩, -, h⟩ := Except.bind_eq_ok.mp h
  obtain ⟨w, hw, -⟩ := Except.bind_eq_ok.mp h
  exact (walkSelections_isOk_iff.mp ⟨w, hw⟩).2.1

/-- The new order, as a read gives it after writing the snapshot of an accepted request, keeps
    the request. -/
theorem Store.Db.Wrote.readOrder_kept {db db' : Db} {draft : OrderDraft} {orderId : Int}
    {now : Instant} {ids : List Int} {offers : List Offer} {options : List ModifierOption}
    {req : OrderRequest} (hw : db.Wrote draft orderId now ids db')
    (hl : db.Linked) (hs : snapshot (Catalog.ofLists offers options) req = .ok draft)
    (hcheck : checkLines (Catalog.ofLists offers options) req.restaurantId req.lines = .ok ()) :
    OrderKept (Catalog.ofLists offers options) req (db'.readOrder (draft.header orderId now)) := by
  obtain ⟨hlines, hdraft⟩ := snapshot_eq_ok hs
  have hnodup : ∀ line ∈ req.lines, (line.selections.map (·.optionId)).Nodup :=
    fun line hline => checkLine_nodup ((checkLines_eq_ok.mp hcheck) line hline)
  have hidsNodup : ids.Nodup := hw.idsAscending.imp fun h => Int.ne_of_lt h
  rw [hw.readOrder_eq hl]
  refine ⟨?_, ?_, ?_, ?_, ?_⟩
  · rw [hdraft]; rfl
  · rw [hdraft]; rfl
  · rw [hdraft]; rfl
  · rw [hdraft]; rfl
  · rw [OrderDraft.itemRows, List.map_map]
    dsimp only [Function.comp_def]
    refine List.Forall₂.zip_map (fun item id => StoredLine.mk (item.storedRow orderId id)
      ((((draft.optionRows ids).map SelectionRow.stored).mergeSort
          Db.selectionBefore).filter (·.itemId == id)))
      hlines hw.idsLength fun line item id hmem hline hzip => ?_
    have hsorted := (List.pairwise_mergeSort Db.selectionBefore_trans Db.selectionBefore_total
      ((draft.optionRows ids).map SelectionRow.stored)).filter (·.itemId == id)
    have hown : ((draft.optionRows ids).map SelectionRow.stored).filter (·.itemId == id) =
        (item.optionRows id).map SelectionRow.stored := by
      have hkeep : ((fun s : SelectionRow => s.itemId == id) ∘ SelectionRow.stored) =
          (·.itemId == id) := rfl
      rw [List.filter_map, hkeep, OrderDraft.optionRows,
        OrderDraft.optionRows_filter hidsNodup hzip]
    have hperm := ((List.mergeSort_perm ((draft.optionRows ids).map SelectionRow.stored)
      Db.selectionBefore).filter (·.itemId == id)).trans (List.Perm.of_eq hown)
    exact lineKept_of_snapshot hline (hnodup line hmem) hperm hsorted

/-- The order read back after writing the snapshot of an accepted request keeps the request. -/
theorem Store.Db.Wrote.orderKept {db db' : Db} {draft : OrderDraft} {orderId : Int}
    {now : Instant} {ids : List Int} {offers : List Offer} {options : List ModifierOption}
    {req : OrderRequest} {o : StoredOrder} (hw : db.Wrote draft orderId now ids db')
    (hl : db.Linked) (hs : snapshot (Catalog.ofLists offers options) req = .ok draft)
    (hcheck : checkLines (Catalog.ofLists offers options) req.restaurantId req.lines = .ok ())
    (h : db'.getOrder orderId = .ok (some o)) :
    OrderKept (Catalog.ofLists offers options) req o ∧ o.header.id = orderId := by
  rw [hw.getOrder_eq h]
  exact ⟨hw.readOrder_kept hl hs hcheck, rfl⟩

/-- A created order was committed, and reading it back under its id gave the answer. -/
theorem createOrder_eq_ok {req : OrderRequest} {db : Db} {o : StoredOrder}
    (h : (createOrder req db).1 = .ok o) :
    ∃ id db', commitOrder req db = .ok (id, db') ∧ (createOrder req db).2 = db' ∧
      db'.getOrder id = .ok (some o) := by
  rcases hc : commitOrder req db with e | ⟨id, db'⟩
  · simp [createOrder_of_commit_error hc] at h
  · refine ⟨id, db', rfl, (createOrder_of_commit_ok hc).1, ?_⟩
    unfold createOrder at h
    rw [hc] at h
    dsimp only at h
    split at h <;> simp_all

end OrderDesk
