import OrderDesk.Proofs.StrictFetch

/-! # A checked order breaks no key

The write of a new order inserts a header, one row per line and one row per chosen option, and
the engine checks each insert against the keys of the schema: a row's id must be new, a chosen
option's pair of line and option must be new, and every reference must name a stored row. The
validator run before the write is what keeps these checks from firing.

The argument goes in three layers. An insert under the next id whose references name stored rows
can fail only for a missing table (`acceptRow_error`), and so can each of the three inserts of
the write. The write of a draft `Grounded` in the store (its restaurant, menu items and options
stored, no option twice on a line) then fails, if at all, with a fault that is not a key
violation (`writeDraft_error_keys`): the header and the lines reference stored rows, the lines
get new ids, and the chosen options are new pairs because the lines' ids are new and a line
names each option once. Last, the draft of a request the validator accepts, from rows the strict
fetches found, is grounded, when the stored menu items name stored restaurants: the header's
restaurant is the restaurant of an accepted line's menu item. -/

namespace OrderDesk

open Store

/-! ## Which errors are broken keys -/

/-- An order error is a broken invariant of the store exactly when a write was refused for a
    key. -/
theorem OrderError.kind_eq_storageInvariant {e : OrderError} :
    e.kind = .storageInvariant ↔
      ∃ stage cause, e = .writeFailed stage cause ∧ cause.isConstraintViolation = true := by
  cases e with
  | catalog c => cases c <;> simp [OrderError.kind]
  | writeFailed stage cause =>
    cases hc : cause.isConstraintViolation <;> simp [OrderError.kind, hc]
  | _ => simp [OrderError.kind]

theorem List.forM_eq_error {ε α : Type} {g : α → Except ε Unit} :
    ∀ {xs : List α} {e : ε}, xs.forM g = .error e → ∃ x ∈ xs, g x = .error e
  | [], _, h => by simp at h
  | x :: xs, _, h => by
    simp only [List.forM] at h
    rcases Except.bind_eq_error.mp h with h | ⟨_, -, h⟩
    · exact ⟨x, List.mem_cons_self, h⟩
    · obtain ⟨x', hx', h'⟩ := List.forM_eq_error h
      exact ⟨x', List.mem_cons_of_mem x hx', h'⟩

theorem List.forM_eq_ok {ε α : Type} {g : α → Except ε Unit} {xs : List α} :
    xs.forM g = .ok () ↔ ∀ x ∈ xs, g x = .ok () := by
  induction xs with
  | nil => simp [List.forM]
  | cons x xs ih =>
    simp only [List.forM, List.mem_cons, forall_eq_or_imp, Except.bind_eq_ok, ih]
    constructor
    · rintro ⟨⟨⟩, hx, hs⟩
      exact ⟨hx, hs⟩
    · rintro ⟨hx, hs⟩
      exact ⟨_, hx, hs⟩

namespace Store.Db

/-! ## Inserts that cannot break a key -/

theorem need_error {db : Db} :
    ∀ {ts : List Table} {f : EngineFault}, db.need ts = .error f → ∃ name, f = .noSuchTable name
  | [], _, h => by simp [need] at h
  | t :: rest, _, h => by
    unfold need at h
    split at h
    · exact need_error h
    · simp only [Except.throw_eq_error, Except.error.injEq] at h
      exact ⟨_, h.symm⟩

theorem needParents_error {db : Db} {t : Table} {f : EngineFault}
    (h : db.needParents t = .error f) : ∃ name, f = .noSuchTable name := by
  unfold needParents at h
  split at h
  · obtain ⟨p, -, hp⟩ := List.forM_eq_error h
    split at hp
    · simp at hp
    · simp only [Except.throw_eq_error, Except.error.injEq] at hp
      exact ⟨_, hp.symm⟩
  · simp at h

/-- References that name stored rows pass the engine's check. -/
theorem checkReferences_eq_ok {db : Db} {refs : List (Reference × Int)}
    (h : ∀ p ∈ refs, p.2 ∈ db.ids p.1.parent) : db.checkReferences refs = .ok () := by
  unfold checkReferences
  split
  · refine List.forM_eq_ok.mpr fun p hp => ?_
    simp [h p (List.mem_reverse.mp hp)]
  · rfl

/-- An insert under the next id, whose references name stored rows, fails only for a missing
    table. -/
theorem acceptRow_error {db : Db} {t : Table} {refs : List (Reference × Int)} {f : EngineFault}
    (hrefs : ∀ p ∈ refs, p.2 ∈ db.ids p.1.parent) (h : db.acceptRow t none refs = .error f) :
    ∃ name, f = .noSuchTable name := by
  unfold acceptRow at h
  rcases Except.bind_eq_error.mp h with h | ⟨_, -, h⟩
  · exact need_error h
  rcases Except.bind_eq_error.mp h with h | ⟨_, -, h⟩
  · exact needParents_error h
  dsimp only at h
  split at h
  · rename_i hused
    have hlt := lt_nextId (List.contains_iff_mem.mp hused)
    exact absurd hlt (Int.lt_irrefl _)
  · rcases Except.bind_eq_error.mp h with h | ⟨_, -, h⟩
    · rw [checkReferences_eq_ok hrefs] at h
      cases h
    · simp at h

theorem insertOrder_error {db : Db} {o : OrderRow} {f : EngineFault}
    (hr : o.restaurantId ∈ db.ids .restaurant) (h : db.insertOrder none o = .error f) :
    ∃ name, f = .noSuchTable name := by
  unfold insertOrder at h
  rcases Except.bind_eq_error.mp h with h | ⟨_, -, h⟩
  · exact acceptRow_error (by simpa [Reference.parent] using hr) h
  · simp at h

theorem insertItem_error {db : Db} {i : ItemRow} {f : EngineFault}
    (horder : i.orderId ∈ db.ids .order) (hitem : i.menuItemId ∈ db.ids .menuItem)
    (h : db.insertItem none i = .error f) : ∃ name, f = .noSuchTable name := by
  unfold insertItem at h
  rcases Except.bind_eq_error.mp h with h | ⟨_, -, h⟩
  · exact acceptRow_error (by simp [Reference.parent, horder, hitem]) h
  · simp at h

/-- A chosen option whose pair is new and whose line and option are stored is refused only for
    a missing table. -/
theorem insertSelection_error {db : Db} {s : SelectionRow} {f : EngineFault}
    (hnew : db.contains (.selection s.itemId s.optionId) = false)
    (hitem : s.itemId ∈ db.ids .orderItem) (hopt : s.optionId ∈ db.ids .modifierOption)
    (h : db.insertSelection s = .error f) : ∃ name, f = .noSuchTable name := by
  unfold insertSelection at h
  rcases Except.bind_eq_error.mp h with h | ⟨_, -, h⟩
  · exact need_error h
  rcases Except.bind_eq_error.mp h with h | ⟨_, -, h⟩
  · exact needParents_error h
  split at h
  · rename_i hused
    rw [hnew] at hused
    cases hused
  · rcases Except.bind_eq_error.mp h with h | ⟨_, -, h⟩
    · rw [checkReferences_eq_ok (by simp [Reference.parent, hitem, hopt])] at h
      cases h
    · simp at h

/-- A statement that fails only for a missing table fails, run on the pool, with no key
    violation. -/
theorem returning_error_not_key {α : Type} {db : Db} {stmt : Db → Except EngineFault (α × Db)}
    {e : StoreError} (hstmt : ∀ f, stmt db = .error f → ∃ name, f = .noSuchTable name)
    (h : db.returning stmt = .error e) : e.isConstraintViolation = false := by
  unfold returning at h
  split at h
  · cases h
    rfl
  · obtain ⟨f, hf, rfl⟩ := Except.mapError_eq_error.mp h
    obtain ⟨name, rfl⟩ := hstmt f hf
    rfl

/-! ## Writing an order -/

/-- Lines of a stored order, each naming a stored menu item, are written with no key
    violation. -/
theorem writeLines_error_keys {orderId : Int} :
    ∀ {db : Db} {lines : List ItemSnapshot} {acc : List SelectionRow} {e : OrderError},
      orderId ∈ db.ids .order → (∀ line ∈ lines, line.menuItemId ∈ db.ids .menuItem) →
      writeLines orderId db lines acc = .error e →
        ∃ cause, e = .writeFailed .headerWritten cause ∧ cause.isConstraintViolation = false
  | db, [], acc, e, _, _, h => by simp [writeLines] at h
  | db, line :: rest, acc, e, horder, hitems, h => by
    rcases Except.bind_eq_error.mp h with h | ⟨⟨item, db1⟩, hins, h⟩
    · obtain ⟨cause, hcause, rfl⟩ := Except.mapError_eq_error.mp h
      exact ⟨cause, rfl, returning_error_not_key
        (fun f hf => insertItem_error horder (hitems line List.mem_cons_self) hf) hcause⟩
    · obtain ⟨-, hins⟩ := returning_eq_ok.mp (Except.mapError_eq_ok.mp hins)
      obtain ⟨-, rfl⟩ := insertItem_eq_ok hins
      exact writeLines_error_keys (by simpa [Db.ids] using horder)
        (fun l hl => by simpa [Db.ids] using hitems l (List.mem_cons_of_mem _ hl)) h

/-- Chosen options with distinct pairs of line and option, none of them stored yet, each on a
    stored line and naming a stored option, are written with no key violation. -/
theorem writeSelections_error_keys :
    ∀ {db : Db} {rows : List SelectionRow} {e : OrderError},
      (rows.map fun s => (s.itemId, s.optionId)).Nodup →
      (∀ s ∈ rows, db.contains (.selection s.itemId s.optionId) = false) →
      (∀ s ∈ rows, s.itemId ∈ db.ids .orderItem ∧ s.optionId ∈ db.ids .modifierOption) →
      writeSelections db rows = .error e →
        ∃ cause, e = .writeFailed .itemsWritten cause ∧ cause.isConstraintViolation = false
  | db, [], e, _, _, _, h => by simp [writeSelections] at h
  | db, s :: rest, e, hnodup, hnew, hstored, h => by
    rcases Except.bind_eq_error.mp h with h | ⟨⟨_, db1⟩, hins, h⟩
    · obtain ⟨cause, hcause, rfl⟩ := Except.mapError_eq_error.mp h
      refine ⟨cause, rfl, returning_error_not_key (fun f hf => ?_) hcause⟩
      rcases Except.bind_eq_error.mp hf with hf | ⟨_, -, hf⟩
      · exact insertSelection_error (hnew s List.mem_cons_self)
          (hstored s List.mem_cons_self).1 (hstored s List.mem_cons_self).2 hf
      · simp at hf
    · obtain ⟨-, hins⟩ := returning_eq_ok.mp (Except.mapError_eq_ok.mp hins)
      obtain ⟨_, hsel, hpair⟩ := Except.bind_eq_ok.mp hins
      simp only [Except.pure_eq_ok, Except.ok.injEq, Prod.mk.injEq] at hpair
      obtain ⟨-, rfl⟩ := hpair
      rw [insertSelection_eq_ok hsel] at h
      rw [List.map_cons, List.nodup_cons] at hnodup
      refine writeSelections_error_keys hnodup.2 (fun t ht => ?_)
        (fun t ht => by simpa [Db.ids] using hstored t (List.mem_cons_of_mem s ht)) h
      have hne : (s.itemId, s.optionId) ≠ (t.itemId, t.optionId) := fun heq =>
        hnodup.1 (heq ▸ List.mem_map_of_mem ht)
      have hold := hnew t (List.mem_cons_of_mem s ht)
      simp only [Db.contains, List.any_append, List.any_cons, List.any_nil] at hold ⊢
      simpa [hold] using hne

end Store.Db

/-! ## A draft the store has the rows for -/

/-- A draft that can be written into `db` without breaking a key: its restaurant, the menu items
    of its lines and the options chosen on them are stored, and no line chooses an option
    twice. -/
structure OrderDraft.Grounded (draft : OrderDraft) (db : Db) : Prop where
  restaurant : draft.restaurantId ∈ db.ids .restaurant
  menuItems : ∀ item ∈ draft.items, item.menuItemId ∈ db.ids .menuItem
  options : ∀ item ∈ draft.items, ∀ o ∈ item.options, o.optionId ∈ db.ids .modifierOption
  distinct : ∀ item ∈ draft.items, (item.options.map (·.optionId)).Nodup

/-- Each chosen option of a draft is written on one of the given rows, and names an option
    chosen on one of the draft's lines. -/
theorem OrderDraft.mem_optionRows_keys {draft : OrderDraft} {ids : List Int} {s : SelectionRow}
    (hs : s ∈ draft.optionRows ids) :
    s.itemId ∈ ids ∧ ∃ item ∈ draft.items, ∃ o ∈ item.options, s.optionId = o.optionId := by
  obtain ⟨⟨item, id⟩, hp, hs⟩ := List.mem_flatMap.mp hs
  obtain ⟨o, ho, rfl⟩ := List.mem_map.mp hs
  exact ⟨(List.of_mem_zip hp).2, item, (List.of_mem_zip hp).1, o, ho, rfl⟩

/-- On lines with distinct ids, each naming an option once, the chosen options are distinct
    pairs of line and option. -/
theorem OrderDraft.optionRows_keys_nodup {draft : OrderDraft} {ids : List Int}
    (hdistinct : ∀ item ∈ draft.items, (item.options.map (·.optionId)).Nodup)
    (hids : ids.Nodup) :
    ((draft.optionRows ids).map fun s => (s.itemId, s.optionId)).Nodup := by
  unfold OrderDraft.optionRows
  generalize draft.items = items at hdistinct
  induction items generalizing ids with
  | nil => simp
  | cons item rest ih =>
    cases ids with
    | nil => simp
    | cons id later =>
      obtain ⟨hfresh, hlater⟩ := List.nodup_cons.mp hids
      simp only [List.zip_cons_cons, List.flatMap_cons, List.map_append]
      refine List.nodup_append.mpr
        ⟨?_, ih hlater fun i hi => hdistinct i (List.mem_cons_of_mem _ hi), ?_⟩
      · have hline : ((item.options.map (·.optionId)).map (Prod.mk id)).Nodup :=
          (hdistinct item List.mem_cons_self).map (Prod.mk_right_injective id)
        simpa [ItemSnapshot.optionRows, List.map_map, Function.comp_def] using hline
      · rintro a ha b hb rfl
        obtain ⟨s, hs, rfl⟩ := List.mem_map.mp ha
        obtain ⟨t, ht, hst⟩ := List.mem_map.mp hb
        obtain ⟨⟨_, k⟩, hk, ht⟩ := List.mem_flatMap.mp ht
        obtain ⟨o, -, rfl⟩ := List.mem_map.mp ht
        obtain ⟨o', -, rfl⟩ := List.mem_map.mp hs
        have hkid : k = id := (Prod.mk.inj hst).1
        exact hfresh (hkid ▸ (List.of_mem_zip hk).2)

/-- The options chosen on lines under ids above every stored line are pairs the store does not
    hold, when every stored chosen option is on a stored line. -/
theorem OrderDraft.optionRows_new (draft : OrderDraft) {db : Db} {ids : List Int}
    (hsel : ∀ s ∈ db.selections, s.itemId ∈ db.ids .orderItem)
    (hfresh : ∀ n ∈ ids, ∀ m ∈ db.ids .orderItem, m < n) :
    ∀ s ∈ draft.optionRows ids, db.contains (.selection s.itemId s.optionId) = false := by
  intro s hs
  simp only [Db.contains, List.any_eq_false, Bool.and_eq_true, beq_iff_eq, not_and]
  intro r hr hid
  have hlt := hfresh _ (OrderDraft.mem_optionRows_keys hs).1 _ (hsel r hr)
  exact absurd hlt (by rw [hid]; exact Int.lt_irrefl _)

/-- The write of a draft grounded in the store, whose stored chosen options are on stored lines,
    fails, if at all, with no key violation: the header and the lines name stored rows, the lines
    get new ids, and so the chosen options are pairs the store does not have, distinct since a
    line names each option once; the engine refuses a commit only for reasons outside the rows. -/
theorem Store.Db.writeDraft_error_keys {db : Db} {draft : OrderDraft} {e : OrderError}
    (hsel : ∀ s ∈ db.selections, s.itemId ∈ db.ids .orderItem) (hg : draft.Grounded db)
    (h : db.writeDraft draft = .error e) :
    ∃ stage cause, e = .writeFailed stage cause ∧ cause.isConstraintViolation = false := by
  unfold writeDraft at h
  dsimp only at h
  split at h
  · simp only [Except.throw_eq_error, Except.error_bind, Except.error.injEq] at h
    exact ⟨_, _, h.symm, rfl⟩
  simp only [tick] at h
  rcases Except.bind_eq_error.mp h with h | ⟨⟨order, db1⟩, hins, h⟩
  · obtain ⟨cause, hcause, rfl⟩ := Except.mapError_eq_error.mp h
    exact ⟨_, cause, rfl,
      returning_error_not_key (fun f hf => insertOrder_error hg.restaurant hf) hcause⟩
  obtain ⟨-, hins⟩ := returning_eq_ok.mp (Except.mapError_eq_ok.mp hins)
  obtain ⟨rfl, rfl⟩ := insertOrder_eq_ok hins
  rcases Except.bind_eq_error.mp h with h | ⟨⟨db2, chosen⟩, hlines, h⟩
  · obtain ⟨cause, rfl, hc⟩ := writeLines_error_keys (by simp [Db.ids])
      (fun item hi => by simpa [Db.ids] using hg.menuItems item hi) h
    exact ⟨_, cause, rfl, hc⟩
  rcases Except.bind_eq_error.mp h with h | ⟨_, -, h⟩
  · obtain ⟨ids, hlen, hasc, hfresh, hdb2, rfl, -⟩ := writeLines_eq_ok hlines
    have hrows : (draft.itemRows (db.nextId .order) ids).map (·.id) = ids :=
      OrderDraft.itemRows_ids hlen
    have hnew : ∀ s ∈ draft.optionRows ids,
        db2.contains (.selection s.itemId s.optionId) = false := by
      have hnew1 := draft.optionRows_new (by simpa [Db.ids] using hsel) hfresh
      rw [hdb2]
      exact hnew1
    have hstored : ∀ s ∈ draft.optionRows ids,
        s.itemId ∈ db2.ids .orderItem ∧ s.optionId ∈ db2.ids .modifierOption := by
      intro s hs
      obtain ⟨hid, item, hitem, o, ho, hopt⟩ := OrderDraft.mem_optionRows_keys hs
      rw [hdb2]
      refine ⟨?_, by simpa [Db.ids, hopt] using hg.options item hitem o ho⟩
      have hmem : s.itemId ∈ (draft.itemRows (db.nextId .order) ids).map (·.id) := by
        rw [hrows]; exact hid
      simp only [Db.ids, List.map_append, List.mem_append]
      exact .inr hmem
    obtain ⟨cause, rfl, hc⟩ := writeSelections_error_keys
      (OrderDraft.optionRows_keys_nodup hg.distinct (hasc.imp Int.ne_of_lt))
      (by simpa [OrderDraft.optionRows] using hnew)
      (by simpa [OrderDraft.optionRows] using hstored) h
    exact ⟨_, cause, rfl, hc⟩
  rcases Except.bind_eq_error.mp h with h | ⟨_, -, h⟩
  · obtain ⟨cause, hcause, rfl⟩ := Except.mapError_eq_error.mp h
    obtain ⟨r, -, rfl⟩ := commit_eq_error.mp hcause
    refine ⟨_, _, rfl, ?_⟩
    cases r <;> rfl
  · simp at h

/-- A write of a grounded draft never fails with a broken invariant of the store. -/
theorem Store.Db.writeDraft_error_kind {db : Db} {draft : OrderDraft} {e : OrderError}
    (hsel : ∀ s ∈ db.selections, s.itemId ∈ db.ids .orderItem) (hg : draft.Grounded db)
    (h : db.writeDraft draft = .error e) : e.kind ≠ .storageInvariant := by
  obtain ⟨stage, cause, rfl, hc⟩ := writeDraft_error_keys hsel hg h
  simp [OrderError.kind, hc]

/-! ## The draft of an accepted request -/

theorem Catalog.ofLists_offer?_mem {offers : List Offer} {options : List ModifierOption}
    {k : Int} {offer : Offer} (h : (Catalog.ofLists offers options).offer? k = some offer) :
    offer ∈ offers :=
  List.mem_reverse.mp (List.mem_of_find?_eq_some h)

theorem Catalog.ofLists_option?_mem {offers : List Offer} {options : List ModifierOption}
    {k : Int} {o : ModifierOption} (h : (Catalog.ofLists offers options).option? k = some o) :
    o ∈ options :=
  List.mem_reverse.mp (List.mem_of_find?_eq_some h)

/-- What a draft takes from the fetched rows: its restaurant is that of a fetched menu item, each
    line names a fetched menu item and fetched options, and no line names an option twice. -/
structure OrderDraft.Fetched (draft : OrderDraft) (offers : List Offer)
    (options : List ModifierOption) : Prop where
  restaurant : ∃ offer ∈ offers, offer.item.restaurantId = draft.restaurantId
  menuItems : ∀ item ∈ draft.items, ∃ offer ∈ offers, offer.item.id = item.menuItemId
  options : ∀ item ∈ draft.items, ∀ o ∈ item.options, ∃ opt ∈ options, opt.id = o.optionId
  distinct : ∀ item ∈ draft.items, (item.options.map (·.optionId)).Nodup

/-- The draft of a request with lines, all of them accepted by the validator, takes its rows
    from the lists of the catalog: the header's restaurant is the one every line's menu item was
    checked to belong to, and a line with an option twice was refused. -/
theorem snapshot_fetched {offers : List Offer} {options : List ModifierOption}
    {req : OrderRequest} {draft : OrderDraft} (hne : req.lines ≠ [])
    (hcheck : checkLines (Catalog.ofLists offers options) req.restaurantId req.lines = .ok ())
    (hsnap : snapshot (Catalog.ofLists offers options) req = .ok draft) :
    draft.Fetched offers options := by
  obtain ⟨hlines, hdraft⟩ := snapshot_eq_ok hsnap
  have haccepted := checkLines_eq_ok.mp hcheck
  refine ⟨?_, fun item hi => ?_, fun item hi o ho => ?_, fun item hi => ?_⟩
  · obtain ⟨line, hline⟩ := List.exists_mem_of_ne_nil req.lines hne
    have hline := haccepted line hline
    rw [checkLine_eq_bind] at hline
    obtain ⟨_, hoffer, -⟩ := Except.bind_eq_ok.mp hline
    obtain ⟨offer, _, hfound, hrest, -⟩ := lineOffer_eq_ok.mp hoffer
    rw [hdraft]
    exact ⟨offer, Catalog.ofLists_offer?_mem hfound, hrest⟩
  all_goals obtain ⟨line, hline, hsl⟩ := List.Forall₂.exists_of_mem_right hlines hi
  all_goals obtain ⟨offer, hoffer, hsels, hitem⟩ := snapshotLine_eq_ok hsl
  · rw [hitem]
    exact ⟨offer, Catalog.ofLists_offer?_mem hoffer, rfl⟩
  · obtain ⟨sel, -, hsel⟩ := List.Forall₂.exists_of_mem_right hsels ho
    obtain ⟨opt, hopt, rfl⟩ := snapshotSelection_eq_ok hsel
    exact ⟨opt, Catalog.ofLists_option?_mem hopt, rfl⟩
  · have hids : item.options.map (·.optionId) = line.selections.map (·.optionId) := by
      have hpairs := congrArg (List.map Prod.fst)
        (snapshotSelections_pairs (fun _ _ h => Catalog.ofLists_option?_id h) hsels)
      simpa [List.map_map, Function.comp_def] using hpairs
    rw [hids]
    exact checkLine_nodup (haccepted line hline)

/-- Rows found by the strict fetches are stored, so a draft taking its rows from them is grounded
    in the store when the stored menu items name stored restaurants. -/
theorem OrderDraft.Fetched.grounded {db : Db} {itemIds optionIds : List Int}
    {draft : OrderDraft} {offers : List Offer} {options : List ModifierOption}
    (hf : draft.Fetched offers options) (hoffers : db.fetchOffers itemIds true = .ok offers)
    (hoptions : db.fetchOptions optionIds = .ok options)
    (hcat : ∀ m ∈ db.menuItems, m.restaurantId ∈ db.ids .restaurant) : draft.Grounded db := by
  refine ⟨?_, fun item hi => ?_, fun item hi o ho => ?_, hf.distinct⟩
  · obtain ⟨offer, ho, hr⟩ := hf.restaurant
    rw [← hr]
    exact hcat _ (db.fetchOffers_mem hoffers ho).1
  · obtain ⟨offer, ho, hid⟩ := hf.menuItems item hi
    rw [← hid]
    exact List.mem_map_of_mem (db.fetchOffers_mem hoffers ho).1
  · obtain ⟨opt, hopt, hid⟩ := hf.options item hi o ho
    rw [← hid]
    exact List.mem_map_of_mem (db.fetchOptions_mem hoptions hopt)

/-! ## Creating an order -/

/-- The validator refuses a line for a rule of the order or a row it lacks, never for a broken
    key. -/
theorem LineFault.kind_ne_storageInvariant {cat : Catalog} {r : Int} {line : Line}
    {e : OrderError} (h : LineFault cat r line e) : e.kind ≠ .storageInvariant := by
  rw [Ne, OrderError.kind_eq_storageInvariant]
  rintro ⟨stage, cause, rfl, -⟩
  cases h with
  | selection _ _ _ hfault => cases hfault

/-- A failed creation failed before the commit, or in reading the order back. -/
theorem createOrder_error_cases {req : OrderRequest} {db : Db} {e : OrderError}
    (h : (createOrder req db).1 = .error e) :
    commitOrder req db = .error e ∨ (∃ cause, e = .storage cause) ∨
      ∃ id, e = .missingAfterCommit id := by
  unfold createOrder at h
  split at h
  · rename_i hcommit
    cases h
    exact .inl hcommit
  · split at h
    · cases h
      exact .inr (.inl ⟨_, rfl⟩)
    · cases h
      exact .inr (.inr ⟨_, rfl⟩)
    · cases h

/-- Up to the commit, creating an order fails with no broken key, in a store whose menu items
    name stored restaurants and whose chosen options are on stored lines. -/
theorem commitOrder_error_kind {req : OrderRequest} {db : Db} {e : OrderError}
    (hcat : ∀ m ∈ db.menuItems, m.restaurantId ∈ db.ids .restaurant)
    (hsel : ∀ s ∈ db.selections, s.itemId ∈ db.ids .orderItem)
    (h : commitOrder req db = .error e) : e.kind ≠ .storageInvariant := by
  rcases commitOrder_error_cases h with rfl | ⟨c, rfl⟩ |
      ⟨offers, options, hne, hoffers, hoptions, hrefused | ⟨hcheck, hsnap | ⟨draft, hsnap, hwrite⟩⟩⟩
  · simp [OrderError.kind]
  · cases c <;> simp [OrderError.kind]
  · obtain ⟨line, -, hfault⟩ := LineFault.of_checkLines_error hrefused
    exact hfault.kind_ne_storageInvariant
  · obtain ⟨draft, hdraft⟩ := snapshot_of_checkLines hcheck
    rw [hdraft] at hsnap
    cases hsnap
  · have hf := snapshot_fetched hne hcheck hsnap
    exact Db.writeDraft_error_kind hsel (hf.grounded hoffers hoptions hcat) hwrite

/-- In a store whose menu items name stored restaurants and whose chosen options are on stored
    lines, the draft of a request with lines, accepted by the validator against the rows the
    strict fetches found, takes its rows from them and is grounded in the store, and its write
    fails with no broken key; so creating an order never fails with a broken invariant of the
    store.

    The second precondition, `hsel`, is the foreign key of the chosen options on their lines,
    which the store enforces (`Db.Linked.selections`): without it an orphan chosen option could
    name the id a new line is given, and the new line's option would repeat its key. Every run of
    requests from an empty store keeps it (`requests_keep_orders_fit`). -/
theorem checked_order_breaks_no_key (req : OrderRequest) (db : Db)
    (hcat : ∀ m ∈ db.menuItems, m.restaurantId ∈ db.ids .restaurant)
    (hsel : ∀ s ∈ db.selections, s.itemId ∈ db.ids .orderItem) :
    (∀ offers options draft, req.lines ≠ [] →
      db.fetchOffers req.menuItemIds true = .ok offers →
      db.fetchOptions req.optionIds = .ok options →
      checkLines (Catalog.ofLists offers options) req.restaurantId req.lines = .ok () →
      snapshot (Catalog.ofLists offers options) req = .ok draft →
        draft.Fetched offers options ∧ draft.Grounded db ∧
          ∀ e, db.writeDraft draft = .error e → e.kind ≠ .storageInvariant) ∧
    ∀ e, (createOrder req db).1 = .error e → e.kind ≠ .storageInvariant := by
  refine ⟨fun offers options draft hne hoffers hoptions hcheck hsnap => ?_, fun e h => ?_⟩
  · have hf := snapshot_fetched hne hcheck hsnap
    have hg := hf.grounded hoffers hoptions hcat
    exact ⟨hf, hg, fun e he => Db.writeDraft_error_kind hsel hg he⟩
  · rcases createOrder_error_cases h with hcommit | ⟨cause, rfl⟩ | ⟨id, rfl⟩
    · exact commitOrder_error_kind hcat hsel hcommit
    · simp [OrderError.kind]
    · simp [OrderError.kind]

theorem sampleDesk_breaks_no_key :
    (∀ m ∈ sampleDesk.menuItems, m.restaurantId ∈ sampleDesk.ids .restaurant) ∧
    (∀ s ∈ sampleDesk.selections, s.itemId ∈ sampleDesk.ids .orderItem) ∧
    (∀ offers options draft, sampleRequest.lines ≠ [] →
      sampleDesk.fetchOffers sampleRequest.menuItemIds true = .ok offers →
      sampleDesk.fetchOptions sampleRequest.optionIds = .ok options →
      checkLines (Catalog.ofLists offers options) sampleRequest.restaurantId
          sampleRequest.lines = .ok () →
      snapshot (Catalog.ofLists offers options) sampleRequest = .ok draft →
        draft.Fetched offers options ∧ draft.Grounded sampleDesk ∧
          ∀ e, sampleDesk.writeDraft draft = .error e → e.kind ≠ .storageInvariant) ∧
    ∀ e, (createOrder sampleRequest sampleDesk).1 = .error e → e.kind ≠ .storageInvariant :=
  ⟨by decide, by decide,
    checked_order_breaks_no_key sampleRequest sampleDesk (by decide) (by decide)⟩

end OrderDesk
