import Mathlib
import OrderDesk.Proofs.FirstFault
import OrderDesk.Service.Orders

/-!
# Creating an order is all or nothing up to its commit

`createOrder` checks a request, takes its snapshot and writes it in one transaction
(`commitOrder`), and then reads the new order back. Every failure up to the commit (an empty
request, a missing catalog row, a line the validator refuses, a missing snapshot row, a failed
write at any stage) leaves the database as it was. Once the write is committed the order stays,
whether the read-back finds it or not: a store failure of the read-back, or an order it does not
find, is reported with the order written (`OrderError.afterCommit`).

`OrderWritten` says what a committed order adds, in terms of the request alone: one header
under a new id, one row of that order per line, and one chosen option per selection, each on one
of those rows; besides them only the id counters and the clock move.

Main statement: `createOrder_atomic`. `readBack_failure_keeps_order` is a database without the
table of chosen options, where a request without options is written and then reported failed.
-/

namespace OrderDesk

open Store

/-- Whether an error is reported after the order was committed: a failure of the read-back. -/
def OrderError.afterCommit : OrderError → Bool
  | .storage _ | .missingAfterCommit _ => true
  | _ => false

/-! ## The validator's refusals -/

/-- A rule a line breaks is reported before anything is written. -/
theorem LineFault.afterCommit {cat : Catalog} {r : Int} {line : Line} {e : OrderError}
    (h : LineFault cat r line e) : e.afterCommit = false := by
  cases h with
  | selection _ _ _ hfault => cases hfault <;> rfl
  | _ => rfl

theorem checkLines_error {cat : Catalog} {r : Int} {lines : List Line} {e : OrderError}
    (h : checkLines cat r lines = .error e) : e.afterCommit = false := by
  obtain ⟨_, -, hfault⟩ := LineFault.of_checkLines_error h
  exact hfault.afterCommit

/-! ## The snapshot -/

/-- A traversal that succeeded succeeded on each element, giving the result's own element. -/
theorem List.mapM_eq_ok {ε α β : Type} {f : α → Except ε β} :
    ∀ {xs : List α} {ys : List β}, xs.mapM f = .ok ys → List.Forall₂ (fun x y => f x = .ok y) xs ys
  | [], ys, h => by
    simp only [List.mapM_nil, Except.pure_eq_ok, Except.ok.injEq] at h
    subst h
    exact .nil
  | x :: xs, ys, h => by
    rw [List.mapM_cons] at h
    obtain ⟨y, hy, h⟩ := Except.bind_eq_ok.mp h
    obtain ⟨ys', hys, h⟩ := Except.bind_eq_ok.mp h
    simp only [Except.pure_eq_ok, Except.ok.injEq] at h
    subst h
    exact .cons hy (List.mapM_eq_ok hys)

/-- A traversal that failed failed on one of the elements, with its error. -/
theorem List.mapM_eq_error {ε α β : Type} {f : α → Except ε β} :
    ∀ {xs : List α} {e : ε}, xs.mapM f = .error e → ∃ x ∈ xs, f x = .error e
  | [], e, h => by simp at h
  | x :: xs, e, h => by
    rw [List.mapM_cons] at h
    rcases Except.bind_eq_error.mp h with h | ⟨_, -, h⟩
    · exact ⟨x, List.mem_cons_self, h⟩
    rcases Except.bind_eq_error.mp h with h | ⟨_, -, h⟩
    · obtain ⟨x', hx', h⟩ := List.mapM_eq_error h
      exact ⟨x', List.mem_cons_of_mem x hx', h⟩
    · simp at h

/-- The snapshot of a line copies the line and takes the item's name and price from the
    catalog, with the snapshot of each selection. -/
theorem snapshotLine_eq_ok {cat : Catalog} {line : Line} {item : ItemSnapshot}
    (h : snapshotLine cat line = .ok item) :
    ∃ offer, cat.offer? line.menuItemId = some offer ∧
      List.Forall₂ (fun s o => snapshotSelection cat s = .ok o) line.selections item.options ∧
      item = { menuItemId := offer.item.id, quantity := line.quantity,
               instructions := line.instructions, name := offer.item.name,
               price := offer.item.price, options := item.options } := by
  unfold snapshotLine at h
  split at h
  · rename_i offer hoffer
    obtain ⟨options, hoptions, h⟩ := Except.bind_eq_ok.mp h
    simp only [Except.pure_eq_ok, Except.ok.injEq] at h
    subst h
    exact ⟨offer, hoffer, List.mapM_eq_ok hoptions, rfl⟩
  · simp at h

/-- The snapshot of a request is an open, unpaid order of the request's kind and restaurant,
    with the snapshot of each line. -/
theorem snapshot_eq_ok {cat : Catalog} {req : OrderRequest} {draft : OrderDraft}
    (h : snapshot cat req = .ok draft) :
    List.Forall₂ (fun line item => snapshotLine cat line = .ok item) req.lines draft.items ∧
      draft = { orderType := req.orderType, orderStatus := .opened, paymentStatus := .unpaid,
                restaurantId := req.restaurantId, items := draft.items } := by
  unfold snapshot at h
  obtain ⟨items, hitems, h⟩ := Except.bind_eq_ok.mp h
  simp only [Except.pure_eq_ok, Except.ok.injEq] at h
  subst h
  exact ⟨List.mapM_eq_ok hitems, rfl⟩

theorem snapshotLine_error {cat : Catalog} {line : Line} {e : OrderError}
    (h : snapshotLine cat line = .error e) : e.afterCommit = false := by
  unfold snapshotLine at h
  split at h
  · rcases Except.bind_eq_error.mp h with h | ⟨_, -, h⟩
    · obtain ⟨s, -, h⟩ := List.mapM_eq_error h
      unfold snapshotSelection at h
      split at h <;> simp at h
      subst h; rfl
    · simp at h
  · simp at h; subst h; rfl

theorem snapshot_error {cat : Catalog} {req : OrderRequest} {e : OrderError}
    (h : snapshot cat req = .error e) : e.afterCommit = false := by
  unfold snapshot at h
  rcases Except.bind_eq_error.mp h with h | ⟨_, -, h⟩
  · obtain ⟨line, -, h⟩ := List.mapM_eq_error h
    exact snapshotLine_error h
  · simp at h

/-! ## Up to the commit -/

/-- A committed order passed every check: its request has lines, the catalog rows it names were
    found, the validator accepted its lines, and its snapshot was written. -/
theorem commitOrder_eq_ok {req : OrderRequest} {db db' : Db} {id : Int}
    (h : commitOrder req db = .ok (id, db')) :
    ∃ offers options draft, req.lines ≠ [] ∧
      db.fetchOffers req.menuItemIds true = .ok offers ∧
      db.fetchOptions req.optionIds = .ok options ∧
      checkLines (Catalog.ofLists offers options) req.restaurantId req.lines = .ok () ∧
      snapshot (Catalog.ofLists offers options) req = .ok draft ∧
      db.writeDraft draft = .ok (id, db') := by
  unfold commitOrder at h
  split at h
  · simp at h
  · rename_i hlines
    obtain ⟨offers, hoffers, h⟩ := Except.bind_eq_ok.mp h
    obtain ⟨options, hoptions, h⟩ := Except.bind_eq_ok.mp h
    obtain ⟨_, hcheck, h⟩ := Except.bind_eq_ok.mp h
    obtain ⟨draft, hdraft, h⟩ := Except.bind_eq_ok.mp h
    exact ⟨offers, options, draft, by simpa using hlines, Except.mapError_eq_ok.mp hoffers,
      Except.mapError_eq_ok.mp hoptions, hcheck, hdraft, h⟩

/-- A creation that failed up to the commit failed at one of its steps: the request has no
    lines, a fetch failed, the validator refused a line, the snapshot failed, or the write did. -/
theorem commitOrder_error_cases {req : OrderRequest} {db : Db} {e : OrderError}
    (h : commitOrder req db = .error e) :
    e = .emptyOrder ∨ (∃ c, e = .catalog c) ∨
      ∃ offers options, req.lines ≠ [] ∧ db.fetchOffers req.menuItemIds true = .ok offers ∧
        db.fetchOptions req.optionIds = .ok options ∧
        (checkLines (Catalog.ofLists offers options) req.restaurantId req.lines = .error e ∨
          checkLines (Catalog.ofLists offers options) req.restaurantId req.lines = .ok () ∧
            (snapshot (Catalog.ofLists offers options) req = .error e ∨
              ∃ draft, snapshot (Catalog.ofLists offers options) req = .ok draft ∧
                db.writeDraft draft = .error e)) := by
  unfold commitOrder at h
  split at h
  · simp only [Except.throw_eq_error, Except.error_bind, Except.error.injEq] at h
    exact .inl h.symm
  rename_i hlines
  rcases Except.bind_eq_error.mp h with h | ⟨offers, hoffers, h⟩
  · obtain ⟨c, -, rfl⟩ := Except.mapError_eq_error.mp h
    exact .inr (.inl ⟨c, rfl⟩)
  rcases Except.bind_eq_error.mp h with h | ⟨options, hoptions, h⟩
  · obtain ⟨c, -, rfl⟩ := Except.mapError_eq_error.mp h
    exact .inr (.inl ⟨c, rfl⟩)
  refine .inr (.inr ⟨offers, options, by simpa using hlines, Except.mapError_eq_ok.mp hoffers,
    Except.mapError_eq_ok.mp hoptions, ?_⟩)
  rcases Except.bind_eq_error.mp h with h | ⟨_, hcheck, h⟩
  · exact .inl h
  rcases Except.bind_eq_error.mp h with h | ⟨draft, hsnap, h⟩
  · exact .inr ⟨hcheck, .inl h⟩
  · exact .inr ⟨hcheck, .inr ⟨draft, hsnap, h⟩⟩

/-- Every failure up to the commit is reported as a failure before it. -/
theorem commitOrder_error {req : OrderRequest} {db : Db} {e : OrderError}
    (h : commitOrder req db = .error e) : e.afterCommit = false := by
  rcases commitOrder_error_cases h with rfl | ⟨c, rfl⟩ |
      ⟨offers, options, -, -, -, hcheck | ⟨-, hsnap | ⟨draft, -, hwrite⟩⟩⟩
  · rfl
  · rfl
  · exact checkLines_error hcheck
  · exact snapshot_error hsnap
  · obtain ⟨_, _, rfl⟩ := Db.writeDraft_error hwrite
    rfl

/-! ## What a committed order adds -/

/-- The database `db'` is `db` with one new order written for `req`: a header under a new id,
    one new row of that order per line, and one chosen option per selection, each on one of those
    rows. Besides them only the id counters of orders and of their lines, and the clock, moved. -/
def OrderWritten (req : OrderRequest) (db db' : Db) : Prop :=
  ∃ (header : OrderRow) (items : List ItemRow) (sels : List SelectionRow),
    db' = { db with orders := db.orders ++ [header], items := db.items ++ items,
                    selections := db.selections ++ sels, sequence := db'.sequence,
                    clock := db'.clock } ∧
    header.id ∉ db.ids .order ∧
    items.length = req.lines.length ∧
    (∀ i ∈ items, i.orderId = header.id ∧ i.id ∉ db.ids .orderItem) ∧
    sels.length = (req.lines.map (·.selections.length)).sum ∧
    (∀ s ∈ sels, ∃ i ∈ items, s.itemId = i.id) ∧
    ∀ t, t ≠ .order → t ≠ .orderItem → db'.sequence t = db.sequence t

theorem OrderWritten.ne_self {req : OrderRequest} {db db' : Db} (h : OrderWritten req db db') :
    db' ≠ db := by
  obtain ⟨header, _, _, hdb, -⟩ := h
  intro hsame
  have horders := congrArg Db.orders (hsame ▸ hdb)
  simp at horders

/-- The snapshot of a line has one option per selection of the line. -/
theorem snapshot_optionCounts {cat : Catalog} :
    ∀ {lines : List Line} {items : List ItemSnapshot},
      List.Forall₂ (fun line item => snapshotLine cat line = .ok item) lines items →
        items.map (·.options.length) = lines.map (·.selections.length)
  | [], [], .nil => rfl
  | _ :: _, _ :: _, .cons hline hrest => by
    obtain ⟨_, -, hoptions, -⟩ := snapshotLine_eq_ok hline
    simp [hoptions.length_eq, snapshot_optionCounts hrest]

theorem OrderDraft.optionRows_length {draft : OrderDraft} {ids : List Int}
    (h : ids.length = draft.items.length) :
    (draft.optionRows ids).length = (draft.items.map (·.options.length)).sum := by
  unfold OrderDraft.optionRows
  generalize draft.items = items at h ⊢
  induction items generalizing ids with
  | nil => simp
  | cons item rest ih =>
    cases ids with
    | nil => simp at h
    | cons id later =>
      simp only [List.length_cons, Nat.add_right_cancel_iff] at h
      simp [ItemSnapshot.optionRows, ← ih h]

theorem OrderDraft.mem_itemRows {draft : OrderDraft} {orderId : Int} {ids : List Int}
    {i : ItemRow} (h : i ∈ draft.itemRows orderId ids) : i.orderId = orderId ∧ i.id ∈ ids := by
  obtain ⟨⟨line, id⟩, hmem, rfl⟩ := List.mem_map.mp h
  exact ⟨rfl, List.of_mem_zip hmem |>.2⟩

/-- Each chosen option is written on the row of its line. -/
theorem OrderDraft.mem_optionRows {draft : OrderDraft} {orderId : Int} {ids : List Int}
    {s : SelectionRow} (h : s ∈ draft.optionRows ids) :
    ∃ i ∈ draft.itemRows orderId ids, s.itemId = i.id := by
  obtain ⟨⟨line, id⟩, hmem, hs⟩ := List.mem_flatMap.mp h
  obtain ⟨o, -, rfl⟩ := List.mem_map.mp hs
  exact ⟨line.storedRow orderId id, List.mem_map_of_mem hmem, rfl⟩

/-- A write of the snapshot of `req` wrote an order for `req`. -/
theorem Store.Db.Wrote.orderWritten {db db' : Db} {cat : Catalog} {req : OrderRequest}
    {draft : OrderDraft} {orderId : Int} {now : Instant} {ids : List Int}
    (hw : db.Wrote draft orderId now ids db') (hs : snapshot cat req = .ok draft) :
    OrderWritten req db db' := by
  obtain ⟨hlines, -⟩ := snapshot_eq_ok hs
  refine ⟨draft.header orderId now, draft.itemRows orderId ids,
    (draft.optionRows ids).map SelectionRow.stored, ?_, ?_, ?_, ?_, ?_, ?_, hw.counters⟩
  · rw [hw.rows]
  · exact fun hin => Int.lt_irrefl _ (hw.orderFresh _ hin)
  · simp [OrderDraft.itemRows, hw.idsLength, hlines.length_eq]
  · intro i hi
    obtain ⟨horder, hid⟩ := OrderDraft.mem_itemRows hi
    exact ⟨horder, fun hin => Int.lt_irrefl _ (hw.idsFresh _ hid _ hin)⟩
  · rw [List.length_map, OrderDraft.optionRows_length hw.idsLength, snapshot_optionCounts hlines]
  · intro s hs
    obtain ⟨r, hr, rfl⟩ := List.mem_map.mp hs
    obtain ⟨i, hi, hitem⟩ := OrderDraft.mem_optionRows hr
    exact ⟨i, hi, hitem⟩

theorem commitOrder_written {req : OrderRequest} {db db' : Db} {id : Int}
    (h : commitOrder req db = .ok (id, db')) : OrderWritten req db db' := by
  obtain ⟨_, _, _, -, -, -, -, hsnap, hwrite⟩ := commitOrder_eq_ok h
  obtain ⟨_, _, hw⟩ := Db.writeDraft_eq_ok hwrite
  exact hw.orderWritten hsnap

/-! ## The answer and the database -/

theorem createOrder_of_commit_error {req : OrderRequest} {db : Db} {e : OrderError}
    (h : commitOrder req db = .error e) : createOrder req db = (.error e, db) := by
  simp [createOrder, h]

/-- After the commit the database stays as committed, and the answer is the order read back or
    a failure of the read-back. -/
theorem createOrder_of_commit_ok {req : OrderRequest} {db db' : Db} {id : Int}
    (h : commitOrder req db = .ok (id, db')) :
    (createOrder req db).2 = db' ∧
      ((∃ o, (createOrder req db).1 = .ok o) ∨
        ∃ e, (createOrder req db).1 = .error e ∧ e.afterCommit = true) := by
  unfold createOrder
  rw [h]
  dsimp only
  split <;> simp [OrderError.afterCommit]

/-- Creating an order changes nothing exactly when it fails before the commit, and writes the
    order for the request exactly when it succeeds or fails only in reading the order back. -/
theorem createOrder_atomic (req : OrderRequest) (db : Db) :
    ((createOrder req db).2 = db ↔
      ∃ e, (createOrder req db).1 = .error e ∧ e.afterCommit = false) ∧
    (OrderWritten req db (createOrder req db).2 ↔
      (∃ o, (createOrder req db).1 = .ok o) ∨
        ∃ e, (createOrder req db).1 = .error e ∧ e.afterCommit = true) := by
  rcases hc : commitOrder req db with e | ⟨id, db'⟩
  case error =>
    have hbefore := commitOrder_error hc
    rw [createOrder_of_commit_error hc]
    refine ⟨iff_of_true rfl ⟨e, rfl, hbefore⟩, iff_of_false (fun hw => hw.ne_self rfl) ?_⟩
    rintro (⟨o, ho⟩ | ⟨e', he', hafter⟩)
    · cases ho
    · cases he'
      simp [hbefore] at hafter
  case ok =>
    obtain ⟨hdb, hanswer⟩ := createOrder_of_commit_ok hc
    have hw := commitOrder_written hc
    rw [hdb]
    refine ⟨iff_of_false hw.ne_self ?_, iff_of_true hw hanswer⟩
    rintro ⟨e, he, hbefore⟩
    rcases hanswer with ⟨o, ho⟩ | ⟨e', he', hafter⟩
    · rw [ho] at he
      cases he
    · rw [he'] at he
      cases he
      simp [hbefore] at hafter

/-- A menu item of restaurant 1 without modifier groups. -/
def plainBurger : MenuItem :=
  { id := 1, name := "Burger", description := "", price := 9.5, isAvailable := true,
    restaurantId := 1 }

/-- A database with the catalog and order tables but not the table of chosen options. -/
def dbWithoutChosenOptions : Db :=
  { Db.empty with
    tables := [.restaurant, .menuItem, .modifier, .menuItemModifier, .modifierOption, .order,
      .orderItem],
    restaurants := [{ id := 1, name := "Diner", currency := "USD" }],
    menuItems := [plainBurger],
    counters := true }

/-- One burger without options. -/
def plainBurgerRequest : OrderRequest :=
  { orderType := .dineIn, restaurantId := 1,
    lines := [{ menuItemId := 1, quantity := 1, instructions := none, selections := [] }] }

/-- The write needs no chosen options and is committed; reading the order back needs their
    table, so the answer is a store failure while the order stays. -/
theorem readBack_failure_keeps_order :
    ((createOrder plainBurgerRequest dbWithoutChosenOptions).1 matches .error (.storage _)) ∧
      (createOrder plainBurgerRequest dbWithoutChosenOptions).2.orders.length =
        dbWithoutChosenOptions.orders.length + 1 := by
  decide +kernel

end OrderDesk
