import OrderDesk.Proofs.Validation
import OrderDesk.Store.Orders

/-!
# Writing an order

`writeDraft` writes a new order in one transaction: the header, then one row per line, then the
options chosen on the lines. Each row inserted without an id gets the next one of its table, so
the header's id and the lines' ids are new, and the lines' ids ascend in the order of the lines.

`Db.Wrote` says what a successful write did, in terms of the rows of the draft alone
(`OrderDraft.header`, `OrderDraft.itemRows`, `OrderDraft.optionRows`): those rows are appended,
and besides them only the id counters of the two tables and the clock move. A failed write
reports the stage it reached (`writeDraft_error`) and hands back no database at all, so the
caller keeps the one it had.
-/

namespace OrderDesk

namespace Store.Db

theorem le_foldl_max {a : Int} {l : List Int} (ha : a ∈ l) : a ≤ l.foldl max 0 := by
  rw [List.foldl_max_eq_max (List.ne_nil_of_mem ha)]
  exact Int.le_trans (List.le_max_of_mem ha) (Int.le_max_right _ _)

/-- A new row's id is above every id its table holds. -/
theorem lt_nextId {db : Db} {t : Table} {n : Int} (hn : n ∈ db.ids t) : n < db.nextId t := by
  have := le_foldl_max hn
  simp only [nextId]
  omega

theorem returning_eq_ok {α : Type} {db : Db} {stmt : Db → Except EngineFault (α × Db)}
    {r : α × Db} : db.returning stmt = .ok r ↔ db.closed = false ∧ stmt db = .ok r := by
  unfold returning
  cases db.closed <;> simp [Except.mapError_eq_ok]

/-- A row inserted without an id gets the next one, which is recorded. -/
theorem acceptRow_eq_ok {db db' : Db} {t : Table} {refs : List (Reference × Int)} {id : Int}
    (h : db.acceptRow t none refs = .ok (id, db')) : id = db.nextId t ∧ db' = db.noteId t id := by
  unfold acceptRow at h
  obtain ⟨_, -, h⟩ := Except.bind_eq_ok.mp h
  obtain ⟨_, -, h⟩ := Except.bind_eq_ok.mp h
  dsimp only at h
  split at h
  · simp at h
  · obtain ⟨_, -, h⟩ := Except.bind_eq_ok.mp h
    simp only [Option.getD_none, Except.pure_eq_ok, Except.ok.injEq, Prod.mk.injEq] at h
    obtain ⟨rfl, rfl⟩ := h
    exact ⟨rfl, rfl⟩

theorem insertOrder_eq_ok {db db' : Db} {o o' : OrderRow}
    (h : db.insertOrder none o = .ok (o', db')) :
    o' = { o with id := db.nextId .order } ∧
      db' = { db with orders := db.orders ++ [o'],
                      sequence := (db.noteId .order o'.id).sequence } := by
  unfold insertOrder at h
  obtain ⟨⟨id, db1⟩, haccept, h⟩ := Except.bind_eq_ok.mp h
  obtain ⟨rfl, rfl⟩ := acceptRow_eq_ok haccept
  simp only [Except.pure_eq_ok, Except.ok.injEq, Prod.mk.injEq] at h
  obtain ⟨rfl, rfl⟩ := h
  exact ⟨rfl, rfl⟩

theorem insertItem_eq_ok {db db' : Db} {i i' : ItemRow}
    (h : db.insertItem none i = .ok (i', db')) :
    i' = { i with id := db.nextId .orderItem, price := storedReal i.price } ∧
      db' = { db with items := db.items ++ [i'],
                      sequence := (db.noteId .orderItem i'.id).sequence } := by
  unfold insertItem at h
  obtain ⟨⟨id, db1⟩, haccept, h⟩ := Except.bind_eq_ok.mp h
  obtain ⟨rfl, rfl⟩ := acceptRow_eq_ok haccept
  simp only [Except.pure_eq_ok, Except.ok.injEq, Prod.mk.injEq] at h
  obtain ⟨rfl, rfl⟩ := h
  exact ⟨rfl, rfl⟩

theorem insertSelection_eq_ok {db db' : Db} {s : SelectionRow}
    (h : db.insertSelection s = .ok db') :
    db' = { db with selections := db.selections ++ [{ s with price := storedReal s.price }] } := by
  unfold insertSelection at h
  obtain ⟨_, -, h⟩ := Except.bind_eq_ok.mp h
  obtain ⟨_, -, h⟩ := Except.bind_eq_ok.mp h
  split at h
  · simp at h
  · obtain ⟨_, -, h⟩ := Except.bind_eq_ok.mp h
    simp only [Except.pure_eq_ok, Except.ok.injEq] at h
    exact h.symm

end Store.Db

/-! ## The rows an order is written as -/

/-- The header of the order `draft` is written as, under id `id` and stamped `now`. -/
def OrderDraft.header (draft : OrderDraft) (id : Int) (now : Instant) : Store.OrderRow :=
  { id, orderType := draft.orderType, orderStatus := draft.orderStatus,
    paymentStatus := draft.paymentStatus, restaurantId := draft.restaurantId, createdAt := now,
    updatedAt := now }

/-- The row a line is kept as, under id `id` of order `orderId`. -/
def ItemSnapshot.storedRow (line : ItemSnapshot) (orderId id : Int) : Store.ItemRow :=
  { id, quantity := line.quantity, instructions := line.instructions, name := line.name,
    price := Store.storedReal line.price, menuItemId := line.menuItemId, orderId }

/-- The options chosen on a line, as written for its row `itemId`. -/
def ItemSnapshot.optionRows (line : ItemSnapshot) (itemId : Int) : List Store.SelectionRow :=
  line.options.map fun o =>
    { itemId, optionId := o.optionId, quantity := o.quantity, name := o.name, price := o.price }

/-- A chosen option as the store keeps it. -/
def Store.SelectionRow.stored (s : Store.SelectionRow) : Store.SelectionRow :=
  { s with price := Store.storedReal s.price }

/-- The rows of the lines of `draft`, written for order `orderId` under ids `ids`. -/
def OrderDraft.itemRows (draft : OrderDraft) (orderId : Int) (ids : List Int) :
    List Store.ItemRow :=
  (draft.items.zip ids).map fun p => p.1.storedRow orderId p.2

/-- The options chosen on the lines of `draft`, written for the rows `ids`, line after line. -/
def OrderDraft.optionRows (draft : OrderDraft) (ids : List Int) : List Store.SelectionRow :=
  (draft.items.zip ids).flatMap fun p => p.1.optionRows p.2

namespace Store.Db

theorem writeLines_eq_ok {orderId : Int} :
    ∀ {db db' : Db} {lines : List ItemSnapshot} {acc chosen : List SelectionRow},
      writeLines orderId db lines acc = .ok (db', chosen) →
        ∃ ids : List Int, ids.length = lines.length ∧ ids.Pairwise (· < ·) ∧
          (∀ n ∈ ids, ∀ m ∈ db.ids .orderItem, m < n) ∧
          db' = { db with
            items := db.items ++ (lines.zip ids).map (fun p => p.1.storedRow orderId p.2),
            sequence := db'.sequence } ∧
          chosen = acc ++ (lines.zip ids).flatMap (fun p => p.1.optionRows p.2) ∧
          ∀ t, t ≠ .orderItem → db'.sequence t = db.sequence t
  | db, db', [], acc, chosen, h => by
    simp only [writeLines, Except.pure_eq_ok, Except.ok.injEq, Prod.mk.injEq] at h
    obtain ⟨rfl, rfl⟩ := h
    exact ⟨[], rfl, List.Pairwise.nil, by simp, by simp, by simp, fun _ _ => rfl⟩
  | db, db', line :: rest, acc, chosen, h => by
    obtain ⟨⟨item, db1⟩, hins, hrest⟩ := Except.bind_eq_ok.mp h
    obtain ⟨-, hins⟩ := returning_eq_ok.mp (Except.mapError_eq_ok.mp hins)
    obtain ⟨rfl, rfl⟩ := insertItem_eq_ok hins
    obtain ⟨later, hlen, hasc, hfresh, hdb, rfl, hseq⟩ := writeLines_eq_ok hrest
    -- the id handed to this line is below every later one, and above every earlier row
    have hnew : ∀ n ∈ later, db.nextId .orderItem < n := fun n hn =>
      hfresh n hn _ (by simp [Db.ids])
    refine ⟨db.nextId .orderItem :: later, by simp [hlen], List.Pairwise.cons hnew hasc, ?_, ?_,
      by simp [ItemSnapshot.optionRows], fun t ht => ?_⟩
    · intro n hn m hm
      rcases List.mem_cons.mp hn with rfl | hn
      · exact lt_nextId hm
      · exact hfresh n hn m (by simp only [Db.ids, List.map_append] at hm ⊢; simp [hm])
    · rw [hdb]
      simp [ItemSnapshot.storedRow]
    · rw [hseq t ht]
      simp [noteId, ht]

theorem writeSelections_eq_ok :
    ∀ {db db' : Db} {rows : List SelectionRow}, writeSelections db rows = .ok db' →
      db' = { db with selections := db.selections ++ rows.map SelectionRow.stored }
  | db, db', [], h => by
    simp only [writeSelections, Except.pure_eq_ok, Except.ok.injEq] at h
    simp [h]
  | db, db', s :: rest, h => by
    obtain ⟨⟨_, db1⟩, hins, hrest⟩ := Except.bind_eq_ok.mp h
    obtain ⟨-, hins⟩ := returning_eq_ok.mp (Except.mapError_eq_ok.mp hins)
    obtain ⟨_, hsel, hpair⟩ := Except.bind_eq_ok.mp hins
    simp only [Except.pure_eq_ok, Except.ok.injEq, Prod.mk.injEq] at hpair
    obtain ⟨-, rfl⟩ := hpair
    rw [writeSelections_eq_ok hrest, insertSelection_eq_ok hsel]
    simp [SelectionRow.stored]

theorem commit_eq_ok {db : Db} : db.commit = .ok () ↔ db.commitRefusal = none := by
  unfold commit
  cases db.commitRefusal <;> simp

theorem commit_eq_error {db : Db} {e : StoreError} :
    db.commit = .error e ↔ ∃ r, db.commitRefusal = some r ∧ e = .query r.fault := by
  unfold commit
  cases db.commitRefusal <;> simp [eq_comm]

/-- What writing `draft` did to `db`, as order `orderId` stamped `now` with its lines under the
    ids `ids`: the engine took the commit, the ids are new and ascending, the header, the lines
    and the chosen options are appended, and besides them only the id counters of the two tables
    and the clock moved. -/
structure Wrote (db : Db) (draft : OrderDraft) (orderId : Int) (now : Instant) (ids : List Int)
    (db' : Db) : Prop where
  committed : db.commitRefusal = none
  orderFresh : ∀ n ∈ db.ids .order, n < orderId
  idsLength : ids.length = draft.items.length
  idsAscending : ids.Pairwise (· < ·)
  idsFresh : ∀ n ∈ ids, ∀ m ∈ db.ids .orderItem, m < n
  rows : db' = { db with
    orders := db.orders ++ [draft.header orderId now],
    items := db.items ++ draft.itemRows orderId ids,
    selections := db.selections ++ (draft.optionRows ids).map SelectionRow.stored,
    sequence := db'.sequence, clock := db.clock + 1 }
  counters : ∀ t, t ≠ .order → t ≠ .orderItem → db'.sequence t = db.sequence t

theorem writeDraft_eq_ok {db db' : Db} {draft : OrderDraft} {orderId : Int}
    (h : db.writeDraft draft = .ok (orderId, db')) :
    ∃ now ids, db.Wrote draft orderId now ids db' := by
  unfold writeDraft at h
  dsimp only at h
  split at h
  · simp at h
  · simp only [tick] at h
    obtain ⟨⟨order, db1⟩, hins, h⟩ := Except.bind_eq_ok.mp h
    obtain ⟨-, hins⟩ := returning_eq_ok.mp (Except.mapError_eq_ok.mp hins)
    obtain ⟨rfl, rfl⟩ := insertOrder_eq_ok hins
    obtain ⟨⟨db2, chosen⟩, hlines, h⟩ := Except.bind_eq_ok.mp h
    obtain ⟨db3, hsels, h⟩ := Except.bind_eq_ok.mp h
    obtain ⟨⟨⟩, hcommit, h⟩ := Except.bind_eq_ok.mp h
    simp only [Except.pure_eq_ok, Except.ok.injEq, Prod.mk.injEq] at h
    obtain ⟨rfl, rfl⟩ := h
    obtain ⟨ids, hlen, hasc, hfresh, hdb2, rfl, hseq⟩ := writeLines_eq_ok hlines
    have hcommitted : db.commitRefusal = none := by
      have hkept := commit_eq_ok.mp (Except.mapError_eq_ok.mp hcommit)
      rwa [writeSelections_eq_ok hsels, hdb2] at hkept
    refine ⟨db.tick.1, ids, ⟨hcommitted, fun n hn => lt_nextId hn, hlen, hasc, hfresh, ?_,
      fun t ht ht' => ?_⟩⟩
    · rw [writeSelections_eq_ok hsels, hdb2]
      simp [OrderDraft.header, OrderDraft.itemRows, OrderDraft.optionRows, tick]
    · rw [writeSelections_eq_ok hsels]
      simp only
      rw [hseq t ht']
      simp [noteId, ht]

/-! ## Failed writes -/

theorem writeLines_error {orderId : Int} :
    ∀ {db : Db} {lines : List ItemSnapshot} {acc : List SelectionRow} {e : OrderError},
      writeLines orderId db lines acc = .error e → ∃ cause, e = .writeFailed .headerWritten cause
  | db, [], acc, e, h => by simp [writeLines] at h
  | db, line :: rest, acc, e, h => by
    rcases Except.bind_eq_error.mp h with h | ⟨_, -, h⟩
    · obtain ⟨cause, -, rfl⟩ := Except.mapError_eq_error.mp h
      exact ⟨cause, rfl⟩
    · exact writeLines_error h

theorem writeSelections_error :
    ∀ {db : Db} {rows : List SelectionRow} {e : OrderError},
      writeSelections db rows = .error e → ∃ cause, e = .writeFailed .itemsWritten cause
  | db, [], e, h => by simp [writeSelections] at h
  | db, s :: rest, e, h => by
    rcases Except.bind_eq_error.mp h with h | ⟨_, -, h⟩
    · obtain ⟨cause, -, rfl⟩ := Except.mapError_eq_error.mp h
      exact ⟨cause, rfl⟩
    · exact writeSelections_error h

/-- A failed write reports the stage it had reached and the store's fault. -/
theorem writeDraft_error {db : Db} {draft : OrderDraft} {e : OrderError}
    (h : db.writeDraft draft = .error e) : ∃ stage cause, e = .writeFailed stage cause := by
  unfold writeDraft at h
  dsimp only at h
  split at h
  · simp only [Except.throw_eq_error, Except.error_bind, Except.error.injEq] at h
    exact ⟨_, _, h.symm⟩
  · rcases Except.bind_eq_error.mp h with h | ⟨_, -, h⟩
    · obtain ⟨cause, -, rfl⟩ := Except.mapError_eq_error.mp h
      exact ⟨_, cause, rfl⟩
    rcases Except.bind_eq_error.mp h with h | ⟨_, -, h⟩
    · obtain ⟨cause, rfl⟩ := writeLines_error h
      exact ⟨_, cause, rfl⟩
    rcases Except.bind_eq_error.mp h with h | ⟨_, -, h⟩
    · obtain ⟨cause, rfl⟩ := writeSelections_error h
      exact ⟨_, cause, rfl⟩
    rcases Except.bind_eq_error.mp h with h | ⟨_, -, h⟩
    · obtain ⟨cause, -, rfl⟩ := Except.mapError_eq_error.mp h
      exact ⟨_, cause, rfl⟩
    · simp at h

end Store.Db

end OrderDesk
