import OrderDesk.Proofs.Creation

/-!
# The stage a refused write reports

The write of a new order runs its statements in one transaction: it begins the transaction,
inserts the header, inserts one row per line while it collects the options chosen on each line
under the line's new id, then inserts the collected options, and commits. When the store refuses
a statement or the engine refuses the commit, the transaction is rolled back and the failure
names the last stage the write completed (`WriteStep.stage`): `started` for the beginning and
the header, `headerWritten` for a line, `itemsWritten` for a chosen option, and
`modifiersWritten` for the commit.

`Db.WriteRefused` says where a write is refused, apart from the write itself: every statement
before that one went through, and the store refused that one. A chosen option is only ever
refused after every line went in. Both loops are split at the refused statement the same way,
as the loop over their first `k` elements followed by element `k` (`Except.loop_eq_error_iff`),
and read for the lines and for the options in `writeLines_eq_error_iff` and
`writeSelections_eq_error_iff`.

Main statement: `writeDraft_reports_stage`.
-/

namespace OrderDesk

open Store

/-- A statement of the write of an order, by its place in the transaction. -/
inductive WriteStep where
  /-- Beginning the transaction. -/
  | begin
  /-- Inserting the header. -/
  | header
  /-- Inserting the row of the line at this index. -/
  | line (k : Nat)
  /-- Inserting the chosen option at this index, counted over all lines in order. -/
  | option (j : Nat)
  /-- Committing the transaction. -/
  | commit

/-- The stage a write reports when the statement is refused: the last stage it completed. -/
def WriteStep.stage : WriteStep → WriteStage
  | .begin | .header => .started
  | .line _ => .headerWritten
  | .option _ => .itemsWritten
  | .commit => .modifiersWritten

/-- The row the write inserts for a line of order `orderId`, before the store gives it an id. -/
def ItemSnapshot.newRow (line : ItemSnapshot) (orderId : Int) : ItemRow :=
  { id := 0, quantity := line.quantity, instructions := line.instructions, name := line.name,
    price := line.price, menuItemId := line.menuItemId, orderId }

/-- A loop that runs `step` on each element in turn, threading a state, fails exactly at a first
    failing element: the loop over the elements before it goes through, and `step` fails on it. -/
theorem Except.loop_eq_error_iff {σ α ε : Type} (loop : σ → List α → Except ε σ)
    (step : σ → α → Except ε σ) (hnil : ∀ s, loop s [] = .ok s)
    (hcons : ∀ s a l, loop s (a :: l) = step s a >>= fun s' => loop s' l) :
    ∀ (s : σ) (l : List α) (e : ε), loop s l = .error e ↔
      ∃ (k : Nat) (hk : k < l.length) (s' : σ), loop s (l.take k) = .ok s' ∧ step s' l[k] = .error e
  | s, [], e => by simp [hnil]
  | s, a :: l, e => by
    rw [hcons]
    cases hs : step s a with
    | error e' =>
      simp only [Except.error_bind, Except.error.injEq]
      constructor
      · rintro rfl
        exact ⟨0, by simp, s, hnil s, hs⟩
      · rintro ⟨k, hk, s', hbefore, hfail⟩
        cases k with
        | zero =>
          rw [List.take_zero, hnil, Except.ok.injEq] at hbefore
          subst hbefore
          rw [List.getElem_cons_zero, hs, Except.error.injEq] at hfail
          exact hfail
        | succ k =>
          rw [List.take_succ_cons, hcons, hs] at hbefore
          cases hbefore
    | ok s1 =>
      simp only [Except.ok_bind]
      rw [Except.loop_eq_error_iff loop step hnil hcons s1 l e]
      constructor
      · rintro ⟨k, hk, s', hbefore, hfail⟩
        refine ⟨k + 1, by simpa using hk, s', ?_, by simpa using hfail⟩
        rw [List.take_succ_cons, hcons, hs]
        exact hbefore
      · rintro ⟨k, hk, s', hbefore, hfail⟩
        cases k with
        | zero =>
          rw [List.take_zero, hnil, Except.ok.injEq] at hbefore
          subst hbefore
          rw [List.getElem_cons_zero, hs] at hfail
          cases hfail
        | succ k =>
          rw [List.take_succ_cons, hcons, hs] at hbefore
          exact ⟨k, by simpa using hk, s', hbefore, by simpa using hfail⟩

namespace Store.Db

/-- The write of `draft` to `db` is refused at `step` with the store's fault `cause`: every
    statement before `step` went through, and the store refused `step`. -/
inductive WriteRefused (db : Db) (draft : OrderDraft) : WriteStep → StoreError → Prop
  /-- The pool is closed, so no transaction begins. -/
  | begin (hclosed : db.closed = true) : WriteRefused db draft .begin .poolClosed
  /-- The header, stamped with the clock's reading, is refused. -/
  | header {f : EngineFault} (hopen : db.closed = false)
      (hheader : db.tick.2.insertOrder none (draft.header 0 db.tick.1) = .error f) :
      WriteRefused db draft .header (.query f)
  /-- The header and the lines before line `k` went in, and line `k` is refused. -/
  | line {k : Nat} {order : OrderRow} {db1 db2 : Db} {chosen : List SelectionRow}
      {f : EngineFault} (hopen : db.closed = false)
      (hheader : db.tick.2.insertOrder none (draft.header 0 db.tick.1) = .ok (order, db1))
      (hk : k < draft.items.length)
      (hbefore : writeLines order.id db1 (draft.items.take k) [] = .ok (db2, chosen))
      (hline : db2.insertItem none (draft.items[k].newRow order.id) = .error f) :
      WriteRefused db draft (.line k) (.query f)
  /-- The header and every line went in, collecting the chosen options, and so did the options
      before option `j`, which is refused. -/
  | option {j : Nat} {order : OrderRow} {db1 db2 db3 : Db} {chosen : List SelectionRow}
      {f : EngineFault} (hopen : db.closed = false)
      (hheader : db.tick.2.insertOrder none (draft.header 0 db.tick.1) = .ok (order, db1))
      (hlines : writeLines order.id db1 draft.items [] = .ok (db2, chosen))
      (hj : j < chosen.length)
      (hbefore : writeSelections db2 (chosen.take j) = .ok db3)
      (hoption : db3.insertSelection chosen[j] = .error f) :
      WriteRefused db draft (.option j) (.query f)
  /-- Every statement went in, and the engine refuses the commit. -/
  | commit {order : OrderRow} {db1 db2 db3 : Db} {chosen : List SelectionRow} {r : CommitRefusal}
      (hopen : db.closed = false)
      (hheader : db.tick.2.insertOrder none (draft.header 0 db.tick.1) = .ok (order, db1))
      (hlines : writeLines order.id db1 draft.items [] = .ok (db2, chosen))
      (hoptions : writeSelections db2 chosen = .ok db3) (hcommit : db3.commitRefusal = some r) :
      WriteRefused db draft .commit (.query r.fault)

/-! ## Statements on an open store -/

/-- On an open store a statement's faults are reported as those of a query. -/
theorem returning_of_open {α : Type} {db : Db} (hopen : db.closed = false)
    (stmt : Db → Except EngineFault (α × Db)) : db.returning stmt = (stmt db).mapError .query := by
  simp [returning, hopen]

theorem insertOrder_closed {db db' : Db} {o o' : OrderRow}
    (h : db.insertOrder none o = .ok (o', db')) : db'.closed = db.closed := by
  rw [(insertOrder_eq_ok h).2]

theorem insertItem_closed {db db' : Db} {i i' : ItemRow}
    (h : db.insertItem none i = .ok (i', db')) :
    db'.closed = db.closed := by
  rw [(insertItem_eq_ok h).2]

theorem insertSelection_closed {db db' : Db} {s : SelectionRow}
    (h : db.insertSelection s = .ok db') : db'.closed = db.closed := by
  rw [insertSelection_eq_ok h]

theorem writeLines_closed {orderId : Int} {db db' : Db} {lines : List ItemSnapshot}
    {acc chosen : List SelectionRow} (h : writeLines orderId db lines acc = .ok (db', chosen)) :
    db'.closed = db.closed := by
  obtain ⟨_, -, -, -, hdb, -⟩ := writeLines_eq_ok h
  rw [hdb]

theorem writeSelections_closed {db db' : Db} {rows : List SelectionRow}
    (h : writeSelections db rows = .ok db') : db'.closed = db.closed := by
  rw [writeSelections_eq_ok h]

/-! ## The loops, split at the refused statement -/

theorem writeLines_cons (orderId : Int) (db : Db) (line : ItemSnapshot) (rest : List ItemSnapshot)
    (acc : List SelectionRow) :
    writeLines orderId db (line :: rest) acc =
      (db.returning fun d => d.insertItem none (line.newRow orderId)).mapError
          (.writeFailed .headerWritten) >>= fun r =>
        writeLines orderId r.2 rest (acc ++ line.optionRows r.1.id) := rfl

/-- The lines are refused exactly when some line is refused after the lines before it went in;
    the failure is reported at stage `headerWritten`. -/
theorem writeLines_eq_error_iff {orderId : Int} {e : OrderError} {db : Db}
    {lines : List ItemSnapshot} {acc : List SelectionRow} (hopen : db.closed = false) :
    writeLines orderId db lines acc = .error e ↔
      ∃ (k : Nat) (hk : k < lines.length) (db' : Db) (chosen : List SelectionRow),
        writeLines orderId db (lines.take k) acc = .ok (db', chosen) ∧
          ∃ f, db'.insertItem none (lines[k].newRow orderId) = .error f ∧
            e = .writeFailed .headerWritten (.query f) := by
  -- the loop threads the database and the options collected so far
  have hloop := Except.loop_eq_error_iff (fun s l => writeLines orderId s.1 l s.2)
    (fun s line => ((s.1.returning fun d => d.insertItem none (line.newRow orderId)).mapError
      (.writeFailed .headerWritten)).map fun r => (r.2, s.2 ++ line.optionRows r.1.id))
    (fun _ => rfl)
    (fun s line l => by
      rw [writeLines_cons]
      cases s.1.returning fun d => d.insertItem none (line.newRow orderId) <;> rfl)
    (db, acc) lines e
  refine hloop.trans ⟨?_, ?_⟩
  · rintro ⟨k, hk, ⟨db', chosen⟩, hbefore, hstep⟩
    rw [returning_of_open ((writeLines_closed hbefore).trans hopen)] at hstep
    cases hins : db'.insertItem none (lines[k].newRow orderId) with
    | error f =>
      rw [hins] at hstep
      cases hstep
      exact ⟨k, hk, db', chosen, hbefore, f, hins, rfl⟩
    | ok r =>
      rw [hins] at hstep
      cases hstep
  · rintro ⟨k, hk, db', chosen, hbefore, f, hins, rfl⟩
    refine ⟨k, hk, (db', chosen), hbefore, ?_⟩
    rw [returning_of_open ((writeLines_closed hbefore).trans hopen), hins]
    rfl

theorem writeSelections_cons (db : Db) (s : SelectionRow) (rest : List SelectionRow) :
    writeSelections db (s :: rest) =
      (db.returning fun d => (d.insertSelection s).map fun d' => ((), d')).mapError
          (.writeFailed .itemsWritten) >>= fun r => writeSelections r.2 rest := by
  simp only [writeSelections]
  congr 2

/-- The chosen options are refused exactly when one is refused after the options before it went
    in; the failure is reported at stage `itemsWritten`. -/
theorem writeSelections_eq_error_iff {e : OrderError} {db : Db} {rows : List SelectionRow}
    (hopen : db.closed = false) :
    writeSelections db rows = .error e ↔
      ∃ (j : Nat) (hj : j < rows.length) (db' : Db),
        writeSelections db (rows.take j) = .ok db' ∧
          ∃ f, db'.insertSelection rows[j] = .error f ∧
            e = .writeFailed .itemsWritten (.query f) := by
  have hloop := Except.loop_eq_error_iff writeSelections
    (fun d s => ((d.returning fun d => (d.insertSelection s).map fun d' => ((), d')).mapError
      (.writeFailed .itemsWritten)).map Prod.snd)
    (fun _ => rfl)
    (fun d s l => by
      rw [writeSelections_cons]
      cases d.returning fun d => (d.insertSelection s).map fun d' => ((), d') <;> rfl)
    db rows e
  refine hloop.trans ⟨?_, ?_⟩
  · rintro ⟨j, hj, db', hbefore, hstep⟩
    rw [returning_of_open ((writeSelections_closed hbefore).trans hopen)] at hstep
    cases hins : db'.insertSelection rows[j] with
    | error f =>
      rw [hins] at hstep
      cases hstep
      exact ⟨j, hj, db', hbefore, f, hins, rfl⟩
    | ok db1 =>
      rw [hins] at hstep
      cases hstep
  · rintro ⟨j, hj, db', hbefore, f, hins, rfl⟩
    refine ⟨j, hj, db', hbefore, ?_⟩
    rw [returning_of_open ((writeSelections_closed hbefore).trans hopen), hins]
    rfl

/-! ## The whole write -/

/-- On an open store the write inserts the header stamped with the clock's reading, then the
    lines, then the options they collected, and commits. -/
theorem writeDraft_of_open {db : Db} (hopen : db.closed = false) (draft : OrderDraft) :
    db.writeDraft draft =
      ((db.tick.2.insertOrder none (draft.header 0 db.tick.1)).mapError .query).mapError
          (.writeFailed .started) >>= fun r =>
        writeLines r.1.id r.2 draft.items [] >>= fun s =>
          writeSelections s.1 s.2 >>= fun db3 =>
            db3.commit.mapError (.writeFailed .modifiersWritten) >>= fun _ =>
              pure (r.1.id, db3) := by
  have htick : db.tick.2.closed = false := hopen
  simp only [writeDraft, hopen, Bool.false_eq_true, if_false, returning_of_open htick]
  rfl

/-- A refused statement fails the write, reported with the stage before it. -/
theorem WriteRefused.writeDraft {db : Db} {draft : OrderDraft} {step : WriteStep}
    {cause : StoreError} (h : db.WriteRefused draft step cause) :
    db.writeDraft draft = .error (.writeFailed step.stage cause) := by
  cases h with
  | begin hclosed =>
    simp [Db.writeDraft, hclosed, WriteStep.stage]
  | header hopen hheader =>
    rw [writeDraft_of_open hopen, hheader]
    rfl
  | line hopen hheader hk hbefore hline =>
    have hlines := (writeLines_eq_error_iff ((insertOrder_closed hheader).trans hopen)).mpr
      ⟨_, hk, _, _, hbefore, _, hline, rfl⟩
    rw [writeDraft_of_open hopen, hheader]
    simp only [Except.mapError_ok, Except.ok_bind]
    rw [hlines]
    rfl
  | option hopen hheader hlines hj hbefore hoption =>
    have hopen2 : _ = false := (writeLines_closed hlines).trans
      ((insertOrder_closed hheader).trans hopen)
    have hsels := (writeSelections_eq_error_iff hopen2).mpr ⟨_, hj, _, hbefore, _, hoption, rfl⟩
    rw [writeDraft_of_open hopen, hheader]
    simp only [Except.mapError_ok, Except.ok_bind, hlines, hsels, Except.error_bind,
      WriteStep.stage]
  | commit hopen hheader hlines hoptions hcommit =>
    rw [writeDraft_of_open hopen, hheader]
    simp only [Except.mapError_ok, Except.ok_bind, hlines, hoptions,
      commit_eq_error.mpr ⟨_, hcommit, rfl⟩, Except.mapError_error, Except.error_bind,
      WriteStep.stage]

/-- A failed write was refused at one of its statements, and reports the stage before it. -/
theorem writeDraft_error_refused {db : Db} {draft : OrderDraft} {e : OrderError}
    (h : db.writeDraft draft = .error e) :
    ∃ step cause, db.WriteRefused draft step cause ∧ e = .writeFailed step.stage cause := by
  cases hclosed : db.closed with
  | true =>
    have hbegin : db.WriteRefused draft .begin .poolClosed := .begin hclosed
    rw [hbegin.writeDraft] at h
    cases h
    exact ⟨.begin, .poolClosed, hbegin, rfl⟩
  | false =>
    rw [writeDraft_of_open hclosed] at h
    rcases Except.bind_eq_error.mp h with hfail | ⟨⟨order, db1⟩, hheader, h⟩
    · obtain ⟨_, hquery, rfl⟩ := Except.mapError_eq_error.mp hfail
      obtain ⟨f, hheader, rfl⟩ := Except.mapError_eq_error.mp hquery
      exact ⟨.header, _, .header hclosed hheader, rfl⟩
    replace hheader := Except.mapError_eq_ok.mp (Except.mapError_eq_ok.mp hheader)
    have hopen1 : db1.closed = false := (insertOrder_closed hheader).trans hclosed
    rcases Except.bind_eq_error.mp h with hlines | ⟨⟨db2, chosen⟩, hlines, h⟩
    · obtain ⟨k, hk, db2, chosen, hbefore, f, hline, rfl⟩ :=
        (writeLines_eq_error_iff hopen1).mp hlines
      exact ⟨.line k, _, .line hclosed hheader hk hbefore hline, rfl⟩
    have hopen2 : db2.closed = false := (writeLines_closed hlines).trans hopen1
    rcases Except.bind_eq_error.mp h with hsels | ⟨db3, hsels, h⟩
    · obtain ⟨j, hj, db3, hbefore, f, hoption, rfl⟩ :=
        (writeSelections_eq_error_iff hopen2).mp hsels
      exact ⟨.option j, _, .option hclosed hheader hlines hj hbefore hoption, rfl⟩
    rcases Except.bind_eq_error.mp h with hcommit | ⟨_, -, h⟩
    · obtain ⟨_, hcause, rfl⟩ := Except.mapError_eq_error.mp hcommit
      obtain ⟨r, hc, rfl⟩ := commit_eq_error.mp hcause
      exact ⟨.commit, _, .commit hclosed hheader hlines hsels hc, rfl⟩
    · cases h

end Store.Db

/-- The write of an order fails exactly when the store refuses one of its statements, every
    statement before it having gone through, and it then reports the stage it completed before
    that statement; the service keeps the database it had. A write that goes through appends the
    header under the id it returns, the lines and the chosen options. -/
theorem writeDraft_reports_stage (db : Db) (draft : OrderDraft) :
    (∀ e, db.writeDraft draft = .error e ↔
      ∃ step cause, db.WriteRefused draft step cause ∧ e = .writeFailed step.stage cause) ∧
    (∀ id db', db.writeDraft draft = .ok (id, db') → ∃ now ids, db.Wrote draft id now ids db') ∧
    ∀ req stage cause, (createOrder req db).1 = .error (.writeFailed stage cause) →
      (createOrder req db).2 = db := by
  refine ⟨fun e => ⟨Db.writeDraft_error_refused, ?_⟩, fun _ _ => Db.writeDraft_eq_ok, ?_⟩
  · rintro ⟨step, cause, hrefused, rfl⟩
    exact hrefused.writeDraft
  · intro req stage cause h
    rcases hc : commitOrder req db with e | ⟨id, db'⟩
    · rw [createOrder_of_commit_error hc]
    · obtain ⟨-, hanswer⟩ := createOrder_of_commit_ok hc
      rcases hanswer with ⟨o, ho⟩ | ⟨e, he, hafter⟩
      · rw [ho] at h
        cases h
      · rw [he] at h
        cases h
        simp [OrderError.afterCommit] at hafter

/-- Without the table of chosen options, a line goes in and its option is refused: the write
    reports that the lines were written. -/
example :
    ({ Db.empty with
        tables := [.restaurant, .menuItem, .modifier, .menuItemModifier, .modifierOption, .order,
          .orderItem],
        restaurants := [{ id := 1, name := "Diner", currency := "USD" }],
        menuItems := [{ id := 1, name := "Burger", description := "", price := 9.5,
                        isAvailable := true, restaurantId := 1 }] } : Db).writeDraft
      { orderType := .dineIn, orderStatus := .opened, paymentStatus := .unpaid, restaurantId := 1,
        items := [{ menuItemId := 1, quantity := 1, instructions := none, name := "Burger",
                    price := 9.5,
                    options :=
                      [{ optionId := 100, quantity := 1, name := "Small", price := 0 }] }] } =
      .error (.writeFailed .itemsWritten (.query (.noSuchTable "order_item_modifier_option"))) := by
  rfl

/-- When the engine refuses the commit, the write reports that every statement went in. -/
example :
    ({ Db.empty with
        tables := Table.orderTables,
        restaurants := [{ id := 1, name := "Diner", currency := "USD" }],
        menuItems := [{ id := 1, name := "Burger", description := "", price := 9.5,
                        isAvailable := true, restaurantId := 1 }],
        commitRefusal := some .busy } : Db).writeDraft
      { orderType := .dineIn, orderStatus := .opened, paymentStatus := .unpaid, restaurantId := 1,
        items := [{ menuItemId := 1, quantity := 1, instructions := none, name := "Burger",
                    price := 9.5, options := [] }] } =
      .error (.writeFailed .modifiersWritten (.query .busy)) := by
  rfl

end OrderDesk
