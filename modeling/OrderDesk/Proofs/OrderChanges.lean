import OrderDesk.Proofs.OrderKeys
import OrderDesk.Proofs.FetchExact

/-!
# Changing and deleting an order

A change of an order sets the header fields it gives and keeps the others. A change that gives no
field is refused. Otherwise the header is looked up, and a store that cannot read the table of
orders, or an order that does not exist, leaves the database as it was. A header found is
rewritten at once and stamped with the clock's reading; only then is the order read back whole.
So the answer is what a read of the order gives afterwards: the order as a read gave it before,
under the new header. That read can still fail once the header is written, when the table of
lines is missing, or the table of chosen options while the order has lines; the change is kept
and reported failed. A second change with the same fields leaves the type and statuses as the
first one did.

Deleting an order removes its header in one statement; the store's keys cascade into its lines
and the options chosen on them (`Db.RemovedOrder`). That takes the store as the schema builds it:
keys enforced, every table of the schema present, line ids distinct. A closed store refuses the
statement and keeps everything. Otherwise the answer says whether the order existed.

Main statements: `updateOrder_sets_given_fields` and `deleteOrder_removes_exactly`.
`patch_kept_when_read_fails` changes an order on a store without the table of lines, and
`closed_store_delete_fails` deletes an existing order from a closed store.
-/

namespace OrderDesk

open Store

/-- The header `row` with the fields `p` gives set, stamped as changed at `now`. -/
def Store.OrderRow.patch (row : OrderRow) (p : OrderPatch) (now : Instant) : OrderRow :=
  { row with orderType := p.orderType.getD row.orderType,
             orderStatus := p.orderStatus.getD row.orderStatus,
             paymentStatus := p.paymentStatus.getD row.paymentStatus, updatedAt := now }

/-- Patching twice with the same fields sets them as patching once. -/
theorem Store.OrderRow.patch_patch (row : OrderRow) (p : OrderPatch) (now now' : Instant) :
    ((row.patch p now).patch p now').orderType = (row.patch p now).orderType ∧
      ((row.patch p now).patch p now').orderStatus = (row.patch p now).orderStatus ∧
      ((row.patch p now).patch p now').paymentStatus = (row.patch p now).paymentStatus := by
  simp only [OrderRow.patch]
  exact ⟨by cases p.orderType <;> rfl, by cases p.orderStatus <;> rfl,
    by cases p.paymentStatus <;> rfl⟩

namespace Store.Db

/-! ## Reading an order whose header was replaced -/

/-- A header found by id has that id. -/
theorem findOrder_id {db : Db} {k : Int} {row : OrderRow} (h : db.findOrder k = .ok (some row)) :
    row.id = k := by
  simpa using List.find?_some (select_eq_ok.mp h).2.2

/-- A read of the order found as `row` hands back that header with its lines. -/
theorem getOrder_of_found {db : Db} {k : Int} {row : OrderRow}
    (h : db.findOrder k = .ok (some row)) :
    db.getOrder k = db.hydrate [row] >>= fun os => pure os.head? := by
  simp only [getOrder, h, Except.ok_bind]

/-- A read of lines and options sees neither the headers nor the clock. -/
theorem hydrate_orders_clock (db : Db) (orders : List OrderRow) (clock : Nat)
    (rows : List OrderRow) :
    ({ db with orders, clock } : Db).hydrate rows = db.hydrate rows := rfl

/-- Reading a header with the id of `row` gives the order `row` reads as, under that header. -/
theorem hydrate_reheader {db : Db} {row row' : OrderRow} (hid : row'.id = row.id) :
    db.hydrate [row'] = (db.hydrate [row]).map (List.map fun o => { o with header := row' }) := by
  simp only [hydrate, List.map_cons, List.map_nil, List.isEmpty_cons, Bool.false_eq_true,
    if_false, hid]
  cases db.select [.orderItem]
      (fun db => byId (·.id) (db.items.filter fun i => [row.id].contains i.orderId)) with
  | error e => rfl
  | ok items =>
    simp only [Except.ok_bind]
    split
    · simp [claimRows, hid]
    · cases db.select [.orderItemOption] (fun db =>
          (db.selections.filter fun s => (items.map (·.id)).contains s.itemId).mergeSort
            fun a b => a.itemId < b.itemId || (a.itemId == b.itemId && a.optionId ≤ b.optionId)) with
      | error e => rfl
      | ok sels => simp [claimRows, hid]

/-- Putting `row'`, of id `k`, in the place of the headers of id `k` changes what a search by id
    finds only by putting `row'` in its place. -/
theorem find?_replace (orders : List OrderRow) {k : Int} {row' : OrderRow} (hid : row'.id = k)
    (oid : Int) :
    (orders.map fun o => if o.id = k then row' else o).find? (·.id == oid) =
      (orders.find? (·.id == oid)).map fun o => if o.id = k then row' else o := by
  rw [List.find?_map]
  congr 2
  funext o
  by_cases ho : o.id = k
  · simp [ho, hid]
  · simp [ho]

/-- With the header of id `k` replaced by `row'` of the same id, a read by id finds `row'`. -/
theorem findOrder_replaced {db : Db} {k : Int} {row row' : OrderRow}
    (hrow : db.findOrder k = .ok (some row)) (hid : row'.id = k) (clock : Nat) :
    ({ db with orders := db.orders.map (fun o => if o.id = k then row' else o), clock } : Db).findOrder
      k = .ok (some row') := by
  obtain ⟨hopen, hneed, hfind⟩ := select_eq_ok.mp hrow
  have hk : row.id = k := findOrder_id hrow
  refine select_eq_ok.mpr ⟨hopen, (need_congr rfl [.order]).trans hneed, ?_⟩
  rw [find?_replace db.orders hid k, hfind]
  simp [hk]

/-- With the header of id `k` replaced by `row'` of the same id, the order reads as before under
    the header `row'`: the same lines and options, or the same failure. -/
theorem getOrder_replaced {db : Db} {k : Int} {row row' : OrderRow}
    (hrow : db.findOrder k = .ok (some row)) (hid : row'.id = k) (clock : Nat) :
    ({ db with orders := db.orders.map (fun o => if o.id = k then row' else o), clock } : Db).getOrder
      k = (db.getOrder k).map (Option.map fun o => { o with header := row' }) := by
  have hk : row.id = k := findOrder_id hrow
  rw [getOrder_of_found (findOrder_replaced hrow hid clock), hydrate_orders_clock,
    hydrate_reheader (hid.trans hk.symm), getOrder_of_found hrow]
  cases db.hydrate [row] with
  | error e => rfl
  | ok os => cases os <;> rfl

/-! ## Deleting an order -/

/-- `db'` is `db` without order `k`, its lines and the options chosen on them: every other order,
    line and chosen option stays, and so does the catalog. -/
structure RemovedOrder (db : Db) (k : Int) (db' : Db) : Prop where
  orders : ∀ o, o ∈ db'.orders ↔ o ∈ db.orders ∧ o.id ≠ k
  items : ∀ i, i ∈ db'.items ↔ i ∈ db.items ∧ i.orderId ≠ k
  selections : ∀ s, s ∈ db'.selections ↔
    s ∈ db.selections ∧ ∀ i ∈ db.items, i.orderId = k → i.id ≠ s.itemId
  catalog : db.CatalogKept db'

theorem withoutOrder_removed (db : Db) (k : Int) : db.RemovedOrder k (db.withoutOrder k) := by
  refine ⟨fun o => ?_, fun i => ?_, fun s => ?_, CatalogKept.orderRows db _ _ _ _ _⟩ <;>
    simp [withoutOrder]

/-- Every table some table refers to is a table of the schema. -/
theorem parent_mem_orderTables (r : Reference) : r.parent ∈ Table.orderTables := by
  cases r <;> decide

theorem needParents_eq_ok {db : Db} {t : Table} (h : ∀ r ∈ t.references, r.parent ∈ db.tables) :
    db.needParents t = .ok () := by
  unfold needParents
  split
  · refine List.forM_eq_ok.mpr fun p hp => ?_
    obtain ⟨r, hr, rfl⟩ := List.mem_map.mp hp
    have hhas : db.has r.parent = true := List.contains_iff_mem.mpr (h r (List.mem_reverse.mp hr))
    simp [hhas]
  · rfl

/-- With every table the schema refers to present, a removal finds the tables it may reach. -/
theorem prepareRemoval_eq_ok {db : Db} (h : ∀ r : Reference, r.parent ∈ db.tables) :
    ∀ fuel t, db.prepareRemoval fuel t = .ok ()
  | 0, _ => rfl
  | fuel + 1, t => by
    rw [prepareRemoval, needParents_eq_ok fun r _ => h r]
    -- each reference is either followed, with less fuel, or left to its restriction
    refine List.forM_eq_ok.mpr fun r _ => ?_
    split
    · exact prepareRemoval_eq_ok h fuel r.child
    · rfl

/-- On an open store with the schema's tables, deleting order `k` answers whether it existed and
    leaves the database without it, its lines and their options, or as it was. -/
theorem deleteOrder_of_open {db : Db} {k : Int} (hc : db.Cascading)
    (htables : Table.orderTables ⊆ db.tables) (hopen : db.closed = false) :
    db.deleteOrder k = .ok (decide (k ∈ db.ids .order),
      if k ∈ db.ids .order then db.withoutOrder k else db) := by
  have hparents : ∀ r : Reference, r.parent ∈ db.tables := fun r =>
    htables (parent_mem_orderTables r)
  have hprepare := prepareRemoval_eq_ok hparents (Table.all.length + 1) .order
  have hneed : db.need [.order] = .ok () :=
    need_eq_ok.mpr fun t ht => List.contains_iff_mem.mpr (htables (by
      simp [List.mem_singleton.mp ht, Table.orderTables, Table.catalogTables]))
  simp only [Db.deleteOrder, execute, hopen, removeByKey, RowRef.table, hneed, hprepare,
    contains, List.contains_iff_mem, Except.ok_bind, Bool.false_eq_true, if_false]
  by_cases hk : k ∈ db.ids .order
  · simp [hk, removeRow_order_rowCount hc hk]
  · simp [hk]

end Store.Db

/-! ## The service -/

/-- Changing an order found as `row`: the header is replaced by `row` patched and stamped with
    the clock's reading, and the answer is what a read of the order gives afterwards. -/
theorem updateOrder_of_found {k : Int} {p : OrderPatch} {db : Db} {row : OrderRow}
    (hp : p.isEmpty = false) (hrow : db.findOrder k = .ok (some row)) :
    (updateOrder k p db).2 =
      { db with orders := db.orders.map (fun o => if o.id = k then row.patch p db.tick.1 else o),
                clock := db.clock + 1 } ∧
      (updateOrder k p db).1 = ((updateOrder k p db).2.getOrder k).mapError .store := by
  obtain ⟨hopen, hneed, -⟩ := Db.select_eq_ok.mp hrow
  have hk : row.id = k := Db.findOrder_id hrow
  set row' := row.patch p db.tick.1 with hrow'
  set db' : Db := { db with
    orders := db.orders.map (fun o => if o.id = k then row' else o), clock := db.clock + 1 }
    with hdb'
  have hu : db.updateHeader row p.orderType p.orderStatus p.paymentStatus = .ok (row', db') := by
    have hreplace : (fun o : OrderRow => if (o.id == row.id) = true then row' else o) =
        fun o => if o.id = k then row' else o := by
      funext o
      simp [hk]
    unfold Db.updateHeader Db.returning
    rw [if_neg (by simp [hopen])]
    simp only [hneed, Except.ok_bind, Except.mapError_ok, Except.pure_eq_ok, hdb', ← hreplace]
    rfl
  have hfound : db'.findOrder k = .ok (some row') :=
    Db.findOrder_replaced hrow (by simp [hrow', OrderRow.patch, hk]) _
  have hupd : updateOrder k p db = (((db'.hydrate [row']).map List.head?).mapError .store, db') := by
    unfold updateOrder
    rw [if_neg (by simp [hp]), hrow]
    dsimp only
    rw [hu]
    dsimp only
    cases db'.hydrate [row'] <;> rfl
  rw [hupd, Db.getOrder_of_found hfound]
  cases db'.hydrate [row'] <;> exact ⟨rfl, rfl⟩

theorem updateOrder_of_empty {k : Int} {p : OrderPatch} {db : Db} (hp : p.isEmpty = true) :
    updateOrder k p db =
      (.error (.badRequest "at least one of order_type, order_status or payment_status is required"),
        db) := by
  simp [updateOrder, hp]

theorem updateOrder_of_error {k : Int} {p : OrderPatch} {db : Db} {e : StoreError}
    (hp : p.isEmpty = false) (h : db.findOrder k = .error e) :
    updateOrder k p db = (.error (.store e), db) := by
  simp [updateOrder, hp, h]

theorem updateOrder_of_none {k : Int} {p : OrderPatch} {db : Db} (hp : p.isEmpty = false)
    (h : db.findOrder k = .ok none) : updateOrder k p db = (.ok none, db) := by
  simp [updateOrder, hp, h]

/-- After a change, a read of the header by id finds the header found before, patched when the
    change gave a field. -/
theorem updateOrder_findOrder (k : Int) (p : OrderPatch) (db : Db) :
    (updateOrder k p db).2.findOrder k =
      (db.findOrder k).map
        (Option.map fun row => if p.isEmpty then row else row.patch p db.tick.1) := by
  cases hp : p.isEmpty with
  | true =>
    rw [updateOrder_of_empty hp]
    cases db.findOrder k with
    | error e => rfl
    | ok found => cases found <;> rfl
  | false =>
    cases hfind : db.findOrder k with
    | error e => rw [updateOrder_of_error hp hfind, hfind]; rfl
    | ok found =>
      cases found with
      | none => rw [updateOrder_of_none hp hfind, hfind]; rfl
      | some row =>
        rw [(updateOrder_of_found hp hfind).1,
          Db.findOrder_replaced hfind (by simp [OrderRow.patch, Db.findOrder_id hfind])]
        rfl

/-- A second change with the same fields leaves the type and statuses of the header as the first
    change left them. -/
theorem updateOrder_twice {k : Int} {p : OrderPatch} {db : Db} {row1 row2 : OrderRow}
    (h1 : (updateOrder k p db).2.findOrder k = .ok (some row1))
    (h2 : (updateOrder k p (updateOrder k p db).2).2.findOrder k = .ok (some row2)) :
    row2.orderType = row1.orderType ∧ row2.orderStatus = row1.orderStatus ∧
      row2.paymentStatus = row1.paymentStatus := by
  rw [updateOrder_findOrder, h1] at h2
  rw [updateOrder_findOrder] at h1
  cases hp : p.isEmpty with
  | true =>
    simp only [hp, if_true, Except.ok_map, Option.map_some, Except.ok.injEq,
      Option.some.injEq] at h2
    rw [h2]
    exact ⟨rfl, rfl, rfl⟩
  | false =>
    cases hfind : db.findOrder k with
    | error e => rw [hfind] at h1; cases h1
    | ok found =>
      rw [hfind] at h1
      cases found with
      | none => cases h1
      | some row0 =>
        simp only [hp, Bool.false_eq_true, if_false, Except.ok_map, Option.map_some,
          Except.ok.injEq, Option.some.injEq] at h1 h2
        rw [← h2, ← h1]
        exact OrderRow.patch_patch row0 p _ _

/-- Changing an order sets the header fields given and keeps the others. A change without fields
    is refused, and a store that cannot read the table of orders, or has no order with the id,
    is left as it was. A header found is rewritten in its place with the type and statuses given
    and its own otherwise, keeping its id, restaurant and creation time, and nothing else changes
    but the clock. The answer is what a read of the order gives afterwards: the order as a read
    gave it before, under the new header. A second change with the same fields leaves the type
    and statuses as the first one did. -/
theorem updateOrder_sets_given_fields (k : Int) (p : OrderPatch) (db : Db) :
    (p.isEmpty = true →
      updateOrder k p db =
        (.error (.badRequest "at least one of order_type, order_status or payment_status is required"),
          db)) ∧
    (p.isEmpty = false → ∀ e, db.findOrder k = .error e →
      updateOrder k p db = (.error (.store e), db)) ∧
    (p.isEmpty = false → db.findOrder k = .ok none → updateOrder k p db = (.ok none, db)) ∧
    (p.isEmpty = false → ∀ row, db.findOrder k = .ok (some row) →
      ∃ row' : OrderRow, row'.id = row.id ∧ row'.restaurantId = row.restaurantId ∧
        row'.createdAt = row.createdAt ∧ row'.orderType = p.orderType.getD row.orderType ∧
        row'.orderStatus = p.orderStatus.getD row.orderStatus ∧
        row'.paymentStatus = p.paymentStatus.getD row.paymentStatus ∧
        (updateOrder k p db).2 =
          { db with orders := db.orders.map (fun o => if o.id = k then row' else o),
                    clock := db.clock + 1 } ∧
        (updateOrder k p db).1 = ((updateOrder k p db).2.getOrder k).mapError .store ∧
        (updateOrder k p db).2.getOrder k =
          (db.getOrder k).map (Option.map fun o => { o with header := row' })) ∧
    ∀ row1 row2, (updateOrder k p db).2.findOrder k = .ok (some row1) →
      (updateOrder k p (updateOrder k p db).2).2.findOrder k = .ok (some row2) →
      row2.orderType = row1.orderType ∧ row2.orderStatus = row1.orderStatus ∧
        row2.paymentStatus = row1.paymentStatus := by
  refine ⟨updateOrder_of_empty, fun hp _ => updateOrder_of_error hp, updateOrder_of_none,
    fun hp row hrow => ?_, fun _ _ => updateOrder_twice⟩
  obtain ⟨hstate, hanswer⟩ := updateOrder_of_found hp hrow
  refine ⟨row.patch p db.tick.1, rfl, rfl, rfl, rfl, rfl, rfl, hstate, hanswer, ?_⟩
  rw [hstate]
  exact Db.getOrder_replaced hrow (by simp [OrderRow.patch, Db.findOrder_id hrow]) _

/-- An open, unpaid dine-in order of restaurant 1 under id 1, placed when the clock starts. -/
def dineInOrder : OrderRow :=
  { id := 1, orderType := .dineIn, orderStatus := .opened, paymentStatus := .unpaid,
    restaurantId := 1, createdAt := clockStart, updatedAt := clockStart }

/-- A store with the tables of restaurants and orders only, holding `dineInOrder`. -/
def headersOnlyDesk : Db :=
  { Db.empty with
    tables := [.restaurant, .order], restaurants := [sampleRestaurant], orders := [dineInOrder],
    counters := true }

/-- Confirming an order: the status alone. -/
def confirmPatch : OrderPatch :=
  { orderType := none, orderStatus := some .confirmed, paymentStatus := none }

/-- Without the table of lines, confirming an existing order writes the new status and then fails
    to read the order back. -/
theorem patch_kept_when_read_fails :
    headersOnlyDesk.findOrder 1 = .ok (some dineInOrder) ∧
      (updateOrder 1 confirmPatch headersOnlyDesk).1 =
        .error (.store (.query (.noSuchTable "order_item"))) ∧
      ((updateOrder 1 confirmPatch headersOnlyDesk).2.findOrder 1).map
        (Option.map (·.orderStatus)) = .ok (some .confirmed) :=
  ⟨rfl, rfl, rfl⟩

/-- Deleting an order from a store whose keys are enforced, with every table of the schema and
    distinct line ids. A closed store refuses it and keeps everything. Otherwise it answers
    whether an order with the id existed; if so it removes exactly that order, its lines and the
    options chosen on them, and if not it changes nothing. -/
theorem deleteOrder_removes_exactly (db : Db) (k : Int) (hkeys : db.keysEnforced = true)
    (htables : Table.orderTables ⊆ db.tables) (hlines : (db.ids .orderItem).Nodup) :
    (db.closed = true → deleteOrder k db = (.error (.store .poolClosed), db)) ∧
    (db.closed = false →
      (deleteOrder k db).1 = .ok (decide (k ∈ db.ids .order)) ∧
      (k ∉ db.ids .order → (deleteOrder k db).2 = db) ∧
      (k ∈ db.ids .order → db.RemovedOrder k (deleteOrder k db).2)) := by
  have hc : db.Cascading :=
    ⟨hkeys, htables (by decide), htables (by decide), hlines⟩
  refine ⟨fun hclosed => ?_, fun hopen => ?_⟩
  · simp [deleteOrder, Db.deleteOrder, Db.execute, hclosed]
  · rw [deleteOrder, Db.deleteOrder_of_open hc htables hopen]
    refine ⟨rfl, fun hk => if_neg hk, fun hk => ?_⟩
    simpa only [if_pos hk] using Db.withoutOrder_removed db k

/-- The sample catalog with order 1, which has one line of the sample burger with the sample
    option chosen on it. -/
def orderedDesk : Db :=
  { Db.empty with
    tables := Table.orderTables,
    restaurants := [sampleRestaurant], menuItems := [sampleMenuItem], groups := [sampleGroup],
    links := [⟨1, 1⟩], options := [sampleOption], orders := [dineInOrder],
    items := [{ id := 1, quantity := 1, instructions := none, name := "Burger", price := 9.5,
                menuItemId := 1, orderId := 1 }],
    selections := [{ itemId := 1, optionId := 1, quantity := 1, name := "Regular", price := 0.0 }],
    counters := true }

theorem orderedDesk_deletes_exactly :
    orderedDesk.keysEnforced = true ∧ Table.orderTables ⊆ orderedDesk.tables ∧
      (orderedDesk.ids .orderItem).Nodup ∧
      (orderedDesk.closed = true →
        deleteOrder 1 orderedDesk = (.error (.store .poolClosed), orderedDesk)) ∧
      (orderedDesk.closed = false →
        (deleteOrder 1 orderedDesk).1 = .ok (decide (1 ∈ orderedDesk.ids .order)) ∧
        (1 ∉ orderedDesk.ids .order → (deleteOrder 1 orderedDesk).2 = orderedDesk) ∧
        (1 ∈ orderedDesk.ids .order → orderedDesk.RemovedOrder 1 (deleteOrder 1 orderedDesk).2)) :=
  ⟨rfl, List.Subset.refl _, by decide,
    deleteOrder_removes_exactly orderedDesk 1 rfl (List.Subset.refl _) (by decide)⟩

/-- A closed store refuses to delete an order it holds. -/
theorem closed_store_delete_fails :
    (1 : Int) ∈ ({ orderedDesk with closed := true } : Db).ids .order ∧
      (deleteOrder 1 { orderedDesk with closed := true }).1 = .error (.store .poolClosed) :=
  ⟨by decide, rfl⟩

end OrderDesk
