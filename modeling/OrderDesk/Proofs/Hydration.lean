import OrderDesk.Proofs.FetchExact

/-!
# Reading several orders at once

`hydrate` reads the lines of several orders in one query and the options chosen on those lines
in a second one, and then hands each order its own lines and each line its own options: the
rows read are filed by the key they belong to, and each line, then each order, takes its own
rows out of the file (`claimRows`). A key asked for a second time finds nothing left, so the
regrouping is right when the keys are distinct: the headers' ids, and the lines' ids, which the
table's primary key keeps distinct (`claimRows_of_nodup`).

This module states the regrouping per order, apart from the two queries (`Db.Hydrated`). Each
order read holds its header and exactly the stored lines of that order, by ascending id. Each
line holds exactly the stored options chosen on it, by ascending option id. So no line or option
is lost, repeated, or handed to another order or line.

The read succeeds exactly when the store can answer it. That means no order was asked for, or
the pool is open, the table of lines exists, and the table of chosen options exists whenever
some line of these orders is stored. The answer then lists the orders in the order of the
headers given, one for each header.

Main statement: `hydrate_regroups`. `optionless_hydrate_fails` reads an order with a line from
a store without the table of chosen options.
-/

namespace OrderDesk

open Store

namespace Store.Db

/-- The order `o` is the order with header `row` as the database holds it: exactly the stored
    lines of the order, by ascending id, each with exactly the options chosen on it, by ascending
    option id. -/
structure Hydrated (db : Db) (row : OrderRow) (o : StoredOrder) : Prop where
  header : o.header = row
  lines : (o.lines.map (·.row)).Perm (db.items.filter (·.orderId == row.id))
  linesAscending : (o.lines.map (·.row.id)).Pairwise (· ≤ ·)
  options : ∀ line ∈ o.lines, line.options.Perm (db.selections.filter (·.itemId == line.row.id))
  optionsAscending : ∀ line ∈ o.lines, (line.options.map (·.optionId)).Pairwise (· ≤ ·)

/-! ## One order out of the batch -/

section Batch

variable {db : Db} {ids : List Int}

/-- The lines of one order among those read for a batch of orders are that order's lines. -/
theorem linesOfOrders_filter {k : Int} (hk : k ∈ ids) :
    ((db.linesOfOrders ids).filter (·.orderId == k)).Perm (db.items.filter (·.orderId == k)) := by
  refine ((byId_perm _).filter _).trans (List.Perm.of_eq ?_)
  rw [List.filter_filter]
  refine List.filter_congr fun i _ => ?_
  by_cases hi : i.orderId = k
  · simp [hi, hk]
  · simp [hi]

/-- The options read for a batch of lines that fall on one of them are that line's options. -/
theorem optionsOfLines_filter {lines : List ItemRow} {i : ItemRow} (hi : i ∈ lines) :
    ((db.optionsOfLines lines).filter (·.itemId == i.id)).Perm
      (db.selections.filter (·.itemId == i.id)) := by
  refine ((List.mergeSort_perm _ _).filter _).trans (List.Perm.of_eq ?_)
  rw [List.filter_filter]
  refine List.filter_congr fun s _ => ?_
  by_cases hs : s.itemId = i.id
  · simp [hs, List.mem_map_of_mem hi]
  · simp [hs]

/-- The options read for a batch of lines that fall on one line ascend by option id. -/
theorem optionsOfLines_ascending (lines : List ItemRow) (k : Int) :
    (((db.optionsOfLines lines).filter (·.itemId == k)).map (·.optionId)).Pairwise (· ≤ ·) := by
  have hsorted := (List.pairwise_mergeSort selectionBefore_trans selectionBefore_total
    (db.selections.filter fun s => (lines.map (·.id)).contains s.itemId)).filter (·.itemId == k)
  rw [List.pairwise_map]
  refine hsorted.imp_of_mem fun {a b} ha hb h => ?_
  have hak : a.itemId = k := by simpa using (List.mem_filter.mp ha).2
  have hbk : b.itemId = k := by simpa using (List.mem_filter.mp hb).2
  simpa [selectionBefore, hak, hbk] using h

end Batch

/-- Lines of a store whose line ids are distinct are read with distinct ids. -/
theorem linesOfOrders_nodup {db : Db} (hlines : (db.ids .orderItem).Nodup) (ids : List Int) :
    ((db.linesOfOrders ids).map (·.id)).Nodup :=
  ((byId_perm _).map _).nodup_iff.mpr (hlines.sublist (List.filter_sublist.map _))

/-- For headers of distinct ids, over a store whose lines have distinct ids, every order a
    batched read gives is its header as the database holds it. -/
theorem hydrate_hydrated {db : Db} {headers : List OrderRow} {os : List StoredOrder}
    (hheaders : (headers.map (·.id)).Nodup) (hlines : (db.ids .orderItem).Nodup)
    (h : db.hydrate headers = .ok os) : List.Forall₂ db.Hydrated headers os := by
  rw [hydrate_eq_ok h, claimRows_of_nodup _ _ _ _ _ hheaders,
    readLines_of_nodup (linesOfOrders_nodup hlines _), List.forall₂_map_right_iff]
  refine List.forall₂_same.mpr fun row hrow => ?_
  have hk : row.id ∈ headers.map (·.id) := List.mem_map_of_mem hrow
  simp only [List.filter_map, Function.comp_def]
  refine ⟨rfl, ?_, ?_, fun line hline => ?_, fun line hline => ?_⟩
  · rw [List.map_map]
    exact (List.Perm.of_eq (List.map_id' _)).trans (linesOfOrders_filter hk)
  · rw [List.map_map]
    exact List.pairwise_map.mpr ((byId_ascending _).filter _)
  · obtain ⟨i, hi, rfl⟩ := List.mem_map.mp hline
    exact optionsOfLines_filter (List.mem_filter.mp hi).1
  · obtain ⟨i, -, rfl⟩ := List.mem_map.mp hline
    exact optionsOfLines_ascending _ i.id

/-- No line of the orders is read exactly when none is stored. -/
theorem linesOfOrders_eq_nil_iff {db : Db} {ids : List Int} :
    db.linesOfOrders ids = [] ↔ ∀ i ∈ db.items, i.orderId ∉ ids := by
  rw [linesOfOrders, ← List.length_eq_zero_iff, byId, List.length_mergeSort,
    List.length_eq_zero_iff, List.filter_eq_nil_iff]
  simp

/-- A batched read of some orders that succeeds found the table of lines, and the table of chosen
    options when a line of these orders is stored. -/
theorem hydrate_reads_of_ok {db : Db} {headers : List OrderRow} {os : List StoredOrder}
    (h : db.hydrate headers = .ok os) (hheaders : headers ≠ []) :
    db.Reads [.orderItem] ∧
      ((∃ i ∈ db.items, i.orderId ∈ headers.map (·.id)) → db.Reads [.orderItemOption]) := by
  unfold hydrate at h
  rw [if_neg (by simpa using hheaders)] at h
  obtain ⟨items, hitems, h⟩ := Except.bind_eq_ok.mp h
  obtain ⟨hopen, hneed, rfl⟩ := select_eq_ok.mp hitems
  refine ⟨⟨hopen, need_eq_ok.mp hneed⟩, fun ⟨i, hi, hk⟩ => ?_⟩
  have hsome : db.linesOfOrders (headers.map (·.id)) ≠ [] :=
    fun hnil => linesOfOrders_eq_nil_iff.mp hnil i hi hk
  dsimp only at h
  rw [if_neg (by simpa [linesOfOrders] using hsome)] at h
  obtain ⟨sels, hsels, -⟩ := Except.bind_eq_ok.mp h
  obtain ⟨hopen', hneed', -⟩ := select_eq_ok.mp hsels
  exact ⟨hopen', need_eq_ok.mp hneed'⟩

/-- A batched read succeeds when the store has the table of lines, and the table of chosen
    options whenever a line of these orders is stored. -/
theorem hydrate_ok_of_reads {db : Db} {headers : List OrderRow} (hitems : db.Reads [.orderItem])
    (hopts : (∃ i ∈ db.items, i.orderId ∈ headers.map (·.id)) → db.Reads [.orderItemOption]) :
    ∃ os, db.hydrate headers = .ok os := by
  unfold hydrate
  split
  · exact ⟨[], rfl⟩
  dsimp only
  rw [select_of_reads hitems]
  simp only [Except.ok_bind]
  split
  · exact ⟨_, rfl⟩
  next hsome =>
    have hline : ∃ i ∈ db.items, i.orderId ∈ headers.map (·.id) := by
      by_contra hnone
      exact hsome (by simpa [linesOfOrders] using
        linesOfOrders_eq_nil_iff.mpr fun i hi hk => hnone ⟨i, hi, hk⟩)
    rw [select_of_reads (hopts hline)]
    exact ⟨_, rfl⟩

/-- A batched read succeeds exactly when the store can answer it: no order was asked for, or
    the pool is open, the table of lines exists, and the table of chosen options exists when a
    line of these orders is stored. -/
theorem hydrate_isOk_iff {db : Db} {headers : List OrderRow} :
    (∃ os, db.hydrate headers = .ok os) ↔
      headers = [] ∨ db.Reads [.orderItem] ∧
        ((∃ i ∈ db.items, i.orderId ∈ headers.map (·.id)) → db.Reads [.orderItemOption]) := by
  constructor
  · rintro ⟨os, h⟩
    by_cases hheaders : headers = []
    · exact .inl hheaders
    · exact .inr (hydrate_reads_of_ok h hheaders)
  · rintro (rfl | ⟨hitems, hopts⟩)
    · exact ⟨[], by simp [hydrate]⟩
    · exact hydrate_ok_of_reads hitems hopts

end Store.Db

/-- A batched read of order headers succeeds exactly when the store can answer it. For headers of
    distinct ids over a store whose lines have distinct ids, it then gives one order per header,
    in the order of the headers: each is its header with exactly the stored lines of that order,
    by ascending id, and each line holds exactly the options chosen on it, by ascending option
    id. -/
theorem hydrate_regroups (db : Db) (headers : List OrderRow)
    (hheaders : (headers.map (·.id)).Nodup) (hlines : (db.ids .orderItem).Nodup) :
    ((∃ os, db.hydrate headers = .ok os) ↔
      headers = [] ∨ db.Reads [.orderItem] ∧
        ((∃ i ∈ db.items, i.orderId ∈ headers.map (·.id)) → db.Reads [.orderItemOption])) ∧
    ∀ os, db.hydrate headers = .ok os → List.Forall₂ db.Hydrated headers os :=
  ⟨Db.hydrate_isOk_iff, fun _ h => Db.hydrate_hydrated hheaders hlines h⟩

/-- A dine-in order of the sample restaurant, placed when the clock starts. -/
def dineInHeader : OrderRow :=
  { id := 1, orderType := .dineIn, orderStatus := .opened, paymentStatus := .unpaid,
    restaurantId := 1, createdAt := clockStart, updatedAt := clockStart }

/-- A line of two sample burgers on that order. -/
def burgerLine : ItemRow :=
  { id := 1, quantity := 2, instructions := none, name := "Burger", price := 9.5, menuItemId := 1,
    orderId := 1 }

/-- A store holding that order and its line, with every table but the table of chosen options. -/
def optionlessDesk : Db :=
  { Db.empty with
    tables := [.restaurant, .menuItem, .modifier, .menuItemModifier, .modifierOption, .order,
      .orderItem],
    restaurants := [sampleRestaurant], menuItems := [sampleMenuItem], orders := [dineInHeader],
    items := [burgerLine], counters := true }

/-- Reading back a stored order with a line, from a store without the table of chosen options,
    gives the store's error and no order. -/
theorem optionless_hydrate_fails :
    optionlessDesk.hydrate [dineInHeader] =
      .error (.query (.noSuchTable "order_item_modifier_option")) := by
  simp [Db.hydrate, optionlessDesk, dineInHeader, burgerLine, Db.select, Db.need, Db.has, Db.byId,
    Db.empty, List.mergeSort_singleton, Table.name]

/-- The store of that order and its line, with every table. -/
def linedDesk : Db := { optionlessDesk with tables := Table.orderTables }

/-- The regrouping applied to the order of the store with every table. -/
theorem linedDesk_regroups :
    ([dineInHeader].map (·.id)).Nodup ∧ (linedDesk.ids .orderItem).Nodup ∧
    ((∃ os, linedDesk.hydrate [dineInHeader] = .ok os) ↔
      [dineInHeader] = [] ∨ linedDesk.Reads [.orderItem] ∧
        ((∃ i ∈ linedDesk.items, i.orderId ∈ [dineInHeader].map (·.id)) →
          linedDesk.Reads [.orderItemOption])) ∧
    ∀ os, linedDesk.hydrate [dineInHeader] = .ok os →
      List.Forall₂ linedDesk.Hydrated [dineInHeader] os :=
  ⟨by decide, by decide, hydrate_regroups linedDesk [dineInHeader] (by decide) (by decide)⟩

/-- A header asked for twice gets its lines the first time only. -/
example :
    linedDesk.hydrate [dineInHeader, dineInHeader] =
      .ok [{ header := dineInHeader, lines := [{ row := burgerLine, options := [] }] },
        { header := dineInHeader, lines := [] }] := by
  simp [Db.hydrate, linedDesk, optionlessDesk, dineInHeader, burgerLine, Db.select, Db.need,
    Db.has, Db.byId, Db.empty, Table.orderTables, Table.catalogTables, Db.claimRows,
    List.mergeSort_singleton]

end OrderDesk
