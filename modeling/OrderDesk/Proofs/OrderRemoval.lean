import OrderDesk.Proofs.OrderFrame

/-!
# Removing an order

A removal of an order header cascades: the lines of the order refer to it and go with it, and
the options chosen on those lines refer to the lines and go with them. With keys enforced, both
tables present and line ids unique (`Db.Cascading`), and with enough fuel for the three levels,
the engine's removal is exactly the order, its lines and their options (`Db.removeRow_order`).

The fuel the store gives a removal is the number of rows plus one, which is enough: a removal
that reaches a line has an order and a line in the database. So deleting an order, when the
store answers, leaves exactly `Db.withoutOrder`, and on a database whose lines all belong to
stored orders a missing order leaves it as it was (`Db.deleteOrder_eq_ok`).

Main statements: `Db.deleteOrder_eq_ok` and, for the service, `deleteOrder_result`.
-/

namespace OrderDesk

open Store

namespace Store.Db

/-- The database without order `k`, its lines and the options chosen on them. -/
def withoutOrder (db : Db) (k : Int) : Db :=
  let lines := (db.items.filter (·.orderId == k)).map (·.id)
  { db with
    orders := db.orders.filter (·.id != k),
    items := db.items.filter (·.orderId != k),
    selections := db.selections.filter fun s => !lines.contains s.itemId }

/-- The database lets the removal of an order cascade into its lines and their options: keys are
    enforced, the tables of lines and of chosen options exist, and no two lines share an id. -/
structure Cascading (db : Db) : Prop where
  keys : db.keysEnforced = true
  lines : Table.orderItem ∈ db.tables
  options : Table.orderItemOption ∈ db.tables
  lineIds : (db.ids .orderItem).Nodup

/-- Keeping some of the lines keeps their ids unique. -/
theorem Cascading.nodup_filter {db : Db} (hc : db.Cascading) (p : ItemRow → Bool) :
    ((db.items.filter p).map (·.id)).Nodup :=
  hc.lineIds.sublist (List.Sublist.map ItemRow.id
    (List.filter_sublist : List.Sublist (db.items.filter p) db.items))

/-! ## The references a removal follows -/

theorem eq_itemOrder_of_mem {db : Db} {r : Reference} (h : r ∈ db.referencesTo .order) :
    r = .itemOrder := by
  obtain ⟨c, -, hc⟩ := List.mem_flatMap.mp h
  cases c <;> cases r <;> simp [Table.references, Reference.parent] at hc ⊢

theorem itemOrder_mem {db : Db} (h : Table.orderItem ∈ db.tables) :
    Reference.itemOrder ∈ db.referencesTo .order :=
  List.mem_flatMap.mpr ⟨.orderItem, List.mem_reverse.mpr h, by decide⟩

theorem eq_selectionItem_of_mem {db : Db} {r : Reference} (h : r ∈ db.referencesTo .orderItem) :
    r = .selectionItem := by
  obtain ⟨c, -, hc⟩ := List.mem_flatMap.mp h
  cases c <;> cases r <;> simp [Table.references, Reference.parent] at hc ⊢

theorem selectionItem_mem {db : Db} (h : Table.orderItemOption ∈ db.tables) :
    Reference.selectionItem ∈ db.referencesTo .orderItem :=
  List.mem_flatMap.mpr ⟨.orderItemOption, List.mem_reverse.mpr h, by decide⟩

/-- A fold that a step leaves fixed, over copies of that step, changes nothing. -/
theorem foldlM_of_fixed {α β ε : Type} {f : α → β → Except ε α} {b : β} {a : α}
    (hfixed : f a b = .ok a) : ∀ {xs : List β}, (∀ x ∈ xs, x = b) → xs.foldlM f a = .ok a
  | [], _ => rfl
  | x :: xs, hall => by
    rw [List.foldlM_cons, hall x List.mem_cons_self, hfixed]
    exact foldlM_of_fixed hfixed fun y hy => hall y (List.mem_cons_of_mem _ hy)

/-- A fold over copies of one step, at least one, whose result the step leaves fixed, is that
    step: a table referring twice to the removed one cascades once. -/
theorem foldlM_of_first_fixed {α β ε : Type} {f : α → β → Except ε α} {b : β} {a a' : α}
    (hfirst : f a b = .ok a') (hfixed : f a' b = .ok a') :
    ∀ {xs : List β}, (∀ x ∈ xs, x = b) → b ∈ xs → xs.foldlM f a = .ok a'
  | [], _, hb => absurd hb List.not_mem_nil
  | x :: xs, hall, _ => by
    rw [List.foldlM_cons, hall x List.mem_cons_self, hfirst]
    exact foldlM_of_fixed hfixed fun y hy => hall y (List.mem_cons_of_mem _ hy)

/-- Removing a row keyed by an id that exists, with keys enforced, removes the row and then
    follows every reference to its table. -/
theorem removeRow_keyed (f : Nat) {db : Db} {t : Table} {k : Int} (hkeys : db.keysEnforced = true)
    (hk : k ∈ db.ids t) :
    db.removeRow (f + 1) (.keyed t k) =
      ((db.remove (.keyed t k)).referencesTo t).foldlM (fun acc r =>
        match r.onDelete with
        | .restrict => if (acc.referencing k r).isEmpty then pure acc else throw .restricted
        | .cascade => (acc.referencing k r).foldlM (removeRow f) acc) (db.remove (.keyed t k)) := by
  have hcontains : db.contains (.keyed t k) = true := by simpa [contains] using hk
  rw [removeRow, if_neg (by simp [hcontains])]
  exact if_neg (by simp [hkeys])

/-! ## Removing chosen options and lines -/

/-- A chosen option has no rows referring to it: its removal is the row alone. -/
theorem removeRow_selection (f : Nat) (db : Db) (i o : Int) :
    db.removeRow (f + 1) (.selection i o) = .ok (db.remove (.selection i o)) := by
  rw [removeRow]
  split
  · rename_i hnone
    have hkept : db.selections.filter (fun s => !(s.itemId == i && s.optionId == o)) =
        db.selections := by
      refine List.filter_eq_self.mpr fun s hs => ?_
      have hno : ¬ (s.itemId = i ∧ s.optionId = o) := by
        rintro ⟨hi, ho⟩
        have hin : db.contains (.selection i o) = true :=
          List.any_eq_true.mpr ⟨s, hs, by simp [hi, ho]⟩
        simp [hin] at hnone
      by_cases hi : s.itemId = i
      · have ho : s.optionId ≠ o := fun ho => hno ⟨hi, ho⟩
        simp [ho]
      · simp [hi]
    simp only [remove, hkept]
    rfl
  · rfl

/-- Removing chosen options one after another removes every option with one of their keys. -/
theorem foldlM_removeSelections (f : Nat) :
    ∀ (sels : List SelectionRow) (acc : Db),
      (sels.map fun s => RowRef.selection s.itemId s.optionId).foldlM (removeRow (f + 1)) acc =
        .ok { acc with selections := acc.selections.filter fun s =>
                !(sels.any fun t => s.itemId == t.itemId && s.optionId == t.optionId) }
  | [], acc => by simp
  | t :: rest, acc => by
    rw [List.map_cons, List.foldlM_cons, removeRow_selection]
    simp only [Except.ok_bind]
    rw [foldlM_removeSelections f rest]
    simp only [remove, List.filter_filter, List.any_cons, Bool.not_or]
    congr 3
    funext s
    exact Bool.and_comm _ _

theorem removeSelections_line (acc : Db) (n : Int) :
    acc.selections.filter (fun s => !((acc.selections.filter (·.itemId == n)).any fun t =>
      s.itemId == t.itemId && s.optionId == t.optionId)) =
      acc.selections.filter (·.itemId != n) := by
  refine List.filter_congr fun s hs => ?_
  by_cases hn : s.itemId = n
  · have hany : (acc.selections.filter (·.itemId == n)).any
        (fun t => s.itemId == t.itemId && s.optionId == t.optionId) = true :=
      List.any_eq_true.mpr ⟨s, List.mem_filter.mpr ⟨hs, by simp [hn]⟩, by simp⟩
    rw [hany]
    simp [hn]
  · have hany : (acc.selections.filter (·.itemId == n)).any
        (fun t => s.itemId == t.itemId && s.optionId == t.optionId) = false := by
      refine List.any_eq_false.mpr fun t ht heq => hn ?_
      have htn : t.itemId = n := by simpa using (List.mem_filter.mp ht).2
      simp only [Bool.and_eq_true, beq_iff_eq] at heq
      rw [heq.1, htn]
    rw [hany]
    simp [hn]

/-- Removing a line removes it and the options chosen on it. -/
theorem removeRow_line (f : Nat) {db : Db} {n : Int} (hc : db.Cascading)
    (hn : n ∈ db.ids .orderItem) :
    db.removeRow (f + 2) (.keyed .orderItem n) =
      .ok { db with items := db.items.filter (·.id != n),
                    selections := db.selections.filter (·.itemId != n) } := by
  rw [removeRow_keyed (f + 1) hc.keys hn]
  have hrefs : (db.remove (.keyed .orderItem n)).referencesTo .orderItem =
      db.referencesTo .orderItem := rfl
  refine foldlM_of_first_fixed ?_ ?_ (fun r hr => eq_selectionItem_of_mem (hrefs ▸ hr))
    (hrefs ▸ selectionItem_mem hc.options)
  · simp only [Reference.onDelete, referencing]
    rw [foldlM_removeSelections]
    simp only [remove, removeSelections_line, hc.keys]
  · have hnone : (db.selections.filter (·.itemId != n)).filter (·.itemId == n) = [] :=
      List.filter_eq_nil_iff.mpr fun s hs => by simpa using (List.mem_filter.mp hs).2
    simp only [Reference.onDelete, referencing, hnone, List.map_nil, List.foldlM_nil]
    rfl

/-- Removing lines one after another removes them and the options chosen on them. -/
theorem foldlM_removeLines (f : Nat) :
    ∀ (lines : List ItemRow) {acc : Db}, (lines ≠ [] → 2 ≤ f) → acc.Cascading →
      (lines.map (·.id)).Nodup → (∀ i ∈ lines, i.id ∈ acc.ids .orderItem) →
      (lines.map fun i => RowRef.keyed .orderItem i.id).foldlM (removeRow f) acc =
        .ok { acc with
          items := acc.items.filter fun i => !(lines.map (·.id)).contains i.id,
          selections := acc.selections.filter fun s => !(lines.map (·.id)).contains s.itemId }
  | [], acc, _, _, _, _ => by simp
  | i :: rest, acc, hfuel, hc, hnodup, hmem => by
    obtain ⟨f, rfl⟩ : ∃ f', f = f' + 2 := ⟨f - 2, by have := hfuel (List.cons_ne_nil _ _); omega⟩
    rw [List.map_cons, List.foldlM_cons, removeRow_line f hc (hmem i List.mem_cons_self)]
    simp only [Except.ok_bind]
    have hfresh : i.id ∉ rest.map (·.id) := (List.nodup_cons.mp hnodup).1
    -- what is left still cascades, and still holds the lines yet to remove
    have hc' : Cascading
        { acc with items := acc.items.filter (·.id != i.id),
                   selections := acc.selections.filter (·.itemId != i.id) } :=
      ⟨hc.keys, hc.lines, hc.options, hc.nodup_filter _⟩
    have hmem' : ∀ j ∈ rest, j.id ∈ (acc.items.filter (·.id != i.id)).map (·.id) := by
      intro j hj
      obtain ⟨x, hx, hxj⟩ := List.mem_map.mp (hmem j (List.mem_cons_of_mem _ hj))
      have hne : j.id ≠ i.id := fun heq => hfresh (heq ▸ List.mem_map_of_mem hj)
      exact List.mem_map.mpr ⟨x, List.mem_filter.mpr ⟨hx, by simpa [hxj] using hne⟩, hxj⟩
    rw [foldlM_removeLines (f + 2) rest (fun _ => by omega) hc' (List.nodup_cons.mp hnodup).2
      hmem']
    simp only [List.filter_filter, List.map_cons, List.contains_cons, Bool.not_or]
    congr 3 <;> funext x <;> exact Bool.and_comm _ _

/-! ## Removing an order -/

/-- A line of order `k` has an id among the ids of the lines of `k`. -/
theorem mem_orderLineIds {db : Db} {k : Int} {i : ItemRow} (hi : i ∈ db.items)
    (hk : i.orderId = k) : i.id ∈ (db.items.filter (·.orderId == k)).map (·.id) :=
  List.mem_map_of_mem (List.mem_filter.mpr ⟨hi, by simpa using hk⟩)

/-- With unique line ids, a line whose id is one of order `k`'s is a line of `k`. -/
theorem orderId_of_mem_orderLineIds {db : Db} {k : Int} (hc : db.Cascading) {i : ItemRow}
    (hi : i ∈ db.items) (hmem : i.id ∈ (db.items.filter (·.orderId == k)).map (·.id)) :
    i.orderId = k := by
  obtain ⟨j, hj, hid⟩ := List.mem_map.mp hmem
  obtain ⟨hj, hjk⟩ := List.mem_filter.mp hj
  have hij : j = i := List.inj_on_of_nodup_map hc.lineIds hj hi hid
  simpa [hij] using hjk

/-- With keys enforced and fuel for its three levels, removing an order removes it, its lines
    and the options chosen on them. -/
theorem removeRow_order (f : Nat) {db : Db} {k : Int} (hc : db.Cascading)
    (hk : k ∈ db.ids .order) (hfuel : (∃ i ∈ db.items, i.orderId = k) → 2 ≤ f) :
    db.removeRow (f + 1) (.keyed .order k) = .ok (db.withoutOrder k) := by
  rw [removeRow_keyed f hc.keys hk]
  have hrefs : (db.remove (.keyed .order k)).referencesTo .order = db.referencesTo .order := rfl
  set lines := db.items.filter (·.orderId == k) with hlines
  have hc' : (db.remove (.keyed .order k)).Cascading := ⟨hc.keys, hc.lines, hc.options, hc.lineIds⟩
  refine foldlM_of_first_fixed ?_ ?_ (fun r hr => eq_itemOrder_of_mem (hrefs ▸ hr))
    (hrefs ▸ itemOrder_mem hc.lines)
  · simp only [Reference.onDelete, referencing]
    have hfuel' : lines ≠ [] → 2 ≤ f := fun hne => by
      obtain ⟨i, hi⟩ := List.exists_mem_of_ne_nil _ hne
      exact hfuel ⟨i, (List.mem_filter.mp hi).1, by simpa using (List.mem_filter.mp hi).2⟩
    have hnodup : (lines.map (·.id)).Nodup := hc.nodup_filter _
    have hmem : ∀ i ∈ lines, i.id ∈ (db.remove (.keyed .order k)).ids .orderItem :=
      fun i hi => List.mem_map_of_mem (List.mem_filter.mp hi).1
    rw [show (db.remove (.keyed .order k)).items = db.items from rfl,
      foldlM_removeLines f lines hfuel' hc' hnodup hmem]
    simp only [withoutOrder, remove, Except.ok.injEq]
    congr 1
    refine List.filter_congr fun i hi => ?_
    by_cases hik : i.orderId = k
    · have hmine : i.id ∈ lines.map (·.id) := mem_orderLineIds hi hik
      simp [hik, hmine]
    · have hnot : i.id ∉ lines.map (·.id) := fun hmem =>
        hik (orderId_of_mem_orderLineIds hc hi hmem)
      simp [hik, hnot]
  · have hnone : (db.items.filter (·.orderId != k)).filter (·.orderId == k) = [] :=
      List.filter_eq_nil_iff.mpr fun i hi => by simpa using (List.mem_filter.mp hi).2
    simp only [withoutOrder, Reference.onDelete, referencing, hnone, List.map_nil,
      List.foldlM_nil]
    rfl

/-- The rows of the order, line and chosen-option tables bound the removal's fuel. -/
theorem orders_add_items_le_rowCount (db : Db) :
    db.orders.length + db.items.length ≤ db.rowCount := by
  simp only [rowCount, Table.all, List.map_cons, List.map_nil, List.foldl_cons, List.foldl_nil,
    size, ids, List.length_map]
  omega

/-- The fuel the store gives a removal, the number of rows plus one, reaches the options chosen
    on the lines of an order. -/
theorem removeRow_order_rowCount {db : Db} {k : Int} (hc : db.Cascading)
    (hk : k ∈ db.ids .order) :
    db.removeRow (db.rowCount + 1) (.keyed .order k) = .ok (db.withoutOrder k) := by
  have hfuel : (∃ i ∈ db.items, i.orderId = k) → 2 ≤ db.rowCount := by
    rintro ⟨i, hi, -⟩
    have hbound := orders_add_items_le_rowCount db
    have horders : 0 < db.orders.length :=
      List.length_pos_of_mem (List.mem_map.mp hk).choose_spec.1
    have hitems : 0 < db.items.length := List.length_pos_of_mem hi
    omega
  exact removeRow_order db.rowCount hc hk hfuel

/-- On a database whose lines all belong to stored orders, removing a missing order removes
    nothing. -/
theorem withoutOrder_of_not_mem {db : Db} {k : Int} (hl : db.Linked) (hk : k ∉ db.ids .order) :
    db.withoutOrder k = db := by
  have hnone : ∀ i ∈ db.items, i.orderId ≠ k := fun i hi heq => hk (heq ▸ hl.items i hi)
  have hitems : db.items.filter (·.orderId == k) = [] :=
    List.filter_eq_nil_iff.mpr fun i hi => by simpa using hnone i hi
  have horders : db.orders.filter (·.id != k) = db.orders :=
    List.filter_eq_self.mpr fun o ho => by
      have hne : o.id ≠ k := fun heq => hk (heq ▸ List.mem_map_of_mem ho)
      simpa using hne
  have hkept : db.items.filter (·.orderId != k) = db.items :=
    List.filter_eq_self.mpr fun i hi => by simpa using hnone i hi
  simp only [withoutOrder, hitems, horders, hkept, List.map_nil, List.contains_nil,
    Bool.not_false, List.filter_true]

/-- Deleting an order, when the store answers, leaves the database without the order, its lines
    and their chosen options. -/
theorem deleteOrder_eq_ok {db db' : Db} {k : Int} {found : Bool} (hc : db.Cascading)
    (hl : db.Linked) (hr : db.deleteOrder k = .ok (found, db')) : db' = db.withoutOrder k := by
  obtain ⟨n, hremoved⟩ := deleteOrder_removeOne hr
  rcases removeByKey_eq_ok (removeOne_eq_ok hremoved) with ⟨hcontains, hrow⟩ | ⟨hcontains, hsame⟩
  · have hk : k ∈ db.ids .order := by simpa [contains] using hcontains
    rw [removeRow_order_rowCount hc hk] at hrow
    exact (Except.ok.inj hrow).symm
  · have hk : k ∉ db.ids .order := by simpa [contains] using hcontains
    rw [hsame, withoutOrder_of_not_mem hl hk]

/-! ## What the removal keeps -/

theorem withoutOrder_linked {db : Db} {k : Int} (hl : db.Linked) :
    (db.withoutOrder k).Linked := by
  constructor
  · intro i hi
    obtain ⟨hi, hik⟩ := List.mem_filter.mp hi
    have hik : i.orderId ≠ k := by simpa using hik
    obtain ⟨o, ho, hoi⟩ := List.mem_map.mp (hl.items i hi)
    exact List.mem_map.mpr ⟨o, List.mem_filter.mpr ⟨ho, by simpa [hoi] using hik⟩, hoi⟩
  · intro s hs
    obtain ⟨hs, hsk⟩ := List.mem_filter.mp hs
    obtain ⟨i, hi, his⟩ := List.mem_map.mp (hl.selections s hs)
    have hik : i.orderId ≠ k := fun heq => by
      have hmine := mem_orderLineIds hi heq
      rw [his] at hmine
      simp [hmine] at hsk
    exact List.mem_map.mpr ⟨i, List.mem_filter.mpr ⟨hi, by simpa using hik⟩, his⟩

theorem withoutOrder_cascading {db : Db} {k : Int} (hc : db.Cascading) :
    (db.withoutOrder k).Cascading :=
  ⟨hc.keys, hc.lines, hc.options, hc.nodup_filter _⟩

end Store.Db

/-- Deleting an order leaves the database as it was, or without the order, its lines and their
    chosen options. -/
theorem deleteOrder_result {db : Db} (hc : db.Cascading) (hl : db.Linked) (k : Int) :
    (deleteOrder k db).2 = db ∨ (deleteOrder k db).2 = db.withoutOrder k := by
  unfold deleteOrder
  split
  · exact .inl rfl
  · rename_i found db' hr
    exact .inr (Db.deleteOrder_eq_ok hc hl hr)

end OrderDesk
