import OrderDesk.Proofs.ReadBack
import OrderDesk.Session.Run

/-!
# What later steps leave of an order

Reading an order looks at its header, its lines and the options chosen on them, and at nothing
else of the database but the tables that exist and whether the store is open
(`Db.SameOrder`, `Db.getOrder_congr`). A catalog row is not among them: the order keeps the
names and prices it was written with.

So the order reads the same after any later session step that does not touch it
(`Session.Step.Spares`): a read; a change or a load of catalog rows; the removal of a menu item,
group, link or option, which may cascade only into catalog rows and links and is refused while a
line names the row; the creation of another order, whose rows are all new; the change or
removal of another order; and a request over HTTP that changes or removes no order but another
one (`Http.Request.orderChanged`, `Db.Keeps.handle`). A removal of another order cascades into
its lines and their options; none of them is one of this order's lines as long as no line of
another order has the id of one of this order's lines (`Db.OwnsLines`), which every step keeps.

Main statement: `createOrder_read_back`, the order created and read back keeps the request, and
every later step that spares it leaves it reading the same.
-/

namespace OrderDesk

open Store

namespace Store.Db

/-- The ids of the lines a read of order `oid` finds. -/
def lineIds (db : Db) (oid : Int) : List Int := (db.linesOfOrders [oid]).map (·.id)

/-- Database `db` holds order `oid` as `d0` does, for a read: the store is open or closed alike,
    the tables are the same, the header found under `oid` is the same, and so are the lines of
    the order and the options chosen on them. -/
structure SameOrder (oid : Int) (d0 db : Db) : Prop where
  closed : db.closed = d0.closed
  tables : db.tables = d0.tables
  header : db.orders.find? (·.id == oid) = d0.orders.find? (·.id == oid)
  lines : db.items.filter (fun i => [oid].contains i.orderId) =
    d0.items.filter (fun i => [oid].contains i.orderId)
  options : db.selections.filter (fun s => (d0.lineIds oid).contains s.itemId) =
    d0.selections.filter (fun s => (d0.lineIds oid).contains s.itemId)

theorem SameOrder.refl (oid : Int) (d0 : Db) : SameOrder oid d0 d0 :=
  ⟨rfl, rfl, rfl, rfl, rfl⟩

theorem need_congr {db d0 : Db} (h : db.tables = d0.tables) :
    ∀ tables : List Table, db.need tables = d0.need tables
  | [] => rfl
  | t :: rest => by
    unfold need has
    rw [h, need_congr h rest]

theorem select_congr {α : Type} {db d0 : Db} (hclosed : db.closed = d0.closed)
    (htables : db.tables = d0.tables) (tables : List Table) {f : Db → α} (hf : f db = f d0) :
    db.select tables f = d0.select tables f := by
  simp only [select, hclosed, need_congr htables, hf]

/-- A read of a header whose id is `oid` sees only what `SameOrder` keeps. -/
theorem hydrate_congr {oid : Int} {d0 db : Db} (h : SameOrder oid d0 db) {row : OrderRow}
    (hrow : row.id = oid) : db.hydrate [row] = d0.hydrate [row] := by
  have hlines : byId (·.id) (db.items.filter fun i => [oid].contains i.orderId) =
      byId (·.id) (d0.items.filter fun i => [oid].contains i.orderId) := by
    rw [h.lines]
  unfold hydrate
  simp only [List.map_cons, List.map_nil, hrow, List.isEmpty_cons, Bool.false_eq_true,
    if_false]
  rw [select_congr h.closed h.tables [.orderItem] hlines]
  refine Except.bind_congr_ok fun items hitems => ?_
  obtain ⟨-, -, rfl⟩ := select_eq_ok.mp hitems
  have hopts := h.options
  simp only [lineIds, linesOfOrders] at hopts
  rw [select_congr h.closed h.tables [.orderItemOption] (by rw [hopts])]

/-- Reading order `oid` sees only what `SameOrder` keeps. -/
theorem getOrder_congr {oid : Int} {d0 db : Db} (h : SameOrder oid d0 db) :
    db.getOrder oid = d0.getOrder oid := by
  unfold getOrder findOrder
  rw [select_congr h.closed h.tables [.order] h.header]
  refine Except.bind_congr_ok fun found hfound => ?_
  obtain ⟨-, -, rfl⟩ := select_eq_ok.mp hfound
  split
  · rfl
  · rename_i row hrow
    rw [hydrate_congr h (by simpa using List.find?_some hrow)]

/-- No line in `db` has the id of one of the lines of order `oid` as `d0` holds it, unless it is
    a line of that order. -/
def OwnsLines (oid : Int) (d0 db : Db) : Prop :=
  ∀ i ∈ db.items, i.id ∈ d0.lineIds oid → i.orderId = oid

/-- What a step that spares order `oid` keeps: the order reads as in `d0`, and its lines' ids
    are its own. -/
structure Keeps (oid : Int) (d0 db : Db) : Prop where
  same : SameOrder oid d0 db
  owns : OwnsLines oid d0 db

/-- The order tables, the table list and the pool state are those of `db`: a step that changes
    only catalog rows, id counters or the clock leaves these. -/
structure OrderRowsKept (db db' : Db) : Prop where
  orders : db'.orders = db.orders
  items : db'.items = db.items
  selections : db'.selections = db.selections
  tables : db'.tables = db.tables
  closed : db'.closed = db.closed

theorem OrderRowsKept.refl (db : Db) : OrderRowsKept db db := ⟨rfl, rfl, rfl, rfl, rfl⟩

theorem OrderRowsKept.trans {db db' db'' : Db} (h : OrderRowsKept db db')
    (h' : OrderRowsKept db' db'') : OrderRowsKept db db'' :=
  ⟨h'.orders.trans h.orders, h'.items.trans h.items, h'.selections.trans h.selections,
    h'.tables.trans h.tables, h'.closed.trans h.closed⟩

theorem Keeps.of_rowsKept {oid : Int} {d0 db db' : Db} (h : Keeps oid d0 db)
    (hk : OrderRowsKept db db') : Keeps oid d0 db' := by
  obtain ⟨⟨hclosed, htables, hheader, hlines, hopts⟩, howns⟩ := h
  refine ⟨⟨?_, ?_, ?_, ?_, ?_⟩, ?_⟩
  · rw [hk.closed, hclosed]
  · rw [hk.tables, htables]
  · rw [hk.orders, hheader]
  · rw [hk.items, hlines]
  · rw [hk.selections, hopts]
  · intro i hi
    exact howns i (hk.items ▸ hi)

/-- Every line of order `oid` in `db` has one of the ids `d0` reads for it. -/
theorem SameOrder.mem_lineIds {oid : Int} {d0 db : Db} (h : SameOrder oid d0 db) {i : ItemRow}
    (hi : i ∈ db.items) (horder : i.orderId = oid) : i.id ∈ d0.lineIds oid := by
  have hmem : i ∈ d0.items.filter (fun i => [oid].contains i.orderId) := by
    rw [← h.lines]
    simp [hi, horder]
  have hid : i.id ∈ (d0.items.filter (fun i => [oid].contains i.orderId)).map (·.id) :=
    List.mem_map_of_mem hmem
  simpa [lineIds, linesOfOrders, byId] using hid

/-! ## Removals that spare an order -/

/-- The rows whose removal spares order `oid` with its lines `ours`: catalog rows that only
    catalog rows and links depend on, another order, a line not among `ours`, and an option
    chosen on such a line. -/
def Spared (ours : List Int) (oid : Int) : RowRef → Prop
  | .keyed .menuItem _ | .keyed .modifier _ | .keyed .modifierOption _ | .link _ _ => True
  | .keyed .order k => k ≠ oid
  | .keyed .orderItem k => k ∉ ours
  | .selection i _ => i ∉ ours
  | _ => False

theorem find?_filter_of_imp {α : Type} {p q : α → Bool} {xs : List α}
    (h : ∀ a, q a = true → p a = true) : (xs.filter p).find? q = xs.find? q := by
  rw [List.find?_filter]
  congr
  funext a
  by_cases hq : q a = true
  · simp [hq, h a hq]
  · simp [hq]

/-- Removing a spared row keeps what a read of the order sees. -/
theorem Keeps.remove {oid : Int} {d0 db : Db} (h : Keeps oid d0 db) {row : RowRef}
    (hrow : Spared (d0.lineIds oid) oid row) : Keeps oid d0 (db.remove row) := by
  obtain ⟨⟨hclosed, htables, hheader, hlines, hopts⟩, howns⟩ := h
  have hsame : SameOrder oid d0 db := ⟨hclosed, htables, hheader, hlines, hopts⟩
  match row, hrow with
  | .keyed .menuItem _, _ | .keyed .modifier _, _ | .keyed .modifierOption _, _ | .link _ _, _ =>
    exact Keeps.of_rowsKept ⟨hsame, howns⟩ ⟨rfl, rfl, rfl, rfl, rfl⟩
  | .keyed .order k, hk =>
    refine ⟨⟨hclosed, htables, ?_, hlines, hopts⟩, howns⟩
    rw [Db.remove, find?_filter_of_imp fun o ho => ?_, hheader]
    simp only [beq_iff_eq] at ho
    simpa [ho] using Ne.symm hk
  | .keyed .orderItem k, hk =>
    refine ⟨⟨hclosed, htables, hheader, ?_, hopts⟩, fun i hi => howns i (List.mem_filter.mp hi).1⟩
    rw [Db.remove, List.filter_filter, ← hlines]
    refine List.filter_congr fun i hi => ?_
    by_cases horder : i.orderId = oid
    · have hid : i.id ≠ k := fun heq => hk (heq ▸ hsame.mem_lineIds hi horder)
      simp [horder, hid]
    · simp [horder]
  | .selection i _, hi =>
    refine ⟨⟨hclosed, htables, hheader, hlines, ?_⟩, howns⟩
    rw [Db.remove, List.filter_filter, ← hopts]
    refine List.filter_congr fun s _ => ?_
    by_cases hmine : s.itemId ∈ d0.lineIds oid
    · have hne : s.itemId ≠ i := fun heq => hi (heq ▸ hmine)
      simp [hmine, hne]
    · simp [hmine]

theorem mem_referencesTo {db : Db} {t : Table} {r : Reference} (h : r ∈ db.referencesTo t) :
    r.parent = t := by
  obtain ⟨_, -, h⟩ := List.mem_flatMap.mp h
  simpa using (List.mem_filter.mp h).2

/-- The rows a removal of a spared row cascades into are spared. -/
theorem referencing_spared {oid : Int} {ours : List Int} {acc : Db} {t : Table} {k : Int}
    (hrow : Spared ours oid (.keyed t k)) {r : Reference} (hparent : r.parent = t)
    (hcascade : r.onDelete = .cascade) (howns : ∀ i ∈ acc.items, i.id ∈ ours → i.orderId = oid) :
    ∀ c ∈ acc.referencing k r, Spared ours oid c := by
  intro c hc
  cases r <;> simp only [Reference.parent, Reference.onDelete, reduceCtorEq] at hparent hcascade <;>
    subst hparent <;> simp only [Spared] at hrow <;> obtain ⟨x, hx, rfl⟩ := List.mem_map.mp hc <;>
    simp only [Spared]
  · intro hmine
    obtain ⟨hx, hxk⟩ := List.mem_filter.mp hx
    exact hrow ((beq_iff_eq.mp hxk) ▸ howns x hx hmine)
  · obtain ⟨-, hxk⟩ := List.mem_filter.mp hx
    rw [beq_iff_eq.mp hxk]
    exact hrow

/-- A fold of the error monad keeps an invariant that each of its steps keeps. -/
theorem foldlM_invariant {α β ε : Type} {P : α → Prop} {f : α → β → Except ε α} :
    ∀ {xs : List β} {a r : α}, (∀ a b a', b ∈ xs → P a → f a b = .ok a' → P a') →
      P a → xs.foldlM f a = .ok r → P r
  | [], a, r, _, ha, h => by
    simp only [List.foldlM_nil, Except.pure_eq_ok, Except.ok.injEq] at h
    exact h ▸ ha
  | b :: xs, a, r, hf, ha, h => by
    rw [List.foldlM_cons] at h
    obtain ⟨a', hfa, h⟩ := Except.bind_eq_ok.mp h
    exact foldlM_invariant (fun a b a' hb => hf a b a' (List.mem_cons_of_mem _ hb))
      (hf a b a' List.mem_cons_self ha hfa) h

/-- Removing a spared row, with whatever it cascades into, keeps what a read of the order
    sees. The induction is on the depth of the cascade; each level removes spared rows only. -/
theorem Keeps.removeRow {oid : Int} {d0 : Db} :
    ∀ (fuel : Nat) {db db' : Db} {row : RowRef}, Keeps oid d0 db →
      Spared (d0.lineIds oid) oid row → db.removeRow fuel row = .ok db' → Keeps oid d0 db'
  | 0, db, db', row, h, _, hr => by
    simp only [Db.removeRow, Except.pure_eq_ok, Except.ok.injEq] at hr
    exact hr ▸ h
  | fuel + 1, db, db', row, h, hrow, hr => by
    unfold Db.removeRow at hr
    have hremoved := h.remove hrow
    split at hr
    · simp only [Except.pure_eq_ok, Except.ok.injEq] at hr
      exact hr ▸ h
    dsimp only at hr
    split at hr
    · simp only [Except.pure_eq_ok, Except.ok.injEq] at hr
      exact hr ▸ hremoved
    rename_i k hk
    split at hr
    · simp only [Except.pure_eq_ok, Except.ok.injEq] at hr
      exact hr ▸ hremoved
    obtain ⟨t, rfl⟩ : ∃ t, row = .keyed t k := by
      cases row with
      | keyed t k' => exact ⟨t, by simpa [RowRef.id?] using hk⟩
      | link => simp [RowRef.id?] at hk
      | selection => simp [RowRef.id?] at hk
    refine foldlM_invariant (fun acc r acc' hr' hacc hstep => ?_) hremoved hr
    have hparent := mem_referencesTo hr'
    split at hstep
    · split at hstep
      · simp only [Except.pure_eq_ok, Except.ok.injEq] at hstep
        exact hstep ▸ hacc
      · simp at hstep
    · rename_i hcascade
      exact foldlM_invariant (fun acc c acc' hc hacc' hstep' =>
        Keeps.removeRow fuel hacc'
          (referencing_spared hrow hparent hcascade hacc.owns c hc) hstep') hacc hstep

/-- A removal that went through removed the row, with what cascades from it, when the row
    existed, and nothing otherwise. -/
theorem removeByKey_eq_ok {db db' : Db} {row : RowRef} {n : Nat}
    (h : db.removeByKey row = .ok (n, db')) :
    (db.contains row = true ∧ db.removeRow (db.rowCount + 1) row = .ok db') ∨
      (db.contains row = false ∧ db' = db) := by
  unfold Db.removeByKey at h
  obtain ⟨_, -, h⟩ := Except.bind_eq_ok.mp h
  obtain ⟨_, -, h⟩ := Except.bind_eq_ok.mp h
  split at h
  · rename_i hcontains
    obtain ⟨db'', hremoved, h⟩ := Except.bind_eq_ok.mp h
    simp only [Except.pure_eq_ok, Except.ok.injEq, Prod.mk.injEq] at h
    exact .inl ⟨hcontains, h.2 ▸ hremoved⟩
  · rename_i hcontains
    simp only [Except.pure_eq_ok, Except.ok.injEq, Prod.mk.injEq] at h
    exact .inr ⟨by simpa using hcontains, h.2.symm⟩

/-- A statement run for its effect that went through ran on an open store. -/
theorem removeOne_eq_ok {db : Db} {row : RowRef} {r : Nat × Db} (h : db.removeOne row = .ok r) :
    db.removeByKey row = .ok r := by
  unfold Db.removeOne Db.execute at h
  split at h
  · cases h
  · exact Except.mapError_eq_ok.mp h

/-- Deleting an order that went through removed the row of its header. -/
theorem deleteOrder_removeOne {db db' : Db} {k : Int} {found : Bool}
    (h : db.deleteOrder k = .ok (found, db')) :
    ∃ n, db.removeOne (.keyed .order k) = .ok (n, db') := by
  unfold Db.deleteOrder at h
  obtain ⟨⟨n, db''⟩, hremoved, h⟩ := Except.bind_eq_ok.mp h
  simp only [Except.pure_eq_ok, Except.ok.injEq, Prod.mk.injEq] at h
  exact ⟨n, h.2 ▸ hremoved⟩

theorem Keeps.removeByKey {oid : Int} {d0 db db' : Db} {row : RowRef} {n : Nat}
    (h : Keeps oid d0 db) (hrow : Spared (d0.lineIds oid) oid row)
    (hr : db.removeByKey row = .ok (n, db')) : Keeps oid d0 db' := by
  rcases removeByKey_eq_ok hr with ⟨-, hremoved⟩ | ⟨-, rfl⟩
  · exact h.removeRow _ hrow hremoved
  · exact h

theorem Keeps.removeOne {oid : Int} {d0 db db' : Db} {row : RowRef} {n : Nat}
    (h : Keeps oid d0 db) (hrow : Spared (d0.lineIds oid) oid row)
    (hr : db.removeOne row = .ok (n, db')) : Keeps oid d0 db' :=
  h.removeByKey hrow (removeOne_eq_ok hr)

/-- Removing another order cascades only into its own lines and their options. -/
theorem Keeps.deleteOrder {oid : Int} {d0 db db' : Db} {k : Int} {found : Bool}
    (h : Keeps oid d0 db) (hk : k ≠ oid) (hr : db.deleteOrder k = .ok (found, db')) :
    Keeps oid d0 db' := by
  obtain ⟨n, hremoved⟩ := deleteOrder_removeOne hr
  exact @Keeps.removeOne oid d0 db db' (.keyed .order k) n h hk hremoved

/-! ## Catalog changes -/

/-- An accepted row changes only the id counters. -/
theorem acceptRow_rowsKept {db db' : Db} {t : Table} {id? : Option Int}
    {refs : List (Reference × Int)} {id : Int} (h : db.acceptRow t id? refs = .ok (id, db')) :
    OrderRowsKept db db' := by
  unfold acceptRow at h
  obtain ⟨_, -, h⟩ := Except.bind_eq_ok.mp h
  obtain ⟨_, -, h⟩ := Except.bind_eq_ok.mp h
  dsimp only at h
  split at h
  · simp at h
  · obtain ⟨_, -, h⟩ := Except.bind_eq_ok.mp h
    simp only [Except.pure_eq_ok, Except.ok.injEq, Prod.mk.injEq] at h
    rw [← h.2]
    exact ⟨rfl, rfl, rfl, rfl, rfl⟩

/-- An insert that accepts its row and then adds it to a catalog list changes no order row. -/
theorem rowsKept_of_acceptRow {α : Type} {db db' : Db} {t : Table} {id? : Option Int}
    {refs : List (Reference × Int)} {g : Int × Db → Except EngineFault (α × Db)} {x : α}
    (hg : ∀ id d1 y d', g (id, d1) = .ok (y, d') → OrderRowsKept d1 d')
    (h : (db.acceptRow t id? refs >>= g) = .ok (x, db')) : OrderRowsKept db db' := by
  obtain ⟨⟨id, d1⟩, haccept, h⟩ := Except.bind_eq_ok.mp h
  exact (acceptRow_rowsKept haccept).trans (hg id d1 x db' h)

theorem insertEach_rowsKept {α : Type} {ins : Db → α → Except EngineFault Db}
    (hins : ∀ d x d', ins d x = .ok d' → OrderRowsKept d d') :
    ∀ (db : Db) (xs : List α), OrderRowsKept db (insertEach ins db xs).2
  | db, [] => OrderRowsKept.refl db
  | db, x :: rest => by
    unfold insertEach
    split
    · rename_i d' hd'
      exact (hins db x d' hd').trans (insertEach_rowsKept hins d' rest)
    · exact OrderRowsKept.refl db

theorem thenEach_rowsKept {α : Type} {ins : Db → α → Except EngineFault Db}
    (hins : ∀ d x d', ins d x = .ok d' → OrderRowsKept d d') {db : Db}
    {acc : Option EngineFault × Db} (hacc : OrderRowsKept db acc.2) (xs : List α) :
    OrderRowsKept db (thenEach acc ins xs).2 := by
  unfold thenEach
  split
  · exact hacc
  · exact hacc.trans (insertEach_rowsKept hins _ xs)

theorem insertRestaurant_rowsKept {db db' : Db} {id? : Option Int} {name currency : String}
    {r : Restaurant} (h : db.insertRestaurant id? name currency = .ok (r, db')) :
    OrderRowsKept db db' :=
  rowsKept_of_acceptRow (fun _ _ _ _ hg => by
    simp only [Except.pure_eq_ok, Except.ok.injEq, Prod.mk.injEq] at hg
    exact hg.2 ▸ ⟨rfl, rfl, rfl, rfl, rfl⟩) h

theorem insertMenuItem_rowsKept {db db' : Db} {id? : Option Int} {m m' : MenuItem}
    (h : db.insertMenuItem id? m = .ok (m', db')) : OrderRowsKept db db' :=
  rowsKept_of_acceptRow (fun _ _ _ _ hg => by
    simp only [Except.pure_eq_ok, Except.ok.injEq, Prod.mk.injEq] at hg
    exact hg.2 ▸ ⟨rfl, rfl, rfl, rfl, rfl⟩) h

theorem insertGroup_rowsKept {db db' : Db} {id? : Option Int} {g g' : ModifierGroup}
    (h : db.insertGroup id? g = .ok (g', db')) : OrderRowsKept db db' :=
  rowsKept_of_acceptRow (fun _ _ _ _ hg => by
    simp only [Except.pure_eq_ok, Except.ok.injEq, Prod.mk.injEq] at hg
    exact hg.2 ▸ ⟨rfl, rfl, rfl, rfl, rfl⟩) h

theorem insertOption_rowsKept {db db' : Db} {id? : Option Int} {o o' : ModifierOption}
    (h : db.insertOption id? o = .ok (o', db')) : OrderRowsKept db db' :=
  rowsKept_of_acceptRow (fun _ _ _ _ hg => by
    simp only [Except.pure_eq_ok, Except.ok.injEq, Prod.mk.injEq] at hg
    exact hg.2 ▸ ⟨rfl, rfl, rfl, rfl, rfl⟩) h

theorem insertLink_rowsKept {db db' : Db} {l : Link} (h : db.insertLink l = .ok db') :
    OrderRowsKept db db' := by
  unfold insertLink at h
  obtain ⟨_, -, h⟩ := Except.bind_eq_ok.mp h
  obtain ⟨_, -, h⟩ := Except.bind_eq_ok.mp h
  split at h
  · simp at h
  · obtain ⟨_, -, h⟩ := Except.bind_eq_ok.mp h
    simp only [Except.pure_eq_ok, Except.ok.injEq] at h
    rw [← h]
    exact ⟨rfl, rfl, rfl, rfl, rfl⟩

/-- The bulk insert of catalog rows of one kind. -/
theorem mapInsert_rowsKept {β : Type} {insert : Db → Except EngineFault (β × Db)} {d d' : Db}
    (hins : ∀ y d'', insert d = .ok (y, d'') → OrderRowsKept d d'')
    (h : (·.2) <$> insert d = .ok d') : OrderRowsKept d d' := by
  obtain ⟨⟨y, d''⟩, hd, rfl⟩ := Except.map_eq_ok.mp h
  exact hins y d'' hd

/-- Loading catalog rows changes no order row, whether the load goes through or stops. -/
theorem loadCatalog_rowsKept (db : Db) (rows : CatalogRows) :
    OrderRowsKept db (db.loadCatalog rows).2 := by
  unfold loadCatalog
  split
  · exact OrderRowsKept.refl db
  · have hstart : OrderRowsKept db { db with keysEnforced := false } := ⟨rfl, rfl, rfl, rfl, rfl⟩
    refine (thenEach_rowsKept ?options (thenEach_rowsKept ?links (thenEach_rowsKept ?groups
      (thenEach_rowsKept ?items (hstart.trans (insertEach_rowsKept ?restaurants _ _)) _) _) _)
      _).trans ⟨rfl, rfl, rfl, rfl, rfl⟩
    case restaurants =>
      exact fun d r d' h => @mapInsert_rowsKept _
        (fun d => d.insertRestaurant (some r.id) r.name r.currency) d d'
        (fun _ _ => insertRestaurant_rowsKept) h
    case items =>
      exact fun d m d' h => @mapInsert_rowsKept _ (fun d => d.insertMenuItem (some m.id) m) d d'
        (fun _ _ => insertMenuItem_rowsKept) h
    case groups =>
      exact fun d g d' h => @mapInsert_rowsKept _ (fun d => d.insertGroup (some g.id) g) d d'
        (fun _ _ => insertGroup_rowsKept) h
    case links => exact fun d _ _ h => insertLink_rowsKept h
    case options =>
      exact fun d o d' h => @mapInsert_rowsKept _ (fun d => d.insertOption (some o.id) o) d d'
        (fun _ _ => insertOption_rowsKept) h

/-- A change of a menu item that found the item replaces it in the list of menu items, after
    checking the restaurant it names when it names one. -/
theorem changeMenuItem_eq_ok {db db' : Db} {id : Int} {c : MenuItemChange}
    (h : db.changeMenuItem id c = .ok (some db')) :
    ∃ m, db' = { db with menuItems := db.menuItems.map fun x => if x.id == id then m else x } := by
  dsimp only [changeMenuItem] at h
  obtain ⟨_, -, h⟩ := Except.bind_eq_ok.mp h
  split at h
  · obtain ⟨⟨_, db''⟩, hret, h⟩ := Except.bind_eq_ok.mp h
    simp only [Except.pure_eq_ok, Except.ok.injEq, Option.some.injEq] at h
    subst h
    obtain ⟨-, hstmt⟩ := returning_eq_ok.mp hret
    repeat' split at hstmt
    · simp at hstmt
    · obtain ⟨_, -, hstmt⟩ := Except.bind_eq_ok.mp hstmt
      exact ⟨_, by simpa using hstmt.symm⟩
    · exact ⟨_, by simpa using hstmt.symm⟩
    · exact ⟨_, by simpa using hstmt.symm⟩
  · simp at h

/-- A change of a modifier group that found the group replaces it in the list of groups. -/
theorem changeGroup_eq_ok {db db' : Db} {id : Int} {c : GroupChange}
    (h : db.changeGroup id c = .ok (some db')) :
    ∃ g, db' = { db with groups := db.groups.map fun x => if x.id == id then g else x } := by
  dsimp only [changeGroup] at h
  obtain ⟨_, -, h⟩ := Except.bind_eq_ok.mp h
  split at h
  · obtain ⟨⟨_, db''⟩, hret, h⟩ := Except.bind_eq_ok.mp h
    simp only [Except.pure_eq_ok, Except.ok.injEq, Option.some.injEq] at h
    subst h
    obtain ⟨-, hstmt⟩ := returning_eq_ok.mp hret
    exact ⟨_, by simpa using hstmt.symm⟩
  · simp at h

/-- A change of a modifier option that found the option replaces it in the list of options,
    after checking the group it names when it names one. -/
theorem changeOption_eq_ok {db db' : Db} {id : Int} {c : OptionChange}
    (h : db.changeOption id c = .ok (some db')) :
    ∃ o, db' = { db with options := db.options.map fun x => if x.id == id then o else x } := by
  dsimp only [changeOption] at h
  obtain ⟨_, -, h⟩ := Except.bind_eq_ok.mp h
  split at h
  · obtain ⟨⟨_, db''⟩, hret, h⟩ := Except.bind_eq_ok.mp h
    simp only [Except.pure_eq_ok, Except.ok.injEq, Option.some.injEq] at h
    subst h
    obtain ⟨-, hstmt⟩ := returning_eq_ok.mp hret
    repeat' split at hstmt
    · simp at hstmt
    · obtain ⟨_, -, hstmt⟩ := Except.bind_eq_ok.mp hstmt
      exact ⟨_, by simpa using hstmt.symm⟩
    · exact ⟨_, by simpa using hstmt.symm⟩
    · exact ⟨_, by simpa using hstmt.symm⟩
  · simp at h

/-- A change of a catalog row changes no order row: each of the three changes replaces the row
    in its own list. -/
theorem change_rowsKept {db db' : Db} (c : Session.Change)
    (h : (match c with
      | .menuItem id c => db.changeMenuItem id c
      | .group id c => db.changeGroup id c
      | .option id c => db.changeOption id c) = .ok (some db')) : OrderRowsKept db db' := by
  cases c with
  | menuItem id c =>
    obtain ⟨m, rfl⟩ := changeMenuItem_eq_ok h
    exact ⟨rfl, rfl, rfl, rfl, rfl⟩
  | group id c =>
    obtain ⟨g, rfl⟩ := changeGroup_eq_ok h
    exact ⟨rfl, rfl, rfl, rfl, rfl⟩
  | option id c =>
    obtain ⟨o, rfl⟩ := changeOption_eq_ok h
    exact ⟨rfl, rfl, rfl, rfl, rfl⟩

/-! ## Other orders -/

/-- The lines `d0` reads for order `oid` are stored in every database that holds the order as
    `d0` does. -/
theorem SameOrder.lineIds_stored {oid : Int} {d0 db : Db} (h : SameOrder oid d0 db) {x : Int}
    (hx : x ∈ d0.lineIds oid) : x ∈ db.ids .orderItem := by
  obtain ⟨j, hj, rfl⟩ := List.mem_map.mp hx
  have hj' : j ∈ db.items.filter (fun i => [oid].contains i.orderId) := by
    rw [h.lines]
    simpa [linesOfOrders, byId] using hj
  exact List.mem_map_of_mem (List.mem_filter.mp hj').1

/-- Writing another order adds only new rows, none of which a read of order `oid` sees. -/
theorem Keeps.orderWritten {oid : Int} {d0 db db' : Db} {req : OrderRequest}
    (h : Keeps oid d0 db) (hfound : ∃ row, d0.orders.find? (·.id == oid) = some row)
    (hw : OrderWritten req db db') : Keeps oid d0 db' := by
  obtain ⟨header, items, sels, hdb, hfresh, -, hitems, -, hsels, -⟩ := hw
  obtain ⟨⟨hclosed, htables, hheader, hlines, hopts⟩, howns⟩ := h
  have hsame : SameOrder oid d0 db := ⟨hclosed, htables, hheader, hlines, hopts⟩
  obtain ⟨row, hrow⟩ := hfound
  rw [← hheader] at hrow
  have hne : header.id ≠ oid := by
    have hid : row.id = oid := by simpa using List.find?_some hrow
    intro heq
    exact hfresh (heq ▸ hid ▸ List.mem_map_of_mem (List.mem_of_find?_eq_some hrow))
  have hnew : ∀ i ∈ items, i.id ∉ d0.lineIds oid := fun i hi hin =>
    (hitems i hi).2 (hsame.lineIds_stored hin)
  rw [hdb]
  refine ⟨⟨hclosed, htables, ?_, ?_, ?_⟩, ?_⟩
  · rw [List.find?_append, hrow, Option.some_or, ← hrow, hheader]
  · have hnone : items.filter (fun i => [oid].contains i.orderId) = [] :=
      List.filter_eq_nil_iff.mpr fun i hi hmine => by
        simp only [List.contains_cons, List.contains_nil, Bool.or_false, beq_iff_eq] at hmine
        exact hne ((hitems i hi).1 ▸ hmine)
    rw [List.filter_append, hlines, hnone, List.append_nil]
  · have hnone : sels.filter (fun s => (d0.lineIds oid).contains s.itemId) = [] :=
      List.filter_eq_nil_iff.mpr fun s hs hmine => by
        obtain ⟨i, hi, hitem⟩ := hsels s hs
        exact hnew i hi (hitem ▸ by simpa using hmine)
    rw [List.filter_append, hopts, hnone, List.append_nil]
  · intro i hi hmine
    rcases List.mem_append.mp hi with hi | hi
    · exact howns i hi hmine
    · exact absurd hmine (hnew i hi)

theorem updateHeader_eq_ok {db db' : Db} {row row' : OrderRow} {orderType : Option OrderType}
    {orderStatus : Option OrderStatus} {paymentStatus : Option PaymentStatus}
    (h : db.updateHeader row orderType orderStatus paymentStatus = .ok (row', db')) :
    row' = { row with orderType := orderType.getD row.orderType,
                      orderStatus := orderStatus.getD row.orderStatus,
                      paymentStatus := paymentStatus.getD row.paymentStatus,
                      updatedAt := db.tick.1 } ∧
      db' = { db with orders := db.orders.map (fun o => if o.id == row.id then row' else o),
                      clock := db.clock + 1 } := by
  unfold updateHeader at h
  obtain ⟨-, h⟩ := returning_eq_ok.mp h
  obtain ⟨_, -, h⟩ := Except.bind_eq_ok.mp h
  simp only [tick, Except.pure_eq_ok, Except.ok.injEq, Prod.mk.injEq] at h
  obtain ⟨rfl, rfl⟩ := h
  exact ⟨rfl, rfl⟩

/-- Putting a header with the same id in the place of the header `row` keeps every header's
    id. -/
theorem replaced_id {row row' : OrderRow} (hid : row'.id = row.id) (o : OrderRow) :
    (if o.id == row.id then row' else o).id = o.id := by
  by_cases ho : o.id = row.id
  · simp [ho, hid]
  · simp [ho]

/-- Changing the header of another order leaves the header of this one. -/
theorem Keeps.updateHeader {oid : Int} {d0 db db' : Db} {row row' : OrderRow}
    {orderType : Option OrderType} {orderStatus : Option OrderStatus}
    {paymentStatus : Option PaymentStatus} (h : Keeps oid d0 db) (hother : row.id ≠ oid)
    (hu : db.updateHeader row orderType orderStatus paymentStatus = .ok (row', db')) :
    Keeps oid d0 db' := by
  obtain ⟨hrow', rfl⟩ := updateHeader_eq_ok hu
  have hid : row'.id = row.id := by rw [hrow']
  obtain ⟨⟨hclosed, htables, hheader, hlines, hopts⟩, howns⟩ := h
  refine ⟨⟨hclosed, htables, ?_, hlines, hopts⟩, howns⟩
  have hsame : ∀ o : OrderRow,
      ((if o.id == row.id then row' else o).id == oid) = (o.id == oid) := by
    intro o
    rw [replaced_id hid]
  simp only [List.find?_map]
  rw [show ((fun o : OrderRow => o.id == oid) ∘ fun o => if o.id == row.id then row' else o) =
    (·.id == oid) from funext hsame, ← hheader]
  cases hfind : db.orders.find? (·.id == oid) with
  | none => rfl
  | some o =>
    have ho : o.id = oid := by simpa using List.find?_some hfind
    have hother' : oid ≠ row.id := Ne.symm hother
    simp [ho, hother']

/-- Right after the write, the new order's lines have ids no older line has. -/
theorem Wrote.ownsLines {db db' : Db} {draft : OrderDraft} {orderId : Int} {now : Instant}
    {ids : List Int} (hw : db.Wrote draft orderId now ids db') (hl : db.Linked) :
    OwnsLines orderId db' db' := by
  intro i hi hmine
  rw [lineIds, hw.linesOfOrders hl, OrderDraft.itemRows_ids hw.idsLength] at hmine
  rw [hw.rows] at hi
  rcases List.mem_append.mp hi with hold | hnew
  · have hlt := hw.idsFresh i.id hmine i.id (List.mem_map_of_mem hold)
    omega
  · exact (OrderDraft.mem_itemRows hnew).1

end Store.Db

/-- A change of an order is refused or found nothing, leaving the database, or set the header
    fields of the stored order with the id. -/
theorem updateOrder_result (k : Int) (p : OrderPatch) (db : Db) :
    (updateOrder k p db).2 = db ∨ ∃ row row', row ∈ db.orders ∧ row.id = k ∧
      db.updateHeader row p.orderType p.orderStatus p.paymentStatus =
        .ok (row', (updateOrder k p db).2) := by
  unfold updateOrder
  split
  · exact .inl rfl
  split
  · exact .inl rfl
  · exact .inl rfl
  · rename_i row hrow
    obtain ⟨-, -, hfind⟩ := Db.select_eq_ok.mp hrow
    split
    · exact .inl rfl
    · rename_i row' db' hu
      refine .inr ⟨row, row', List.mem_of_find?_eq_some hfind,
        by simpa using List.find?_some hfind, ?_⟩
      split <;> exact hu

/-! ## Service calls and session steps -/

namespace Store.Db

variable {oid : Int} {d0 : Db}

theorem Keeps.createOrder {db : Db} (h : Keeps oid d0 db)
    (hfound : ∃ row, d0.orders.find? (·.id == oid) = some row) (req : OrderRequest) :
    Keeps oid d0 (OrderDesk.createOrder req db).2 := by
  rcases hc : commitOrder req db with e | ⟨id, db'⟩
  · rw [createOrder_of_commit_error hc]
    exact h
  · rw [(createOrder_of_commit_ok hc).1]
    exact h.orderWritten hfound (commitOrder_written hc)

/-- Changing another order, found by its id, leaves this one. -/
theorem Keeps.updateOrder {db : Db} (h : Keeps oid d0 db) {k : Int} (hk : k ≠ oid)
    (p : OrderPatch) : Keeps oid d0 (OrderDesk.updateOrder k p db).2 := by
  rcases updateOrder_result k p db with hsame | ⟨row, row', -, hid, hu⟩
  · rw [hsame]
    exact h
  · exact h.updateHeader (hid ▸ hk) hu

theorem Keeps.deleteOrder' {db : Db} (h : Keeps oid d0 db) {k : Int} (hk : k ≠ oid) :
    Keeps oid d0 (OrderDesk.deleteOrder k db).2 := by
  unfold OrderDesk.deleteOrder
  split
  · exact h
  · rename_i found db' hdel
    exact h.deleteOrder hk hdel

end Store.Db

/-- Whether a row is a catalog row that only catalog rows and links depend on: a menu item, a
    modifier group, a modifier option, or the link of a group to an item. -/
def Store.RowRef.inCatalog : Store.RowRef → Bool
  | .keyed .menuItem _ | .keyed .modifier _ | .keyed .modifierOption _ | .link _ _ => true
  | _ => false

theorem Store.Db.spared_of_inCatalog {ours : List Int} {oid : Int} {row : RowRef}
    (h : row.inCatalog = true) : Db.Spared ours oid row := by
  match row, h with
  | .keyed .menuItem _, _ | .keyed .modifier _, _ | .keyed .modifierOption _, _ | .link _ _, _ =>
    trivial

/-- The order a request changes or removes: the id read from the path of a `PATCH` or a
    `DELETE` of one order. -/
def Http.Request.orderChanged (r : Http.Request) : Option Int :=
  match Http.routeOf (Http.pathOf r.target) with
  | .order segment =>
    if r.method == "PATCH" || r.method == "DELETE" then (Http.readPathId segment).toOption
    else none
  | _ => none

theorem Http.Request.orderChanged_eq {r : Http.Request} {segment : String} {k : Int}
    (hroute : Http.routeOf (Http.pathOf r.target) = .order segment)
    (hk : Http.readPathId segment = .ok k) (hmethod : r.method = "PATCH" ∨ r.method = "DELETE") :
    r.orderChanged = some k := by
  rcases hmethod with hm | hm <;> simp [orderChanged, hroute, hk, hm, Except.toOption]

/-- Creating an order over HTTP leaves the database it found, when the body is refused, or the
    one the service leaves for the request the body holds. -/
theorem Http.createRoute_db (r : Http.Request) (db : Db) :
    (Http.createRoute r db).2 = db ∨ ∃ (form : OrderForm) (req : OrderRequest),
      form.toRequest = .ok req ∧ (Http.createRoute r db).2 = (createOrder req db).2 := by
  unfold Http.createRoute
  dsimp only
  split
  · exact .inl rfl
  next req hchecked =>
    obtain ⟨form, -, hform⟩ := Except.bind_eq_ok.mp hchecked
    refine .inr ⟨form, req, Except.mapError_eq_ok.mp hform, ?_⟩
    split <;> rename_i heq <;> rw [heq]

/-- Changing an order over HTTP leaves the database it found, when the body is refused, or the
    one the service leaves for the change the body holds. -/
theorem Http.patchRoute_db (k : Int) (r : Http.Request) (db : Db) :
    (Http.patchRoute k r db).2 = db ∨ ∃ p, (Http.patchRoute k r db).2 = (updateOrder k p db).2 := by
  unfold Http.patchRoute
  split
  · exact .inl rfl
  next p _ =>
    refine .inr ⟨p, ?_⟩
    split <;> rename_i heq <;> rw [heq]

/-- Removing an order over HTTP leaves the database the service leaves. -/
theorem Http.deleteRoute_db (k : Int) (db : Db) :
    (Http.deleteRoute k db).2 = (deleteOrder k db).2 := by
  unfold Http.deleteRoute
  split <;> rename_i heq <;> rw [heq]

/-- The database a request leaves is the one it found, the one the service leaves for an order
    the body holds, or the one changing or removing the order the request names leaves. -/
theorem Http.handle_db_cases (r : Http.Request) (db : Db) :
    (Http.handle r db).2 = db ∨
      (∃ (form : OrderForm) (req : OrderRequest),
        form.toRequest = .ok req ∧ (Http.handle r db).2 = (createOrder req db).2) ∨
      ∃ k, r.orderChanged = some k ∧
        ((∃ p, (Http.handle r db).2 = (updateOrder k p db).2) ∨
          (Http.handle r db).2 = (deleteOrder k db).2) := by
  unfold Http.handle
  dsimp only
  split
  · exact .inl rfl
  split
  · split
    · exact .inl rfl
    split
    · rcases Http.createRoute_db r db with hsame | hcreated
      · exact .inl hsame
      · exact .inr (.inl hcreated)
    · exact .inl rfl
  next segment hroute =>
    split
    next hmethods =>
      split
      · exact .inl rfl
      next k hk =>
        split
        · exact .inl rfl
        split
        next hpatch =>
          have hchanged := Http.Request.orderChanged_eq hroute hk (.inl (by simpa using hpatch))
          rcases Http.patchRoute_db k r db with hsame | hpatched
          · exact .inl hsame
          · exact .inr (.inr ⟨k, hchanged, .inl hpatched⟩)
        next hread hpatch =>
          have hdelete : r.method = "DELETE" := by
            simp only [Bool.or_eq_true, beq_iff_eq] at hmethods hread hpatch
            tauto
          exact .inr (.inr ⟨k, Http.Request.orderChanged_eq hroute hk (.inr hdelete),
            .inr (Http.deleteRoute_db k db)⟩)
    · exact .inl rfl
  · split <;> exact .inl rfl
  · split <;> exact .inl rfl
  · exact .inl rfl

/-- Whether a session step spares order `oid`: it reads; it changes or loads catalog rows or
    removes one; it creates an order; it changes or removes another order; or it is a request
    that changes or removes no order but another one. -/
def Session.Step.Spares (oid : Int) : Session.Step → Prop
  | .get _ | .list .. | .menuItems .. | .options _ | .count | .related .. | .schema => True
  | .change _ | .insert _ | .create _ => True
  | .remove row => row.inCatalog = true
  | .update k _ | .delete k => k ≠ oid
  | .http r => r.orderChanged ≠ some oid
  | .make _ | .close => False

namespace Store.Db

variable {oid : Int} {d0 : Db}

theorem Keeps.change {s : Session.State} (h : Keeps oid d0 s.db) (c : Session.Change) :
    Keeps oid d0 (s.change c).2.db := by
  unfold Session.State.change
  dsimp only
  split
  · rename_i db' hres
    exact h.of_rowsKept (change_rowsKept c hres)
  · exact h
  · exact h

/-- A request that changes or removes no order but another one keeps what a read of the order
    sees: listing, reading, the health check and the document touch nothing, and creating an
    order adds only new rows. -/
theorem Keeps.handle (hfound : ∃ row, d0.orders.find? (·.id == oid) = some row) {db : Db}
    (h : Keeps oid d0 db) {r : Http.Request} (hr : r.orderChanged ≠ some oid) :
    Keeps oid d0 (Http.handle r db).2 := by
  rcases Http.handle_db_cases r db with hsame | ⟨-, req, -, hcreated⟩ |
    ⟨k, hk, ⟨p, hchanged⟩ | hdeleted⟩
  · rw [hsame]
    exact h
  · rw [hcreated]
    exact h.createOrder hfound req
  · rw [hchanged]
    exact h.updateOrder (fun hko => hr (hko ▸ hk)) p
  · rw [hdeleted]
    exact h.deleteOrder' (fun hko => hr (hko ▸ hk))

/-- A step that spares the order keeps what a read of it sees. -/
theorem Keeps.step (hfound : ∃ row, d0.orders.find? (·.id == oid) = some row)
    {s : Session.State} {st : Session.Step} (hst : st.Spares oid) (h : Keeps oid d0 s.db) :
    Keeps oid d0 (s.step st).2.db := by
  cases st with
  | make | close => exact hst.elim
  | http r => exact h.handle hfound hst
  | get | count | schema => exact h
  | list | menuItems | options | related =>
    dsimp only [Session.State.step]
    repeat' split
    all_goals exact h
  | create req =>
    have hcreated := h.createOrder hfound req
    dsimp only [Session.State.step]
    split <;> rename_i heq <;> rw [heq] at hcreated <;> exact hcreated
  | update k p => exact h.updateOrder hst p
  | delete k => exact h.deleteOrder' hst
  | insert rows =>
    have hloaded := h.of_rowsKept (loadCatalog_rowsKept s.db rows)
    dsimp only [Session.State.step]
    split <;> rename_i heq <;> rw [heq] at hloaded <;> exact hloaded
  | change c => exact h.change c
  | remove row =>
    dsimp only [Session.State.step]
    split
    · rename_i n db' hr
      exact h.removeOne (spared_of_inCatalog hst) hr
    · exact h

/-- A run of steps that spare the order keeps what a read of it sees. -/
theorem Keeps.run (hfound : ∃ row, d0.orders.find? (·.id == oid) = some row) :
    ∀ (steps : List Session.Step) (s : Session.State), (∀ st ∈ steps, st.Spares oid) →
      Keeps oid d0 s.db → Keeps oid d0 (steps.foldl (fun s st => (s.step st).2) s).db
  | [], _, _, h => h
  | st :: rest, s, hsteps, h =>
    Keeps.run hfound rest (s.step st).2 (fun st' hst' => hsteps st' (List.mem_cons_of_mem _ hst'))
      (h.step hfound (hsteps st List.mem_cons_self))

end Store.Db

/-- An order that was created and read back keeps the request: its restaurant, type and lines,
    each with the menu item and options the request chose, priced and named from the catalog
    rows found for it. Every later session step that spares it leaves it reading the same. -/
theorem createOrder_read_back {req : OrderRequest} {db : Db} {o : StoredOrder}
    (hl : db.Linked) (h : (createOrder req db).1 = .ok o) :
    (∃ offers options, db.fetchOffers req.menuItemIds true = .ok offers ∧
      db.fetchOptions req.optionIds = .ok options ∧
      OrderKept (Catalog.ofLists offers options) req o) ∧
    ∀ (s : Session.State) (steps : List Session.Step), s.db = (createOrder req db).2 →
      (∀ st ∈ steps, st.Spares o.header.id) →
      (steps.foldl (fun s st => (s.step st).2) s).db.getOrder o.header.id = .ok (some o) := by
  obtain ⟨id, db', hc, hdb, hread⟩ := createOrder_eq_ok h
  obtain ⟨offers, options, draft, -, hoffers, hoptions, hcheck, hs, hwrite⟩ :=
    commitOrder_eq_ok hc
  obtain ⟨now, ids, hw⟩ := Db.writeDraft_eq_ok hwrite
  obtain ⟨hkept, hid⟩ := hw.orderKept hl hs hcheck hread
  refine ⟨⟨offers, options, hoffers, hoptions, hkept⟩, fun s steps hs0 hsteps => ?_⟩
  rw [hid] at hsteps ⊢
  have hstart : Db.Keeps id db' s.db := by
    rw [hs0, hdb]
    exact ⟨Db.SameOrder.refl id db', hw.ownsLines hl⟩
  have hrun := Db.Keeps.run ⟨_, hw.find_header⟩ steps s hsteps hstart
  rw [Db.getOrder_congr hrun.same, hread]

/-- A diner selling the sample burger, with the sample size group attached and its one option,
    and no orders yet. -/
def sampleDesk : Db :=
  { Db.empty with
    tables := Table.orderTables,
    restaurants := [sampleRestaurant], menuItems := [sampleMenuItem], groups := [sampleGroup],
    links := [⟨1, 1⟩], options := [sampleOption], counters := true }

/-- Two burgers to take out, with the sample option. -/
def sampleRequest : OrderRequest :=
  { orderType := .takeout, restaurantId := 1,
    lines := [{ menuItemId := 1, quantity := 2, instructions := none, selections := [⟨1, 1⟩] }] }

/-- The line `sampleRequest` writes: the store's first line id, the burger's name and price, and
    the sample option as chosen, with its name and price. -/
def sampleLine : StoredLine :=
  { row := { id := 1, quantity := 2, instructions := none, name := "Burger",
             price := storedReal sampleMenuItem.price, menuItemId := 1, orderId := 1 }
    options := [{ itemId := 1, optionId := 1, quantity := 1, name := "Regular",
                  price := storedReal sampleOption.price }] }

/-- The order `sampleRequest` creates in `sampleDesk`, stamped with the clock's first reading. -/
def sampleOrder : StoredOrder :=
  { header :=
      { id := 1, orderType := .takeout, orderStatus := .opened, paymentStatus := .unpaid,
        restaurantId := 1, createdAt := sampleDesk.tick.1, updatedAt := sampleDesk.tick.1 }
    lines := [sampleLine] }

theorem sampleOrder_read_back :
    sampleDesk.Linked ∧ (createOrder sampleRequest sampleDesk).1 = .ok sampleOrder ∧
      (∃ offers options,
        sampleDesk.fetchOffers sampleRequest.menuItemIds true = .ok offers ∧
        sampleDesk.fetchOptions sampleRequest.optionIds = .ok options ∧
        OrderKept (Catalog.ofLists offers options) sampleRequest sampleOrder) ∧
      ∀ (s : Session.State) (steps : List Session.Step),
        s.db = (createOrder sampleRequest sampleDesk).2 →
        (∀ st ∈ steps, st.Spares sampleOrder.header.id) →
        (steps.foldl (fun s st => (s.step st).2) s).db.getOrder sampleOrder.header.id =
          .ok (some sampleOrder) := by
  have hl : sampleDesk.Linked := ⟨nofun, nofun⟩
  have hcreated : (createOrder sampleRequest sampleDesk).1 = .ok sampleOrder := by
    with_unfolding_all rfl
  exact ⟨hl, hcreated, createOrder_read_back hl hcreated⟩

end OrderDesk
