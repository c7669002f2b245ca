import OrderDesk.Proofs.ReadBack

/-! # Pages of a restaurant's orders

`listOrders` answers page `p` of `n` orders with the orders at positions `[p * n, p * n + n)` of
the restaurant's orders listed newest first, then by descending id, and with the number of
pages, `⌈total / n⌉`. The count and the page are read from the same rows, and the listing order
is total: two orders listed before each other are stamped alike and share their id, which the
order table's key forbids. So for one state of the store the pages below the number of pages are
not empty, the later ones are, no order is on two pages, and the pages one after the other list
every order of the restaurant once.

The slicing is done once for any list (`pageSlice`), and the facts about the pages of the
service are read off it through `listOrders_eq_page`.

Before the store is read, a guard refuses a page size of zero and a first position `p * n` past
`u64Max`. The store takes both numbers as signed 64-bit integers, so a request whose page size or
first position lies between `i64Max` and `u64Max` passes the guard, has its orders counted, and is
then stopped outright (`listOrders_guard`). Every page read is read with both numbers within
`i64Max`. -/

namespace OrderDesk

open Store

/-! ## Pages of a list -/

section Slices

variable {α : Type}

/-- Page `p` of a list, `n` entries a page: the entries at positions `[p * n, p * n + n)`. -/
def pageSlice (l : List α) (n p : Nat) : List α := (l.drop (p * n)).take n

/-- Pages of `n` entries, `⌈len / n⌉` of them, hold all `len` entries. -/
theorem le_pageCount_mul (len : Nat) {n : Nat} (hn : 0 < n) : len ≤ (len + n - 1) / n * n := by
  have hdiv := Nat.div_add_mod (len + n - 1) n
  have hmod := Nat.mod_lt (len + n - 1) hn
  rw [Nat.mul_comm]
  generalize (len + n - 1) / n = q at *
  omega

/-- The number of pages is the ceiling of the number of entries over the page size. -/
theorem natCeil_div_eq (len : Nat) {n : Nat} (hn : 0 < n) :
    ⌈(len : ℚ) / n⌉₊ = (len + n - 1) / n := by
  have hnq : (0 : ℚ) < n := by exact_mod_cast hn
  refine le_antisymm ?_ ?_
  · rw [Nat.ceil_le, div_le_iff₀ hnq]
    exact_mod_cast le_pageCount_mul len hn
  · rw [Nat.div_le_iff_le_mul_add_pred hn]
    have hceil : (len : ℚ) ≤ ⌈(len : ℚ) / n⌉₊ * n := (div_le_iff₀ hnq).mp (Nat.le_ceil _)
    have hle : len ≤ ⌈(len : ℚ) / n⌉₊ * n := by exact_mod_cast hceil
    rw [Nat.mul_comm] at hle
    omega

/-- A page is empty exactly when it is not below the number of pages. -/
theorem pageSlice_eq_nil_iff {l : List α} {n p : Nat} (hn : 0 < n) :
    pageSlice l n p = [] ↔ (l.length + n - 1) / n ≤ p := by
  have hpages : (l.length + n - 1) / n ≤ p ↔ l.length ≤ p * n := by
    rw [← Nat.not_lt, Nat.lt_iff_add_one_le, Nat.le_div_iff_mul_le hn, Nat.add_mul, Nat.one_mul]
    omega
  rw [hpages, pageSlice, List.take_eq_nil_iff, List.drop_eq_nil_iff]
  omega

/-- The first `k` pages, one after the other, are the first `k * n` entries. -/
theorem flatMap_pageSlice (l : List α) (n : Nat) :
    ∀ k, (List.range k).flatMap (pageSlice l n) = l.take (k * n)
  | 0 => by simp
  | k + 1 => by
    rw [List.range_succ, List.flatMap_append, flatMap_pageSlice l n k, List.flatMap_singleton,
      Nat.add_mul, Nat.one_mul, List.take_add, pageSlice]

/-- All the pages, one after the other, are the list. -/
theorem flatMap_pageSlice_all (l : List α) {n : Nat} (hn : 0 < n) :
    (List.range ((l.length + n - 1) / n)).flatMap (pageSlice l n) = l := by
  rw [flatMap_pageSlice, List.take_of_length_le (le_pageCount_mul l.length hn)]

/-- Pages of a list without repeats share no entry. -/
theorem pageSlice_disjoint {l : List α} {n p q : Nat} (hl : l.Nodup) (hpq : p < q) :
    ∀ a ∈ pageSlice l n p, a ∉ pageSlice l n q := by
  intro a hp hq
  have hbefore : a ∈ l.take (p * n + n) := by
    rw [List.take_add]
    exact List.mem_append_right _ hp
  have hafter : a ∈ l.drop (q * n) := List.mem_of_mem_take hq
  have hle : p * n + n ≤ q * n := by
    have := Nat.mul_le_mul_right n (Nat.succ_le_of_lt hpq)
    rwa [Nat.succ_mul] at this
  exact List.disjoint_take_drop hl hle hbefore hafter

end Slices

/-! ## The listing order -/

theorem Instant.after_iff {a b : Instant} :
    a.after b = true ↔ b.seconds < a.seconds ∨ (a.seconds = b.seconds ∧ b.nanos < a.nanos) := by
  simp [Instant.after]

theorem Instant.eq_iff {a b : Instant} : a = b ↔ a.seconds = b.seconds ∧ a.nanos = b.nanos := by
  cases a
  cases b
  simp

namespace Store.Db

/-- Order `a` is listed before `b` when it is newer, or stamped alike with an id at least
    `b`'s. -/
theorem listedBefore_iff {a b : OrderRow} :
    listedBefore a b = true ↔
      b.createdAt.seconds < a.createdAt.seconds ∨
        (a.createdAt.seconds = b.createdAt.seconds ∧ b.createdAt.nanos < a.createdAt.nanos) ∨
        (a.createdAt.seconds = b.createdAt.seconds ∧ a.createdAt.nanos = b.createdAt.nanos ∧
          b.id ≤ a.id) := by
  simp only [listedBefore, Bool.or_eq_true, Bool.and_eq_true, beq_iff_eq, decide_eq_true_eq,
    Instant.after_iff, Instant.eq_iff, or_assoc, and_assoc, ge_iff_le]

theorem listedBefore_trans (a b c : OrderRow) (hab : listedBefore a b = true)
    (hbc : listedBefore b c = true) : listedBefore a c = true := by
  rw [listedBefore_iff] at *
  omega

theorem listedBefore_total (a b : OrderRow) : (listedBefore a b || listedBefore b a) = true := by
  rw [Bool.or_eq_true, listedBefore_iff, listedBefore_iff]
  omega

/-- Orders listed before each other have the same id. -/
theorem listedBefore_antisymm {a b : OrderRow} (hab : listedBefore a b = true)
    (hba : listedBefore b a = true) : a.id = b.id := by
  rw [listedBefore_iff] at hab hba
  omega

/-- The orders of restaurant `r`. -/
def ordersOf (db : Db) (r : Int) : List OrderRow := db.orders.filter (·.restaurantId == r)

/-- The orders of restaurant `r` as the pages list them. -/
def listing (db : Db) (r : Int) : List OrderRow := (db.ordersOf r).mergeSort listedBefore

theorem listing_perm {db : Db} {r : Int} : (db.listing r).Perm (db.ordersOf r) :=
  List.mergeSort_perm _ _

theorem listing_sorted {db : Db} {r : Int} :
    (db.listing r).Pairwise fun a b => listedBefore a b = true :=
  List.pairwise_mergeSort listedBefore_trans listedBefore_total _

/-- In a store whose order ids are distinct, the restaurant's orders have one arrangement newest
    first and then by descending id: the listing. -/
theorem eq_listing {db : Db} {r : Int} {sorted : List OrderRow} (hkeys : (db.ids .order).Nodup)
    (hperm : sorted.Perm (db.ordersOf r))
    (hsorted : sorted.Pairwise fun a b => listedBefore a b = true) : sorted = db.listing r := by
  have hids : (db.orders.map (·.id)).Nodup := hkeys
  refine List.Perm.eq_of_pairwise (fun a b ha hb hab hba => ?_) hsorted listing_sorted
    (hperm.trans listing_perm.symm)
  have ha' : a ∈ db.orders := (List.mem_filter.mp (hperm.subset ha)).1
  have hb' : b ∈ db.orders := (List.mem_filter.mp (listing_perm.subset hb)).1
  exact List.inj_on_of_nodup_map hids ha' hb' (listedBefore_antisymm hab hba)

theorem countOrders_eq_ok {db : Db} {r : Int} {total : Nat} (h : db.countOrders r = .ok total) :
    total = (db.ordersOf r).length := by
  obtain ⟨-, -, rfl⟩ := select_eq_ok.mp h
  rfl

theorem pageOfOrders_eq_ok {db : Db} {r : Int} {offset limit : Nat} {rows : List OrderRow}
    (h : db.pageOfOrders r offset limit = .ok rows) :
    rows = ((db.listing r).drop offset).take limit := by
  obtain ⟨-, -, rfl⟩ := select_eq_ok.mp h
  rfl

/-- The orders read for some headers are those headers, each with its lines. -/
theorem hydrate_headers {db : Db} {orders : List OrderRow} {os : List StoredOrder}
    (h : db.hydrate orders = .ok os) : os.map (·.header) = orders := by
  have hheaders := @map_claimRows StoredLine OrderRow StoredOrder OrderRow (·.row.orderId) (·.id)
    (fun o lines => { header := o, lines }) (·.header) id (fun _ _ => rfl)
    (db.readLines (db.linesOfOrders (orders.map (·.id)))) orders
  rw [hydrate_eq_ok h]
  rwa [List.map_id] at hheaders

end Store.Db

/-! ## The pages the service answers -/

/-- A page is answered with the count of the restaurant's orders, the orders read for the rows
    of the page, and the number of pages by ceiling division. -/
theorem listOrders_eq_page {r : Int} {p n : Nat} {db : Db} {pg : OrderPage}
    (h : listOrders r p n db = .page pg) :
    n ≠ 0 ∧ db.countOrders r = .ok pg.total ∧
      (db.pageOfOrders r (p * n) n).bind db.hydrate = .ok pg.orders ∧
      pg.page = p ∧ pg.perPage = n ∧ pg.totalPages = (pg.total + n - 1) / n := by
  unfold listOrders at h
  split at h
  · cases h
  rename_i hn
  split at h
  · cases h
  split at h
  · cases h
  rename_i total htotal
  split at h
  · cases h
  dsimp only at h
  split at h
  · cases h
  rename_i orders horders
  cases h
  exact ⟨hn, htotal, horders, rfl, rfl, rfl⟩

/-- In a store whose order ids are distinct, the orders of page `p` of `n` are those read for the
    entries at positions `[p * n, p * n + n)` of any arrangement of the restaurant's orders newest
    first and then by descending id. -/
theorem listOrders_read {db : Db} {r : Int} {p n : Nat} {pg : OrderPage} {sorted : List OrderRow}
    (hkeys : (db.ids .order).Nodup) (hperm : sorted.Perm (db.ordersOf r))
    (hsorted : sorted.Pairwise fun a b => Db.listedBefore a b = true)
    (h : listOrders r p n db = .page pg) : db.hydrate (pageSlice sorted n p) = .ok pg.orders := by
  obtain ⟨-, -, hrows, -⟩ := listOrders_eq_page h
  rw [Db.eq_listing hkeys hperm hsorted]
  cases hpage : db.pageOfOrders r (p * n) n with
  | error e =>
    rw [hpage] at hrows
    cases hrows
  | ok rows =>
    rw [hpage] at hrows
    rw [pageSlice, ← Db.pageOfOrders_eq_ok hpage]
    exact hrows

/-- Pages of a restaurant's orders, `n ≥ 1` a page, in a store whose order ids are distinct. Each
    page answered counts the restaurant's orders, holds the orders at positions
    `[p * n, p * n + n)` of any arrangement of them newest first and then by descending id, read
    with their lines, gives `⌈total / n⌉` pages, and is empty exactly from that number on. No
    order is on two pages, and the pages below the number of pages, one after the other, list
    every order of the restaurant once. -/
theorem listOrders_partitions (db : Db) (r : Int) (n : Nat) (sorted : List OrderRow)
    (hn : 0 < n) (hkeys : (db.ids .order).Nodup) (hperm : sorted.Perm (db.ordersOf r))
    (hsorted : sorted.Pairwise fun a b => Db.listedBefore a b = true) :
    (∀ p pg, listOrders r p n db = .page pg →
      pg.total = (db.ordersOf r).length ∧ pg.page = p ∧ pg.perPage = n ∧
        db.hydrate (pageSlice sorted n p) = .ok pg.orders ∧
        pg.orders.map (·.header) = pageSlice sorted n p ∧
        pg.totalPages = ⌈(pg.total : ℚ) / n⌉₊ ∧
        (pg.orders = [] ↔ pg.totalPages ≤ p)) ∧
    (∀ p q pg pg', p ≠ q → listOrders r p n db = .page pg → listOrders r q n db = .page pg' →
      ∀ o ∈ pg.orders, o ∉ pg'.orders) ∧
    ∀ pages : Nat → OrderPage,
      (∀ p < ⌈((db.ordersOf r).length : ℚ) / n⌉₊, listOrders r p n db = .page (pages p)) →
        ((List.range ⌈((db.ordersOf r).length : ℚ) / n⌉₊).flatMap
            fun p => (pages p).orders.map (·.header)).Perm (db.ordersOf r) ∧
        ((List.range ⌈((db.ordersOf r).length : ℚ) / n⌉₊).flatMap
            fun p => (pages p).orders.map (·.header)).Nodup := by
  have hids : (db.orders.map (·.id)).Nodup := hkeys
  have hnodup : sorted.Nodup :=
    hperm.nodup_iff.mpr ((List.Nodup.of_map (·.id) hids).sublist List.filter_sublist)
  have hheaders : ∀ {p pg}, listOrders r p n db = .page pg →
      pg.orders.map (·.header) = pageSlice sorted n p := fun h =>
    Db.hydrate_headers (listOrders_read hkeys hperm hsorted h)
  refine ⟨fun p pg h => ?_, fun p q pg pg' hpq hp hq o ho ho' => ?_, fun pages hall => ?_⟩
  · obtain ⟨-, hcount, -, hpage, hper, hpages⟩ := listOrders_eq_page h
    have htotal := Db.countOrders_eq_ok hcount
    have hempty : pg.orders = [] ↔ pageSlice sorted n p = [] := by
      rw [← hheaders h, List.map_eq_nil_iff]
    refine ⟨htotal, hpage, hper, listOrders_read hkeys hperm hsorted h, hheaders h,
      by rw [hpages, natCeil_div_eq _ hn], ?_⟩
    rw [hempty, pageSlice_eq_nil_iff hn, hpages, htotal, hperm.length_eq]
  · have hop : o.header ∈ pageSlice sorted n p := hheaders hp ▸ List.mem_map_of_mem ho
    have hoq : o.header ∈ pageSlice sorted n q := hheaders hq ▸ List.mem_map_of_mem ho'
    rcases Nat.lt_or_gt_of_ne hpq with hlt | hlt
    · exact pageSlice_disjoint hnodup hlt _ hop hoq
    · exact pageSlice_disjoint hnodup hlt _ hoq hop
  · have hconcat : ((List.range ⌈((db.ordersOf r).length : ℚ) / n⌉₊).flatMap
        fun p => (pages p).orders.map (·.header)) = sorted := by
      rw [List.flatMap_congr fun p hp => hheaders (hall p (List.mem_range.mp hp)),
        natCeil_div_eq _ hn, ← hperm.length_eq, flatMap_pageSlice_all sorted hn]
    rw [hconcat]
    exact ⟨hperm, hnodup⟩

/-- A takeout order placed at the given second, under the given id. -/
def takeoutAt (id seconds : Int) : OrderRow :=
  { id, orderType := .takeout, orderStatus := .opened, paymentStatus := .unpaid, restaurantId := 1,
    createdAt := ⟨seconds, 0⟩, updatedAt := ⟨seconds, 0⟩ }

/-- A store with two takeout orders of restaurant 1, the second placed a second after the
    first. -/
def twoTakeoutsDesk : Db :=
  { Db.empty with
    tables := Table.orderTables, orders := [takeoutAt 1 1000, takeoutAt 2 1001], counters := true }

theorem twoTakeouts_partition :
    0 < 1 ∧ (twoTakeoutsDesk.ids .order).Nodup ∧
    [takeoutAt 2 1001, takeoutAt 1 1000].Perm (twoTakeoutsDesk.ordersOf 1) ∧
    [takeoutAt 2 1001, takeoutAt 1 1000].Pairwise (fun a b => Db.listedBefore a b = true) ∧
    (∀ p pg, listOrders 1 p 1 twoTakeoutsDesk = .page pg →
      pg.total = (twoTakeoutsDesk.ordersOf 1).length ∧ pg.page = p ∧ pg.perPage = 1 ∧
        twoTakeoutsDesk.hydrate (pageSlice [takeoutAt 2 1001, takeoutAt 1 1000] 1 p) =
          .ok pg.orders ∧
        pg.orders.map (·.header) = pageSlice [takeoutAt 2 1001, takeoutAt 1 1000] 1 p ∧
        pg.totalPages = ⌈(pg.total : ℚ) / (1 : Nat)⌉₊ ∧
        (pg.orders = [] ↔ pg.totalPages ≤ p)) ∧
    (∀ p q pg pg', p ≠ q → listOrders 1 p 1 twoTakeoutsDesk = .page pg →
      listOrders 1 q 1 twoTakeoutsDesk = .page pg' → ∀ o ∈ pg.orders, o ∉ pg'.orders) ∧
    ∀ pages : Nat → OrderPage,
      (∀ p < ⌈((twoTakeoutsDesk.ordersOf 1).length : ℚ) / (1 : Nat)⌉₊,
        listOrders 1 p 1 twoTakeoutsDesk = .page (pages p)) →
        ((List.range ⌈((twoTakeoutsDesk.ordersOf 1).length : ℚ) / (1 : Nat)⌉₊).flatMap
            fun p => (pages p).orders.map (·.header)).Perm (twoTakeoutsDesk.ordersOf 1) ∧
        ((List.range ⌈((twoTakeoutsDesk.ordersOf 1).length : ℚ) / (1 : Nat)⌉₊).flatMap
            fun p => (pages p).orders.map (·.header)).Nodup :=
  have hrows : twoTakeoutsDesk.ordersOf 1 = [takeoutAt 1 1000, takeoutAt 2 1001] := rfl
  have hperm : [takeoutAt 2 1001, takeoutAt 1 1000].Perm (twoTakeoutsDesk.ordersOf 1) :=
    hrows ▸ List.Perm.swap _ _ _
  ⟨by decide, by decide, hperm, by decide,
    listOrders_partitions twoTakeoutsDesk 1 1 _ (by decide) (by decide) hperm (by decide)⟩

/-! ## The guard before the store -/

/-- The guard refuses exactly a page size of zero and a first position past `u64Max`, with these
    messages, whatever the store holds. A request it lets through has the restaurant's orders
    counted, and then stops outright exactly when the page size or the first position lies above
    `i64Max`. Any other failure is the count's or the page read's, and every page read, answered
    or failed, is read with the first position and the page size within `i64Max`. -/
theorem listOrders_guard (r : Int) (p n : Nat) (db : Db) :
    (∀ msg, listOrders r p n db = .refused (.badRequest msg) ↔
      (n = 0 ∧ msg = "entries must be at least 1") ∨
      (0 < n ∧ u64Max < p * n ∧ msg = "page is out of range for the given entries")) ∧
    (∀ m, listOrders r p n db = .halted m ↔
      m = positionTooLarge ∧ 0 < n ∧ p * n ≤ u64Max ∧ (i64Max < n ∨ i64Max < p * n) ∧
        ∃ total, db.countOrders r = .ok total) ∧
    (∀ e, listOrders r p n db = .refused (.store e) →
      db.countOrders r = .error e ∨
        n ≤ i64Max ∧ p * n ≤ i64Max ∧ (db.pageOfOrders r (p * n) n).bind db.hydrate = .error e) ∧
    ∀ pg, listOrders r p n db = .page pg →
      n ≤ i64Max ∧ p * n ≤ i64Max ∧
        (db.pageOfOrders r (p * n) n).bind db.hydrate = .ok pg.orders := by
  unfold listOrders
  by_cases h0 : n = 0
  · subst h0
    simp [eq_comm]
  have hpos : 0 < n := Nat.pos_of_ne_zero h0
  by_cases hu : u64Max < p * n
  · simp [h0, hu, hpos, eq_comm]
  have hle : p * n ≤ u64Max := Nat.le_of_not_lt hu
  cases hc : db.countOrders r with
  | error e => simp [h0, hu]
  | ok total =>
    by_cases hi : i64Max < n ∨ i64Max < p * n
    · simp [h0, hu, hi, hpos, hle]
      exact fun _ => eq_comm
    · have hfit : n ≤ i64Max ∧ p * n ≤ i64Max := by omega
      cases (db.pageOfOrders r (p * n) n).bind db.hydrate <;> simp [h0, hu, hi, hfit]

/-- A page size of `2 ^ 63` passes the guard and stops the request once the orders are counted. -/
example : listOrders 1 1 (Nat.pow 2 63) { Db.empty with tables := [.order] } =
    .halted positionTooLarge := rfl

end OrderDesk
