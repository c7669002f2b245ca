import OrderDesk.Proofs.StrictFetch

/-!
# A strict fetch answers with exactly the rows asked for

A strict fetch of a set of ids reads the rows with those ids in one query and fails unless it
found as many rows as ids. It counts the rows and never matches them against the ids, so an exact
answer rests on two facts about the table: each id names at most one row (its primary key), and
the query gives each matching row once. With both, the rows found are the rows of the ids that
exist, one for each (`keys_filter_perm`). So finding as many rows as ids means that every id
exists.

When the store can read the tables, a fetch succeeds exactly when every id asked for exists.
Read as a map from id to row, its answer then has the asked ids as its keys and the stored row
under each. A menu item also carries the groups attached to it, by ascending id, when they were
asked for. When some id is missing, the fetch fails and counts the ids asked for and the ids that
exist (`StrictAnswer`). When the store cannot read the tables, because its pool is closed or a
table the query needs is missing, a fetch of a non-empty set fails with the store's error. An
empty set reads nothing and always succeeds.

Main statement: `strict_fetch_exact`. `linkless_fetch_fails` fetches an existing menu item with
its groups from a store that has no table of links.
-/

namespace OrderDesk

open Store

namespace Store.Db

/-! ## Sorting by id -/

section ById

variable {α : Type} {id : α → Int}

theorem byId_perm (xs : List α) : (byId id xs).Perm xs :=
  List.mergeSort_perm xs _

theorem byId_ascending (xs : List α) : (byId id xs).Pairwise fun a b => id a ≤ id b :=
  (List.pairwise_mergeSort (fun a b c hab hbc => by simp only [decide_eq_true_eq] at *; omega)
    (fun a b => by simp only [Bool.or_eq_true, decide_eq_true_eq]; omega) xs).imp
    fun h => by simpa using h

end ById

/-! ## Reads the store can answer -/

/-- The store can answer a read of the tables: its pool is open and each of them exists. -/
def Reads (db : Db) (tables : List Table) : Prop :=
  db.closed = false ∧ ∀ t ∈ tables, db.has t = true

theorem need_eq_ok {db : Db} :
    ∀ {tables : List Table}, db.need tables = .ok () ↔ ∀ t ∈ tables, db.has t = true
  | [] => by simp [need]
  | t :: rest => by
    unfold need
    by_cases ht : db.has t = true
    · simp [ht, need_eq_ok]
    · simp [ht]

theorem select_of_reads {α : Type} {db : Db} {tables : List Table} {f : Db → α}
    (h : db.Reads tables) : db.select tables f = .ok (f db) :=
  select_eq_ok.mpr ⟨h.1, need_eq_ok.mpr h.2, rfl⟩

theorem select_error_of_not_reads {α : Type} {db : Db} {tables : List Table} {f : Db → α}
    (h : ¬ db.Reads tables) : ∃ e, db.select tables f = .error e := by
  cases hsel : db.select tables f with
  | error e => exact ⟨e, rfl⟩
  | ok a =>
    obtain ⟨hopen, hneed, -⟩ := select_eq_ok.mp hsel
    exact absurd ⟨hopen, need_eq_ok.mp hneed⟩ h

/-- A computation that starts with a read the store cannot answer fails with the store's
    error. -/
theorem select_mapError_bind_error {α β ε : Type} {db : Db} {tables : List Table} {f : Db → α}
    {wrap : StoreError → ε} {k : α → Except ε β} (h : ¬ db.Reads tables) :
    ∃ e, ((db.select tables f).mapError wrap >>= k) = .error (wrap e) := by
  obtain ⟨e, he⟩ := select_error_of_not_reads (f := f) h
  exact ⟨e, by simp only [he, Except.mapError_error, Except.error_bind]⟩

end Store.Db

/-! ## Counting the rows found -/

section Counting

variable {α : Type} {key : α → Int} {rows : List α} {ids : List Int}

/-- The keys of the rows asked for by `ids` are, in some order, the ids that name a row, when the
    table's keys are distinct and so are the ids. -/
theorem keys_filter_perm (hkeys : (rows.map key).Nodup) (hids : ids.Nodup) :
    ((rows.filter fun r => ids.contains (key r)).map key).Perm
      (ids.filter fun k => k ∈ rows.map key) := by
  refine (List.perm_ext_iff_of_nodup (ids_of_filter_contains hkeys).1 (hids.filter _)).mpr
    fun k => ?_
  simp only [List.mem_map, List.mem_filter, List.contains_iff_mem, decide_eq_true_eq]
  constructor
  · rintro ⟨r, ⟨hr, hk⟩, rfl⟩
    exact ⟨hk, r, hr, rfl⟩
  · rintro ⟨hk, r, hr, rfl⟩
    exact ⟨r, ⟨hr, hk⟩, rfl⟩

/-- The rows asked for by `ids` are as many as the ids that name a row. -/
theorem length_filter_contains (hkeys : (rows.map key).Nodup) (hids : ids.Nodup) :
    (rows.filter fun r => ids.contains (key r)).length = ids.countP fun k => k ∈ rows.map key := by
  rw [List.countP_eq_length_filter, ← (keys_filter_perm hkeys hids).length_eq, List.length_map]

/-- When every id names a row, the keys of the rows asked for are the ids, in some order. -/
theorem keys_filter_perm_of_all (hkeys : (rows.map key).Nodup) (hids : ids.Nodup)
    (hall : ∀ k ∈ ids, k ∈ rows.map key) :
    ((rows.filter fun r => ids.contains (key r)).map key).Perm ids :=
  (keys_filter_perm hkeys hids).trans
    (List.Perm.of_eq (List.filter_eq_self.mpr fun k hk => by simpa using hall k hk))

/-- Fewer ids name a row than were asked for exactly when some id names none. -/
theorem countP_lt_length_iff :
    (ids.countP fun k => k ∈ rows.map key) < ids.length ↔ ∃ k ∈ ids, k ∉ rows.map key := by
  rw [List.countP_eq_length_filter, List.length_filter_lt_length_iff_exists]
  simp

end Counting

/-! ## The answer of a strict fetch -/

/-- The answer of a strict fetch of the distinct ids `ids` from a table whose rows are `rows`,
    keyed by `key`. When every id names a row, there is one entry per id and none besides, each
    under the key of a stored row that it shows (`shows`). Otherwise the fetch fails with a
    `notFound` error for `entity` that counts the ids asked for and the ids that name a row. -/
def StrictAnswer {α β : Type} (entity : String) (key : α → Int) (rows : List α)
    (entryKey : β → Int) (shows : β → α → Prop) (ids : List Int) :
    Except CatalogError (List β) → Prop
  | .ok found => (∀ k ∈ ids, k ∈ rows.map key) ∧ (found.map entryKey).Perm ids ∧
      ∀ b ∈ found, ∃ a ∈ rows, shows b a ∧ entryKey b = key a
  | .error e => (∃ k ∈ ids, k ∉ rows.map key) ∧
      e = .notFound entity ids.length (ids.countP fun k => k ∈ rows.map key)

theorem strictAnswer_nil {α β : Type} {entity : String} {key : α → Int} {rows : List α}
    {entryKey : β → Int} {shows : β → α → Prop} :
    StrictAnswer entity key rows entryKey shows [] (.ok []) :=
  ⟨by simp, .nil, by simp⟩

theorem ensureAllFound_of_lt {entity : String} {requested found : Nat} (h : found < requested) :
    ensureAllFound entity requested found = .error (.notFound entity requested found) := by
  unfold ensureAllFound
  rw [if_pos h]

/-- The rows asked for, by ascending key and each shown as `view` shows it, answer the fetch
    strictly once they are checked to be as many as the ids. -/
theorem strictAnswer_of_rows {α β : Type} {entity : String} {key : α → Int} {rows : List α}
    {entryKey : β → Int} {shows : β → α → Prop} {ids : List Int} {view : α → β}
    (hkeys : (rows.map key).Nodup) (hids : ids.Nodup)
    (hview : ∀ a ∈ rows, shows (view a) a ∧ entryKey (view a) = key a) :
    StrictAnswer entity key rows entryKey shows ids
      (ensureAllFound entity ids.length
          ((Db.byId key (rows.filter fun r => ids.contains (key r))).map view).length >>= fun _ =>
        pure ((Db.byId key (rows.filter fun r => ids.contains (key r))).map view)) := by
  have hasked : ∀ a ∈ Db.byId key (rows.filter fun r => ids.contains (key r)), a ∈ rows :=
    fun a ha => (List.mem_filter.mp ((Db.byId_perm _).subset ha)).1
  have hcount : ((Db.byId key (rows.filter fun r => ids.contains (key r))).map view).length =
      ids.countP fun k => k ∈ rows.map key := by
    rw [List.length_map, (Db.byId_perm _).length_eq, length_filter_contains hkeys hids]
  rw [hcount]
  by_cases hall : ∀ k ∈ ids, k ∈ rows.map key
  · rw [List.countP_eq_length.mpr fun k hk => by simpa using hall k hk,
      ensureAllFound_eq_ok.mpr (Nat.le_refl _)]
    refine ⟨hall, ?_, fun b hb => ?_⟩
    · rw [List.map_map, List.map_congr_left (f := entryKey ∘ view) (g := key) fun a ha =>
        (hview a (hasked a ha)).2]
      exact ((Db.byId_perm _).map key).trans (keys_filter_perm_of_all hkeys hids hall)
    · obtain ⟨a, ha, rfl⟩ := List.mem_map.mp hb
      exact ⟨a, hasked a ha, hview a (hasked a ha)⟩
  · obtain ⟨k, hk, hmissing⟩ : ∃ k ∈ ids, k ∉ rows.map key := by simpa using hall
    rw [ensureAllFound_of_lt (countP_lt_length_iff.mpr ⟨k, hk, hmissing⟩)]
    exact ⟨⟨k, hk, hmissing⟩, rfl⟩

/-! ## Menu items and options -/

namespace Store.Db

/-- The groups `gs` are the groups attached to the menu item through the link table, by ascending
    id, each as often as the group table holds it. -/
structure GroupsAttached (db : Db) (menuItemId : Int) (gs : List ModifierGroup) : Prop where
  attached : gs.Perm (db.groups.filter fun g => db.contains (.link menuItemId g.id))
  ascending : gs.Pairwise fun a b => a.id ≤ b.id

/-- The groups read for a menu item are those a link row joins to it, in id order. -/
theorem groupsOf_attached (db : Db) (menuItemId : Int) :
    db.GroupsAttached menuItemId (db.groupsOf menuItemId) := by
  refine ⟨(byId_perm _).trans (List.Perm.of_eq (List.filter_congr fun g _ => ?_)),
    byId_ascending _⟩
  rw [contains, Bool.eq_iff_iff]
  simp only [List.elem_eq_mem, List.mem_map, List.mem_filter, beq_iff_eq, decide_eq_true_eq,
    List.any_eq_true, Bool.and_eq_true]
  constructor
  · rintro ⟨l, ⟨hl, hm⟩, hg⟩
    exact ⟨l, hl, hm, hg⟩
  · rintro ⟨l, hl, hm, hg⟩
    exact ⟨l, ⟨hl, hm⟩, hg⟩

/-- How a fetched menu item shows the stored row `m`: it is the row, with the groups attached to
    it when groups were asked for, and with no groups loaded otherwise. -/
def OfferShows (db : Db) (withGroups : Bool) (offer : Offer) (m : MenuItem) : Prop :=
  offer.item = m ∧
    if withGroups then ∃ gs, offer.groups = some gs ∧ db.GroupsAttached m.id gs
    else offer.groups = none

/-- The tables a fetch of menu items reads: the links and the groups too when groups are asked
    for. -/
def offerTables (withGroups : Bool) : List Table :=
  if withGroups then [.menuItem, .menuItemModifier, .modifier] else [.menuItem]

/-- A fetch of menu items that the store can answer, or that asks for nothing, answers
    strictly. -/
theorem fetchOffers_answer {db : Db} {ids : List Int} {withGroups : Bool} (hids : ids.Nodup)
    (hkeys : (db.ids .menuItem).Nodup) (hreads : ids = [] ∨ db.Reads (offerTables withGroups)) :
    StrictAnswer "menu item" (·.id) db.menuItems (·.item.id) (db.OfferShows withGroups) ids
      (db.fetchOffers ids withGroups) := by
  have hview : ∀ m ∈ db.menuItems, db.OfferShows withGroups
      { item := m, groups := if withGroups then some (db.groupsOf m.id) else none } m ∧
        m.id = m.id := by
    intro m _
    cases withGroups
    · exact ⟨⟨rfl, rfl⟩, rfl⟩
    · exact ⟨⟨rfl, db.groupsOf m.id, rfl, db.groupsOf_attached m.id⟩, rfl⟩
  unfold fetchOffers
  split
  · rename_i hempty
    obtain rfl := List.isEmpty_iff.mp hempty
    exact strictAnswer_nil
  · rename_i hne
    have hread : db.Reads (offerTables withGroups) :=
      hreads.resolve_left fun h => by simp [h] at hne
    simp only [offerTables] at hread
    dsimp only
    rw [select_of_reads hread]
    exact strictAnswer_of_rows hkeys hids hview

/-- A fetch of some menu items that the store cannot answer fails with the store's error. -/
theorem fetchOffers_store_error {db : Db} {ids : List Int} {withGroups : Bool} (hne : ids ≠ [])
    (hreads : ¬ db.Reads (offerTables withGroups)) :
    ∃ e, db.fetchOffers ids withGroups = .error (.store e) := by
  simp only [offerTables] at hreads
  unfold fetchOffers
  rw [if_neg (by simpa using hne)]
  exact select_mapError_bind_error hreads

/-- A fetch of options that the store can answer, or that asks for nothing, answers strictly. -/
theorem fetchOptions_answer {db : Db} {ids : List Int} (hids : ids.Nodup)
    (hkeys : (db.ids .modifierOption).Nodup) (hreads : ids = [] ∨ db.Reads [.modifierOption]) :
    StrictAnswer "modifier option" (·.id) db.options (·.id) (· = ·) ids (db.fetchOptions ids) := by
  unfold fetchOptions
  split
  · rename_i hempty
    obtain rfl := List.isEmpty_iff.mp hempty
    exact strictAnswer_nil
  · rename_i hne
    rw [select_of_reads (hreads.resolve_left fun h => by simp [h] at hne)]
    have hanswer := @strictAnswer_of_rows ModifierOption ModifierOption "modifier option" (·.id)
      db.options (·.id) (· = ·) ids id hkeys hids fun o _ => ⟨rfl, rfl⟩
    rw [List.map_id] at hanswer
    exact hanswer

/-- A fetch of some options that the store cannot answer fails with the store's error. -/
theorem fetchOptions_store_error {db : Db} {ids : List Int} (hne : ids ≠ [])
    (hreads : ¬ db.Reads [.modifierOption]) :
    ∃ e, db.fetchOptions ids = .error (.store e) := by
  unfold fetchOptions
  rw [if_neg (by simpa using hne)]
  exact select_mapError_bind_error hreads

end Store.Db

/-! ## Both fetches -/

/-- Strict fetches of a set of ids, from a store whose menu item ids and option ids are each
    distinct. When the store can read the tables a fetch needs, or no id is asked for, the fetch
    answers strictly (`StrictAnswer`). It succeeds exactly when every id names a row, with one
    entry per id holding the stored row with that id: a menu item carries the groups attached to
    it, by ascending id, when they were asked for, and no groups otherwise. Otherwise it fails and
    counts the ids asked for and the ids that exist. When the store cannot read those tables, a
    fetch of some ids fails with the store's error. -/
theorem strict_fetch_exact (db : Db) (ids : List Int) (withGroups : Bool) (hids : ids.Nodup)
    (hitems : (db.ids .menuItem).Nodup) (hoptions : (db.ids .modifierOption).Nodup) :
    (ids = [] ∨ db.Reads (Db.offerTables withGroups) →
      StrictAnswer "menu item" (·.id) db.menuItems (·.item.id) (db.OfferShows withGroups) ids
        (db.fetchOffers ids withGroups)) ∧
    (ids ≠ [] → ¬ db.Reads (Db.offerTables withGroups) →
      ∃ e, db.fetchOffers ids withGroups = .error (.store e)) ∧
    (ids = [] ∨ db.Reads [.modifierOption] →
      StrictAnswer "modifier option" (·.id) db.options (·.id) (· = ·) ids (db.fetchOptions ids)) ∧
    (ids ≠ [] → ¬ db.Reads [.modifierOption] →
      ∃ e, db.fetchOptions ids = .error (.store e)) :=
  ⟨Db.fetchOffers_answer hids hitems, Db.fetchOffers_store_error,
    Db.fetchOptions_answer hids hoptions, Db.fetchOptions_store_error⟩

theorem sampleDesk_fetch_exact :
    [1].Nodup ∧ (sampleDesk.ids .menuItem).Nodup ∧ (sampleDesk.ids .modifierOption).Nodup ∧
    (([1] : List Int) = [] ∨ sampleDesk.Reads (Db.offerTables true) →
      StrictAnswer "menu item" (·.id) sampleDesk.menuItems (·.item.id)
        (sampleDesk.OfferShows true) [1] (sampleDesk.fetchOffers [1] true)) ∧
    (([1] : List Int) ≠ [] → ¬ sampleDesk.Reads (Db.offerTables true) →
      ∃ e, sampleDesk.fetchOffers [1] true = .error (.store e)) ∧
    (([1] : List Int) = [] ∨ sampleDesk.Reads [.modifierOption] →
      StrictAnswer "modifier option" (·.id) sampleDesk.options (·.id) (· = ·) [1]
        (sampleDesk.fetchOptions [1])) ∧
    (([1] : List Int) ≠ [] → ¬ sampleDesk.Reads [.modifierOption] →
      ∃ e, sampleDesk.fetchOptions [1] = .error (.store e)) :=
  ⟨by decide, by decide, by decide,
    strict_fetch_exact sampleDesk [1] true (by decide) (by decide) (by decide)⟩

/-- A store holding the sample restaurant and burger, with the tables of restaurants and menu
    items only. -/
def linklessDesk : Db :=
  { Db.empty with
    tables := [.restaurant, .menuItem], restaurants := [sampleRestaurant],
    menuItems := [sampleMenuItem], counters := true }

/-- Fetching the stored burger with its groups from a store without the table of links fails
    with the store's error, although every id asked for names a menu item. -/
theorem linkless_fetch_fails :
    (∀ k ∈ [1], k ∈ linklessDesk.ids .menuItem) ∧
      linklessDesk.fetchOffers [1] true =
        .error (.store (.query (.noSuchTable "menu_item_modifier"))) :=
  ⟨by decide, rfl⟩

end OrderDesk
