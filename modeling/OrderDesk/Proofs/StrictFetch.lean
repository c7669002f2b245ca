import OrderDesk.Proofs.FirstFault
import OrderDesk.Proofs.StoredOrders

/-!
# What the strict fetches leave to check

Creating an order fetches the request's menu items, with their groups, and its options, each
once, and fails unless every id was found. Each table's ids are its primary key, so each id
names at most one row, and a fetch that found as many rows as ids found every id
(`Store.Db.fetchOffers_covers`). The catalog read from the fetched rows then has every row the
request names, with groups loaded (`Catalog.Covers`).

So the validator never refuses a line for a missing menu item, a missing option, or groups not
loaded: those faults need a row the catalog lacks. And a line the validator accepts names rows
that exist, so its snapshot can be taken; that holds of every catalog.

Main statement: `strict_fetch_leaves_no_missing_row`.
-/

namespace OrderDesk

open Store

/-! ## Rows found by distinct ids -/

/-- Distinct values drawn from `ids`, at least as many as `ids` has, are all of `ids`. -/
theorem mem_of_nodup_of_length_le {found ids : List Int} (hnodup : found.Nodup)
    (hsub : ∀ k ∈ found, k ∈ ids) (hlen : ids.length ≤ found.length) : ∀ k ∈ ids, k ∈ found :=
  fun _ hk => ((hnodup.subperm hsub).perm_of_length_le hlen).mem_iff.mpr hk

/-- Rows of a table whose ids are distinct, kept when their id is asked for, have distinct ids
    drawn from those asked for. -/
theorem ids_of_filter_contains {α : Type} {id : α → Int} {rows : List α} {ids : List Int}
    (hnodup : (rows.map id).Nodup) :
    ((rows.filter fun r => ids.contains (id r)).map id).Nodup ∧
      ∀ k ∈ (rows.filter fun r => ids.contains (id r)).map id, k ∈ ids := by
  refine ⟨hnodup.sublist (List.filter_sublist.map id), fun k hk => ?_⟩
  obtain ⟨r, hr, rfl⟩ := List.mem_map.mp hk
  simpa using (List.mem_filter.mp hr).2

/-- Rows found by asking for `ids` in a table whose ids are distinct, at least as many as `ids`
    has, include a row for every id asked. -/
theorem found_every_id {α : Type} {id : α → Int} {rows : List α} {ids found : List Int}
    (hkeys : (rows.map id).Nodup)
    (hperm : found.Perm ((rows.filter fun r => ids.contains (id r)).map id))
    (hlen : ids.length ≤ found.length) : ∀ k ∈ ids, k ∈ found := by
  obtain ⟨hnodup, hsub⟩ := @ids_of_filter_contains α id rows ids hkeys
  exact mem_of_nodup_of_length_le (hperm.nodup_iff.mpr hnodup)
    (fun k hk => hsub k (hperm.mem_iff.mp hk)) hlen

/-- A fetch passes its count check when it found at least as many rows as it asked for. -/
theorem ensureAllFound_eq_ok {entity : String} {requested found : Nat} :
    ensureAllFound entity requested found = .ok () ↔ requested ≤ found := by
  unfold ensureAllFound
  split
  · simp only [reduceCtorEq, false_iff]
    omega
  · simp only [true_iff]
    omega

namespace Store.Db

/-- A strict fetch of menu items gives the rows with the asked ids, by ascending id, at least as
    many as ids were asked. -/
theorem fetchOffers_eq_ok {db : Db} {ids : List Int} {withGroups : Bool} {offers : List Offer}
    (h : db.fetchOffers ids withGroups = .ok offers) :
    offers = (byId (·.id) (db.menuItems.filter fun m => ids.contains m.id)).map
        (fun m => { item := m, groups := if withGroups then some (db.groupsOf m.id) else none }) ∧
      ids.length ≤ offers.length := by
  unfold fetchOffers at h
  split at h
  · rename_i hempty
    obtain rfl := List.isEmpty_iff.mp hempty
    simp only [Except.pure_eq_ok, Except.ok.injEq] at h
    subst h
    simp [byId]
  · obtain ⟨rows, hrows, h⟩ := Except.bind_eq_ok.mp h
    obtain ⟨-, -, rfl⟩ := select_eq_ok.mp (Except.mapError_eq_ok.mp hrows)
    obtain ⟨⟨⟩, hfound, h⟩ := Except.bind_eq_ok.mp h
    simp only [Except.pure_eq_ok, Except.ok.injEq] at h
    subst h
    exact ⟨rfl, ensureAllFound_eq_ok.mp hfound⟩

/-- A strict fetch of options gives the rows with the asked ids, by ascending id, at least as
    many as ids were asked. -/
theorem fetchOptions_eq_ok {db : Db} {ids : List Int} {options : List ModifierOption}
    (h : db.fetchOptions ids = .ok options) :
    options = byId (·.id) (db.options.filter fun o => ids.contains o.id) ∧
      ids.length ≤ options.length := by
  unfold fetchOptions at h
  split at h
  · rename_i hempty
    obtain rfl := List.isEmpty_iff.mp hempty
    simp only [Except.pure_eq_ok, Except.ok.injEq] at h
    subst h
    simp [byId]
  · obtain ⟨rows, hrows, h⟩ := Except.bind_eq_ok.mp h
    obtain ⟨-, -, rfl⟩ := select_eq_ok.mp (Except.mapError_eq_ok.mp hrows)
    obtain ⟨⟨⟩, hfound, h⟩ := Except.bind_eq_ok.mp h
    simp only [Except.pure_eq_ok, Except.ok.injEq] at h
    subst h
    exact ⟨rfl, ensureAllFound_eq_ok.mp hfound⟩

/-- Every menu item a strict fetch gives is stored, with its groups when they were asked for. -/
theorem fetchOffers_mem {db : Db} {ids : List Int} {withGroups : Bool} {offers : List Offer}
    (h : db.fetchOffers ids withGroups = .ok offers) {offer : Offer} (ho : offer ∈ offers) :
    offer.item ∈ db.menuItems ∧
      offer.groups = if withGroups then some (db.groupsOf offer.item.id) else none := by
  rw [(fetchOffers_eq_ok h).1] at ho
  obtain ⟨m, hm, rfl⟩ := List.mem_map.mp ho
  exact ⟨(List.mem_filter.mp (List.mem_mergeSort.mp hm)).1, rfl⟩

/-- Every option a strict fetch gives is stored. -/
theorem fetchOptions_mem {db : Db} {ids : List Int} {options : List ModifierOption}
    (h : db.fetchOptions ids = .ok options) {o : ModifierOption} (ho : o ∈ options) :
    o ∈ db.options := by
  rw [(fetchOptions_eq_ok h).1] at ho
  exact (List.mem_filter.mp (List.mem_mergeSort.mp ho)).1

/-- A strict fetch of distinct menu item ids, in a table whose ids are distinct, finds every
    id. -/
theorem fetchOffers_covers {db : Db} {ids : List Int} {withGroups : Bool} {offers : List Offer}
    (h : db.fetchOffers ids withGroups = .ok offers) (hkeys : (db.ids .menuItem).Nodup) :
    ∀ k ∈ ids, ∃ offer ∈ offers, offer.item.id = k := by
  obtain ⟨hoffers, hlen⟩ := fetchOffers_eq_ok h
  have hperm : (offers.map (·.item.id)).Perm
      ((db.menuItems.filter fun m => ids.contains m.id).map (·.id)) := by
    rw [hoffers, List.map_map]
    exact (List.mergeSort_perm _ _).map _
  intro k hk
  obtain ⟨offer, ho, rfl⟩ := List.mem_map.mp (found_every_id hkeys hperm (by simpa using hlen) k hk)
  exact ⟨offer, ho, rfl⟩

/-- A strict fetch of distinct option ids, in a table whose ids are distinct, finds every id. -/
theorem fetchOptions_covers {db : Db} {ids : List Int} {options : List ModifierOption}
    (h : db.fetchOptions ids = .ok options) (hkeys : (db.ids .modifierOption).Nodup) :
    ∀ k ∈ ids, ∃ o ∈ options, o.id = k := by
  obtain ⟨hoptions, hlen⟩ := fetchOptions_eq_ok h
  have hperm : (options.map (·.id)).Perm
      ((db.options.filter fun o => ids.contains o.id).map (·.id)) := by
    rw [hoptions]
    exact (List.mergeSort_perm _ _).map _
  intro k hk
  obtain ⟨o, ho, rfl⟩ := List.mem_map.mp (found_every_id hkeys hperm (by simpa using hlen) k hk)
  exact ⟨o, ho, rfl⟩

end Store.Db

/-! ## The catalog read from the fetched rows -/

/-- The catalog has every row request `req` names: each line's menu item, with its groups
    loaded, and each selection's option. -/
structure Catalog.Covers (cat : Catalog) (req : OrderRequest) : Prop where
  offers : ∀ line ∈ req.lines,
    ∃ offer, cat.offer? line.menuItemId = some offer ∧ offer.groups.isSome = true
  options : ∀ line ∈ req.lines, ∀ s ∈ line.selections, ∃ o, cat.option? s.optionId = some o

theorem Catalog.ofLists_offer?_of_mem {offers : List Offer} {options : List ModifierOption}
    {k : Int} (h : ∃ offer ∈ offers, offer.item.id = k) :
    ∃ offer ∈ offers, (Catalog.ofLists offers options).offer? k = some offer := by
  obtain ⟨offer, ho, hk⟩ := h
  cases hfind : offers.reverse.find? (·.item.id == k) with
  | none =>
    have := List.find?_eq_none.mp hfind offer (List.mem_reverse.mpr ho)
    simp [hk] at this
  | some found => exact ⟨found, List.mem_reverse.mp (List.mem_of_find?_eq_some hfind), hfind⟩

theorem Catalog.ofLists_option?_of_mem {offers : List Offer} {options : List ModifierOption}
    {k : Int} (h : ∃ o ∈ options, o.id = k) :
    ∃ o ∈ options, (Catalog.ofLists offers options).option? k = some o := by
  obtain ⟨o, ho, hk⟩ := h
  cases hfind : options.reverse.find? (·.id == k) with
  | none =>
    have := List.find?_eq_none.mp hfind o (List.mem_reverse.mpr ho)
    simp [hk] at this
  | some found => exact ⟨found, List.mem_reverse.mp (List.mem_of_find?_eq_some hfind), hfind⟩

/-- The catalog read from the strictly fetched rows of a request has every row it names, when
    the stored menu item and option ids are distinct. -/
theorem Store.Db.fetched_covers {db : Db} {req : OrderRequest} {offers : List Offer}
    {options : List ModifierOption} (hitems : (db.ids .menuItem).Nodup)
    (hopts : (db.ids .modifierOption).Nodup)
    (hoffers : db.fetchOffers req.menuItemIds true = .ok offers)
    (hoptions : db.fetchOptions req.optionIds = .ok options) :
    (Catalog.ofLists offers options).Covers req := by
  constructor
  · intro line hline
    have hk : line.menuItemId ∈ req.menuItemIds := by
      simpa [OrderRequest.menuItemIds] using ⟨line, hline, rfl⟩
    obtain ⟨offer, ho, hfind⟩ :=
      Catalog.ofLists_offer?_of_mem (db.fetchOffers_covers hoffers hitems _ hk)
    exact ⟨offer, hfind, by simp [(db.fetchOffers_mem hoffers ho).2]⟩
  · intro line hline s hs
    have hk : s.optionId ∈ req.optionIds := by
      simpa [OrderRequest.optionIds] using ⟨line, hline, s, hs, rfl⟩
    obtain ⟨o, -, hfind⟩ :=
      Catalog.ofLists_option?_of_mem (db.fetchOptions_covers hoptions hopts _ hk)
    exact ⟨o, hfind⟩

/-- A line whose rows the catalog has is refused for none of the faults of a missing row. -/
theorem LineFault.not_missingRow {cat : Catalog} {r : Int} {line : Line} {e : OrderError}
    (hoffer : ∃ offer, cat.offer? line.menuItemId = some offer ∧ offer.groups.isSome = true)
    (hoptions : ∀ s ∈ line.selections, ∃ o, cat.option? s.optionId = some o)
    (h : LineFault cat r line e) :
    (∀ m, e ≠ .menuItemNotFound m) ∧ (∀ o, e ≠ .optionNotFound o) ∧
      (∀ m, e ≠ .groupsNotLoaded m) := by
  obtain ⟨offer, hfound, hgroups⟩ := hoffer
  cases h with
  | itemMissing hnone =>
    rw [hfound] at hnone
    cases hnone
  | groupsMissing hoffer' _ _ hnone =>
    rw [hfound] at hoffer'
    cases hoffer'
    simp [hnone] at hgroups
  | @selection groups pre post s _ _ hsplit _ hfault =>
    cases hfault with
    | missing hnone =>
      obtain ⟨o, ho⟩ := hoptions s (by simp [hsplit])
      rw [ho] at hnone
      cases hnone
    | unavailable => simp
    | offMenu => simp
    | repeated => simp
  | wrongRestaurant => simp
  | itemUnavailable => simp
  | required => simp
  | outOfRange => simp

/-! ## Accepted lines can be snapshot -/

/-- A traversal goes through when it goes through on each element. -/
theorem List.mapM_ok_of_forall {ε α β : Type} {f : α → Except ε β} :
    ∀ {xs : List α}, (∀ x ∈ xs, ∃ y, f x = .ok y) → ∃ ys, xs.mapM f = .ok ys
  | [], _ => ⟨[], rfl⟩
  | x :: xs, h => by
    obtain ⟨y, hy⟩ := h x List.mem_cons_self
    obtain ⟨ys, hys⟩ := List.mapM_ok_of_forall fun x' hx' => h x' (List.mem_cons_of_mem x hx')
    exact ⟨y :: ys, by simp [List.mapM_cons, hy, hys]⟩

/-- A line the validator accepts names a menu item and options the catalog has, so its snapshot
    can be taken. -/
theorem snapshotLine_of_checkLine {cat : Catalog} {r : Int} {line : Line}
    (h : checkLine cat r line = .ok ()) : ∃ item, snapshotLine cat line = .ok item := by
  rw [checkLine_eq_bind] at h
  obtain ⟨res, hoffer, h⟩ := Except.bind_eq_ok.mp h
  obtain ⟨offer, groups, hfound, -, -, -, rfl⟩ := lineOffer_eq_ok.mp hoffer
  obtain ⟨w, hwalk, -⟩ := Except.bind_eq_ok.mp h
  obtain ⟨hoffered, -, -⟩ := walkSelections_isOk_iff.mp ⟨w, hwalk⟩
  have hsels : ∀ s ∈ line.selections, ∃ o, snapshotSelection cat s = .ok o := by
    intro s hs
    obtain ⟨o, ho, -⟩ := hoffered s hs
    exact ⟨{ optionId := o.id, quantity := s.quantity, name := o.name, price := o.price }, by
      simp [snapshotSelection, ho]⟩
  obtain ⟨opts, hopts⟩ := List.mapM_ok_of_forall hsels
  refine ⟨{ menuItemId := offer.item.id, quantity := line.quantity,
            instructions := line.instructions, name := offer.item.name,
            price := offer.item.price, options := opts }, ?_⟩
  simp only [snapshotLine, hfound, hopts, Except.ok_bind, Except.pure_eq_ok]

/-- Against any catalog, lines the validator accepts can be snapshot. -/
theorem snapshot_of_checkLines {cat : Catalog} {r : Int} {req : OrderRequest}
    (h : checkLines cat r req.lines = .ok ()) : ∃ draft, snapshot cat req = .ok draft := by
  have hlines := checkLines_eq_ok.mp h
  obtain ⟨items, hitems⟩ := List.mapM_ok_of_forall fun line hline =>
    snapshotLine_of_checkLine (hlines line hline)
  refine ⟨{ orderType := req.orderType, orderStatus := .opened, paymentStatus := .unpaid,
            restaurantId := req.restaurantId, items }, ?_⟩
  simp only [snapshot, hitems, Except.ok_bind, Except.pure_eq_ok]

/-- After the strict fetches, in a store whose menu item ids and option ids are distinct, the
    validator refuses no line for a missing menu item, a missing option or groups not loaded;
    and against any catalog, lines the validator accepts can be snapshot. -/
theorem strict_fetch_leaves_no_missing_row (db : Db) (req : OrderRequest)
    (hitems : (db.ids .menuItem).Nodup) (hoptions : (db.ids .modifierOption).Nodup) :
    (∀ offers options, db.fetchOffers req.menuItemIds true = .ok offers →
      db.fetchOptions req.optionIds = .ok options →
      ∀ e, checkLines (Catalog.ofLists offers options) req.restaurantId req.lines = .error e →
        (∀ m, e ≠ .menuItemNotFound m) ∧ (∀ o, e ≠ .optionNotFound o) ∧
          (∀ m, e ≠ .groupsNotLoaded m)) ∧
    ∀ (cat : Catalog) (r : Int), checkLines cat r req.lines = .ok () →
      ∃ draft, snapshot cat req = .ok draft := by
  refine ⟨fun offers options hoffers hopts e h => ?_, fun cat r h => snapshot_of_checkLines h⟩
  have hcover := Db.fetched_covers hitems hoptions hoffers hopts
  obtain ⟨line, hline, hfault⟩ := LineFault.of_checkLines_error h
  exact hfault.not_missingRow (hcover.offers line hline) (hcover.options line hline)

theorem sampleDesk_leaves_no_missing_row :
    (sampleDesk.ids .menuItem).Nodup ∧ (sampleDesk.ids .modifierOption).Nodup ∧
    (∀ offers options, sampleDesk.fetchOffers sampleRequest.menuItemIds true = .ok offers →
      sampleDesk.fetchOptions sampleRequest.optionIds = .ok options →
      ∀ e, checkLines (Catalog.ofLists offers options) sampleRequest.restaurantId
          sampleRequest.lines = .error e →
        (∀ m, e ≠ .menuItemNotFound m) ∧ (∀ o, e ≠ .optionNotFound o) ∧
          (∀ m, e ≠ .groupsNotLoaded m)) ∧
    ∀ (cat : Catalog) (r : Int), checkLines cat r sampleRequest.lines = .ok () →
      ∃ draft, snapshot cat sampleRequest = .ok draft :=
  ⟨by decide, by decide,
    strict_fetch_leaves_no_missing_row sampleDesk sampleRequest (by decide) (by decide)⟩

end OrderDesk
