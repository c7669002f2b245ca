import OrderDesk.Proofs.FirstFault

/-!
# What a line's tally depends on

The selection walk of `checkLine` adds the units of each selection to the count of its group,
in 32 bits and stopping at the bounds. This module states two facts about that tally.

Every group the walk counts is one of the item's loaded groups (`Walk.Tallied.found`), so the
range check always finds the group whose bounds it reads, and the validator never reports a
counted group as not loaded (`checkLines_never_misses_group`).

Adding in 32 bits and stopping at the bounds is not order-free: from `2 ^ 31 - 1`, adding `1`
and then `-(2 ^ 31 - 1)` ends at `0`, the other order at `1`. When the units chosen from each
group have one sign, the count is the true sum cut at the bound of that sign, which no order
changes (`foldl_saturatingAdd_perm`). Then reordering the selections of the lines, and the
lines, keeps the verdict (`checkLines_verdict_reordered`); the lines alone may be reordered
whatever their units. `cancellingLine` is a line whose verdict a reordering does change.
-/

namespace OrderDesk

/-! ## Every counted group is loaded -/

/-- The validator never reports a group as not loaded. A refused line breaks a rule of
    `LineFault`, and none of them reports a missing group: the walk counts only groups it found
    among the item's, so the range check finds each of them. -/
theorem checkLines_never_misses_group (cat : Catalog) (restaurantId : Int) (lines : List Line)
    (groupId menuItemId : Int) :
    checkLines cat restaurantId lines ≠ .error (.groupNotLoaded groupId menuItemId) := by
  intro h
  obtain ⟨line, -, hfault⟩ := LineFault.of_checkLines_error h
  cases hfault with
  | selection _ _ _ hselection => cases hselection

/-! ## Adding units of one sign -/

theorem int32Min_nonpos : int32Min ≤ 0 := by
  simp only [int32Min]
  omega

theorem saturatingAdd_of_nonpos {a b : Int} (ha : a ≤ 0) (hb : b ≤ 0) :
    saturatingAdd a b = max int32Min (a + b) := by
  simp only [saturatingAdd, int32Min, int32Max]
  omega

/-- Units that are not positive, added in 32 bits from a start within the bounds, come to the
    true sum cut at `int32Min`. -/
theorem foldl_saturatingAdd_of_nonpos {qs : List Int} (hq : ∀ q ∈ qs, q ≤ 0) :
    ∀ {a : Int}, a ≤ 0 → int32Min ≤ a → qs.foldl saturatingAdd a = max int32Min (a + qs.sum) := by
  induction qs with
  | nil =>
    intro a _ ha
    simp only [List.foldl_nil, List.sum_nil, Int.add_zero]
    omega
  | cons q qs ih =>
    intro a h0 ha
    have hq0 : q ≤ 0 := hq q List.mem_cons_self
    have hrest : ∀ x ∈ qs, x ≤ 0 := fun x hx => hq x (List.mem_cons_of_mem _ hx)
    have hsum : qs.sum ≤ 0 := by simpa using List.sum_le_card_nsmul qs 0 hrest
    have hstart : max int32Min (a + q) ≤ 0 := by
      have := int32Min_nonpos
      omega
    rw [List.foldl_cons, saturatingAdd_of_nonpos h0 hq0, ih hrest hstart (Int.le_max_left _ _),
      List.sum_cons]
    omega

/-- Units of one sign, added in 32 bits from zero, come to the same count in any order. -/
theorem foldl_saturatingAdd_perm {qs qs' : List Int} (hp : qs.Perm qs')
    (hsign : (∀ q ∈ qs, 0 ≤ q) ∨ (∀ q ∈ qs, q ≤ 0)) :
    qs.foldl saturatingAdd 0 = qs'.foldl saturatingAdd 0 := by
  rcases hsign with h | h
  · have h' : ∀ q ∈ qs', 0 ≤ q := fun q hq => h q (hp.mem_iff.mpr hq)
    rw [foldl_saturatingAdd_of_nonneg h le_rfl int32Max_nonneg,
      foldl_saturatingAdd_of_nonneg h' le_rfl int32Max_nonneg, hp.sum_eq]
  · have h' : ∀ q ∈ qs', q ≤ 0 := fun q hq => h q (hp.mem_iff.mpr hq)
    rw [foldl_saturatingAdd_of_nonpos h le_rfl int32Min_nonpos,
      foldl_saturatingAdd_of_nonpos h' le_rfl int32Min_nonpos, hp.sum_eq]

/-! ## Tallies of reordered selections -/

/-- The selections choose units of one sign from each group. -/
def Catalog.SignsAgree (cat : Catalog) (sels : List Selection) : Prop :=
  ∀ k, (∀ s ∈ sels, cat.groupOf? s = some k → 0 ≤ s.quantity) ∨
    (∀ s ∈ sels, cat.groupOf? s = some k → s.quantity ≤ 0)

section Reordered

variable {cat : Catalog} {sels sels' : List Selection}

theorem Catalog.SignsAgree.perm (h : cat.SignsAgree sels) (hp : sels.Perm sels') :
    cat.SignsAgree sels' := fun k =>
  (h k).imp (fun h s hs => h s (hp.mem_iff.mpr hs)) (fun h s hs => h s (hp.mem_iff.mpr hs))

theorem Catalog.chosen_perm (hp : sels.Perm sels') (k : Int) :
    cat.Chosen sels k ↔ cat.Chosen sels' k := by
  simp only [Catalog.Chosen, hp.mem_iff]

/-- Reordering selections whose units agree in sign on each group keeps each group's tally. -/
theorem Catalog.tallied_perm (hp : sels.Perm sels') (hsign : cat.SignsAgree sels) (k : Int) :
    cat.tallied sels k = cat.tallied sels' k := by
  unfold Catalog.tallied
  refine foldl_saturatingAdd_perm ((hp.filter _).map _) ?_
  have hunits : ∀ q ∈ (sels.filter fun s => cat.groupOf? s == some k).map (·.quantity),
      ∃ s ∈ sels, cat.groupOf? s = some k ∧ s.quantity = q := by
    simp only [List.mem_map, List.mem_filter, beq_iff_eq]
    rintro q ⟨s, ⟨hs, hk⟩, rfl⟩
    exact ⟨s, hs, hk, rfl⟩
  rcases hsign k with h | h
  · refine Or.inl fun q hq => ?_
    obtain ⟨s, hs, hk, rfl⟩ := hunits q hq
    exact h s hs hk
  · refine Or.inr fun q hq => ?_
    obtain ⟨s, hs, hk, rfl⟩ := hunits q hq
    exact h s hs hk

/-- Two tallies with ascending ids that count the same units for every group are equal. -/
theorem Tally.eq_of_lookup {t t' : Tally} (ht : t.Ascending) (ht' : t'.Ascending)
    (h : ∀ k, t.lookup k = t'.lookup k) : t = t' := by
  have hnodup : ∀ {u : Tally}, u.Ascending → u.Nodup := fun hu =>
    hu.imp fun hlt heq => by
      subst heq
      exact lt_irrefl _ hlt
  have hperm : t.Perm t' := by
    rw [List.perm_ext_iff_of_nodup (hnodup ht) (hnodup ht')]
    rintro ⟨k, n⟩
    rw [Tally.mem_iff_lookup ht, Tally.mem_iff_lookup ht', h]
  exact hperm.eq_of_pairwise (fun _ _ _ _ hlt hgt => absurd (hlt.trans hgt) (lt_irrefl _)) ht ht'

/-- Walks over reordered selections whose units agree in sign on each group end with the same
    tally. -/
theorem walkSelections_perm_tally {menuItemId : Int} {groups : List ModifierGroup} {w w' : Walk}
    (hp : sels.Perm sels') (hsign : cat.SignsAgree sels)
    (hw : walkSelections cat menuItemId groups ⟨[], []⟩ sels = .ok w)
    (hw' : walkSelections cat menuItemId groups ⟨[], []⟩ sels' = .ok w') :
    w.tally = w'.tally := by
  have ht : Walk.Tallied cat sels w := by
    simpa using walkSelections_tallied (Walk.tallied_nil cat) hw
  have ht' : Walk.Tallied cat sels' w' := by
    simpa using walkSelections_tallied (Walk.tallied_nil cat) hw'
  refine Tally.eq_of_lookup ht.ascending ht'.ascending fun k => ?_
  rw [ht.lookup, ht'.lookup, Catalog.tallied_perm hp hsign k]
  by_cases hk : cat.Chosen sels k
  · rw [if_pos hk, if_pos ((Catalog.chosen_perm hp k).mp hk)]
  · rw [if_neg hk, if_neg (mt (Catalog.chosen_perm hp k).mpr hk)]

/-- A walk over selections runs through exactly when one over them reordered does. -/
theorem walkSelections_runs_perm {menuItemId : Int} {groups : List ModifierGroup} {w : Walk}
    (hp : sels.Perm sels') (hw : walkSelections cat menuItemId groups ⟨[], []⟩ sels = .ok w) :
    ∃ w', walkSelections cat menuItemId groups ⟨[], []⟩ sels' = .ok w' := by
  obtain ⟨hoffered, hdistinct, -⟩ := walkSelections_isOk_iff.mp ⟨w, hw⟩
  exact walkSelections_isOk_iff.mpr ⟨fun s hs => hoffered s (hp.mem_iff.mpr hs),
    (hp.map _).nodup_iff.mp hdistinct, fun _ _ hseen => absurd hseen List.not_mem_nil⟩

end Reordered

/-! ## Verdicts on reordered lines -/

/-- `line'` is `line` with its selections in another order. -/
def Line.Reselected (line line' : Line) : Prop :=
  ∃ sels, sels.Perm line.selections ∧ line' = { line with selections := sels }

/-- `lines'` is `lines` with the selections of each line, and then the lines, in another
    order. -/
def Reordered (lines lines' : List Line) : Prop :=
  ∃ mid, List.Forall₂ Line.Reselected lines mid ∧ mid.Perm lines'

theorem Line.Reselected.symm {line line' : Line} (h : line.Reselected line') :
    line'.Reselected line := by
  obtain ⟨sels, hp, rfl⟩ := h
  exact ⟨line.selections, hp.symm, rfl⟩

section Verdicts

variable {cat : Catalog} {restaurantId : Int}

/-- A line whose selections agree in sign on each group passes reordered if it passes. -/
theorem checkLine_ok_of_reselected {line line' : Line} (hre : line.Reselected line')
    (hsign : cat.SignsAgree line.selections) (h : checkLine cat restaurantId line = .ok ()) :
    checkLine cat restaurantId line' = .ok () := by
  obtain ⟨sels, hp, rfl⟩ := hre
  rw [checkLine_eq_bind] at h ⊢
  obtain ⟨res, hoffer, h⟩ := Except.bind_eq_ok.mp h
  obtain ⟨w, hwalk, h⟩ := Except.bind_eq_ok.mp h
  obtain ⟨w', hwalk'⟩ := walkSelections_runs_perm hp.symm hwalk
  have htally : w.tally = w'.tally := walkSelections_perm_tally hp.symm hsign hwalk hwalk'
  have hoffer' : lineOffer cat restaurantId { line with selections := sels } = .ok res := hoffer
  simp only [hoffer', hwalk', ← htally, Except.ok_bind]
  exact h

/-- Reordering the selections of a line whose units agree in sign on each group keeps its
    verdict. -/
theorem checkLine_reselected_iff {line line' : Line} (hre : line.Reselected line')
    (hsign : cat.SignsAgree line.selections) :
    checkLine cat restaurantId line = .ok () ↔ checkLine cat restaurantId line' = .ok () := by
  have hsign' : cat.SignsAgree line'.selections := by
    obtain ⟨sels, hp, rfl⟩ := hre
    exact hsign.perm hp.symm
  exact ⟨checkLine_ok_of_reselected hre hsign, checkLine_ok_of_reselected hre.symm hsign'⟩

theorem checkLines_perm_iff {lines lines' : List Line} (hp : lines.Perm lines') :
    checkLines cat restaurantId lines = .ok () ↔ checkLines cat restaurantId lines' = .ok () := by
  simp only [checkLines_eq_ok, hp.mem_iff]

theorem checkLines_reselected_iff :
    ∀ {lines mid : List Line}, List.Forall₂ Line.Reselected lines mid →
      (∀ line ∈ lines, cat.SignsAgree line.selections) →
      (checkLines cat restaurantId lines = .ok () ↔ checkLines cat restaurantId mid = .ok ())
  | [], [], .nil, _ => Iff.rfl
  | line :: rest, line' :: mid, .cons hline hrest, hsign => by
    have hfirst := @checkLine_reselected_iff cat restaurantId line line' hline
      (hsign line List.mem_cons_self)
    have hafter := checkLines_reselected_iff hrest fun l hl => hsign l (List.mem_cons_of_mem _ hl)
    rw [checkLines_eq_ok, checkLines_eq_ok] at hafter
    simp only [checkLines_eq_ok, List.mem_cons, forall_eq_or_imp, hfirst, hafter]

end Verdicts

/-- Reordering the lines keeps the validator's verdict; so does reordering the selections of
    the lines as well, when on each line the units chosen from each group have one sign. -/
theorem checkLines_verdict_reordered (cat : Catalog) (restaurantId : Int)
    (lines lines' : List Line) :
    (lines.Perm lines' →
      (checkLines cat restaurantId lines = .ok () ↔ checkLines cat restaurantId lines' = .ok ())) ∧
    (Reordered lines lines' → (∀ line ∈ lines, cat.SignsAgree line.selections) →
      (checkLines cat restaurantId lines = .ok () ↔
        checkLines cat restaurantId lines' = .ok ())) := by
  refine ⟨checkLines_perm_iff, ?_⟩
  rintro ⟨mid, hmid, hp⟩ hsign
  exact (checkLines_reselected_iff hmid hsign).trans (checkLines_perm_iff hp)

/-! ## Reorderings at a fixed catalog -/

/-- A required size group taking one to five units. -/
def sizeGroup : ModifierGroup :=
  { id := 10, name := "Size", required := true, multiSelect := true, max := 5, restaurantId := 1 }

/-- A burger offering `sizeGroup`, with three options of it. -/
def sizeCatalog : Catalog :=
  Catalog.ofLists
    [{ item := { id := 1, name := "Burger", description := "", price := 9.5,
                 isAvailable := true, restaurantId := 1 },
       groups := some [sizeGroup] }]
    [{ id := 100, name := "Small", price := 0, available := true, preSelect := false,
       groupId := 10 },
     { id := 101, name := "Large", price := 0.5, available := true, preSelect := false,
       groupId := 10 },
     { id := 102, name := "Medium", price := 0.25, available := true, preSelect := false,
       groupId := 10 }]

/-- Two units of the small size and one of the medium. -/
def smallMediumLine : Line :=
  { menuItemId := 1, quantity := 1, instructions := none, selections := [⟨100, 2⟩, ⟨102, 1⟩] }

/-- The same line with its selections the other way round. -/
def mediumSmallLine : Line := { smallMediumLine with selections := [⟨102, 1⟩, ⟨100, 2⟩] }

theorem sizeLines_verdict_reordered :
    [smallMediumLine, mediumSmallLine].Perm [mediumSmallLine, smallMediumLine] ∧
    Reordered [smallMediumLine] [mediumSmallLine] ∧
    (∀ line ∈ [smallMediumLine], sizeCatalog.SignsAgree line.selections) ∧
    (checkLines sizeCatalog 1 [smallMediumLine, mediumSmallLine] = .ok () ↔
      checkLines sizeCatalog 1 [mediumSmallLine, smallMediumLine] = .ok ()) ∧
    (checkLines sizeCatalog 1 [smallMediumLine] = .ok () ↔
      checkLines sizeCatalog 1 [mediumSmallLine] = .ok ()) := by
  have hp : [smallMediumLine, mediumSmallLine].Perm [mediumSmallLine, smallMediumLine] :=
    List.Perm.swap _ _ _
  have hre : Reordered [smallMediumLine] [mediumSmallLine] :=
    ⟨[mediumSmallLine], .cons ⟨_, List.Perm.swap _ _ _, rfl⟩ .nil, List.Perm.refl _⟩
  have hsign : ∀ line ∈ [smallMediumLine], sizeCatalog.SignsAgree line.selections := by
    intro line hline k
    refine Or.inl fun s hs _ => ?_
    simp only [List.mem_singleton] at hline
    subst hline
    simp only [smallMediumLine, List.mem_cons, List.not_mem_nil, or_false] at hs
    rcases hs with rfl | rfl <;> decide
  exact ⟨hp, hre, hsign,
    (checkLines_verdict_reordered sizeCatalog 1 _ _).1 hp,
    (checkLines_verdict_reordered sizeCatalog 1 _ _).2 hre hsign⟩

/-- Units that cancel in the small and large sizes, around one unit of the medium: added in
    this order they come to one unit. -/
def cancellingLine : Line :=
  { menuItemId := 1, quantity := 1, instructions := none,
    selections := [⟨100, 2147483647⟩, ⟨101, -2147483647⟩, ⟨102, 1⟩] }

/-- The same line with the medium size second: its unit is lost at the bound. -/
def clippedLine : Line :=
  { cancellingLine with selections := [⟨100, 2147483647⟩, ⟨102, 1⟩, ⟨101, -2147483647⟩] }

/-- Reordering selections whose units have both signs in one group can change the verdict:
    the line passes with one unit of the size group, and reordered it is refused with none. -/
theorem cancellingLine_reorder_refused :
    Reordered [cancellingLine] [clippedLine] ∧
    checkLines sizeCatalog 1 [cancellingLine] = .ok () ∧
    checkLines sizeCatalog 1 [clippedLine] = .error (.selectionOutOfRange 10 "Size" 1 0 1 5) :=
  ⟨⟨[clippedLine], .cons ⟨_, .cons _ (List.Perm.swap _ _ _), rfl⟩ .nil, List.Perm.refl _⟩,
    rfl, rfl⟩

end OrderDesk
