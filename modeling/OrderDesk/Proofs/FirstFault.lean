import OrderDesk.Proofs.OrderWrite

/-!
# The violation a refused line is reported for

`checkLines` reports one violation: the first rule, in the order the checks run, that the first
refused line breaks. This module states that rule apart from the checker (`LineFault`):

1. the line's menu item is missing, belongs to another restaurant, is unavailable, or has no
   groups loaded;
2. otherwise, walking the selections in request order, the first selection whose option is
   missing, unavailable, in none of the item's groups, or chosen before on the line
   (`SelectionFault`), all selections before it passing;
3. otherwise the first required group, in the item's order, that nothing is chosen from;
4. otherwise the group of smallest id whose units lie outside its bounds, the units added in
   request order in 32 bits and stopping at the bounds (`Catalog.tallied`), the bounds read from
   the first loaded group with that id.

The units of a group are tallied for any quantities, negative ones included (`Walk.Tallied`).

Main statements: `checkLine_eq_error_iff` (a line is refused with `e` exactly when `e` is its
first fault) and `checkLines_eq_error_iff` (the lines are refused with `e` exactly when some line
has `e` as its first fault and every line before it passes).
-/

namespace OrderDesk

/-! ## The rules, stated apart from the checker -/

/-- A number of units lies between the group's least and greatest number. -/
def ModifierGroup.Admits (g : ModifierGroup) (n : Int) : Prop := g.min ≤ n ∧ n ≤ g.max

instance (g : ModifierGroup) (n : Int) : Decidable (g.Admits n) :=
  inferInstanceAs (Decidable (g.min ≤ n ∧ n ≤ g.max))

/-- The line's menu item is offered at restaurant `r`: it exists, belongs to `r`, is available,
    and `groups` were loaded for it. -/
def Catalog.ItemOffered (cat : Catalog) (r : Int) (line : Line) (groups : List ModifierGroup) :
    Prop :=
  ∃ offer, cat.offer? line.menuItemId = some offer ∧ offer.item.restaurantId = r ∧
    offer.item.isAvailable = true ∧ offer.groups = some groups

/-- Selections that pass their own checks: each option is offered among `groups`, and none is
    chosen twice. -/
structure SelectionsPass (cat : Catalog) (groups : List ModifierGroup) (sels : List Selection) :
    Prop where
  offered : ∀ s ∈ sels, cat.Offers groups s
  distinct : (sels.map (·.optionId)).Nodup

/-- The first rule selection `s` breaks, on a line of menu item `menuItemId` offering `groups`,
    after the selections `before`. -/
inductive SelectionFault (cat : Catalog) (menuItemId : Int) (groups : List ModifierGroup)
    (before : List Selection) (s : Selection) : OrderError → Prop
  | missing : cat.option? s.optionId = none →
      SelectionFault cat menuItemId groups before s (.optionNotFound s.optionId)
  | unavailable {o : ModifierOption} : cat.option? s.optionId = some o → o.available = false →
      SelectionFault cat menuItemId groups before s (.optionUnavailable s.optionId)
  | offMenu {o : ModifierOption} : cat.option? s.optionId = some o → o.available = true →
      (∀ g ∈ groups, g.id ≠ o.groupId) →
      SelectionFault cat menuItemId groups before s (.optionNotOnMenuItem s.optionId menuItemId)
  | repeated : cat.Offers groups s → (∃ t ∈ before, t.optionId = s.optionId) →
      SelectionFault cat menuItemId groups before s (.duplicateOption s.optionId menuItemId)

/-- The first rule line `line` breaks at restaurant `r`, in the order the rules are checked. -/
inductive LineFault (cat : Catalog) (r : Int) (line : Line) : OrderError → Prop
  | itemMissing : cat.offer? line.menuItemId = none →
      LineFault cat r line (.menuItemNotFound line.menuItemId)
  | wrongRestaurant {offer : Offer} : cat.offer? line.menuItemId = some offer →
      offer.item.restaurantId ≠ r →
      LineFault cat r line (.menuItemWrongRestaurant line.menuItemId r)
  | itemUnavailable {offer : Offer} : cat.offer? line.menuItemId = some offer →
      offer.item.restaurantId = r → offer.item.isAvailable = false →
      LineFault cat r line (.menuItemUnavailable line.menuItemId)
  | groupsMissing {offer : Offer} : cat.offer? line.menuItemId = some offer →
      offer.item.restaurantId = r → offer.item.isAvailable = true → offer.groups = none →
      LineFault cat r line (.groupsNotLoaded line.menuItemId)
  | selection {groups : List ModifierGroup} {pre post : List Selection} {s : Selection}
      {e : OrderError} : cat.ItemOffered r line groups → line.selections = pre ++ s :: post →
      SelectionsPass cat groups pre → SelectionFault cat line.menuItemId groups pre s e →
      LineFault cat r line e
  | required {pre post : List ModifierGroup} {g : ModifierGroup} :
      cat.ItemOffered r line (pre ++ g :: post) →
      SelectionsPass cat (pre ++ g :: post) line.selections →
      g.required = true → ¬ cat.Chosen line.selections g.id →
      (∀ g' ∈ pre, g'.required = true → cat.Chosen line.selections g'.id) →
      LineFault cat r line (.requiredGroupMissing g.id g.name line.menuItemId)
  | outOfRange {groups : List ModifierGroup} {k : Int} {g : ModifierGroup} :
      cat.ItemOffered r line groups → SelectionsPass cat groups line.selections →
      (∀ g' ∈ groups, g'.required = true → cat.Chosen line.selections g'.id) →
      cat.Chosen line.selections k → groups.find? (·.id == k) = some g →
      ¬ g.Admits (cat.tallied line.selections k) →
      (∀ k' g', k' < k → cat.Chosen line.selections k' → groups.find? (·.id == k') = some g' →
        g'.Admits (cat.tallied line.selections k')) →
      LineFault cat r line
        (.selectionOutOfRange k g.name line.menuItemId (cat.tallied line.selections k) g.min
          g.max)

/-! ## Where each check fails -/

/-- The walk fails where a selection first fails, after the walk over the selections before it
    went through. -/
theorem walkSelections_eq_error_iff {cat : Catalog} {menuItemId : Int}
    {groups : List ModifierGroup} {e : OrderError} :
    ∀ {w : Walk} {sels : List Selection},
      walkSelections cat menuItemId groups w sels = .error e ↔
        ∃ pre s post w', sels = pre ++ s :: post ∧
          walkSelections cat menuItemId groups w pre = .ok w' ∧
          stepSelection cat menuItemId groups w' s = .error e
  | w, [] => by simp [walkSelections]
  | w, s :: rest => by
    rw [walkSelections_cons, Except.bind_eq_error]
    constructor
    · rintro (h | ⟨w1, hstep, hrest⟩)
      · exact ⟨[], s, rest, w, rfl, rfl, h⟩
      · obtain ⟨pre, s', post, w', rfl, hpre, hs'⟩ := walkSelections_eq_error_iff.mp hrest
        refine ⟨s :: pre, s', post, w', rfl, ?_, hs'⟩
        rw [walkSelections_cons, hstep]
        exact hpre
    · rintro ⟨pre, s', post, w', hsplit, hpre, hs'⟩
      cases pre with
      | nil =>
        obtain ⟨rfl, rfl⟩ := List.cons.inj hsplit
        simp only [walkSelections, Except.pure_eq_ok, Except.ok.injEq] at hpre
        subst hpre
        exact Or.inl hs'
      | cons t pre =>
        obtain ⟨rfl, rfl⟩ := List.cons.inj hsplit
        obtain ⟨w1, hstep, hpre'⟩ := Except.bind_eq_ok.mp hpre
        exact Or.inr ⟨w1, hstep,
          walkSelections_eq_error_iff.mpr ⟨pre, s', post, w', rfl, hpre', hs'⟩⟩

/-- A selection is refused for its first fault, the options seen before it being those of
    `before`. -/
theorem stepSelection_eq_error_iff {cat : Catalog} {menuItemId : Int}
    {groups : List ModifierGroup} {w : Walk} {before : List Selection} {s : Selection}
    {e : OrderError} (hseen : ∀ k, k ∈ w.seen ↔ ∃ t ∈ before, t.optionId = k) :
    stepSelection cat menuItemId groups w s = .error e ↔
      SelectionFault cat menuItemId groups before s e := by
  constructor
  · intro h
    unfold stepSelection at h
    cases hopt : cat.option? s.optionId with
    | none =>
      simp only [hopt, Except.throw_eq_error, Except.error.injEq] at h
      subst h
      exact .missing hopt
    | some o =>
      simp only [hopt] at h
      by_cases ha : o.available = true
      · by_cases hg : groups.any (·.id == o.groupId) = true
        · by_cases hs : s.optionId ∈ w.seen
          · simp [ha, hg, hs] at h
            subst h
            exact .repeated ⟨o, hopt, ha, by simpa using hg⟩ ((hseen _).mp hs)
          · simp [ha, hg, hs] at h
        · simp [ha, hg] at h
          subst h
          exact .offMenu hopt ha (by simpa using hg)
      · simp [ha] at h
        subst h
        exact .unavailable hopt (by simpa using ha)
  · intro h
    cases h with
    | missing hnone => simp [stepSelection, hnone]
    | unavailable ho ha =>
      simp [stepSelection, ho, ha]
    | @offMenu o ho ha hg =>
      have hnone : groups.any (·.id == o.groupId) = false := by simpa using hg
      simp [stepSelection, ho, ha, hnone]
    | repeated hoffer hrep =>
      obtain ⟨o, ho, ha, g, hg, hid⟩ := hoffer
      have hany : groups.any (·.id == o.groupId) = true := by simpa using ⟨g, hg, hid⟩
      have hs : s.optionId ∈ w.seen := (hseen _).mpr hrep
      simp [stepSelection, ho, ha, hany, hs]

/-- The required check refuses the first required group, in the item's order, without a
    count. -/
theorem checkRequired_eq_error_iff {menuItemId : Int} {groups : List ModifierGroup} {t : Tally}
    {e : OrderError} :
    checkRequired menuItemId groups t = .error e ↔
      ∃ pre g post, groups = pre ++ g :: post ∧ g.required = true ∧ t.counts g.id = false ∧
        (∀ g' ∈ pre, g'.required = true → t.counts g'.id = true) ∧
        e = .requiredGroupMissing g.id g.name menuItemId := by
  have hfirst : ∀ g, groups.find? (fun g => g.required && !t.counts g.id) = some g ↔
      ∃ pre post, groups = pre ++ g :: post ∧ g.required = true ∧ t.counts g.id = false ∧
        ∀ g' ∈ pre, g'.required = true → t.counts g'.id = true := by
    intro g
    rw [List.find?_eq_some_iff_append]
    simp only [Bool.and_eq_true, Bool.not_eq_true', Bool.not_and, Bool.not_not, Bool.or_eq_true]
    constructor
    · rintro ⟨⟨hreq, hcount⟩, pre, post, hsplit, hpre⟩
      refine ⟨pre, post, hsplit, hreq, hcount, fun g' hg' hr => ?_⟩
      simpa [hr] using hpre g' hg'
    · rintro ⟨pre, post, hsplit, hreq, hcount, hpre⟩
      refine ⟨⟨hreq, hcount⟩, pre, post, hsplit, fun g' hg' => ?_⟩
      by_cases hr : g'.required = true
      · exact Or.inr (hpre g' hg' hr)
      · exact Or.inl (by simpa using hr)
  unfold checkRequired
  cases hfind : groups.find? (fun g => g.required && !t.counts g.id) with
  | none =>
    simp only [Except.pure_eq_ok, reduceCtorEq, false_iff, not_exists, not_and]
    intro pre g post hsplit hreq hcount hpre _
    have := (hfirst g).mpr ⟨pre, post, hsplit, hreq, hcount, hpre⟩
    rw [hfind] at this
    cases this
  | some g =>
    simp only [Except.throw_eq_error, Except.error.injEq]
    constructor
    · rintro rfl
      obtain ⟨pre, post, hsplit, hreq, hcount, hpre⟩ := (hfirst g).mp hfind
      exact ⟨pre, g, post, hsplit, hreq, hcount, hpre, rfl⟩
    · rintro ⟨pre, g', post, hsplit, hreq, hcount, hpre, rfl⟩
      have := (hfirst g').mpr ⟨pre, post, hsplit, hreq, hcount, hpre⟩
      rw [hfind] at this
      cases this
      rfl

/-- The range check refuses the first counted group, by ascending id, whose count its first
    loaded group does not admit, when every counted group was loaded. -/
theorem checkRanges_eq_error_iff {menuItemId : Int} {groups : List ModifierGroup}
    {e : OrderError} :
    ∀ {t : Tally}, t.Ascending → (∀ p ∈ t, ∃ g, groups.find? (·.id == p.1) = some g) →
      (checkRanges menuItemId groups t = .error e ↔
        ∃ k n g, (k, n) ∈ t ∧ groups.find? (·.id == k) = some g ∧ ¬ g.Admits n ∧
          (∀ p ∈ t, p.1 < k → ∃ g', groups.find? (·.id == p.1) = some g' ∧ g'.Admits p.2) ∧
          e = .selectionOutOfRange k g.name menuItemId n g.min g.max)
  | [], _, _ => by simp [checkRanges]
  | (k, n) :: rest, ht, hfound => by
    obtain ⟨g, hg⟩ := hfound (k, n) List.mem_cons_self
    have hrest : Tally.Ascending rest := (List.pairwise_cons.mp ht).2
    have hk : ∀ p ∈ rest, k < p.1 := (List.pairwise_cons.mp ht).1
    have ih := @checkRanges_eq_error_iff menuItemId groups e rest hrest
      fun p hp => hfound p (List.mem_cons_of_mem _ hp)
    simp only [checkRanges, hg]
    by_cases hout : n > g.max ∨ n < g.min
    · have hnot : ¬ g.Admits n := by
        simp only [ModifierGroup.Admits]
        omega
      rw [if_pos (by simpa using hout)]
      simp only [Except.throw_eq_error, Except.error_bind, Except.error.injEq]
      constructor
      · rintro rfl
        refine ⟨k, n, g, List.mem_cons_self, hg, hnot, fun p hp hlt => ?_, rfl⟩
        rcases List.mem_cons.mp hp with rfl | hp
        · exact absurd hlt (Int.lt_irrefl _)
        · exact absurd (hk p hp) (Int.lt_asymm hlt)
      · rintro ⟨k', n', g', hmem, hg', hnot', hbefore, rfl⟩
        rcases List.mem_cons.mp hmem with heq | hmem
        · obtain ⟨rfl, rfl⟩ := Prod.mk.inj heq
          rw [hg] at hg'
          cases hg'
          rfl
        · obtain ⟨g'', hg'', hadm⟩ := hbefore (k, n) List.mem_cons_self (hk _ hmem)
          rw [hg] at hg''
          cases hg''
          exact absurd hadm hnot
    · have hadm : g.Admits n := by
        simp only [ModifierGroup.Admits]
        omega
      rw [if_neg (by simpa using hout), ih]
      constructor
      · rintro ⟨k', n', g', hmem, hg', hnot', hbefore, rfl⟩
        refine ⟨k', n', g', List.mem_cons_of_mem _ hmem, hg', hnot', fun p hp hlt => ?_, rfl⟩
        rcases List.mem_cons.mp hp with rfl | hp
        · exact ⟨g, hg, hadm⟩
        · exact hbefore p hp hlt
      · rintro ⟨k', n', g', hmem, hg', hnot', hbefore, rfl⟩
        rcases List.mem_cons.mp hmem with heq | hmem
        · obtain ⟨rfl, rfl⟩ := Prod.mk.inj heq
          rw [hg] at hg'
          cases hg'
          exact absurd hadm hnot'
        · exact ⟨k', n', g', hmem, hg', hnot',
            fun p hp hlt => hbefore p (List.mem_cons_of_mem _ hp) hlt, rfl⟩

/-- A line whose item check fails is refused for the item's first fault. -/
theorem LineFault.of_lineOffer_error {cat : Catalog} {r : Int} {line : Line} {e : OrderError}
    (h : lineOffer cat r line = .error e) : LineFault cat r line e := by
  unfold lineOffer at h
  cases hoffer : cat.offer? line.menuItemId with
  | none =>
    simp only [hoffer, Except.throw_eq_error, Except.error.injEq] at h
    subst h
    exact .itemMissing hoffer
  | some offer =>
    simp only [hoffer] at h
    by_cases hr : offer.item.restaurantId = r
    · by_cases ha : offer.item.isAvailable = true
      · cases hg : offer.groups with
        | none =>
          simp [hr, ha, hg] at h
          subst h
          exact .groupsMissing hoffer hr ha hg
        | some groups => simp [hr, ha, hg] at h
      · simp [hr, ha] at h
        subst h
        exact .itemUnavailable hoffer hr (by simpa using ha)
    · simp [hr] at h
      subst h
      exact .wrongRestaurant hoffer hr

/-! ## A line's first fault -/

theorem checkLine_eq_bind (cat : Catalog) (r : Int) (line : Line) :
    checkLine cat r line =
      lineOffer cat r line >>= fun res =>
        walkSelections cat line.menuItemId res.2 ⟨[], []⟩ line.selections >>= fun w =>
          checkRequired line.menuItemId res.2 w.tally >>= fun _ =>
            checkRanges line.menuItemId res.2 w.tally := rfl

theorem Catalog.ItemOffered.lineOffer {cat : Catalog} {r : Int} {line : Line}
    {groups : List ModifierGroup} (h : cat.ItemOffered r line groups) :
    ∃ offer, lineOffer cat r line = .ok (offer, groups) := by
  obtain ⟨offer, hfound, hrest, havail, hgroups⟩ := h
  exact ⟨offer, lineOffer_eq_ok.mpr ⟨offer, groups, hfound, hrest, havail, hgroups, rfl⟩⟩

/-- The walk over selections that pass goes through, and tallies them. -/
theorem SelectionsPass.walk {cat : Catalog} {groups : List ModifierGroup} {sels : List Selection}
    (h : SelectionsPass cat groups sels) (menuItemId : Int) :
    ∃ w, walkSelections cat menuItemId groups ⟨[], []⟩ sels = .ok w ∧ Walk.Tallied cat sels w := by
  have hrun : ∃ w, walkSelections cat menuItemId groups ⟨[], []⟩ sels = .ok w :=
    walkSelections_isOk_iff.mpr ⟨h.offered, h.distinct, fun _ _ hseen =>
      absurd hseen List.not_mem_nil⟩
  obtain ⟨w, hw⟩ := hrun
  exact ⟨w, hw, by simpa using walkSelections_tallied (Walk.tallied_nil cat) hw⟩

/-- The options seen by a walk over `done` are those `done` chose. -/
theorem Walk.Tallied.mem_seen {cat : Catalog} {done : List Selection} {w : Walk}
    (hw : Walk.Tallied cat done w) (k : Int) : k ∈ w.seen ↔ ∃ t ∈ done, t.optionId = k := by
  simp [hw.seen]

/-- Every group the tally counts was loaded, when every option is offered among the groups. -/
theorem Walk.Tallied.found {cat : Catalog} {groups : List ModifierGroup} {sels : List Selection}
    {w : Walk} (hw : Walk.Tallied cat sels w) (hoffered : ∀ s ∈ sels, cat.Offers groups s) :
    ∀ p ∈ w.tally, ∃ g, groups.find? (·.id == p.1) = some g := by
  rintro ⟨k, n⟩ hp
  exact find?_isSome_of_offered hoffered (hw.mem_iff.mp hp).1

/-- A refused line is refused for its first fault. -/
theorem LineFault.of_checkLine_error {cat : Catalog} {r : Int} {line : Line} {e : OrderError}
    (h : checkLine cat r line = .error e) : LineFault cat r line e := by
  rw [checkLine_eq_bind] at h
  rcases Except.bind_eq_error.mp h with h | ⟨⟨offer, groups⟩, hoffer, h⟩
  · exact .of_lineOffer_error h
  obtain ⟨_, _, hfound, hrest, havail, hgroups, hres⟩ := lineOffer_eq_ok.mp hoffer
  cases hres
  have hitem : cat.ItemOffered r line groups := ⟨offer, hfound, hrest, havail, hgroups⟩
  rcases Except.bind_eq_error.mp h with h | ⟨w, hwalk, h⟩
  · obtain ⟨pre, s, post, w', hsplit, hpre, hs⟩ := walkSelections_eq_error_iff.mp h
    have hw : Walk.Tallied cat pre w' := by
      simpa using walkSelections_tallied (Walk.tallied_nil cat) hpre
    obtain ⟨hoffered, hdistinct, -⟩ := walkSelections_isOk_iff.mp ⟨w', hpre⟩
    exact .selection hitem hsplit ⟨hoffered, hdistinct⟩
      ((stepSelection_eq_error_iff hw.mem_seen).mp hs)
  have hw : Walk.Tallied cat line.selections w := by
    simpa using walkSelections_tallied (Walk.tallied_nil cat) hwalk
  obtain ⟨hoffered, hdistinct, -⟩ := walkSelections_isOk_iff.mp ⟨w, hwalk⟩
  have hpass : SelectionsPass cat groups line.selections := ⟨hoffered, hdistinct⟩
  rcases Except.bind_eq_error.mp h with h | ⟨⟨⟩, hreq, h⟩
  · obtain ⟨pre, g, post, rfl, hrequired, hcount, hpre, rfl⟩ := checkRequired_eq_error_iff.mp h
    refine .required hitem hpass hrequired (fun hc => ?_)
      fun g' hg' hr => hw.counts_iff.mp (hpre g' hg' hr)
    rw [hw.counts_iff.mpr hc] at hcount
    cases hcount
  · have hrequired := checkRequired_eq_ok.mp hreq
    obtain ⟨k, n, g, hmem, hg, hnot, hbefore, rfl⟩ :=
      (checkRanges_eq_error_iff hw.ascending (hw.found hoffered)).mp h
    obtain ⟨hk, rfl⟩ := hw.mem_iff.mp hmem
    refine .outOfRange hitem hpass (fun g' hg' hr => hw.counts_iff.mp (hrequired g' hg' hr)) hk
      hg hnot fun k' g' hlt hk' hg' => ?_
    obtain ⟨g'', hg'', hadm⟩ :=
      hbefore (k', cat.tallied line.selections k') (hw.mem_iff.mpr ⟨hk', rfl⟩) hlt
    rw [hg'] at hg''
    cases hg''
    exact hadm

/-- A line with a fault is refused for it. -/
theorem checkLine_error_of_lineFault {cat : Catalog} {r : Int} {line : Line} {e : OrderError}
    (h : LineFault cat r line e) : checkLine cat r line = .error e := by
  rw [checkLine_eq_bind]
  cases h with
  | itemMissing hnone =>
    have : lineOffer cat r line = .error (.menuItemNotFound line.menuItemId) := by
      simp [lineOffer, hnone]
    rw [this]
    rfl
  | wrongRestaurant hoffer hr =>
    have : lineOffer cat r line = .error (.menuItemWrongRestaurant line.menuItemId r) := by
      simp [lineOffer, hoffer, hr]
    rw [this]
    rfl
  | itemUnavailable hoffer hr ha =>
    have : lineOffer cat r line = .error (.menuItemUnavailable line.menuItemId) := by
      simp [lineOffer, hoffer, hr, ha]
    rw [this]
    rfl
  | groupsMissing hoffer hr ha hg =>
    have : lineOffer cat r line = .error (.groupsNotLoaded line.menuItemId) := by
      simp [lineOffer, hoffer, hr, ha, hg]
    rw [this]
    rfl
  | selection hitem hsplit hpass hfault =>
    obtain ⟨offer, hoffer⟩ := hitem.lineOffer
    obtain ⟨w', hpre, hw⟩ := hpass.walk line.menuItemId
    have hs := (stepSelection_eq_error_iff hw.mem_seen).mpr hfault
    have hwalk := walkSelections_eq_error_iff.mpr ⟨_, _, _, w', hsplit, hpre, hs⟩
    simp only [hoffer, hwalk, Except.ok_bind, Except.error_bind]
  | @required pre post g hitem hpass hreq hnot hpre =>
    obtain ⟨offer, hoffer⟩ := hitem.lineOffer
    obtain ⟨w, hwalk, hw⟩ := hpass.walk line.menuItemId
    have hcount : w.tally.counts g.id = false := by
      simpa using mt hw.counts_iff.mp hnot
    have hrequired : checkRequired line.menuItemId (pre ++ g :: post) w.tally =
        .error (.requiredGroupMissing g.id g.name line.menuItemId) :=
      checkRequired_eq_error_iff.mpr
        ⟨pre, g, post, rfl, hreq, hcount, fun g' hg' hr => hw.counts_iff.mpr (hpre g' hg' hr), rfl⟩
    simp only [hoffer, hwalk, hrequired, Except.ok_bind, Except.error_bind]
  | @outOfRange groups k g hitem hpass hrequired hk hg hnot hbefore =>
    obtain ⟨offer, hoffer⟩ := hitem.lineOffer
    obtain ⟨w, hwalk, hw⟩ := hpass.walk line.menuItemId
    have hreq : checkRequired line.menuItemId groups w.tally = .ok () :=
      checkRequired_eq_ok.mpr fun g' hg' hr => hw.counts_iff.mpr (hrequired g' hg' hr)
    have hsmaller : ∀ p ∈ w.tally, p.1 < k →
        ∃ g', groups.find? (·.id == p.1) = some g' ∧ g'.Admits p.2 := by
      rintro ⟨k', n'⟩ hp hlt
      obtain ⟨hk', rfl⟩ := hw.mem_iff.mp hp
      obtain ⟨g', hg'⟩ := hw.found hpass.offered (k', _) hp
      exact ⟨g', hg', hbefore k' g' hlt hk' hg'⟩
    have hranges : checkRanges line.menuItemId groups w.tally =
        .error (.selectionOutOfRange k g.name line.menuItemId (cat.tallied line.selections k)
          g.min g.max) :=
      (checkRanges_eq_error_iff hw.ascending (hw.found hpass.offered)).mpr
        ⟨_, _, _, hw.mem_iff.mpr ⟨hk, rfl⟩, hg, hnot, hsmaller, rfl⟩
    simp only [hoffer, hwalk, hreq, hranges, Except.ok_bind]

/-- A line is refused with `e` exactly when `e` is its first fault. -/
theorem checkLine_eq_error_iff {cat : Catalog} {r : Int} {line : Line} {e : OrderError} :
    checkLine cat r line = .error e ↔ LineFault cat r line e :=
  ⟨LineFault.of_checkLine_error, checkLine_error_of_lineFault⟩

/-! ## The first refused line -/

/-- Refused lines are refused for the first fault of one of them. -/
theorem LineFault.of_checkLines_error {cat : Catalog} {r : Int} :
    ∀ {lines : List Line} {e : OrderError}, checkLines cat r lines = .error e →
      ∃ line ∈ lines, LineFault cat r line e
  | [], e, h => by simp [checkLines] at h
  | line :: rest, e, h => by
    rcases Except.bind_eq_error.mp h with h | ⟨_, -, h⟩
    · exact ⟨line, List.mem_cons_self, .of_checkLine_error h⟩
    · obtain ⟨l, hl, hfault⟩ := LineFault.of_checkLines_error h
      exact ⟨l, List.mem_cons_of_mem line hl, hfault⟩

/-- The lines are refused with `e` exactly when some line has `e` as its first fault and the
    lines before it pass. -/
theorem checkLines_eq_error_iff (cat : Catalog) (r : Int) (lines : List Line) (e : OrderError) :
    checkLines cat r lines = .error e ↔
      ∃ (i : Nat) (hi : i < lines.length), checkLines cat r (lines.take i) = .ok () ∧
        LineFault cat r lines[i] e := by
  induction lines with
  | nil => simp [checkLines]
  | cons line rest ih =>
    rw [checkLines, Except.bind_eq_error]
    constructor
    · rintro (h | ⟨⟨⟩, hline, h⟩)
      · exact ⟨0, by simp, by simp [checkLines], .of_checkLine_error h⟩
      · obtain ⟨i, hi, hpre, hfault⟩ := ih.mp h
        refine ⟨i + 1, by simpa using hi, ?_, by simpa using hfault⟩
        simp [checkLines, hline, hpre]
    · rintro ⟨i, hi, hpre, hfault⟩
      cases i with
      | zero => exact Or.inl (checkLine_error_of_lineFault (by simpa using hfault))
      | succ i =>
        rw [List.take_succ_cons, checkLines] at hpre
        obtain ⟨⟨⟩, hline, hpre⟩ := Except.bind_eq_ok.mp hpre
        exact Or.inr ⟨(), hline, ih.mpr ⟨i, by simpa using hi, hpre, by simpa using hfault⟩⟩

end OrderDesk
