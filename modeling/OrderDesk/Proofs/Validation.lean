import Mathlib
import OrderDesk.Order.Validate

/-!
# Which lines the validator accepts

`checkLines` walks the selections of a line once, keeping the options seen and a tally of
units per group, and then runs two checks over the groups. This module states, apart from that
walk, what an accepted line is (`LineAdmitted`): its item exists, belongs to the restaurant, is
available and has its groups loaded; each option exists, is available, belongs to one of those
groups and is chosen once; each required group is chosen from; and the units chosen from each
group lie between its least and greatest number.

The tally adds units in 32 bits, stopping at the bound (`Walk.Tallied`). For units that are not
negative the stopped sum is the true sum cut at `int32Max` (`Catalog.tallied_eq_min`,
`Walk.Gathered`), so a group whose greatest number is `int32Max` itself takes any sum:
`SelectionsFit.inRange` says so, and `boundaryLine_admitted` is a line whose units pass that
bound and are still accepted.

Main statement: `checkLines_accepts_iff_admitted`.
-/

namespace OrderDesk

/-! ## The error monad

The steps of the model's computations, stated once so that proofs rewrite with them and never
unfold the monad. -/

section ErrorMonad

variable {ε ε' α β : Type}

@[simp, grind =] theorem Except.pure_eq_ok (a : α) : (pure a : Except ε α) = .ok a := rfl

@[simp, grind =] theorem Except.throw_eq_error (e : ε) : (throw e : Except ε α) = .error e := rfl

@[simp, grind =] theorem Except.ok_bind (a : α) (f : α → Except ε β) :
    (Except.ok a >>= f) = f a := rfl

@[simp, grind =] theorem Except.error_bind (e : ε) (f : α → Except ε β) :
    (Except.error e >>= f) = .error e := rfl

@[simp, grind =] theorem Except.ok_map (g : α → β) (a : α) :
    (Except.ok a : Except ε α).map g = .ok (g a) := rfl

@[simp, grind =] theorem Except.error_map (g : α → β) (e : ε) :
    (Except.error e : Except ε α).map g = .error e := rfl

@[simp, grind =] theorem Except.mapError_ok (g : ε → ε') (a : α) :
    (Except.ok a : Except ε α).mapError g = .ok a := rfl

@[simp, grind =] theorem Except.mapError_error (g : ε → ε') (e : ε) :
    (Except.error e : Except ε α).mapError g = .error (g e) := rfl

/-- A computation of the error monad that succeeded took every step successfully. -/
theorem Except.bind_eq_ok {x : Except ε α} {f : α → Except ε β} {b : β} :
    x >>= f = .ok b ↔ ∃ a, x = .ok a ∧ f a = .ok b := by
  cases x <;> simp

/-- A computation of the error monad that failed failed at one of its steps. -/
theorem Except.bind_eq_error {x : Except ε α} {f : α → Except ε β} {e : ε} :
    x >>= f = .error e ↔ x = .error e ∨ ∃ a, x = .ok a ∧ f a = .error e := by
  cases x with
  | error e' => simp
  | ok a => simp

@[simp] theorem Except.mapError_eq_ok {x : Except ε α} {f : ε → ε'} {a : α} :
    x.mapError f = .ok a ↔ x = .ok a := by
  cases x <;> simp

@[simp] theorem Except.mapError_eq_error {x : Except ε α} {f : ε → ε'} {e : ε'} :
    x.mapError f = .error e ↔ ∃ e', x = .error e' ∧ f e' = e := by
  cases x <;> simp

@[simp] theorem Except.map_eq_ok {f : α → β} {x : Except ε α} {b : β} :
    f <$> x = .ok b ↔ ∃ a, x = .ok a ∧ f a = b := by
  cases x <;> simp

/-- Two continuations that agree on every value a computation can give continue it alike. -/
theorem Except.bind_congr_ok {x : Except ε α} {f g : α → Except ε β}
    (h : ∀ a, x = .ok a → f a = g a) : x >>= f = x >>= g := by
  cases x with
  | error e => rfl
  | ok a => exact h a rfl

end ErrorMonad

/-- A computation of the error monad that fails exactly with the value of `first` succeeds
    exactly when `first` has none. -/
theorem Except.exists_ok_iff_of_error_iff {ε α : Type} {x : Except ε α} {first : Option ε}
    (h : ∀ e, x = .error e ↔ first = some e) : (∃ a, x = .ok a) ↔ first = none := by
  cases x <;> cases first <;> simp_all

theorem saturatingAdd_of_nonneg {a b : Int} (ha : 0 ≤ a) (hb : 0 ≤ b) :
    saturatingAdd a b = min int32Max (a + b) := by
  simp only [saturatingAdd, int32Min, int32Max]
  omega

theorem int32Max_nonneg : 0 ≤ int32Max := by
  simp only [int32Max]
  omega

/-- Units that are not negative, added in 32 bits from a start within the bounds, come to the
    true sum cut at `int32Max`. -/
theorem foldl_saturatingAdd_of_nonneg {qs : List Int} (hq : ∀ q ∈ qs, 0 ≤ q) :
    ∀ {a : Int}, 0 ≤ a → a ≤ int32Max → qs.foldl saturatingAdd a = min int32Max (a + qs.sum) := by
  induction qs with
  | nil =>
    intro a _ ha
    simp only [List.foldl_nil, List.sum_nil, Int.add_zero]
    omega
  | cons q qs ih =>
    intro a h0 ha
    have hq0 : 0 ≤ q := hq q List.mem_cons_self
    have hrest : ∀ x ∈ qs, 0 ≤ x := fun x hx => hq x (List.mem_cons_of_mem _ hx)
    have hsum : 0 ≤ qs.sum := List.sum_nonneg hrest
    have hstart : 0 ≤ min int32Max (a + q) := by
      have := int32Max_nonneg
      omega
    rw [List.foldl_cons, saturatingAdd_of_nonneg h0 hq0, ih hrest hstart (Int.min_le_left _ _),
      List.sum_cons]
    omega

theorem ModifierGroup.min_nonneg (g : ModifierGroup) : 0 ≤ g.min := by
  unfold ModifierGroup.min
  split <;> omega

theorem ModifierGroup.min_le_one (g : ModifierGroup) : g.min ≤ 1 := by
  unfold ModifierGroup.min
  split <;> omega

/-! ## The tally

A tally is kept with its group ids strictly ascending; read through `List.lookup` it is a
partial map from groups to units. -/

namespace Tally

/-- The group ids of a tally are strictly ascending. -/
def Ascending (t : Tally) : Prop := t.Pairwise fun a b => a.1 < b.1

theorem lookup_cons_ite (k n g : Int) (rest : Tally) :
    ((k, n) :: rest : Tally).lookup g = if g = k then some n else rest.lookup g := by
  by_cases h : g = k
  · simp [h]
  · have hne : (g == k) = false := by simpa using h
    simp [List.lookup_cons, hne, h]

theorem lookup_eq_none_of_lt {k n g : Int} {rest : Tally} (ht : Ascending ((k, n) :: rest))
    (hg : g < k) : ((k, n) :: rest : Tally).lookup g = none := by
  simp only [List.lookup_eq_none_iff, List.mem_cons, bne_iff_ne, ne_eq, forall_eq_or_imp]
  refine ⟨by omega, fun p hp heq => ?_⟩
  have := List.rel_of_pairwise_cons ht hp
  omega

/-- Adding units keeps every entry but the one of the group added to. -/
theorem mem_add {g q : Int} {t : Tally} {p : Int × Int} (hp : p ∈ t.add g q) :
    p.1 = g ∨ p ∈ t := by
  induction t with
  | nil => simp_all [add]
  | cons head rest ih =>
    obtain ⟨k, n⟩ := head
    simp only [add] at hp
    split at hp
    · simp only [List.mem_cons] at hp
      rcases hp with rfl | hp <;> simp_all
    · split at hp
      · simp only [List.mem_cons] at hp
        rcases hp with rfl | hp <;> simp_all
      · simp only [List.mem_cons] at hp
        rcases hp with rfl | hp
        · simp
        · rcases ih hp with h | h <;> simp_all

theorem add_ascending {g q : Int} {t : Tally} (ht : Ascending t) : Ascending (t.add g q) := by
  induction t with
  | nil => simp [add, Ascending]
  | cons head rest ih =>
    obtain ⟨k, n⟩ := head
    have hrest : Ascending rest := (List.pairwise_cons.mp ht).2
    have hk : ∀ p ∈ rest, k < p.1 := (List.pairwise_cons.mp ht).1
    simp only [add]
    split
    · refine List.Pairwise.cons (fun p hp => ?_) ht
      rcases List.mem_cons.mp hp with rfl | hp
      · assumption
      · have := hk p hp
        omega
    · split
      · exact List.Pairwise.cons hk hrest
      · refine List.Pairwise.cons (fun p hp => ?_) (ih hrest)
        rcases mem_add hp with h | h
        · omega
        · exact hk p h

/-- Adding units to a group changes its count alone; a group not counted yet starts at zero. -/
theorem lookup_add {g q k : Int} {t : Tally} (ht : Ascending t) :
    (t.add g q).lookup k =
      if k = g then some (saturatingAdd ((t.lookup g).getD 0) q) else t.lookup k := by
  induction t with
  | nil => simp [add]
  | cons head rest ih =>
    obtain ⟨k', n⟩ := head
    have hrest : Ascending rest := (List.pairwise_cons.mp ht).2
    simp only [add]
    split
    · rw [lookup_eq_none_of_lt ht ‹_›]
      simp only [lookup_cons_ite]
      by_cases h1 : k = g <;> by_cases h2 : k = k' <;> simp_all
    · split
      · subst g
        simp only [lookup_cons_ite]
        by_cases h1 : k = k' <;> simp_all
      · simp only [lookup_cons_ite, ih hrest]
        by_cases h1 : k = g <;> by_cases h2 : k = k' <;> by_cases h3 : g = k' <;> simp_all

/-- With ascending ids an entry is the count of its group. -/
theorem mem_iff_lookup {t : Tally} (ht : Ascending t) {k n : Int} :
    (k, n) ∈ t ↔ t.lookup k = some n := by
  induction t with
  | nil => simp
  | cons head rest ih =>
    obtain ⟨k', n'⟩ := head
    have hrest : Ascending rest := (List.pairwise_cons.mp ht).2
    have hk : ∀ p ∈ rest, k' < p.1 := (List.pairwise_cons.mp ht).1
    rw [lookup_cons_ite, List.mem_cons]
    by_cases h : k = k'
    · subst h
      have : (k, n) ∉ rest := fun hm => by
        have := hk _ hm
        simp at this
      simp [this, eq_comm]
    · simp [h, ih hrest]

theorem counts_eq {t : Tally} {k : Int} : t.counts k = (t.lookup k).isSome := by
  apply Bool.eq_iff_iff.mpr
  rw [List.lookup_isSome_iff]
  simp only [counts, List.any_eq_true, beq_iff_eq]
  constructor <;> rintro ⟨p, hp, h⟩ <;> exact ⟨p, hp, h.symm⟩

end Tally

/-! ## The walk over the selections -/

/-- The group the option of a selection belongs to, if the catalog has the option. -/
def Catalog.groupOf? (cat : Catalog) (s : Selection) : Option Int :=
  (cat.option? s.optionId).map (·.groupId)

/-- The units the selections choose from group `k`, summed without bound. -/
def Catalog.selectedIn (cat : Catalog) (sels : List Selection) (k : Int) : Int :=
  ((sels.filter fun s => cat.groupOf? s == some k).map (·.quantity)).sum

/-- The option of a selection exists, is available, and belongs to one of the groups. -/
def Catalog.Offers (cat : Catalog) (groups : List ModifierGroup) (s : Selection) : Prop :=
  ∃ o, cat.option? s.optionId = some o ∧ o.available = true ∧ ∃ g ∈ groups, g.id = o.groupId

theorem Catalog.selectedIn_eq_zero {cat : Catalog} {sels : List Selection} {k : Int}
    (h : ¬ ∃ s ∈ sels, cat.groupOf? s = some k) : cat.selectedIn sels k = 0 := by
  have : sels.filter (fun s => cat.groupOf? s == some k) = [] := by
    simpa [List.filter_eq_nil_iff] using h
  simp [selectedIn, this]

theorem Catalog.selectedIn_nonneg {cat : Catalog} {sels : List Selection} {k : Int}
    (h : ∀ s ∈ sels, 0 ≤ s.quantity) : 0 ≤ cat.selectedIn sels k := by
  unfold selectedIn
  apply List.sum_nonneg
  simp only [List.mem_map, List.mem_filter]
  rintro _ ⟨s, ⟨hs, -⟩, rfl⟩
  exact h s hs

/-- One selection passes exactly when its option exists, is available, belongs to one of the
    groups and was not seen before; the walk then records it and adds its units. -/
theorem stepSelection_eq_ok {cat : Catalog} {menuItemId : Int} {groups : List ModifierGroup}
    {w w' : Walk} {s : Selection} :
    stepSelection cat menuItemId groups w s = .ok w' ↔
      ∃ o, cat.option? s.optionId = some o ∧ o.available = true ∧
        (groups.any (·.id == o.groupId)) = true ∧ s.optionId ∉ w.seen ∧
        w' = { seen := s.optionId :: w.seen, tally := w.tally.add o.groupId s.quantity } := by
  unfold stepSelection
  cases hopt : cat.option? s.optionId with
  | none => simp
  | some o =>
    simp only [Option.some.injEq, exists_eq_left']
    by_cases ha : o.available
    · by_cases hg : groups.any (·.id == o.groupId)
      · by_cases hs : s.optionId ∈ w.seen
        · simp [ha, hg, hs]
        · simp [ha, hg, hs, eq_comm]
      · simp [ha, hg]
    · simp [ha]

theorem walkSelections_cons (cat : Catalog) (menuItemId : Int) (groups : List ModifierGroup)
    (w : Walk) (s : Selection) (rest : List Selection) :
    walkSelections cat menuItemId groups w (s :: rest) =
      stepSelection cat menuItemId groups w s >>= fun w' =>
        walkSelections cat menuItemId groups w' rest := rfl

/-- The walk runs through exactly when every option is offered and none repeats, on the line
    or among those seen before it. -/
theorem walkSelections_isOk_iff {cat : Catalog} {menuItemId : Int}
    {groups : List ModifierGroup} :
    ∀ {w : Walk} {sels : List Selection},
      (∃ w', walkSelections cat menuItemId groups w sels = .ok w') ↔
        (∀ s ∈ sels, cat.Offers groups s) ∧ (sels.map (·.optionId)).Nodup ∧
          ∀ s ∈ sels, s.optionId ∉ w.seen
  | w, [] => by simp [walkSelections]
  | w, s :: rest => by
    simp only [walkSelections_cons, Except.bind_eq_ok, stepSelection_eq_ok]
    constructor
    · rintro ⟨w', _, ⟨o, ho, havail, hgroup, hfresh, rfl⟩, hrest⟩
      obtain ⟨hoffers, hnodup, hunseen⟩ := walkSelections_isOk_iff.mp ⟨w', hrest⟩
      have hgroup' : ∃ g ∈ groups, g.id = o.groupId := by simpa using hgroup
      refine ⟨?_, ?_, ?_⟩
      · intro x hx
        rcases List.mem_cons.mp hx with rfl | hx
        · exact ⟨o, ho, havail, hgroup'⟩
        · exact hoffers x hx
      · refine List.nodup_cons.mpr ⟨fun hmem => ?_, hnodup⟩
        obtain ⟨x, hx, hid⟩ := List.mem_map.mp hmem
        exact hunseen x hx (by simp [hid])
      · intro x hx
        rcases List.mem_cons.mp hx with rfl | hx
        · exact hfresh
        · exact fun hseen => hunseen x hx (List.mem_cons_of_mem _ hseen)
    · rintro ⟨hoffers, hnodup, hunseen⟩
      obtain ⟨o, ho, havail, hgroup⟩ := hoffers s (List.mem_cons_self ..)
      obtain ⟨hnotin, hnodup'⟩ := List.nodup_cons.mp hnodup
      have hrest : ∃ w', walkSelections cat menuItemId groups
          { seen := s.optionId :: w.seen, tally := w.tally.add o.groupId s.quantity } rest =
            .ok w' := by
        refine walkSelections_isOk_iff.mpr ⟨fun x hx => hoffers x (List.mem_cons_of_mem _ hx),
          hnodup', fun x hx hseen => ?_⟩
        rcases List.mem_cons.mp hseen with hsame | hseen
        · exact hnotin (List.mem_map.mpr ⟨x, hx, hsame⟩)
        · exact hunseen x (List.mem_cons_of_mem _ hx) hseen
      obtain ⟨w', hw'⟩ := hrest
      refine ⟨w', _, ⟨o, ho, havail, ?_, hunseen s (List.mem_cons_self ..), rfl⟩, hw'⟩
      simpa using hgroup

/-! ## Tallies

The walk adds the units of each selection to its group's count in 32 bits, stopping at the
bounds, for any quantities (`Walk.Tallied`). -/

/-- Some selection chooses from group `k`. -/
def Catalog.Chosen (cat : Catalog) (sels : List Selection) (k : Int) : Prop :=
  ∃ s ∈ sels, cat.groupOf? s = some k

instance (cat : Catalog) (sels : List Selection) (k : Int) : Decidable (cat.Chosen sels k) :=
  inferInstanceAs (Decidable (∃ s ∈ sels, cat.groupOf? s = some k))

/-- The units the selections choose from group `k`, added in request order in 32 bits and
    stopping at the bounds. -/
def Catalog.tallied (cat : Catalog) (sels : List Selection) (k : Int) : Int :=
  ((sels.filter fun s => cat.groupOf? s == some k).map (·.quantity)).foldl saturatingAdd 0

theorem Catalog.tallied_append_single (cat : Catalog) (sels : List Selection) (s : Selection)
    (k : Int) :
    cat.tallied (sels ++ [s]) k =
      if cat.groupOf? s = some k then saturatingAdd (cat.tallied sels k) s.quantity
      else cat.tallied sels k := by
  by_cases h : cat.groupOf? s = some k <;> simp [tallied, List.filter_append, h]

theorem Catalog.tallied_of_not_chosen {cat : Catalog} {sels : List Selection} {k : Int}
    (h : ¬ cat.Chosen sels k) : cat.tallied sels k = 0 := by
  have : sels.filter (fun s => cat.groupOf? s == some k) = [] := by
    simpa [List.filter_eq_nil_iff, Chosen] using h
  simp [tallied, this]

/-- What a walk over the selections `done` has gathered, for any quantities: the options seen,
    latest first, and for each group chosen from, the units tallied in 32 bits. -/
structure Walk.Tallied (cat : Catalog) (done : List Selection) (w : Walk) : Prop where
  seen : w.seen = (done.map (·.optionId)).reverse
  ascending : w.tally.Ascending
  lookup : ∀ k, w.tally.lookup k = if cat.Chosen done k then some (cat.tallied done k) else none

theorem Walk.tallied_nil (cat : Catalog) : Walk.Tallied cat [] ⟨[], []⟩ :=
  ⟨rfl, List.Pairwise.nil, fun _ => by simp [Catalog.Chosen]⟩

/-- A group's count, or zero when it has none, is its tally. -/
theorem Walk.Tallied.getD_lookup {cat : Catalog} {done : List Selection} {w : Walk}
    (hw : Walk.Tallied cat done w) (k : Int) : (w.tally.lookup k).getD 0 = cat.tallied done k := by
  rw [hw.lookup]
  by_cases h : cat.Chosen done k
  · simp [h]
  · simp [h, Catalog.tallied_of_not_chosen h]

/-- One step of the walk keeps its tallies: the units of the selection are added to its group's
    count, in 32 bits. -/
theorem Walk.Tallied.step {cat : Catalog} {done : List Selection} {w : Walk}
    (hw : Walk.Tallied cat done w) {o : ModifierOption} {s : Selection}
    (ho : cat.option? s.optionId = some o) :
    Walk.Tallied cat (done ++ [s])
      { seen := s.optionId :: w.seen, tally := w.tally.add o.groupId s.quantity } := by
  have hgroup : cat.groupOf? s = some o.groupId := by simp [Catalog.groupOf?, ho]
  refine ⟨by simp [hw.seen], Tally.add_ascending hw.ascending, fun k => ?_⟩
  rw [Tally.lookup_add hw.ascending, Catalog.tallied_append_single, hw.getD_lookup]
  by_cases hk : k = o.groupId
  · subst hk
    have hnew : cat.Chosen (done ++ [s]) o.groupId := ⟨s, by simp, hgroup⟩
    rw [if_pos rfl, if_pos hnew, if_pos hgroup]
  · have hother : cat.groupOf? s ≠ some k := by
      rw [hgroup]
      simpa [eq_comm] using hk
    have hsame : cat.Chosen (done ++ [s]) k ↔ cat.Chosen done k := by
      simp [Catalog.Chosen, hother]
    rw [if_neg hk, if_neg hother, hw.lookup]
    by_cases hprev : cat.Chosen done k
    · rw [if_pos hprev, if_pos (hsame.mpr hprev)]
    · rw [if_neg hprev, if_neg (mt hsame.mp hprev)]

/-- A whole walk keeps its tallies. -/
theorem walkSelections_tallied {cat : Catalog} {menuItemId : Int}
    {groups : List ModifierGroup} :
    ∀ {done : List Selection} {w w' : Walk} {sels : List Selection},
      Walk.Tallied cat done w → walkSelections cat menuItemId groups w sels = .ok w' →
        Walk.Tallied cat (done ++ sels) w'
  | done, w, w', [], hw, h => by
    simp only [walkSelections, Except.pure_eq_ok, Except.ok.injEq] at h
    subst h
    simpa using hw
  | done, w, w', s :: rest, hw, h => by
    obtain ⟨w1, hstep, hrest⟩ := Except.bind_eq_ok.mp h
    obtain ⟨o, ho, -, -, -, rfl⟩ := stepSelection_eq_ok.mp hstep
    simpa using walkSelections_tallied (hw.step ho) hrest

theorem Walk.Tallied.counts_iff {cat : Catalog} {sels : List Selection} {w : Walk}
    (hw : Walk.Tallied cat sels w) {k : Int} : w.tally.counts k = true ↔ cat.Chosen sels k := by
  rw [Tally.counts_eq, hw.lookup]
  by_cases h : cat.Chosen sels k <;> simp [h]

theorem Walk.Tallied.mem_iff {cat : Catalog} {sels : List Selection} {w : Walk}
    (hw : Walk.Tallied cat sels w) {k n : Int} :
    (k, n) ∈ w.tally ↔ cat.Chosen sels k ∧ n = cat.tallied sels k := by
  rw [Tally.mem_iff_lookup hw.ascending, hw.lookup]
  by_cases h : cat.Chosen sels k
  · rw [if_pos h]
    exact ⟨fun hn => ⟨h, (Option.some.inj hn).symm⟩, fun ⟨_, hn⟩ => by rw [hn]⟩
  · simp [h]

/-- For units that are not negative, adding them in 32 bits and stopping at the bounds gives
    the true sum cut at `int32Max`. -/
theorem Catalog.tallied_eq_min {cat : Catalog} {sels : List Selection} (k : Int)
    (hq : ∀ s ∈ sels, 0 ≤ s.quantity) :
    cat.tallied sels k = min int32Max (cat.selectedIn sels k) := by
  have hunits : ∀ q ∈ (sels.filter fun s => cat.groupOf? s == some k).map (·.quantity), 0 ≤ q := by
    simp only [List.mem_map, List.mem_filter]
    rintro _ ⟨s, ⟨hs, -⟩, rfl⟩
    exact hq s hs
  rw [Catalog.tallied, foldl_saturatingAdd_of_nonneg hunits le_rfl int32Max_nonneg, Int.zero_add]
  rfl

/-- What a walk over the selections `done` has gathered: the options seen, latest first, and
    for each group chosen from, the units chosen, cut at the 32-bit bound. -/
structure Walk.Gathered (cat : Catalog) (done : List Selection) (w : Walk) : Prop where
  seen : w.seen = (done.map (·.optionId)).reverse
  ascending : w.tally.Ascending
  lookup : ∀ k, w.tally.lookup k =
    if ∃ s ∈ done, cat.groupOf? s = some k then some (min int32Max (cat.selectedIn done k))
    else none

/-- For units that are not negative, the tallies of a walk are what it has gathered. -/
theorem Walk.Tallied.gathered {cat : Catalog} {done : List Selection} {w : Walk}
    (hw : Walk.Tallied cat done w) (hq : ∀ s ∈ done, 0 ≤ s.quantity) :
    Walk.Gathered cat done w :=
  ⟨hw.seen, hw.ascending, fun k => by rw [hw.lookup, Catalog.tallied_eq_min k hq]; rfl⟩

theorem Walk.Gathered.counts_iff {cat : Catalog} {sels : List Selection} {w : Walk}
    (hw : Walk.Gathered cat sels w) {k : Int} :
    w.tally.counts k = true ↔ ∃ s ∈ sels, cat.groupOf? s = some k := by
  rw [Tally.counts_eq, hw.lookup]
  by_cases h : ∃ s ∈ sels, cat.groupOf? s = some k <;> simp [h]

theorem Walk.Gathered.mem_iff {cat : Catalog} {sels : List Selection} {w : Walk}
    (hw : Walk.Gathered cat sels w) {k n : Int} :
    (k, n) ∈ w.tally ↔
      (∃ s ∈ sels, cat.groupOf? s = some k) ∧ n = min int32Max (cat.selectedIn sels k) := by
  rw [Tally.mem_iff_lookup hw.ascending, hw.lookup]
  by_cases h : ∃ s ∈ sels, cat.groupOf? s = some k
  · rw [if_pos h]
    exact ⟨fun hn => ⟨h, (Option.some.inj hn).symm⟩, fun ⟨_, hn⟩ => by rw [hn]⟩
  · simp [h]

/-! ## The checks after the walk -/

theorem checkRequired_eq_ok {menuItemId : Int} {groups : List ModifierGroup} {t : Tally} :
    checkRequired menuItemId groups t = .ok () ↔
      ∀ g ∈ groups, g.required = true → t.counts g.id = true := by
  unfold checkRequired
  cases hfind : groups.find? (fun g => g.required && !t.counts g.id) with
  | none =>
    simp only [Except.pure_eq_ok, true_iff]
    intro g hg hreq
    have := List.find?_eq_none.mp hfind g hg
    simpa [hreq] using this
  | some g =>
    simp only [Except.throw_eq_error, reduceCtorEq, false_iff, not_forall]
    have hg := List.mem_of_find?_eq_some hfind
    have hp := List.find?_some hfind
    simp only [Bool.and_eq_true, Bool.not_eq_true'] at hp
    exact ⟨g, hg, hp.1, by simp [hp.2]⟩

theorem checkRanges_eq_ok {menuItemId : Int} {groups : List ModifierGroup} :
    ∀ {t : Tally}, checkRanges menuItemId groups t = .ok () ↔
      ∀ p ∈ t, ∃ g, groups.find? (·.id == p.1) = some g ∧ g.min ≤ p.2 ∧ p.2 ≤ g.max
  | [] => by simp [checkRanges]
  | (k, n) :: rest => by
    simp only [checkRanges, List.mem_cons, forall_eq_or_imp]
    cases hfind : groups.find? (·.id == k) with
    | none => simp
    | some g =>
      by_cases hout : n > g.max ∨ n < g.min
      · have : ¬ (g.min ≤ n ∧ n ≤ g.max) := by omega
        simp [hout, this]
      · have hin : g.min ≤ n ∧ n ≤ g.max := by omega
        have hout' : ¬ (n > g.max) ∧ ¬ (n < g.min) := by omega
        simp [hout', hin, checkRanges_eq_ok]

theorem lineOffer_eq_ok {cat : Catalog} {restaurantId : Int} {line : Line}
    {res : Offer × List ModifierGroup} :
    lineOffer cat restaurantId line = .ok res ↔
      ∃ offer groups, cat.offer? line.menuItemId = some offer ∧
        offer.item.restaurantId = restaurantId ∧ offer.item.isAvailable = true ∧
        offer.groups = some groups ∧ res = (offer, groups) := by
  unfold lineOffer
  cases hoffer : cat.offer? line.menuItemId with
  | none => simp
  | some offer =>
    by_cases hr : offer.item.restaurantId = restaurantId
    · by_cases ha : offer.item.isAvailable = true
      · cases hg : offer.groups with
        | none => simp [hr, ha, hg]
        | some groups =>
          simp [hr, ha, hg]
          exact ⟨Eq.symm, Eq.symm⟩
      · simp [hr, ha]
    · simp [hr]

/-! ## Admitted lines -/

/-- What the rules ask of the selections of a line whose menu item offers `groups`. Units are
    summed without bound; a group whose greatest number is the 32-bit bound takes any sum. -/
structure SelectionsFit (cat : Catalog) (groups : List ModifierGroup) (sels : List Selection) :
    Prop where
  offered : ∀ s ∈ sels, cat.Offers groups s
  distinct : (sels.map (·.optionId)).Nodup
  required : ∀ g ∈ groups, g.required = true → ∃ s ∈ sels, cat.groupOf? s = some g.id
  inRange : ∀ k g, (∃ s ∈ sels, cat.groupOf? s = some k) → groups.find? (·.id == k) = some g →
    g.min ≤ cat.selectedIn sels k ∧ (cat.selectedIn sels k ≤ g.max ∨ int32Max ≤ g.max)

/-- A line the catalog admits at the restaurant. -/
def LineAdmitted (cat : Catalog) (restaurantId : Int) (line : Line) : Prop :=
  ∃ offer groups, cat.offer? line.menuItemId = some offer ∧
    offer.item.restaurantId = restaurantId ∧ offer.item.isAvailable = true ∧
    offer.groups = some groups ∧ SelectionsFit cat groups line.selections

/-- A group that some offered selection falls into is one of the item's groups. -/
theorem find?_isSome_of_offered {cat : Catalog} {groups : List ModifierGroup}
    {sels : List Selection} (hoffered : ∀ s ∈ sels, cat.Offers groups s) {k : Int}
    (hk : ∃ s ∈ sels, cat.groupOf? s = some k) :
    ∃ g, groups.find? (·.id == k) = some g := by
  obtain ⟨s, hs, hgroup⟩ := hk
  obtain ⟨o, ho, -, g, hg, hid⟩ := hoffered s hs
  have hk : o.groupId = k := by simpa [Catalog.groupOf?, ho] using hgroup
  cases hfind : groups.find? (·.id == k) with
  | none =>
    have := List.find?_eq_none.mp hfind g hg
    simp [hid, hk] at this
  | some g' => exact ⟨g', rfl⟩

/-- The range check on the cut sum is the range check on the true sum, except that a group
    whose greatest number reaches the bound takes every sum. -/
theorem clamped_in_range (g : ModifierGroup) (total : Int) (hpos : 0 ≤ total) :
    (g.min ≤ min int32Max total ∧ min int32Max total ≤ g.max) ↔
      (g.min ≤ total ∧ (total ≤ g.max ∨ int32Max ≤ g.max)) := by
  have h0 := g.min_nonneg
  have h1 := g.min_le_one
  simp only [int32Max] at *
  omega

/-- One line passes the validator exactly when the catalog admits it. -/
theorem checkLine_eq_ok_iff {cat : Catalog} {restaurantId : Int} {line : Line}
    (hq : ∀ s ∈ line.selections, 0 ≤ s.quantity) :
    checkLine cat restaurantId line = .ok () ↔ LineAdmitted cat restaurantId line := by
  have hunfold : checkLine cat restaurantId line =
      lineOffer cat restaurantId line >>= fun res =>
        walkSelections cat line.menuItemId res.2 ⟨[], []⟩ line.selections >>= fun w =>
          checkRequired line.menuItemId res.2 w.tally >>= fun _ =>
            checkRanges line.menuItemId res.2 w.tally := rfl
  rw [hunfold]
  constructor
  · intro h
    obtain ⟨res, hoffer, h⟩ := Except.bind_eq_ok.mp h
    obtain ⟨offer, groups, hfound, hrestaurant, havailable, hgroups, rfl⟩ :=
      lineOffer_eq_ok.mp hoffer
    obtain ⟨w, hwalk, h⟩ := Except.bind_eq_ok.mp h
    obtain ⟨⟨⟩, hrequired, hranges⟩ := Except.bind_eq_ok.mp h
    have hw : Walk.Gathered cat line.selections w := by
      have htallied := walkSelections_tallied (Walk.tallied_nil cat) hwalk
      rw [List.nil_append] at htallied
      exact htallied.gathered hq
    obtain ⟨hoffered, hdistinct, -⟩ := walkSelections_isOk_iff.mp ⟨w, hwalk⟩
    refine ⟨offer, groups, hfound, hrestaurant, havailable, hgroups, hoffered, hdistinct, ?_, ?_⟩
    · intro g hg hreq
      exact hw.counts_iff.mp (checkRequired_eq_ok.mp hrequired g hg hreq)
    · intro k g hk hfind
      have hmem : (k, min int32Max (cat.selectedIn line.selections k)) ∈ w.tally :=
        hw.mem_iff.mpr ⟨hk, rfl⟩
      obtain ⟨g', hfind', hrange⟩ := checkRanges_eq_ok.mp hranges _ hmem
      obtain rfl : g' = g := Option.some.inj (hfind'.symm.trans hfind)
      exact (clamped_in_range g' _ (Catalog.selectedIn_nonneg hq)).mp hrange
  · rintro ⟨offer, groups, hfound, hrestaurant, havailable, hgroups, hfit⟩
    have hoffer : lineOffer cat restaurantId line = .ok (offer, groups) :=
      lineOffer_eq_ok.mpr ⟨offer, groups, hfound, hrestaurant, havailable, hgroups, rfl⟩
    have hruns : ∃ w, walkSelections cat line.menuItemId groups ⟨[], []⟩ line.selections =
        .ok w :=
      walkSelections_isOk_iff.mpr ⟨hfit.offered, hfit.distinct, fun _ _ hseen => by simp at hseen⟩
    obtain ⟨w, hwalk⟩ := hruns
    have hw : Walk.Gathered cat line.selections w := by
      have htallied := walkSelections_tallied (Walk.tallied_nil cat) hwalk
      rw [List.nil_append] at htallied
      exact htallied.gathered hq
    have hrequired : checkRequired line.menuItemId groups w.tally = .ok () :=
      checkRequired_eq_ok.mpr fun g hg hreq => hw.counts_iff.mpr (hfit.required g hg hreq)
    have hranges : checkRanges line.menuItemId groups w.tally = .ok () := by
      refine checkRanges_eq_ok.mpr fun ⟨k, n⟩ hmem => ?_
      obtain ⟨hk, rfl⟩ := hw.mem_iff.mp hmem
      obtain ⟨g, hfind⟩ := find?_isSome_of_offered hfit.offered hk
      exact ⟨g, hfind, (clamped_in_range g _ (Catalog.selectedIn_nonneg hq)).mpr
        (hfit.inRange k g hk hfind)⟩
    simp [hoffer, hwalk, hrequired, hranges]

/-- The lines pass exactly when each of them does. -/
theorem checkLines_eq_ok {cat : Catalog} {restaurantId : Int} :
    ∀ {lines : List Line}, checkLines cat restaurantId lines = .ok () ↔
      ∀ line ∈ lines, checkLine cat restaurantId line = .ok ()
  | [] => by simp [checkLines]
  | line :: rest => by
    rw [checkLines, Except.bind_eq_ok]
    simp only [List.mem_cons, forall_eq_or_imp, ← checkLines_eq_ok]
    constructor
    · rintro ⟨⟨⟩, hline, hrest⟩
      exact ⟨hline, hrest⟩
    · rintro ⟨hline, hrest⟩
      exact ⟨(), hline, hrest⟩

/-- The validator accepts the lines of a request exactly when the catalog admits every one of
    them, for selections whose units are not negative. -/
theorem checkLines_accepts_iff_admitted (cat : Catalog) (restaurantId : Int)
    (lines : List Line) (hq : ∀ line ∈ lines, ∀ s ∈ line.selections, 0 ≤ s.quantity) :
    checkLines cat restaurantId lines = .ok () ↔
      ∀ line ∈ lines, LineAdmitted cat restaurantId line := by
  rw [checkLines_eq_ok]
  constructor
  · intro h line hline
    exact (checkLine_eq_ok_iff (hq line hline)).mp (h line hline)
  · intro h line hline
    exact (checkLine_eq_ok_iff (hq line hline)).mpr (h line hline)

/-- A size group whose greatest number is the 32-bit bound. -/
def boundaryGroup : ModifierGroup :=
  { id := 10, name := "Size", required := true, multiSelect := true, max := 2147483647,
    restaurantId := 1 }

/-- A burger offering `boundaryGroup`, with two options of it. -/
def boundaryCatalog : Catalog :=
  Catalog.ofLists
    [{ item := { id := 1, name := "Burger", description := "", price := 9.5,
                 isAvailable := true, restaurantId := 1 },
       groups := some [boundaryGroup] }]
    [{ id := 100, name := "Small", price := 0, available := true, preSelect := false,
       groupId := 10 },
     { id := 101, name := "Large", price := 0.5, available := true, preSelect := false,
       groupId := 10 }]

/-- Both options of the size group, one of them at the 32-bit bound. -/
def boundaryLine : Line :=
  { menuItemId := 1, quantity := 1, instructions := none,
    selections := [⟨100, 2147483647⟩, ⟨101, 1⟩] }

/-- The burger line chooses one unit more than the size group's greatest number, and the
    catalog still admits it: its sum passes the 32-bit bound, which is the group's greatest
    number. -/
theorem boundaryLine_admitted :
    (∀ line ∈ [boundaryLine], ∀ s ∈ line.selections, 0 ≤ s.quantity) ∧
      (∀ line ∈ [boundaryLine], LineAdmitted boundaryCatalog 1 line) ∧
      boundaryCatalog.selectedIn boundaryLine.selections 10 = boundaryGroup.max + 1 := by
  have hq : ∀ line ∈ [boundaryLine], ∀ s ∈ line.selections, 0 ≤ s.quantity := by decide
  refine ⟨hq, (checkLines_accepts_iff_admitted boundaryCatalog 1 [boundaryLine] hq).mp rfl, rfl⟩

end OrderDesk
