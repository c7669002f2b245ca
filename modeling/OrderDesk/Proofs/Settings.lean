import Mathlib
import OrderDesk.Config.Settings
import OrderDesk.Proofs.Validation

/-!
# Reading the settings

The settings are read from named variables (`Settings.ofLookup`), and the cross-origin policy
is built from the origins they allow (`corsPolicy`).

A count, such as the request timeout, is an unsigned 64-bit decimal numeral, read after
trimming: an optional `+`, then at least one ASCII digit (`CountText`), its value at most
`u64Max`. The numeral is read from the left and the first fault met is reported, so a value is
too large as soon as its leading digits pass the bound, whatever follows them (`Overflows`):
`"99999999999999999999x"` is too large, not an invalid digit (`junkTimeout_too_large`).

Main statements: `Settings.ofLookup_reads`, which settings are read and why reading fails, and
`corsPolicy_of_settings`, what the policy comes to for the origins read: a list of valid
header values that holds the wildcard `*` stops the service (`wildcardOrigin_halts`).
-/

namespace OrderDesk

/-! ## Decimal numerals -/

/-- The value of the decimal digits `ds`, the most significant first. -/
def decimalValue (ds : List Char) : Nat :=
  Nat.ofDigits 10 (ds.reverse.map fun c => c.toNat - '0'.toNat)

theorem decimalValue_append (p q : List Char) :
    decimalValue (p ++ q) = decimalValue p * 10 ^ q.length + decimalValue q := by
  simp only [decimalValue, List.reverse_append, List.map_append, Nat.ofDigits_append,
    List.length_map, List.length_reverse]
  ring

theorem decimalValue_append_single (p : List Char) (c : Char) :
    decimalValue (p ++ [c]) = decimalValue p * 10 + (c.toNat - '0'.toNat) := by
  simp only [decimalValue, List.reverse_append, List.reverse_singleton, List.singleton_append,
    List.map_cons, Nat.ofDigits_cons]
  ring

/-- More digits never make a smaller value. -/
theorem decimalValue_le_append (p q : List Char) : decimalValue p ≤ decimalValue (p ++ q) := by
  have hpow : 1 ≤ 10 ^ q.length := Nat.one_le_pow _ _ (by norm_num)
  calc decimalValue p = decimalValue p * 1 := (Nat.mul_one _).symm
    _ ≤ decimalValue p * 10 ^ q.length := Nat.mul_le_mul_left _ hpow
    _ ≤ decimalValue (p ++ q) := by
      rw [decimalValue_append]
      exact Nat.le_add_right _ _

/-- Reading digits onto the value of `done` stops at the first digit that takes the value past
    `bound`, and otherwise at the first character that is not a digit. -/
theorem accumulateWithin_eq (bound : Nat) (beyond : NumeralFault) :
    ∀ (done cs : List Char), decimalValue done ≤ bound →
      accumulateWithin bound beyond (decimalValue done) cs =
        if bound < decimalValue (done ++ cs.takeWhile Char.isDigit) then .error beyond
        else if cs.all Char.isDigit then .ok (decimalValue (done ++ cs))
        else .error .invalidDigit
  | done, [], h => by simp [accumulateWithin, Nat.not_lt.mpr h]
  | done, c :: rest, h => by
    by_cases hc : c.isDigit = true
    · have hstep : accumulateWithin bound beyond (decimalValue done) (c :: rest) =
          if bound < decimalValue (done ++ [c]) then .error beyond
          else accumulateWithin bound beyond (decimalValue (done ++ [c])) rest := by
        rw [decimalValue_append_single]
        simp only [accumulateWithin, hc, if_true, gt_iff_lt]
      have hleading : done ++ (c :: rest).takeWhile Char.isDigit =
          (done ++ [c]) ++ rest.takeWhile Char.isDigit := by
        simp [List.takeWhile_cons_of_pos hc]
      have hall : (c :: rest).all Char.isDigit = rest.all Char.isDigit := by simp [hc]
      rw [hstep, hleading, hall, show done ++ c :: rest = (done ++ [c]) ++ rest by simp]
      by_cases hover : bound < decimalValue (done ++ [c])
      · have hpast : bound < decimalValue ((done ++ [c]) ++ rest.takeWhile Char.isDigit) :=
          Nat.lt_of_lt_of_le hover (decimalValue_le_append _ _)
        rw [if_pos hover, if_pos hpast]
      · rw [if_neg hover]
        exact accumulateWithin_eq bound beyond (done ++ [c]) rest (Nat.not_lt.mp hover)
    · have hstop : (c :: rest).takeWhile Char.isDigit = [] := by simp [hc]
      simp [accumulateWithin, hc, hstop, Nat.not_lt.mpr h]

theorem accumulateDigits_eq (cs : List Char) :
    accumulateDigits 0 cs =
      if u64Max < decimalValue (cs.takeWhile Char.isDigit) then .error .tooLarge
      else if cs.all Char.isDigit then .ok (decimalValue cs)
      else .error .invalidDigit := by
  have h := accumulateWithin_eq u64Max .tooLarge [] cs (by simp [decimalValue])
  simp only [List.nil_append] at h
  exact h

/-- `t` is `body` after an optional `+`. -/
def Signed (t body : List Char) : Prop := t = body ∨ t = '+' :: body

/-- `t` is a count written in decimal, with value `n`: an optional `+`, then at least one ASCII
    digit. -/
def CountText (t : List Char) (n : Nat) : Prop :=
  ∃ ds, Signed t ds ∧ ds ≠ [] ∧ (∀ c ∈ ds, c.isDigit = true) ∧ decimalValue ds = n

/-- After an optional `+`, `t` begins with ASCII digits whose value passes the greatest unsigned
    64-bit integer, whatever follows them. -/
def Overflows (t : List Char) : Prop :=
  ∃ ds rest, Signed t (ds ++ rest) ∧ (∀ c ∈ ds, c.isDigit = true) ∧ u64Max < decimalValue ds

/-- Some leading digits of `cs` pass the bound exactly when all of them do. -/
theorem exists_digits_over_iff (cs : List Char) :
    (∃ ds rest, cs = ds ++ rest ∧ (∀ c ∈ ds, c.isDigit = true) ∧ u64Max < decimalValue ds) ↔
      u64Max < decimalValue (cs.takeWhile Char.isDigit) := by
  constructor
  · rintro ⟨ds, rest, rfl, hdigits, hover⟩
    rw [List.takeWhile_append_of_pos hdigits]
    exact Nat.lt_of_lt_of_le hover (decimalValue_le_append _ _)
  · intro hover
    exact ⟨_, _, List.takeWhile_append_dropWhile.symm, fun c hc => List.mem_takeWhile_imp hc,
      hover⟩

/-- The sign is not a digit. -/
theorem plus_not_mem_digits {ds : List Char} (hdigits : ∀ c ∈ ds, c.isDigit = true) :
    '+' ∉ ds :=
  fun hplus => absurd (hdigits '+' hplus) (by decide)

section Sign

variable {body : List Char}

theorem countText_plus (n : Nat) :
    CountText ('+' :: body) n ↔
      body ≠ [] ∧ (∀ c ∈ body, c.isDigit = true) ∧ decimalValue body = n := by
  constructor
  · rintro ⟨ds, hsigned | hsigned, hne, hdigits, rfl⟩
    · exact absurd (hsigned ▸ List.mem_cons_self) (plus_not_mem_digits hdigits)
    · cases hsigned
      exact ⟨hne, hdigits, rfl⟩
  · rintro ⟨hne, hdigits, rfl⟩
    exact ⟨body, Or.inr rfl, hne, hdigits, rfl⟩

theorem overflows_plus :
    Overflows ('+' :: body) ↔ u64Max < decimalValue (body.takeWhile Char.isDigit) := by
  rw [← exists_digits_over_iff]
  constructor
  · rintro ⟨ds, rest, hsigned | hsigned, hdigits, hover⟩
    · cases ds with
      | nil => simp [decimalValue, u64Max] at hover
      | cons d ds =>
        obtain ⟨rfl, -⟩ := List.cons.inj hsigned
        exact absurd List.mem_cons_self (plus_not_mem_digits hdigits)
    · exact ⟨ds, rest, (List.cons.inj hsigned).2, hdigits, hover⟩
  · rintro ⟨ds, rest, rfl, hdigits, hover⟩
    exact ⟨ds, rest, Or.inr rfl, hdigits, hover⟩

variable {t : List Char}

theorem signed_unsigned (ht : t.head? ≠ some '+') : Signed t body ↔ t = body := by
  constructor
  · rintro (h | rfl)
    · exact h
    · simp at ht
  · exact Or.inl

theorem countText_unsigned (ht : t.head? ≠ some '+') (n : Nat) :
    CountText t n ↔ t ≠ [] ∧ (∀ c ∈ t, c.isDigit = true) ∧ decimalValue t = n := by
  simp only [CountText, signed_unsigned ht, exists_eq_left']

theorem overflows_unsigned (ht : t.head? ≠ some '+') :
    Overflows t ↔ u64Max < decimalValue (t.takeWhile Char.isDigit) := by
  simp only [Overflows, signed_unsigned ht, ← exists_digits_over_iff]

end Sign

/-! ## Counts -/

/-- What reading the digits after an optional sign gives, stated on the text. -/
theorem accumulateDigits_spec {t body : List Char}
    (hcount : ∀ n, CountText t n ↔ (∀ c ∈ body, c.isDigit = true) ∧ decimalValue body = n)
    (hover : Overflows t ↔ u64Max < decimalValue (body.takeWhile Char.isDigit)) :
    (∀ n, accumulateDigits 0 body = .ok n ↔ CountText t n ∧ n ≤ u64Max) ∧
    (∀ f, accumulateDigits 0 body = .error f ↔
      (Overflows t ∧ f = .tooLarge) ∨
        (¬ Overflows t ∧ (¬ ∃ n, CountText t n) ∧ f = .invalidDigit)) := by
  have hall : body.all Char.isDigit = true ↔ ∀ c ∈ body, c.isDigit = true := List.all_eq_true
  rw [accumulateDigits_eq]
  by_cases hlarge : u64Max < decimalValue (body.takeWhile Char.isDigit)
  · have hnone : ∀ n, CountText t n → u64Max < n := fun n hc => by
      obtain ⟨hdigits, rfl⟩ := (hcount n).mp hc
      rwa [List.takeWhile_eq_self_iff.mpr hdigits] at hlarge
    rw [if_pos hlarge]
    refine ⟨fun n => ⟨fun h => (by cases h), fun ⟨hc, hle⟩ => absurd hle (Nat.not_le.mpr
      (hnone n hc))⟩, fun f => ?_⟩
    simp [hover.mpr hlarge, eq_comm]
  have hfits : ¬ Overflows t := mt hover.mp hlarge
  by_cases hdigits : ∀ c ∈ body, c.isDigit = true
  · have hle : decimalValue body ≤ u64Max := by
      rw [List.takeWhile_eq_self_iff.mpr hdigits] at hlarge
      exact Nat.not_lt.mp hlarge
    have hsome : ∃ n, CountText t n := ⟨_, (hcount _).mpr ⟨hdigits, rfl⟩⟩
    rw [if_neg hlarge, if_pos (hall.mpr hdigits)]
    refine ⟨fun n => ?_, fun f => by simp [hfits, hsome]⟩
    rw [hcount]
    constructor
    · intro h
      cases h
      exact ⟨⟨hdigits, rfl⟩, hle⟩
    · rintro ⟨⟨-, rfl⟩, -⟩
      rfl
  · have hnone : ¬ ∃ n, CountText t n := fun ⟨n, hc⟩ => hdigits ((hcount n).mp hc).1
    rw [if_neg hlarge, if_neg (mt hall.mp hdigits)]
    exact ⟨fun n => ⟨fun h => (by cases h), fun ⟨hc, _⟩ => absurd ⟨n, hc⟩ hnone⟩,
      fun f => by simp [hfits, hnone, eq_comm]⟩

theorem readU64_plus {body : List Char} (hbody : body ≠ []) :
    readU64 ('+' :: body) = accumulateDigits 0 body := by
  cases body with
  | nil => exact absurd rfl hbody
  | cons d rest => rfl

/-- Without a leading `+` the text is read as digits; the sign `-` alone is refused as an
    invalid digit, as reading it as a digit does. -/
theorem readU64_unsigned {c : Char} (body : List Char) (hc : c ≠ '+') :
    readU64 (c :: body) = accumulateDigits 0 (c :: body) := by
  by_cases hminus : c = '-' ∧ body = []
  · obtain ⟨rfl, rfl⟩ := hminus
    rfl
  · unfold readU64
    split <;> simp_all

/-- How a count is read: the empty text is refused as empty, a text whose leading digits pass
    the bound as too large, any other text that is not a count as holding an invalid digit; a
    count within 64 bits is read as its value. -/
theorem readU64_spec (t : List Char) :
    (∀ n, readU64 t = .ok n ↔ CountText t n ∧ n ≤ u64Max) ∧
    (∀ f, readU64 t = .error f ↔ (t = [] ∧ f = .empty) ∨ (Overflows t ∧ f = .tooLarge) ∨
      (t ≠ [] ∧ ¬ Overflows t ∧ (¬ ∃ n, CountText t n) ∧ f = .invalidDigit)) := by
  rcases t with _ | ⟨c, body⟩
  · have hcount : ∀ n, ¬ CountText [] n := by
      rintro n ⟨ds, hsigned | hsigned, hne, -, -⟩
      · exact hne hsigned.symm
      · cases hsigned
    have hover : ¬ Overflows [] := by
      rintro ⟨ds, rest, hsigned | hsigned, -, hlarge⟩
      · obtain ⟨rfl, -⟩ := List.append_eq_nil_iff.mp hsigned.symm
        simp [decimalValue, u64Max] at hlarge
      · cases hsigned
    simp [readU64, hcount, hover, eq_comm]
  by_cases hc : c = '+'
  · subst hc
    by_cases hbody : body = []
    · subst hbody
      have hcount : ∀ n, ¬ CountText ['+'] n := fun n h => ((countText_plus n).mp h).1 rfl
      have hover : ¬ Overflows ['+'] := by simp [overflows_plus, decimalValue, u64Max]
      simp [readU64, hcount, hover, eq_comm]
    · obtain ⟨hok, herror⟩ := accumulateDigits_spec
        (fun n => by rw [countText_plus, and_iff_right hbody]) overflows_plus
      rw [readU64_plus hbody]
      exact ⟨hok, fun f => by simp [herror]⟩
  · have ht : (c :: body).head? ≠ some '+' := by simpa using hc
    obtain ⟨hok, herror⟩ := accumulateDigits_spec
      (fun n => by rw [countText_unsigned ht, and_iff_right (List.cons_ne_nil c body)])
      (overflows_unsigned ht)
    rw [readU64_unsigned body hc]
    exact ⟨hok, fun f => by simp [herror]⟩

theorem NumeralFault.reason_eq_iff {f g : NumeralFault} : f.reason = g.reason ↔ f = g := by
  cases f <;> cases g <;> decide

/-- Why a count is refused: it is empty, its leading digits pass the bound, or else it holds a
    character that is not a digit; it is never too small. -/
theorem readU64_fault {t : List Char} {f : NumeralFault} (h : readU64 t = .error f) :
    (f = .empty ↔ t = []) ∧ (f = .tooLarge ↔ Overflows t) ∧
      (f = .invalidDigit ↔ t ≠ [] ∧ ¬ Overflows t) := by
  have hspec := (readU64_spec t).2
  have hempty : t = [] → f = .empty := fun ht =>
    Except.error.inj (h.symm.trans ((hspec _).mpr (Or.inl ⟨ht, rfl⟩)))
  have hlarge : Overflows t → f = .tooLarge := fun hov =>
    Except.error.inj (h.symm.trans ((hspec _).mpr (Or.inr (Or.inl ⟨hov, rfl⟩))))
  rcases (hspec f).mp h with ⟨ht, rfl⟩ | ⟨hov, rfl⟩ | ⟨ht, hov, -, rfl⟩
  · have hov : ¬ Overflows t := fun hov => by cases hlarge hov
    subst ht
    simp [hov]
  · have ht : t ≠ [] := fun ht => by cases hempty ht
    simp [ht, hov]
  · simp [ht, hov]

/-! ## Settings -/

/-- The request timeout a variable sets, in seconds: 15 when it is not set, and otherwise the
    count it holds after trimming, which must fit in 64 bits. -/
def TimeoutSetting : Option String → Nat → Prop
  | none, secs => secs = defaultRequestTimeout
  | some value, secs => CountText (trimSpaces value.toList) secs ∧ secs ≤ u64Max

theorem parseU64_eq_ok_iff (name value : String) (n : Nat) :
    parseU64 name value = .ok n ↔ readU64 (trimSpaces value.toList) = .ok n := by
  unfold parseU64
  cases readU64 (trimSpaces value.toList) <;> simp

theorem parseU64_eq_error_iff (name value : String) (e : ConfigError) :
    parseU64 name value = .error e ↔
      ∃ f, readU64 (trimSpaces value.toList) = .error f ∧ e = .invalid name value f.reason := by
  unfold parseU64
  cases readU64 (trimSpaces value.toList) <;> simp [eq_comm]

/-- The settings read: the database URL as given, the timeout it sets, and the other values or
    their defaults. -/
theorem Settings.ofLookup_eq_ok_iff (lookup : Lookup) (cfg : Settings) :
    Settings.ofLookup lookup = .ok cfg ↔
      ∃ url secs, lookup "DATABASE_URL" = some url ∧
        TimeoutSetting (lookup "REQUEST_TIMEOUT_SECS") secs ∧
        cfg = { databaseUrl := url, requestTimeout := secs,
                bindAddress := (lookup "BIND_ADDRESS").getD defaultBindAddress,
                logLevel := (lookup "LOG_LEVEL").getD defaultLogLevel,
                allowedOrigins := ((lookup "ALLOWED_ORIGINS").map parseList).getD [] } := by
  unfold Settings.ofLookup
  cases hurl : lookup "DATABASE_URL" with
  | none => simp
  | some url =>
    cases htimeout : lookup "REQUEST_TIMEOUT_SECS" with
    | none => simp [TimeoutSetting, eq_comm]
    | some value =>
      have hsetting : ∀ secs, TimeoutSetting (some value) secs ↔
          readU64 (trimSpaces value.toList) = .ok secs := fun secs =>
        ((readU64_spec _).1 secs).symm
      cases hread : parseU64 "REQUEST_TIMEOUT_SECS" value with
      | error e =>
        obtain ⟨f, hf, -⟩ := (parseU64_eq_error_iff _ _ _).mp hread
        simp [hread, hsetting, hf]
      | ok n =>
        have hn := (parseU64_eq_ok_iff _ _ _).mp hread
        simp [hread, hsetting, hn, eq_comm]

/-- Reading the settings fails when the database URL is missing, and otherwise when the timeout
    is set to a text that is not a count within 64 bits. -/
theorem Settings.ofLookup_eq_error_iff (lookup : Lookup) (e : ConfigError) :
    Settings.ofLookup lookup = .error e ↔
      (lookup "DATABASE_URL" = none ∧ e = .missing "DATABASE_URL") ∨
      ∃ url value f, lookup "DATABASE_URL" = some url ∧
        lookup "REQUEST_TIMEOUT_SECS" = some value ∧
        readU64 (trimSpaces value.toList) = .error f ∧
        e = .invalid "REQUEST_TIMEOUT_SECS" value f.reason := by
  unfold Settings.ofLookup
  cases hurl : lookup "DATABASE_URL" with
  | none => simp [eq_comm]
  | some url =>
    cases htimeout : lookup "REQUEST_TIMEOUT_SECS" with
    | none => simp
    | some value =>
      cases hread : parseU64 "REQUEST_TIMEOUT_SECS" value with
      | error e' =>
        obtain ⟨f, hf, rfl⟩ := (parseU64_eq_error_iff _ _ _).mp hread
        simp [hread, hf, eq_comm]
      | ok n =>
        have hn := (parseU64_eq_ok_iff _ _ _).mp hread
        simp [hread, hn]

/-- The settings are read exactly when the database URL is set and the timeout is either not
    set or a count within 64 bits, and then hold the values given or their defaults. A missing
    URL is reported first; a timeout that is not a count is refused with its value as given,
    for being empty, for leading digits past the bound, or else for a character that is not a
    digit. -/
theorem Settings.ofLookup_reads (lookup : Lookup) :
    (∀ cfg, Settings.ofLookup lookup = .ok cfg ↔
      ∃ url secs, lookup "DATABASE_URL" = some url ∧
        TimeoutSetting (lookup "REQUEST_TIMEOUT_SECS") secs ∧
        cfg = { databaseUrl := url, requestTimeout := secs,
                bindAddress := (lookup "BIND_ADDRESS").getD defaultBindAddress,
                logLevel := (lookup "LOG_LEVEL").getD defaultLogLevel,
                allowedOrigins := ((lookup "ALLOWED_ORIGINS").map parseList).getD [] }) ∧
    (∀ e, Settings.ofLookup lookup = .error e ↔
      (lookup "DATABASE_URL" = none ∧ e = .missing "DATABASE_URL") ∨
      ∃ url value reason, lookup "DATABASE_URL" = some url ∧
        lookup "REQUEST_TIMEOUT_SECS" = some value ∧
        e = .invalid "REQUEST_TIMEOUT_SECS" value reason ∧
        (¬ ∃ secs, TimeoutSetting (some value) secs) ∧
        (reason = "cannot parse integer from empty string" ↔ trimSpaces value.toList = []) ∧
        (reason = "number too large to fit in target type" ↔
          Overflows (trimSpaces value.toList)) ∧
        (reason = "invalid digit found in string" ↔
          trimSpaces value.toList ≠ [] ∧ ¬ Overflows (trimSpaces value.toList))) := by
  refine ⟨Settings.ofLookup_eq_ok_iff lookup, fun e => ?_⟩
  rw [Settings.ofLookup_eq_error_iff]
  refine or_congr_right ⟨?_, ?_⟩
  · rintro ⟨url, value, f, hurl, hvalue, hread, rfl⟩
    obtain ⟨hempty, hlarge, hinvalid⟩ := readU64_fault hread
    have hnone : ¬ ∃ secs, TimeoutSetting (some value) secs := fun ⟨secs, hsecs⟩ => by
      rw [TimeoutSetting, ← (readU64_spec _).1 secs, hread] at hsecs
      cases hsecs
    refine ⟨url, value, f.reason, hurl, hvalue, rfl, hnone, ?_, ?_, ?_⟩
    · exact (@NumeralFault.reason_eq_iff f .empty).trans hempty
    · exact (@NumeralFault.reason_eq_iff f .tooLarge).trans hlarge
    · exact (@NumeralFault.reason_eq_iff f .invalidDigit).trans hinvalid
  · rintro ⟨url, value, reason, hurl, hvalue, rfl, hnone, hempty, hlarge, hinvalid⟩
    cases hread : readU64 (trimSpaces value.toList) with
    | ok secs =>
      exact absurd ⟨secs, ((readU64_spec _).1 secs).mp hread⟩ hnone
    | error f =>
      obtain ⟨hempty', hlarge', hinvalid'⟩ := readU64_fault hread
      refine ⟨url, value, f, hurl, hvalue, hread, ?_⟩
      cases f with
      | empty => rw [hempty.mpr (hempty'.mp rfl)]; rfl
      | tooLarge => rw [hlarge.mpr (hlarge'.mp rfl)]; rfl
      | invalidDigit => rw [hinvalid.mpr (hinvalid'.mp rfl)]; rfl
      | tooSmall =>
        rcases ((readU64_spec _).2 _).mp hread with ⟨-, h⟩ | ⟨-, h⟩ | ⟨-, -, -, h⟩ <;> cases h

/-- Variables whose timeout has twenty leading digits, past the 64-bit bound, and then a
    letter. -/
def junkTimeoutLookup : Lookup := fun name =>
  if name = "DATABASE_URL" then some "sqlite::memory:"
  else if name = "REQUEST_TIMEOUT_SECS" then some "99999999999999999999x" else none

/-- A timeout that is not a count at all is refused as too large when its leading digits pass
    the bound: the letter after them is never read. -/
theorem junkTimeout_too_large :
    (¬ ∃ n, CountText (trimSpaces "99999999999999999999x".toList) n) ∧
    Settings.ofLookup junkTimeoutLookup =
      .error (.invalid "REQUEST_TIMEOUT_SECS" "99999999999999999999x"
        "number too large to fit in target type") := by
  refine ⟨fun ⟨n, hcount⟩ => ?_, rfl⟩
  have htrim : trimSpaces "99999999999999999999x".toList = "99999999999999999999x".toList := by
    decide
  rw [htrim, countText_unsigned (by decide)] at hcount
  exact absurd (hcount.2.1 'x' (by decide)) (by decide)

/-! ## Cross-origin policy -/

section Cors

theorem find?_invalid_eq_some_iff {origins : List String} {o : String} :
    origins.find? (!validHeaderValue ·) = some o ↔
      ∃ pre post, origins = pre ++ o :: post ∧ (∀ p ∈ pre, validHeaderValue p = true) ∧
        validHeaderValue o = false := by
  rw [List.find?_eq_some_iff_append]
  simp only [Bool.not_eq_true', Bool.not_not]
  constructor
  · rintro ⟨ho, pre, post, hsplit, hpre⟩
    exact ⟨pre, post, hsplit, hpre, ho⟩
  · rintro ⟨pre, post, hsplit, hpre, ho⟩
    exact ⟨ho, pre, post, hsplit, hpre⟩

theorem find?_invalid_eq_none_iff {origins : List String} :
    origins.find? (!validHeaderValue ·) = none ↔ ∀ o ∈ origins, validHeaderValue o = true := by
  simp [List.find?_eq_none]

/-- An origin found invalid is a listed origin that is not valid. -/
theorem not_all_valid_of_find? {origins : List String} {o : String}
    (h : origins.find? (!validHeaderValue ·) = some o) :
    ¬ ∀ o ∈ origins, validHeaderValue o = true := fun hall => by
  have hfound := List.find?_some h
  rw [hall o (List.mem_of_find?_eq_some h)] at hfound
  cases hfound

variable (s : Settings)

/-- How the policy is set up: any origin when none is listed; otherwise refused at the first
    listed origin that is not a valid header value, halted when all are valid and one is the
    wildcard, and else the listed origins. -/
theorem corsPolicy_cases :
    (s.allowedOrigins = [] ∧ corsPolicy s = .ready .anyOrigin) ∨
    (∃ o, s.allowedOrigins.find? (!validHeaderValue ·) = some o ∧
      corsPolicy s = .refused (.invalid "ALLOWED_ORIGINS" o "failed to parse header value")) ∨
    (s.allowedOrigins ≠ [] ∧ (∀ o ∈ s.allowedOrigins, validHeaderValue o = true) ∧
      ("*" ∈ s.allowedOrigins ∧ corsPolicy s = .halted wildcardMessage ∨
        "*" ∉ s.allowedOrigins ∧ corsPolicy s = .ready (.origins s.allowedOrigins))) := by
  unfold corsPolicy
  by_cases hempty : s.allowedOrigins = []
  · rw [hempty]
    exact Or.inl ⟨rfl, rfl⟩
  rw [if_neg (by simpa using hempty)]
  cases hfind : s.allowedOrigins.find? (!validHeaderValue ·) with
  | some o => exact Or.inr (Or.inl ⟨o, rfl, rfl⟩)
  | none =>
    refine Or.inr (Or.inr ⟨hempty, find?_invalid_eq_none_iff.mp hfind, ?_⟩)
    by_cases hstar : "*" ∈ s.allowedOrigins
    · exact Or.inl ⟨hstar, by simp [hstar]⟩
    · exact Or.inr ⟨hstar, by simp [hstar]⟩

/-- The policy lets any origin in exactly when none is listed, and lets the listed ones in
    exactly when all are valid header values and none is the wildcard. -/
theorem corsPolicy_ready_iff (p : CorsPolicy) :
    corsPolicy s = .ready p ↔
      (s.allowedOrigins = [] ∧ p = .anyOrigin) ∨
      (s.allowedOrigins ≠ [] ∧ (∀ o ∈ s.allowedOrigins, validHeaderValue o = true) ∧
        "*" ∉ s.allowedOrigins ∧ p = .origins s.allowedOrigins) := by
  rcases corsPolicy_cases s with ⟨hempty, h⟩ | ⟨o, hfind, h⟩ | ⟨hne, hall, ⟨hstar, h⟩ | ⟨hstar, h⟩⟩
  · rw [h, hempty]
    simp only [CorsOutcome.ready.injEq, ne_eq, not_true_eq_false, false_and, or_false, true_and]
    exact eq_comm
  · rw [h]
    simp only [reduceCtorEq, false_iff, not_or, not_and]
    exact ⟨fun hempty => by simp [hempty] at hfind,
      fun _ hall => absurd hall (not_all_valid_of_find? hfind)⟩
  · rw [h]
    simp only [reduceCtorEq, false_iff, not_or, not_and]
    exact ⟨fun hempty => absurd hempty hne, fun _ _ hnot => absurd hstar hnot⟩
  · rw [h]
    simp only [CorsOutcome.ready.injEq, hne, false_and, false_or, ne_eq, not_false_eq_true,
      true_and, hstar]
    rw [and_iff_right hall]
    exact eq_comm

/-- The policy is refused for the first listed origin that is not a valid header value. -/
theorem corsPolicy_refused_iff (e : ConfigError) :
    corsPolicy s = .refused e ↔
      ∃ pre o post, s.allowedOrigins = pre ++ o :: post ∧
        (∀ p ∈ pre, validHeaderValue p = true) ∧ validHeaderValue o = false ∧
        e = .invalid "ALLOWED_ORIGINS" o "failed to parse header value" := by
  have hnone : (∀ o ∈ s.allowedOrigins, validHeaderValue o = true) →
      ¬ ∃ pre o post, s.allowedOrigins = pre ++ o :: post ∧
        (∀ p ∈ pre, validHeaderValue p = true) ∧ validHeaderValue o = false ∧
        e = .invalid "ALLOWED_ORIGINS" o "failed to parse header value" := by
    rintro hall ⟨pre, o, post, hsplit, -, ho, -⟩
    rw [hall o (by simp [hsplit])] at ho
    cases ho
  rcases corsPolicy_cases s with ⟨hempty, h⟩ | ⟨o, hfind, h⟩ | ⟨-, hall, ⟨-, h⟩ | ⟨-, h⟩⟩
  · rw [h, hempty]
    simp
  · rw [h, CorsOutcome.refused.injEq]
    constructor
    · rintro rfl
      obtain ⟨pre, post, hsplit, hpre, ho⟩ := find?_invalid_eq_some_iff.mp hfind
      exact ⟨pre, o, post, hsplit, hpre, ho, rfl⟩
    · rintro ⟨pre, o', post, hsplit, hpre, ho, rfl⟩
      have hfound := find?_invalid_eq_some_iff.mpr ⟨pre, post, hsplit, hpre, ho⟩
      rw [hfind] at hfound
      cases hfound
      rfl
  · rw [h]
    simpa using hnone hall
  · rw [h]
    simpa using hnone hall

/-- The policy cannot be built, and the service stops, exactly when every listed origin is a
    valid header value and one of them is the wildcard. -/
theorem corsPolicy_halted_iff (m : String) :
    corsPolicy s = .halted m ↔
      m = wildcardMessage ∧ "*" ∈ s.allowedOrigins ∧
        ∀ o ∈ s.allowedOrigins, validHeaderValue o = true := by
  rcases corsPolicy_cases s with ⟨hempty, h⟩ | ⟨o, hfind, h⟩ | ⟨hne, hall, ⟨hstar, h⟩ | ⟨hstar, h⟩⟩
  · rw [h, hempty]
    simp
  · rw [h]
    simp only [reduceCtorEq, false_iff, not_and]
    exact fun _ _ hall => not_all_valid_of_find? hfind hall
  · rw [h, CorsOutcome.halted.injEq]
    simp only [hstar, true_and]
    rw [and_iff_left hall]
    exact eq_comm
  · rw [h]
    simp only [reduceCtorEq, false_iff, not_and]
    exact fun _ hmem => absurd hmem hstar

end Cors

/-- For the settings read from any variables, the cross-origin policy is built from the
    origins listed in `ALLOWED_ORIGINS`: it lets any origin in when none is listed, is refused
    for the first listed origin that is not a valid header value, and otherwise lets the listed
    origins in, except when one of them is the wildcard: the policy then cannot be built and the
    service stops. -/
theorem corsPolicy_of_settings (lookup : Lookup) (s : Settings)
    (hs : Settings.ofLookup lookup = .ok s) :
    s.allowedOrigins = ((lookup "ALLOWED_ORIGINS").map parseList).getD [] ∧
    (∀ p, corsPolicy s = .ready p ↔
      (s.allowedOrigins = [] ∧ p = .anyOrigin) ∨
      (s.allowedOrigins ≠ [] ∧ (∀ o ∈ s.allowedOrigins, validHeaderValue o = true) ∧
        "*" ∉ s.allowedOrigins ∧ p = .origins s.allowedOrigins)) ∧
    (∀ e, corsPolicy s = .refused e ↔
      ∃ pre o post, s.allowedOrigins = pre ++ o :: post ∧
        (∀ p ∈ pre, validHeaderValue p = true) ∧ validHeaderValue o = false ∧
        e = .invalid "ALLOWED_ORIGINS" o "failed to parse header value") ∧
    (∀ m, corsPolicy s = .halted m ↔
      m = wildcardMessage ∧ "*" ∈ s.allowedOrigins ∧
        ∀ o ∈ s.allowedOrigins, validHeaderValue o = true) := by
  obtain ⟨url, secs, -, -, rfl⟩ := (Settings.ofLookup_eq_ok_iff lookup s).mp hs
  exact ⟨rfl, corsPolicy_ready_iff _, corsPolicy_refused_iff _, corsPolicy_halted_iff _⟩

/-- Variables that list the wildcard as the one allowed origin. -/
def wildcardLookup : Lookup := fun name =>
  if name = "DATABASE_URL" then some "sqlite::memory:"
  else if name = "ALLOWED_ORIGINS" then some "*" else none

/-- The settings read from `wildcardLookup`. -/
def wildcardSettings : Settings :=
  { databaseUrl := "sqlite::memory:", bindAddress := defaultBindAddress,
    logLevel := defaultLogLevel, requestTimeout := defaultRequestTimeout,
    allowedOrigins := ["*"] }

/-- Listing the wildcard, a valid header value, stops the service. -/
theorem wildcardOrigin_halts :
    Settings.ofLookup wildcardLookup = .ok wildcardSettings ∧
    corsPolicy wildcardSettings = .halted wildcardMessage := by
  have hs : Settings.ofLookup wildcardLookup = .ok wildcardSettings := rfl
  exact ⟨hs, ((corsPolicy_of_settings wildcardLookup wildcardSettings hs).2.2.2 _).mpr
    ⟨rfl, by decide, by decide⟩⟩

end OrderDesk
