/-!
# Floats as decimal text

A float is written as the shortest decimal that reads back as it (`Digits.ofFloat`), laid out as
a printer chooses (`Layout`); decimal text is read by rounding to the nearest float
(`nearestFloat`).
-/

namespace OrderDesk.Decimal

/-! ## Shortest decimal digits of a binary float

A finite `Float` is `± m · 2^q`. The reals that round to it form an interval around it whose
ends are the midpoints to its two neighbours; the ends belong to it when `m` is even, because a
tie rounds to the even significand. `Binary.shortest` returns the decimal `d · 10^k` with the
fewest significant digits inside that interval; when two decimals of that length lie inside, it
takes the one nearer to the value, and on an exact tie the one with the even last digit.

Everything is exact `Nat` arithmetic on `m`, `q` and powers of ten, so the result does not depend
on any floating-point operation.
-/

/-- A finite float taken apart: the value is `± significand · 2 ^ exponent`. -/
structure Binary where
  negative : Bool
  significand : Nat
  exponent : Int
  /-- Whether the gap to the next smaller float is half the gap to the next larger one, which
  happens at a power of two above the smallest normal exponent. -/
  narrowBelow : Bool

/-- A decimal `± digits · 10 ^ exponent`. -/
structure Digits where
  negative : Bool
  digits : Nat
  exponent : Int

/-- Splits the bits of a float into sign, significand and exponent. Subnormals have the fixed
exponent `-1074` and no hidden bit. -/
def Binary.ofFloat (x : Float) : Binary :=
  let bits : Nat := x.toBits.toNat
  let fraction : Nat := bits % Nat.pow 2 52
  let biased : Nat := (bits / Nat.pow 2 52) % Nat.pow 2 11
  let negative := decide (bits / Nat.pow 2 63 = 1)
  if biased = 0 then
    { negative, significand := fraction, exponent := -1074, narrowBelow := false }
  else
    { negative, significand := fraction + Nat.pow 2 52, exponent := (biased : Int) - 1075,
      narrowBelow := decide (fraction = 0 ∧ 1 < biased) }

/-- Compares `a · 10 ^ s` with `b · 2 ^ t` exactly. -/
def compareScaled (a : Nat) (s : Int) (b : Nat) (t : Int) : Ordering :=
  compare (a * Nat.pow 10 s.toNat * Nat.pow 2 (-t).toNat)
    (b * Nat.pow 2 t.toNat * Nat.pow 10 (-s).toNat)

/-- `⌊m · 2^q / 10^s⌋`. -/
def floorScaled (m : Nat) (q s : Int) : Nat :=
  (m * Nat.pow 2 q.toNat * Nat.pow 10 (-s).toNat) / (Nat.pow 2 (-q).toNat * Nat.pow 10 s.toNat)

/-- Removes trailing zeros from the digits, raising the exponent to match. -/
def Digits.trim (d : Digits) : Digits :=
  go d.digits.log2.succ d
where
  /-- One zero at a time; the fuel bounds the number of digits. -/
  go : Nat → Digits → Digits
    | 0, d => d
    | fuel + 1, d =>
      if d.digits ≠ 0 ∧ d.digits % 10 = 0 then
        go fuel { d with digits := d.digits / 10, exponent := d.exponent + 1 }
      else d

namespace Binary

/-- The decimal exponent of the leading digit of a positive value: the `e` with
`10^e ≤ m · 2^q < 10^(e+1)`. The estimate `⌊(log₂ m + q) · log₁₀ 2⌋` is exact or one too
small, and one comparison settles which. -/
def leadingExponent (b : Binary) : Int :=
  let estimate : Int := ((b.significand.log2 : Int) + b.exponent) * 78913 / 262144
  if compareScaled 1 (estimate + 1) b.significand b.exponent = .gt then estimate
  else estimate + 1

/-- The interval of reals that round to the float, in units of `2 ^ (q - 2)`: from `low` to
`high`, ends included when `inclusive`. -/
def lowBound (b : Binary) : Nat :=
  if b.narrowBelow then 4 * b.significand - 1 else 4 * b.significand - 2

/-- Upper end of the rounding interval, in units of `2 ^ (q - 2)`. -/
def highBound (b : Binary) : Nat := 4 * b.significand + 2

/-- Whether the decimal `c · 10^s` rounds to the float. -/
def admits (b : Binary) (c : Nat) (s : Int) : Bool :=
  let inclusive := b.significand % 2 == 0
  let lower := compareScaled c s b.lowBound (b.exponent - 2)
  let upper := compareScaled c s b.highBound (b.exponent - 2)
  (if inclusive then lower != .lt else lower == .gt) &&
    (if inclusive then upper != .gt else upper == .lt)

/-- Of the two grid points `c · 10^s` and `(c+1) · 10^s` around the value, the nearer one; an
exact tie goes to the even one. -/
def nearer (b : Binary) (c : Nat) (s : Int) : Nat :=
  match compareScaled (2 * c + 1) s b.significand (b.exponent + 1) with
  | .gt => c
  | .lt => c + 1
  | .eq => if c % 2 = 0 then c else c + 1

/-- The best decimal of `n` significant digits that rounds to the float, if there is one. -/
def candidate (b : Binary) (lead : Int) (n : Nat) : Option Digits :=
  let s := lead - n + 1
  let c := floorScaled b.significand b.exponent s
  let pick :=
    match b.admits c s, b.admits (c + 1) s with
    | true, true => some (b.nearer c s)
    | true, false => some c
    | false, true => some (c + 1)
    | false, false => none
  pick.map fun d => { negative := b.negative, digits := d, exponent := s }

/-- Tries `n, n+1, …` significant digits, at most `fuel` of them. Seventeen digits always
suffice for a double, so the fallback is never used on a finite float. -/
def search (b : Binary) (lead : Int) : Nat → Nat → Digits
  | 0, n =>
    let s := lead - n + 1
    { negative := b.negative,
      digits := b.nearer (floorScaled b.significand b.exponent s) s, exponent := s }
  | fuel + 1, n =>
    match b.candidate lead n with
    | some d => d
    | none => b.search lead fuel (n + 1)

/-- The shortest decimal that reads back as the float, without trailing zeros; zero is
`0 · 10^0` with the float's sign. -/
def shortest (b : Binary) : Digits :=
  if b.significand = 0 then { negative := b.negative, digits := 0, exponent := 0 }
  else (b.search b.leadingExponent 16 1).trim

end Binary

/-- The shortest decimal of a finite float. -/
def Digits.ofFloat (x : Float) : Digits := (Binary.ofFloat x).shortest

/-! ## Writing a decimal as text

A `Layout` fixes the choices a float printer makes around the shortest digits: which magnitudes
are written positionally, how the exponent is written otherwise, and the words for values that
are not finite. Positional text always shows a fractional part, so `3.0` stays a float when read
back.
-/


/-- The decisions of one float printer. A value whose leading digit has decimal exponent `k` is
written positionally when `lowestPositional ≤ k ≤ highestPositional`, and as
`d.ddd e ±k` otherwise. -/
structure Layout where
  lowestPositional : Int
  highestPositional : Int
  /-- Whether a non-negative exponent carries a `+`. -/
  plusSign : Bool
  /-- The least number of exponent digits, padded with zeros. -/
  exponentWidth : Nat
  nan : String
  infinity : String

/-- The layout of JSON numbers: positional from `1e-5` below `1e16`, exponents like `1e16` and
`1.5e-7`. -/
def Layout.json : Layout :=
  { lowestPositional := -5, highestPositional := 15, plusSign := false, exponentWidth := 1,
    nan := "NaN", infinity := "inf" }

/-- The layout of a float quoted in a message about an unexpected value: positional from
`1e-5` below `1e16`, exponents like `1e+20` and `5e-6`. -/
def Layout.quoted : Layout :=
  { lowestPositional := -5, highestPositional := 15, plusSign := true, exponentWidth := 1,
    nan := "NaN", infinity := "inf" }

/-- `n` copies of the character `c`. -/
def fill (c : Char) (n : Nat) : String := String.ofList (List.replicate n c)

namespace Layout

/-- The exponent part after the `e`. -/
def exponentText (l : Layout) (k : Int) : String :=
  let body := toString k.natAbs
  let padded := fill '0' (l.exponentWidth - body.length) ++ body
  (if k < 0 then "-" else if l.plusSign then "+" else "") ++ padded

/-- The unsigned text of a decimal under the layout. -/
def magnitude (l : Layout) (d : Digits) : String :=
  let text := toString d.digits
  let n : Int := text.length
  let point := n + d.exponent
  let lead := point - 1
  if d.digits = 0 then "0.0"
  else if l.lowestPositional ≤ lead ∧ lead ≤ l.highestPositional then
    if 0 ≤ d.exponent then text ++ fill '0' d.exponent.toNat ++ ".0"
    else if 0 < point then
      String.ofList (text.toList.take point.toNat) ++ "." ++
        String.ofList (text.toList.drop point.toNat)
    else "0." ++ fill '0' (-point).toNat ++ text
  else
    let rest := String.ofList (text.toList.drop 1)
    String.ofList (text.toList.take 1) ++ (if rest.isEmpty then "" else "." ++ rest) ++
      "e" ++ l.exponentText lead

/-- The text of a float under the layout. -/
def render (l : Layout) (x : Float) : String :=
  if x.isNaN then l.nan
  else if x.isInf then (if x < 0 then "-" else "") ++ l.infinity
  else
    let d := Digits.ofFloat x
    (if d.negative then "-" else "") ++ l.magnitude d

end Layout

/-! ## The float nearest to a natural number

`nearestFloat n` is `n` rounded to 53 significant bits, a tie going to the even significand, as
IEEE 754 prescribes for a conversion. The rounding is done on `Nat`, after which the float is
built from a significand below `2^53` and a power of two, both exact.
-/


/-- `m · 2^e` for `m < 2^53`: both steps are exact while the result is in range. -/
def scaledFloat (m : Nat) (e : Int) : Float :=
  (UInt64.ofNat m).toFloat.scaleB e

/-- `n` rounded to the nearest float, ties to even. -/
def nearestFloat (n : Nat) : Float :=
  if n < Nat.pow 2 53 then scaledFloat n 0
  else
    let shift := n.log2 - 52
    let kept := n / Nat.pow 2 shift
    let dropped := n % Nat.pow 2 shift
    let half := Nat.pow 2 (shift - 1)
    let up := decide (half < dropped) || (dropped == half && kept % 2 == 1)
    scaledFloat (if up then kept + 1 else kept) shift

/-- `10^k` as the nearest float. -/
def powerOfTen (k : Nat) : Float := nearestFloat (Nat.pow 10 k)

end OrderDesk.Decimal
