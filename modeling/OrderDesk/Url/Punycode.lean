/-!
# Punycode

A label of a domain that starts with `xn--` holds, after that prefix, its characters written in
Punycode (RFC 3492): the ASCII characters of the label first, up to a last `-`, then, for each
other character in increasing order of code point, one variable-length number in base 36 saying
by how much to advance a counter that runs over the code points and the positions of the text
decoded so far. The thresholds of the digits follow a bias that adapts to the sizes of the
numbers read.

`decode` reads such text back. It fails as a decoder with 32-bit counters does: on a digit that
is not a letter or a digit, on input that ends inside a number, on any counter that passes
`2 ^ 32`, and on a code point that is a surrogate or beyond U+10FFFF. Each loop reads at least
one character of the input, which is what makes it end.
-/

namespace OrderDesk.Url.Punycode

/-- The value of a digit: `a` to `z` (or capitals) are 0 to 25, `0` to `9` are 26 to 35. -/
def digitValue (c : Char) : Option Nat :=
  let n := c.toNat
  if 0x61 ≤ n && n ≤ 0x7A then some (n - 0x61)
  else if 0x41 ≤ n && n ≤ 0x5A then some (n - 0x41)
  else if 0x30 ≤ n && n ≤ 0x39 then some (n - 0x30 + 26)
  else none

/-- The threshold of the digit at weight position `k`: at least 1 and at most 26. -/
def threshold (k bias : Nat) : Nat :=
  if k ≤ bias then 1 else if bias + 26 ≤ k then 26 else k - bias

/-- Divides `delta` by 35 until it is at most 455, counting 36 for each division. -/
def adaptLoop (delta k : Nat) : Nat × Nat :=
  if 455 < delta then adaptLoop (delta / 35) (k + 36) else (delta, k)
termination_by delta
decreasing_by exact Nat.div_lt_self (by omega) (by omega)

/-- The bias after a number `delta` was read, with `numPoints` characters decoded counting the
one it gives; the first number is damped by 700, later ones by 2. -/
def adapt (delta numPoints : Nat) (firstTime : Bool) : Nat :=
  let d := if firstTime then delta / 700 else delta / 2
  let (d, k) := adaptLoop (d + d / numPoints) 0
  k + 36 * d / (d + 38)

/-- The bound of the decoder's counters. -/
def counterLimit : Nat := Nat.pow 2 32

/-- Reads one variable-length number, adding each digit times its weight to `i`. Gives the new
counter and the input after the number. -/
def readNumber (bias : Nat) : List Char → Nat → Nat → Nat → Option (Nat × List Char)
  | [], _, _, _ => none
  | c :: rest, k, w, i =>
    match digitValue c with
    | none => none
    | some d =>
      if counterLimit ≤ d * w || counterLimit ≤ i + d * w then none
      else if d < threshold k bias then some (i + d * w, rest)
      else if counterLimit ≤ w * (36 - threshold k bias) then none
      else readNumber bias rest (k + 36) (w * (36 - threshold k bias)) (i + d * w)

/-- Reading a number consumes input. -/
theorem readNumber_shorter (bias : Nat) :
    ∀ (l : List Char) (k w i : Nat) (r : Nat × List Char),
      readNumber bias l k w i = some r → r.2.length < l.length
  | [], _, _, _, _, h => by simp [readNumber] at h
  | c :: rest, k, w, i, r, h => by
    rw [readNumber] at h
    split at h
    · simp at h
    · split at h
      · simp at h
      · split at h
        · rw [← Option.some.inj h]; simp
        · split at h
          · simp at h
          · have := readNumber_shorter bias rest _ _ _ r h
            simp only [List.length_cons]; omega

/-- Decodes the numbers after the last `-`, inserting a character for each into `out`; `n` is
the code point counter, `i` the position counter. -/
def decodeLoop (bias n i : Nat) (out : List Char) : List Char → Option (List Char)
  | [] => some out
  | c :: rest =>
    match h : readNumber bias (c :: rest) 36 1 i with
    | none => none
    | some (i', remaining) =>
      let numPoints := out.length + 1
      let n' := n + i' / numPoints
      let position := i' % numPoints
      if n' < 0xD800 || (0xDFFF < n' && n' < 0x110000) then
        decodeLoop (adapt (i' - i) numPoints (i == 0)) n' (position + 1)
          (out.insertIdx position (Char.ofNat n')) remaining
      else none
termination_by l => l.length
decreasing_by
  have := readNumber_shorter bias (c :: rest) 36 1 i (i', remaining) h
  simpa using this

/-- The text before the last `-` and the text after it; without a `-`, nothing and all of
it. -/
def splitAtLastHyphen (input : List Char) : List Char × List Char :=
  match input.reverse.span (· != '-') with
  | (after, []) => ([], after.reverse)
  | (after, _ :: before) => (before.reverse, after.reverse)

/-- The characters that Punycode text stands for, if it reads. -/
def decode (input : List Char) : Option (List Char) :=
  let (basic, numbers) := splitAtLastHyphen input
  if basic.any (0x80 ≤ ·.toNat) then none else decodeLoop 72 128 0 basic numbers

end OrderDesk.Url.Punycode
