import OrderDesk.Text.Utf8
/-!
# URL-encoded text

Query strings and path segments are percent-encoded: `%` and two hex digits stand for a byte, and
in a query `+` stands for a space. A `%` not followed by two hex digits stays as it is. Bytes that
do not form UTF-8 become the replacement character.

A query is a list of `name=value` pairs separated by `&`; empty pairs are skipped, and a pair
without `=` has an empty value.
-/

namespace OrderDesk

/-- The value of a hex digit. -/
def hexNibble (b : UInt8) : Option Nat :=
  if 48 ≤ b && b ≤ 57 then some (b.toNat - 48)
  else if 65 ≤ b && b ≤ 70 then some (b.toNat - 55)
  else if 97 ≤ b && b ≤ 102 then some (b.toNat - 87)
  else none

/-- Decodes `%XX` escapes, and `+` as a space when `plusIsSpace`. -/
def percentDecode (plusIsSpace : Bool) : List UInt8 → List UInt8
  | [] => []
  | b :: rest =>
    if b == 37 then
      match _hr : rest with
      | h :: l :: rest' =>
        match hexNibble h, hexNibble l with
        | some x, some y => UInt8.ofNat (x * 16 + y) :: percentDecode plusIsSpace rest'
        | _, _ => 37 :: percentDecode plusIsSpace rest
      | _ => 37 :: percentDecode plusIsSpace rest
    else if b == 43 && plusIsSpace then 32 :: percentDecode plusIsSpace rest
    else b :: percentDecode plusIsSpace rest
termination_by bs => bs.length
decreasing_by all_goals simp_all; try omega

/-- The character of a valid UTF-8 sequence at the front of the bytes, with its length. -/
def utf8Front : List UInt8 → Option (Char × Nat)
  | [] => none
  | b :: rest =>
    let cont (x : UInt8) : Bool := 0x80 ≤ x && x < 0xC0
    let low (x : UInt8) : Nat := x.toNat % 64
    if b < 0x80 then some (Char.ofNat b.toNat, 1)
    else if 0xC2 ≤ b && b < 0xE0 then
      match rest with
      | x :: _ => if cont x then some (Char.ofNat ((b.toNat % 32) * 64 + low x), 2) else none
      | _ => none
    else if 0xE0 ≤ b && b < 0xF0 then
      match rest with
      | x :: y :: _ =>
        let n := (b.toNat % 16) * 4096 + low x * 64 + low y
        if cont x && cont y && n ≥ 0x800 && !(0xD800 ≤ n && n < 0xE000) then
          some (Char.ofNat n, 3)
        else none
      | _ => none
    else if 0xF0 ≤ b && b < 0xF5 then
      match rest with
      | x :: y :: z :: _ =>
        let n := (b.toNat % 8) * 262144 + low x * 4096 + low y * 64 + low z
        if cont x && cont y && cont z && n ≥ 0x10000 && n < 0x110000 then some (Char.ofNat n, 4)
        else none
      | _ => none
    else none

/-- Decodes UTF-8, replacing each invalid sequence, taken as long as it could still have been
the start of a character, by one U+FFFD. -/
def decodeLossy : Nat → List UInt8 → List Char
  | 0, _ => []
  | _, [] => []
  | fuel + 1, b :: rest =>
    match utf8Front (b :: rest) with
    | some (c, n) => c :: decodeLossy fuel ((b :: rest).drop n)
    | none => '�' :: decodeLossy fuel ((b :: rest).drop (Utf8.invalidRun (b :: rest)))

/-- Text from bytes, lossily. -/
def textOfBytes (bs : List UInt8) : String := String.ofList (decodeLossy (bs.length + 1) bs)

/-- One `name=value` pair, decoded. -/
def decodePair (piece : String) : String × String :=
  let decode (s : String) := textOfBytes (percentDecode true s.toUTF8.toList)
  match piece.splitOn "=" with
  | [] => ("", "")
  | [name] => (decode name, "")
  | name :: rest => (decode name, decode ("=".intercalate rest))

/-- The pairs of a query string, in order. -/
def queryPairs (query : String) : List (String × String) :=
  ((query.splitOn "&").filter (!·.isEmpty)).map decodePair

end OrderDesk
