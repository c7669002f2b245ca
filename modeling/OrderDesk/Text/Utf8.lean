/-!
# Checking UTF-8

Bytes are valid UTF-8 when every character is encoded in its shortest form, outside the
surrogates and below U+110000. Where they are not, the fault is described by the number of valid
bytes before it and the length of the invalid sequence: one for a byte that starts no character
or whose second byte is wrong, two or three when a later byte of the sequence is wrong; and no
length when the bytes end inside a sequence that was valid so far.
-/

namespace OrderDesk.Utf8

/-- Whether a byte continues a multi-byte character. -/
def continuation (b : UInt8) : Bool := 0x80 ≤ b && b ≤ 0xBF

/-- The length of the character a byte starts: 1 for ASCII, 2 to 4 for a valid lead byte, 0 for
a byte that cannot start a character. -/
def width (b : UInt8) : Nat :=
  if b < 0x80 then 1
  else if 0xC2 ≤ b && b ≤ 0xDF then 2
  else if 0xE0 ≤ b && b ≤ 0xEF then 3
  else if 0xF0 ≤ b && b ≤ 0xF4 then 4
  else 0

/-- Whether the second byte of a character fits its lead byte, which rules out overlong forms,
surrogates and code points above U+10FFFF. -/
def secondFits (lead b : UInt8) : Bool :=
  if lead == 0xE0 then 0xA0 ≤ b && b ≤ 0xBF
  else if lead == 0xED then 0x80 ≤ b && b ≤ 0x9F
  else if lead == 0xF0 then 0x90 ≤ b && b ≤ 0xBF
  else if lead == 0xF4 then 0x80 ≤ b && b ≤ 0x8F
  else continuation b

/-- The first fault of the bytes after `offset` valid ones: the number of valid bytes, and the
length of the invalid sequence when the bytes do not simply end too early. -/
def faultFrom (offset : Nat) : List UInt8 → Option (Nat × Option Nat)
  | [] => none
  | b :: rest =>
    if width b == 1 then faultFrom (offset + 1) rest
    else if width b == 0 then some (offset, some 1)
    else
      match rest with
      | [] => some (offset, none)
      | x :: more =>
        if !secondFits b x then some (offset, some 1)
        else if width b == 2 then faultFrom (offset + 2) more
        else
          match more with
          | [] => some (offset, none)
          | y :: more' =>
            if !continuation y then some (offset, some 2)
            else if width b == 3 then faultFrom (offset + 3) more'
            else
              match more' with
              | [] => some (offset, none)
              | z :: more'' =>
                if continuation z then faultFrom (offset + 4) more'' else some (offset, some 3)

/-- The length of the invalid sequence at the front of bytes that do not start with a character:
one for a byte that starts none or whose second byte does not fit, two or three when a later byte
does not continue the character, and all of them when they end inside one. -/
def invalidRun : List UInt8 → Nat
  | [] => 0
  | b :: rest =>
    if width b ≤ 1 then 1
    else
      match rest with
      | [] => 1
      | x :: more =>
        if !secondFits b x then 1
        else if width b == 2 then 2
        else
          match more with
          | [] => 2
          | y :: more' =>
            if !continuation y then 2
            else if width b == 3 then 3
            else
              match more' with
              | [] => 3
              | z :: _ => if continuation z then 4 else 3

/-- The first fault of bytes as UTF-8, if any. -/
def fault? (bs : List UInt8) : Option (Nat × Option Nat) := faultFrom 0 bs

/-- The description of a fault. -/
def faultText : Nat × Option Nat → String
  | (valid, some n) =>
    "invalid utf-8 sequence of " ++ toString n ++ " bytes from index " ++ toString valid
  | (valid, none) => "incomplete utf-8 byte sequence from index " ++ toString valid

end OrderDesk.Utf8
