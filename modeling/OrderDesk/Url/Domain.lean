import OrderDesk.Text.BidiClass
import OrderDesk.Text.JoiningType
import OrderDesk.Text.Mark
import OrderDesk.Text.Normalization
import OrderDesk.Url.DomainStatus
import OrderDesk.Url.Punycode

/-!
# Internationalized domains

A domain written with characters beyond ASCII is read in the steps of Unicode IDNA compatibility
processing, the way URLs read it: without the hyphen checks, with the joiner and bidirectional
checks, and nontransitionally.

1. Each character is mapped by its `domainStatus`; a disallowed one refuses the domain.
2. The result is put in Normalization Form C and cut into labels at its full stops.
3. A label starting with `xn--` stands for the text its rest encodes in Punycode. That text must
   decode, must hold a character beyond ASCII, must be in Normalization Form C, must hold only
   valid characters and must not itself start with `xn--`.
4. No label may start with a combining mark.
5. A zero width joiner must follow a virama. A zero width non-joiner must follow a virama, or
   stand between a character joining to the right (after any transparent ones) and a character
   joining to the left (before any transparent ones), as in Arabic.
6. When some label holds a right-to-left character or an Arabic digit, every label must keep to
   the rules for bidirectional domains (RFC 5893): it starts with a strong character; a
   left-to-right label holds no right-to-left character and ends, marks aside, in a
   left-to-right character or a European digit; a right-to-left label holds no left-to-right
   character, ends, marks aside, in a right-to-left character or a digit, and does not mix
   European and Arabic digits.

`domainLabels` gives the labels as text, or nothing when any step refuses the domain.
-/

namespace OrderDesk.Url

open Text

/-- The characters a domain maps to, or nothing when one of its characters is disallowed. -/
def mapDomain (cs : List Char) : Option (List Char) :=
  (cs.mapM fun c =>
    match domainStatus c with
    | .valid => some [c]
    | .ignored => some []
    | .mapped image => some image
    | .disallowed => none).map List.flatten

/-- The labels of a domain: the runs of characters between its full stops. -/
def splitLabels : List Char → List (List Char)
  | [] => [[]]
  | c :: rest =>
    let labels := splitLabels rest
    if c == '.' then [] :: labels
    else
      match labels with
      | label :: more => (c :: label) :: more
      | [] => [[c]]

/-- Whether text starts with the prefix `xn--` of encoded labels. -/
def encodedPrefix (cs : List Char) : Bool := cs.take 4 == ['x', 'n', '-', '-']

/-- The text a label stands for: an encoded label the text its Punycode decodes to, when that
text may be encoded, and any other label itself. -/
def unicodeLabel (label : List Char) : Option (List Char) :=
  if encodedPrefix label then
    (Punycode.decode (label.drop 4)).filter fun u =>
      u.any (0x80 ≤ ·.toNat) && isNfc u && !encodedPrefix u &&
        u.all (domainStatus · == .valid)
  else some label

/-- The zero width joiner. -/
def zeroWidthJoiner : Char := '\u200D'

/-- The zero width non-joiner. -/
def zeroWidthNonJoiner : Char := '\u200C'

/-- Whether the nearest character that is not transparent joins to the given side: `before` is
the text before a non-joiner, nearest first, or the text after it. -/
def joinsToward (accept : JoiningType → Bool) (cs : List Char) : Bool :=
  match cs.dropWhile (joiningType · == .transparent) with
  | c :: _ => accept (joiningType c)
  | [] => false

/-- Whether a joiner or non-joiner may stand between `before` (nearest first) and `after`. -/
def joinerAllowed (before : List Char) (c : Char) (after : List Char) : Bool :=
  (match before with
    | b :: _ => virama b
    | [] => false) ||
  (c == zeroWidthNonJoiner &&
    joinsToward (fun t => t == .left || t == .dual) before &&
    joinsToward (fun t => t == .right || t == .dual) after)

/-- Whether every joiner and non-joiner of the rest of a label may stand where it does;
`before` is the text already passed, nearest first. -/
def joinersAllowed (before : List Char) : List Char → Bool
  | [] => true
  | c :: rest =>
    (!(c == zeroWidthJoiner || c == zeroWidthNonJoiner) || joinerAllowed before c rest) &&
      joinersAllowed (c :: before) rest

/-- Whether a character makes a domain bidirectional: it is right-to-left or an Arabic
digit. -/
def rightToLeftChar (c : Char) : Bool :=
  match bidiClass c with
  | .rightToLeft | .arabicLetter | .arabicNumber => true
  | _ => false

/-- The classes that may follow the first character of a left-to-right label. -/
def leftToRightAllowed : BidiClass → Bool
  | .leftToRight | .europeanNumber | .europeanSeparator | .commonSeparator
  | .europeanTerminator | .otherNeutral | .boundaryNeutral | .nonspacingMark => true
  | _ => false

/-- The classes that may follow the first character of a right-to-left label. -/
def rightToLeftAllowed : BidiClass → Bool
  | .rightToLeft | .arabicLetter | .arabicNumber | .europeanNumber | .europeanSeparator
  | .commonSeparator | .europeanTerminator | .otherNeutral | .boundaryNeutral
  | .nonspacingMark => true
  | _ => false

/-- The class of the last character of a label that is not a nonspacing mark, if there is
one. -/
def lastStrongClass (label : List Char) : Option BidiClass :=
  (label.reverse.dropWhile (bidiClass · == .nonspacingMark)).head?.map bidiClass

/-- Whether a label keeps to the rules for bidirectional domains. -/
def bidiLabelValid : List Char → Bool
  | [] => true
  | c :: rest =>
    match bidiClass c with
    | .leftToRight =>
      rest.all (leftToRightAllowed ∘ bidiClass) &&
        match lastStrongClass (c :: rest) with
        | some .leftToRight | some .europeanNumber | none => true
        | some _ => false
    | .rightToLeft | .arabicLetter =>
      rest.all (rightToLeftAllowed ∘ bidiClass) &&
        (match lastStrongClass (c :: rest) with
          | some .rightToLeft | some .arabicLetter | some .europeanNumber
          | some .arabicNumber => true
          | _ => false) &&
        !(rest.any (bidiClass · == .europeanNumber) && rest.any (bidiClass · == .arabicNumber))
    | _ => false

/-- Whether a label is valid, knowing whether its domain is bidirectional. -/
def labelValid (bidirectional : Bool) (label : List Char) : Bool :=
  (match label with
    | c :: _ => !combiningMark c
    | [] => true) &&
  joinersAllowed [] label && (!bidirectional || bidiLabelValid label)

/-- The labels of a domain as text, or nothing when the domain is refused. -/
def domainLabels (cs : List Char) : Option (List (List Char)) := do
  let mapped ← mapDomain cs
  let labels ← (splitLabels (nfc mapped)).mapM unicodeLabel
  let bidirectional := labels.any (·.any rightToLeftChar)
  if labels.all (labelValid bidirectional) then some labels else none

end OrderDesk.Url
