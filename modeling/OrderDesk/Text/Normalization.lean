import OrderDesk.Text.CombiningClass
import OrderDesk.Text.Composition

/-!
# Canonical composition

Text is in Normalization Form C when it reads as it would after being taken apart into its full
canonical decomposition, its marks put in canonical order, and every pair that may compose
composed again. `nfc` does exactly these three steps:

* `decomposeChar` takes each character apart;
* `canonicalOrder` sorts each run of marks of non-zero class by class, keeping marks of one class
  in the order they came, since only marks of different classes commute;
* `compose` goes left to right, joining each character to the last starter when nothing between
  them blocks it: a character is blocked from the starter when a character between them has
  class zero or a class at least its own.

A domain label that arrives encoded must already be in this form.
-/

namespace OrderDesk.Text

/-- Puts a mark into a run of marks sorted by class, after every mark whose class is at most its
own. -/
def insertByClass (c : Char) : List Char → List Char
  | [] => [c]
  | d :: rest =>
    if combiningClass c < combiningClass d then c :: d :: rest else d :: insertByClass c rest

/-- Sorts every run of characters of non-zero class by class, keeping the order of characters of
one class. -/
def canonicalOrder (cs : List Char) : List Char :=
  let (done, run) := cs.foldl (fun (acc : List Char × List Char) c =>
    if combiningClass c == 0 then (acc.1 ++ acc.2 ++ [c], [])
    else (acc.1, insertByClass c acc.2)) ([], [])
  done ++ run

/-- How far composition has gone: the characters already final, last first; the last starter,
which may still take in characters after it; the characters after that starter that it did not
take in, last first; and the class of the last of them. -/
structure Composing where
  done : List Char
  starter : Option Char
  rest : List Char
  lastClass : Nat

namespace Composing

/-- Nothing read yet. -/
def start : Composing := { done := [], starter := none, rest := [], lastClass := 0 }

/-- Keeps a character that does not compose with the starter: a character of class zero
becomes the new starter, any other waits after the old one. -/
def keep (s : Composing) (c : Char) : Composing :=
  if combiningClass c == 0 then
    { done := s.rest ++ s.starter.toList ++ s.done, starter := some c, rest := [], lastClass := 0 }
  else { s with rest := c :: s.rest, lastClass := combiningClass c }

/-- Reads one character of canonically ordered text. It joins the starter when nothing between
them blocks it and the pair composes. -/
def step (s : Composing) (c : Char) : Composing :=
  let blocked := !s.rest.isEmpty && s.lastClass ≥ combiningClass c
  match s.starter with
  | some first =>
    if blocked then s.keep c
    else
      match composePair first c with
      | some composite => { s with starter := some composite }
      | none => s.keep c
  | none => s.keep c

/-- The text composed so far, in order. -/
def text (s : Composing) : List Char :=
  (s.rest ++ s.starter.toList ++ s.done).reverse

end Composing

/-- Composes canonically ordered text. -/
def compose (cs : List Char) : List Char :=
  (cs.foldl Composing.step Composing.start).text

/-- The text in Normalization Form C. -/
def nfc (cs : List Char) : List Char :=
  compose (canonicalOrder (cs.flatMap decomposeChar))

/-- Whether text is in Normalization Form C. -/
def isNfc (cs : List Char) : Bool := nfc cs == cs

end OrderDesk.Text
