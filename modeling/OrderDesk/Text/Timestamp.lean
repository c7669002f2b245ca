/-!
# Timestamps

A timestamp is written as in RFC 3339: `YYYY-MM-DD`, a `T` (or `t`, or a space), `hh:mm:ss`, an
optional fraction of a second after a `.`, and the offset from UTC, either `Z` (or `z`) or
`+hh:mm` / `-hh:mm`, where the minus may also be the minus sign U+2212. The date is on the
proleptic Gregorian calendar. A second of 60 is a leap second: the second 59 of its minute held
for one more second.

`readTimestamp` gives the `Instant`; digits of the fraction beyond the ninth are dropped.
Instants are ordered as their UTC texts are: a leap second comes after every other moment of the
second before it and before the next minute.
-/

namespace OrderDesk

/-- A moment: whole seconds since 1970-01-01T00:00:00Z and the nanoseconds after them. The
nanoseconds of a leap second run from 10^9 up to 2·10^9, on the seconds of the second it follows,
so that ordering by seconds and then nanoseconds puts it after that second and before the next
one. -/
structure Instant where
  seconds : Int
  nanos : Nat
  deriving DecidableEq

namespace Instant

/-- The instant some nanoseconds after 1970-01-01T00:00:00Z, outside any leap second. -/
def ofNanos (n : Int) : Instant := { seconds := n / 1000000000, nanos := (n % 1000000000).toNat }

/-- Whether `a` comes after `b`. -/
def after (a b : Instant) : Bool :=
  b.seconds < a.seconds || (a.seconds == b.seconds && b.nanos < a.nanos)

end Instant

/-- Whether the year is a leap year of the Gregorian calendar. -/
def leapYear (y : Int) : Bool := (y % 4 == 0 && y % 100 != 0) || y % 400 == 0

/-- The number of days of the month of the year. -/
def daysInMonth (y : Int) (m : Nat) : Nat :=
  match m with
  | 2 => if leapYear y then 29 else 28
  | 4 | 6 | 9 | 11 => 30
  | _ => 31

/-- The days from 1970-01-01 to the date, counting in eras of 400 years that start on March 1,
so that the leap day ends a year. -/
def daysFromCivil (y : Int) (m d : Nat) : Int :=
  let y := if m ≤ 2 then y - 1 else y
  let era := y / 400
  let yoe := y - era * 400
  let mp : Int := (m + 9) % 12
  let doy := (153 * mp + 2) / 5 + d - 1
  let doe := yoe * 365 + yoe / 4 - yoe / 100 + doy
  era * 146097 + doe - 719468

/-- The value of exactly `n` ASCII digits at the front, with the rest. -/
def fixedDigits (n : Nat) (cs : List Char) : Option (Nat × List Char) :=
  let ds := cs.take n
  if ds.length == n && ds.all Char.isDigit then
    some (ds.foldl (fun acc c => acc * 10 + (c.toNat - '0'.toNat)) 0, cs.drop n)
  else none

/-- Nanoseconds of a fraction of a second written with these digits. -/
def fractionNanos (ds : List Char) : Nat :=
  let nine := (ds.take 9) ++ List.replicate (9 - ds.length) '0'
  nine.foldl (fun acc c => acc * 10 + (c.toNat - '0'.toNat)) 0

/-- The offset from UTC, in seconds, and what follows it. -/
def readOffset : List Char → Option (Int × List Char)
  | 'Z' :: rest | 'z' :: rest => some (0, rest)
  | s :: rest =>
    if s == '+' || s == '-' || s == '\u2212' then do
      let (h, rest) ← fixedDigits 2 rest
      let rest ← match rest with
        | ':' :: r => some r
        | _ => none
      let (m, rest) ← fixedDigits 2 rest
      if h > 23 || m > 59 then none
      else
        let secs : Int := h * 3600 + m * 60
        some (if s == '+' then secs else -secs, rest)
    else none
  | [] => none

/-- The instant a timestamp names. -/
def readTimestamp (text : String) : Option Instant := do
  let cs := text.toList
  let (y, cs) ← fixedDigits 4 cs
  let cs ← match cs with | '-' :: r => some r | _ => none
  let (mo, cs) ← fixedDigits 2 cs
  let cs ← match cs with | '-' :: r => some r | _ => none
  let (d, cs) ← fixedDigits 2 cs
  let cs ← match cs with
    | 'T' :: r | 't' :: r | ' ' :: r => some r
    | _ => none
  let (h, cs) ← fixedDigits 2 cs
  let cs ← match cs with | ':' :: r => some r | _ => none
  let (mi, cs) ← fixedDigits 2 cs
  let cs ← match cs with | ':' :: r => some r | _ => none
  let (s, cs) ← fixedDigits 2 cs
  let (nanos, cs) ← match cs with
    | '.' :: r =>
      let ds := r.takeWhile Char.isDigit
      if ds.isEmpty then none else some (fractionNanos ds, r.dropWhile Char.isDigit)
    | _ => some (0, cs)
  let (offset, rest) ← readOffset cs
  if !rest.isEmpty then none
  if mo < 1 || mo > 12 || d < 1 || d > daysInMonth y mo || h > 23 || mi > 59 || s > 60 then none
  let leap := s == 60
  let secs : Int := daysFromCivil y mo d * 86400 + h * 3600 + mi * 60 + (if leap then 59 else s)
  pure { seconds := secs - offset, nanos := if leap then nanos + 1000000000 else nanos }

end OrderDesk
