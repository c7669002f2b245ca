import OrderDesk.Service.Error
import OrderDesk.Url.Host

/-!
# Listening addresses

The service listens on the address its configuration names: a host, a `:` and a socket number,
the number of the service on that host, at most 65535. The address is read as a socket address
first: an IPv4 address or a bracketed IPv6 address, then `:` and the socket number. Otherwise it
must be a host name, a `:` and a socket number: without any `:` it is an invalid socket address,
and with a socket number that does not read it is refused as well.

A host name is looked up. A name that reads as a number address stands for itself: an IPv6
address, or an IPv4 address in the classic numbers-and-dots form of one to four parts, each
decimal, octal after a leading `0` or hex after `0x`, where the last part fills the bytes the
others leave (`1.2.3` is `1.2.0.3`). Of the other names only `localhost` is known.

A listener binds to any address a host resolves to.
-/

namespace OrderDesk

/-- The value of decimal digits, capped just above `cap`. -/
def digitsValue (cap : Nat) (cs : List Char) : Nat :=
  cs.foldl (fun n c => min (cap + 1) (n * 10 + (c.toNat - '0'.toNat))) 0

/-- A socket number: at least one decimal digit, at most 65535. -/
def readSocketNumber (cs : List Char) : Option Nat :=
  if !cs.isEmpty && cs.all Char.isDigit && digitsValue 65535 cs ≤ 65535 then
    some (digitsValue 65535 cs)
  else none

/-- An IPv4 octet: one to three digits without a leading zero, at most 255. -/
def readOctet (cs : List Char) : Option Nat :=
  if cs.isEmpty || cs.length > 3 || !cs.all Char.isDigit then none
  else if cs.length > 1 && cs.head? == some '0' then none
  else
    let n := digitsValue 255 cs
    if n ≤ 255 then some n else none

/-- An IPv4 address in dotted decimal. -/
def readIpv4 (cs : List Char) : Option (List Nat) :=
  match ((String.ofList cs).splitOn ".").mapM (readOctet ·.toList) with
  | some [a, b, c, d] => some [a, b, c, d]
  | _ => none

/-- Whether a character is a hex digit. -/
def hexChar (c : Char) : Bool := c.isDigit || "abcdefABCDEF".toList.contains c

/-- Whether text is an IPv6 address: eight groups of one to four hex digits, or fewer with one
`::` standing for the rest; the last two groups may be written as an IPv4 address. -/
def ipv6Text (cs : List Char) : Bool :=
  let s := String.ofList cs
  let group (g : String) : Bool := !g.isEmpty && g.length ≤ 4 && g.toList.all hexChar
  let groups (part : String) : Option Nat :=
    if part.isEmpty then some 0
    else
      let gs := part.splitOn ":"
      let (init, last) := (gs.dropLast, gs.getLast?.getD "")
      if !init.all group then none
      else if group last then some gs.length
      else if (readIpv4 last.toList).isSome then some (gs.length + 1)
      else none
  match s.splitOn "::" with
  | [whole] => groups whole == some 8
  | [front, back] =>
    match groups front, groups back with
    | some a, some b => a + b ≤ 7
    | _, _ => false
  | _ => false

/-- The address of a host, as written. -/
inductive HostAddress where
  | v4 (octets : List Nat)
  | v6 (text : String)

/-- The text before and after the last `:`, when there is one. -/
def splitLastColon (cs : List Char) : Option (List Char × List Char) :=
  if cs.contains ':' then
    let after := (cs.reverse.takeWhile (· != ':')).reverse
    some (cs.take (cs.length - after.length - 1), after)
  else none

/-- The host and socket number of an address written as a socket address, when it is one. -/
def readSocketAddress (cs : List Char) : Option (HostAddress × Nat) :=
  match cs with
  | '[' :: rest =>
    match rest.span (· != ']') with
    | (inside, ']' :: ':' :: num) =>
      let addr := inside.takeWhile (· != '%')
      if ipv6Text addr then (readSocketNumber num).map (.v6 (String.ofList addr), ·) else none
    | _ => none
  | _ => do
    let (host, num) ← splitLastColon cs
    let o ← readIpv4 host
    let p ← readSocketNumber num
    pure (.v4 o, p)

/-- The value of a part of a numbers-and-dots address: hex after `0x`, octal after a leading
`0`, decimal otherwise; it must start with a digit and be below 2^32. -/
def classicPart (cs : List Char) : Option Nat :=
  let value (radix : Nat) (ds : List Char) : Option Nat :=
    ds.foldlM (fun n c => (Url.radixDigit radix c).map (n * radix + ·)) 0
  let v := match cs with
    | '0' :: x :: hex@(_ :: _) => if x == 'x' || x == 'X' then value 16 hex else value 8 (x :: hex)
    | '0' :: rest => value 8 rest
    | c :: rest => if c.isDigit then value 10 (c :: rest) else none
    | [] => none
  v.filter (· < Nat.pow 2 32)

/-- An IPv4 address in the numbers-and-dots form: one to four parts, every part but the last at
most 255, and the last filling the bytes the others leave. -/
def readClassicIpv4 (cs : List Char) : Option Nat := do
  let parts ← ((String.ofList cs).splitOn ".").mapM (classicPart ·.toList)
  let last ← parts.getLast?
  guard (parts.length ≤ 4 && parts.dropLast.all (· ≤ 255) && last < Nat.pow 256 (5 - parts.length))
  pure (parts.dropLast.foldl (fun acc p => acc * 256 + p) 0 * Nat.pow 256 (5 - parts.length) + last)

/-- A socket number after an optional `+`, as it is read after a host name. -/
def readNamedSocketNumber : List Char → Option Nat
  | '+' :: rest => readSocketNumber rest
  | cs => readSocketNumber cs

/-- The host a host name resolves to, or the failure of looking it up. -/
def resolveHost (name : List Char) : Except IoFault HostAddress :=
  match readClassicIpv4 name with
  | some n => .ok (.v4 [n / Nat.pow 2 24, n / Nat.pow 2 16 % 256, n / Nat.pow 2 8 % 256, n % 256])
  | none =>
    if ipv6Text name then .ok (.v6 (String.ofList name))
    else if String.ofList name == "localhost" then .ok (.v4 [127, 0, 0, 1])
    else .error (.custom "Uncategorized"
      "failed to lookup address information: Temporary failure in name resolution")

/-- The host a listener on the address is bound to, or the failure. -/
def bindListener (address : String) : Except IoFault HostAddress :=
  let cs := address.toList
  match readSocketAddress cs with
  | some (h, _) => .ok h
  | none =>
    match splitLastColon cs with
    | none => .error (.simple "InvalidInput" "invalid socket address")
    | some (name, num) =>
      match readNamedSocketNumber num with
      | none => .error (.simple "InvalidInput" "invalid port value")
      | some _ => resolveHost name

end OrderDesk
