/-
Network addresses of clients and their texts. An address of four octets is written in decimal with
points, one of eight groups in hexadecimal with colons, where `::` stands for groups of zero; a port
follows after a colon. `Address.parse?` accepts every such text, `Address.text` writes the shortest one.
-/
import WatchParty.Text.Basic

namespace WatchParty

structure Octets where
  first : UInt8
  second : UInt8
  third : UInt8
  fourth : UInt8
  deriving DecidableEq

/-- A host named by eight groups of sixteen bits. -/
structure Groups where
  values : List UInt16
  length_eq : values.length = 8
  deriving DecidableEq

/-- The host of eight groups, if there are so many. -/
def Groups.ofList? (values : List UInt16) : Option Groups :=
  if h : values.length = 8 then some ⟨values, h⟩ else none

/-- Where a client is: its host and its port, and for a host of eight groups the zone in which it is
known, which is zero if none is told. -/
inductive Address
  | octets (host : Octets) (port : UInt16)
  | groups (host : Groups) (zone : UInt32) (port : UInt16)
  deriving DecidableEq

namespace Address

/-! ## Reading -/

/-- The number that all leading digits of a base denote, if there are any, and what follows them. -/
def number? (base : Nat) (cs : List Char) : Option (Nat × List Char) :=
  let digits := cs.takeWhile (Text.isDigitOf base)
  if digits = [] then none
  else (Text.numeral? base digits).map (·, cs.dropWhile (Text.isDigitOf base))

def numberBelow? (bound : Nat) (cs : List Char) : Option (Nat × List Char) :=
  (number? 10 cs).filter fun (n, _) => n < bound

def after? (c : Char) : List Char → Option (List Char)
  | d :: cs => if d = c then some cs else none
  | [] => none

/-- An octet, without a needless zero in front. -/
def octet? (cs : List Char) : Option (UInt8 × List Char) :=
  let width := (cs.takeWhile Char.isDigit).length
  if 3 < width ∨ (1 < width ∧ cs.head? = some '0') then none
  else (numberBelow? (2 ^ 8) cs).map fun (n, rest) => (UInt8.ofNat n, rest)

def octets? (cs : List Char) : Option (Octets × List Char) := do
  let (a, cs) ← octet? cs
  let (b, cs) ← octet? (← after? '.' cs)
  let (c, cs) ← octet? (← after? '.' cs)
  let (d, cs) ← octet? (← after? '.' cs)
  return (⟨a, b, c, d⟩, cs)

/-- A group of one to four hexadecimal digits. -/
def group? (cs : List Char) : Option (UInt16 × List Char) :=
  if 4 < (cs.takeWhile (Text.isDigitOf 16)).length then none
  else (number? 16 cs).map fun (n, rest) => (UInt16.ofNat n, rest)

def pair (a b : UInt8) : UInt16 := UInt16.ofNat (a.toNat * 2 ^ 8 + b.toNat)

def high (g : UInt16) : UInt8 := UInt8.ofNat (g.toNat / 2 ^ 8)

def low (g : UInt16) : UInt8 := UInt8.ofNat g.toNat

structure GroupRun where
  values : List UInt16
  /-- the last two groups were written as four octets -/
  endsInOctets : Bool
  rest : List Char

/-- As many groups as there are, with colons between them, but no more than there is room for. Four octets
may stand for the last two. -/
def run : Nat → Bool → List Char → GroupRun
  | 0, _, cs => ⟨[], false, cs⟩
  | room + 1, atStart, cs =>
    match if atStart then some cs else after? ':' cs with
    | none => ⟨[], false, cs⟩
    | some body =>
      match if 0 < room then octets? body else none with
      | some (o, rest) => ⟨[pair o.first o.second, pair o.third o.fourth], true, rest⟩
      | none =>
        match group? body with
        | none => ⟨[], false, cs⟩
        | some (g, rest) =>
          let more := run room false rest
          { more with values := g :: more.values }

/-- Eight groups, or fewer with `::` for those that are left out, which is one at least. -/
def groups? (cs : List Char) : Option (Groups × List Char) :=
  let front := run 8 true cs
  let count := front.values.length
  if count = 8 then (Groups.ofList? front.values).map (·, front.rest)
  else if front.endsInOctets then none
  else do
    let rest ← after? ':' (← after? ':' front.rest)
    let back := run (7 - count) true rest
    let zeros := List.replicate (8 - count - back.values.length) 0
    return (← Groups.ofList? (front.values ++ zeros ++ back.values), back.rest)

/-- A zone after its sign, or none. -/
def zone? (cs : List Char) : Option (UInt32 × List Char) :=
  match after? '%' cs with
  | some body => (numberBelow? (2 ^ 32) body).map fun (n, rest) => (UInt32.ofNat n, rest)
  | none => some (0, cs)

/-- A port after its colon, to the end of the text. -/
def port? (cs : List Char) : Option UInt16 := do
  match ← numberBelow? (2 ^ 16) (← after? ':' cs) with
  | (n, []) => return UInt16.ofNat n
  | _ => none

/-- The address that a text tells. A host of eight groups stands in brackets. -/
def parse? (s : String) : Option Address :=
  match s.toList with
  | '[' :: cs => do
    let (host, cs) ← groups? cs
    let (zone, cs) ← zone? cs
    return .groups host zone (← port? (← after? ']' cs))
  | cs => do
    let (host, cs) ← octets? cs
    return .octets host (← port? cs)

/-! ## Writing -/

/-- The octets of a host in decimal. -/
def octetsText (o : Octets) : String :=
  ".".intercalate ([o.first, o.second, o.third, o.fourth].map fun b => toString b.toNat)

/-- Groups in hexadecimal with colons between them. -/
def colonText (values : List UInt16) : String :=
  ":".intercalate (values.map fun g => String.ofList (Nat.toDigits 16 g.toNat))

/-- The first of the longest runs of groups of zero: how many groups stand before it, and its length. -/
def longestZeros : List UInt16 → Nat × Nat
  | [] => (0, 0)
  | g :: gs =>
    let here := ((g :: gs).takeWhile (· == 0)).length
    let (start, length) := longestZeros gs
    if length ≤ here then (0, here) else (start + 1, length)

/-- The groups of a host. A run of two zeros or more is left out, and the end of a host that stands for
four octets is written as these. -/
def groupsText (host : Groups) : String :=
  match host.values with
  | [0, 0, 0, 0, 0, 0xFFFF, g, h] => "::ffff:" ++ octetsText ⟨high g, low g, high h, low h⟩
  | values =>
    let (start, length) := longestZeros values
    if 1 < length then colonText (values.take start) ++ "::" ++ colonText (values.drop (start + length))
    else colonText values

def text : Address → String
  | .octets host port => octetsText host ++ ":" ++ toString port.toNat
  | .groups host zone port =>
    let inZone := if zone = 0 then "" else "%" ++ toString zone.toNat
    "[" ++ groupsText host ++ inZone ++ "]:" ++ toString port.toNat

end Address

end WatchParty
