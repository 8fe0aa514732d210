/-
Numerals of JSON: sign, digits, fraction and exponent, and the number that they denote. An integer
that fits sixty-four bits stays an integer; a fraction, an exponent, `-0` and an integer out of range
make a double. A double too large for its type is no number, although its numeral is well formed.

A double is computed from at most as many leading digits as fit sixty-four bits; each further digit
before the point only moves the exponent, and further digits after the point do not count.
-/
import WatchParty.Text.Basic
import WatchParty.Json.Value

namespace WatchParty.Json

structure Numeral where
  negative : Bool
  whole : List Char
  fraction : List Char
  /-- whether the exponent is negative, and its digits -/
  exponent : Option (Bool × List Char)

namespace Numeral

/-- Splits off the digits a text starts with. -/
def digits (cs : List Char) : List Char × List Char :=
  (cs.takeWhile Char.isDigit, cs.dropWhile Char.isDigit)

/-- The fraction a text starts with: nothing, or a point and at least one digit. -/
def readFraction : List Char → Option (List Char × List Char)
  | '.' :: cs =>
    let (ds, rest) := digits cs
    if ds = [] then none else some (ds, rest)
  | cs => some ([], cs)

/-- The exponent's sign, if there is one. -/
def readSign : List Char → Bool × List Char
  | '-' :: cs => (true, cs)
  | '+' :: cs => (false, cs)
  | cs => (false, cs)

/-- The exponent a text starts with: nothing, or its letter, a sign or none, and at least one digit. -/
def readExponent : List Char → Option (Option (Bool × List Char) × List Char)
  | [] => some (none, [])
  | c :: cs =>
    if c = 'e' ∨ c = 'E' then
      let (negative, unsigned) := readSign cs
      let (ds, rest) := digits unsigned
      if ds = [] then none else some (some (negative, ds), rest)
    else some (none, c :: cs)

/-- The numeral without sign that a text starts with. A leading zero stands alone. -/
def readUnsigned (negative : Bool) (cs : List Char) : Option (Numeral × List Char) := do
  let (whole, afterWhole) := digits cs
  if whole = [] ∨ (whole.head? = some '0' ∧ whole.length ≠ 1) then none
  let (fraction, afterFraction) ← readFraction afterWhole
  let (exponent, rest) ← readExponent afterFraction
  some (⟨negative, whole, fraction, exponent⟩, rest)

/-- The numeral that a text starts with, and what follows it. -/
def read : List Char → Option (Numeral × List Char)
  | '-' :: cs => readUnsigned true cs
  | cs => readUnsigned false cs

/-- Appends digits to a significand of sixty-four bits while they fit; the digits left over follow. -/
def absorb (significand : Nat) : List Char → Nat × List Char
  | [] => (significand, [])
  | c :: cs =>
    let next := significand * 10 + (c.toNat - '0'.toNat)
    if next < 2 ^ 64 then absorb next cs else (significand, c :: cs)

/-- The largest exponent that is told apart from a larger one. -/
def exponentLimit : Nat := 2 ^ 31 - 1

/-- A double with the numeral's sign. -/
def signed (n : Numeral) (d : Double) : Number :=
  .double (if n.negative then d.negate else d)

/-- The double that the numeral denotes, unless it is too large. -/
def double? (n : Numeral) : Option Number := do
  let (integral, beyond) := absorb 0 n.whole
  let (significand, unread) := absorb integral n.fraction
  let point : Int := beyond.length - (n.fraction.length - unread.length : Nat)
  let value : Option Double :=
    match n.exponent with
    | none => Double.ofDecimal? (UInt64.ofNat significand) point
    | some (negative, ds) =>
      let e := Nat.ofDigitChars 10 ds 0
      if e ≤ exponentLimit then
        Double.ofDecimal? (UInt64.ofNat significand) (if negative then point - e else point + e)
      else if significand ≠ 0 ∧ negative = false then none
      else some ⟨0⟩
  return n.signed (← value)

/-- The number that the numeral denotes; none if it is a double too large for its type. -/
def number? (n : Numeral) : Option Number :=
  if n.fraction = [] ∧ n.exponent = none then
    let magnitude := Nat.ofDigitChars 10 n.whole 0
    if n.negative = false ∧ magnitude < 2 ^ 64 then some (.int magnitude)
    else if n.negative ∧ magnitude ≠ 0 ∧ magnitude ≤ 2 ^ 63 then some (.int (-magnitude))
    else n.double?
  else n.double?

end Numeral

end WatchParty.Json
