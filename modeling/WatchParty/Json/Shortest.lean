/-
The decimal text of a double: the fewest digits that read back as the same double, and of those the
nearest to its value, with a tie going to the even digit. The text is positional while the decimal
point stays within sixteen places to the right and five to the left, and always shows a point there;
beyond that it is written with an exponent, which always shows its sign.
-/
import WatchParty.Json.Double

namespace WatchParty.Double

/-- A decimal number `digits * 10 ^ exponent`. -/
structure Decimal where
  digits : Nat
  exponent : Int

/-- The reals that round to a positive finite double, scaled by `4 * 2 ^ 1074`: the value and the two
ends of the interval. The ends belong to it if the fraction is even. -/
structure Interval where
  low : Nat
  value : Nat
  high : Nat
  closed : Bool

/-- The interval of a positive finite double. Just above a power of two the lower half is narrower. -/
def interval (d : Double) : Interval :=
  let (m, e) := d.decompose
  let unit := 2 ^ e
  let below := if m = 2 ^ 52 ∧ 0 < e then 1 else 2
  { low := (4 * m - below) * unit, value := 4 * m * unit, high := (4 * m + 2) * unit,
    closed := m % 2 == 0 }

/-- A scaled number lies in the interval. The number is given as a quotient. -/
def Interval.contains (i : Interval) (num den : Nat) : Bool :=
  if i.closed then decide (i.low * den ≤ num) && decide (num ≤ i.high * den)
  else decide (i.low * den < num) && decide (num < i.high * den)

/-- The scale of an interval's numbers. -/
def Interval.scale : Nat := 4 * 2 ^ 1074

/-- The nearest decimal in the interval among the two neighbours of the value that are multiples of
`10 ^ exponent`. -/
def Interval.nearest? (i : Interval) (exponent : Int) : Option Decimal :=
  -- a multiple `k` of the step is `k * up / down` in the interval's scale
  let up := if 0 ≤ exponent then 10 ^ exponent.natAbs * Interval.scale else Interval.scale
  let down := if 0 ≤ exponent then 1 else 10 ^ exponent.natAbs
  let k := i.value * down / up
  let lowerIn := i.contains (k * up) down
  let upperIn := i.contains ((k + 1) * up) down
  if lowerIn && upperIn then
    let below := i.value * down - k * up
    let above := (k + 1) * up - i.value * down
    if below < above ∨ (below = above ∧ k % 2 = 0) then some ⟨k, exponent⟩
    else some ⟨k + 1, exponent⟩
  else if lowerIn then some ⟨k, exponent⟩
  else if upperIn then some ⟨k + 1, exponent⟩
  else none

/-- The decimal without the zeros at the end of its digits. -/
def Decimal.strip (d : Decimal) : Nat → Decimal
  | 0 => d
  | fuel + 1 =>
    if d.digits ≠ 0 ∧ d.digits % 10 = 0 then Decimal.strip ⟨d.digits / 10, d.exponent + 1⟩ fuel
    else d

/-- The exponent of the leading decimal digit of a positive scaled number. -/
def Interval.leadingExponent (i : Interval) : Int :=
  if Interval.scale ≤ i.value then ((Nat.toDigits 10 (i.value / Interval.scale)).length : Int) - 1
  else
    -- counts the zeros between the point and the first digit
    let zeros := (Nat.toDigits 10 (Interval.scale / i.value)).length
    if Interval.scale ≤ i.value * 10 ^ (zeros - 1) then -((zeros : Int) - 1) else -(zeros : Int)

/-- The digits of the shortest decimal in the interval that is nearest to the value. Seventeen digits
always suffice. -/
def shortest (d : Double) : Decimal :=
  let i := d.interval
  let lead := i.leadingExponent
  let found := (List.range 17).findSome? fun (n : Nat) => i.nearest? (lead - n)
  match found with
  | some decimal => decimal.strip 20
  | none => ⟨0, 0⟩

/-- An exponent with its letter and its sign. -/
def exponentText (n : Int) : String := if n < 0 then "e" ++ toString n else "e+" ++ toString n

/-- The text of a finite magnitude. -/
def magnitudeText (d : Double) : String :=
  if d.bits.toNat % 2 ^ 63 = 0 then "0.0"
  else
    let decimal := d.shortest
    let digits := Nat.toDigits 10 decimal.digits
    let length : Int := digits.length
    -- the place of the decimal point, counted from before the first digit
    let point := length + decimal.exponent
    if 0 ≤ decimal.exponent ∧ point ≤ 16 then
      String.ofList (digits ++ List.replicate decimal.exponent.toNat '0' ++ ['.', '0'])
    else if 0 < point ∧ point ≤ 16 then
      String.ofList (digits.take point.toNat ++ ['.'] ++ digits.drop point.toNat)
    else if -5 < point ∧ point ≤ 0 then
      String.ofList (['0', '.'] ++ List.replicate point.natAbs '0' ++ digits)
    else
      let fraction := if digits.length = 1 then [] else '.' :: digits.drop 1
      String.ofList (digits.take 1 ++ fraction) ++ exponentText (point - 1)

/-- The text of a finite double. -/
def text (d : Double) : String :=
  if d.isNegative then "-" ++ d.magnitudeText else d.magnitudeText

end WatchParty.Double
