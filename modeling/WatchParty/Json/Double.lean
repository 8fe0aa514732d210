/-
Binary floating-point numbers of 64 bits, by their bits, with all arithmetic on natural numbers:
the double nearest to a quotient (`ofRatio`), products and quotients of two doubles, and the double
that a decimal numeral stands for as JSON readers compute it (`ofDecimal?`).

Signs are kept apart: the arithmetic is on doubles that are not negative.
-/
import WatchParty.Text.Basic

namespace WatchParty

/-- A double, by its bits: sign, eleven bits of exponent, fifty-two bits of fraction. -/
structure Double where
  bits : UInt64
  deriving DecidableEq

namespace Double

def infinityBits : Nat := 0x7FF0000000000000

def infinity : Double := ⟨UInt64.ofNat infinityBits⟩

/-- The magnitude is as large as infinity's. -/
def isInfinite (d : Double) : Bool := d.bits.toNat % 2 ^ 63 == infinityBits

/-- The double with the sign bit set. -/
def negate (d : Double) : Double := ⟨d.bits ||| 0x8000000000000000⟩

def isNegative (d : Double) : Bool := 2 ^ 63 ≤ d.bits.toNat

/-- A finite magnitude as `m * 2 ^ (e - 1074)`: first `m`, then `e`. -/
def decompose (d : Double) : Nat × Nat :=
  let magnitude := d.bits.toNat % 2 ^ 63
  let biased := magnitude / 2 ^ 52
  let fraction := magnitude % 2 ^ 52
  if biased = 0 then (fraction, 0) else (fraction + 2 ^ 52, biased - 1)

/-- A finite magnitude as a quotient of natural numbers. -/
def ratio (d : Double) : Nat × Nat :=
  let (m, e) := d.decompose
  (m * 2 ^ e, 2 ^ 1074)

/-- The natural number nearest to a quotient; a half goes to the even neighbour. -/
def roundHalfEven (num den : Nat) : Nat :=
  let q := num / den
  let twice := 2 * (num % den)
  if twice < den then q
  else if den < twice then q + 1
  else if q % 2 = 0 then q else q + 1

/-- The double nearest to `num / den`, of two the one with the even fraction; infinity if the quotient
is too large. -/
def ofRatio (num den : Nat) : Double :=
  if num = 0 then ⟨0⟩
  else
    -- the quotient in units of the smallest positive double
    let scaled := num * 2 ^ 1074
    let units := scaled / den
    -- `52` bits of fraction are kept below the leading bit
    let shift := Nat.log2 units - 52
    let m := roundHalfEven scaled (den * 2 ^ shift)
    let bits := shift * 2 ^ 52 + m
    if infinityBits ≤ bits then infinity else ⟨UInt64.ofNat bits⟩

def ofNat (n : Nat) : Double := ofRatio n 1

def tenPower (k : Nat) : Double := ofNat (10 ^ k)

/-- The rounded product of two finite magnitudes. -/
def mul (a b : Double) : Double :=
  let (na, da) := a.ratio
  let (nb, db) := b.ratio
  ofRatio (na * nb) (da * db)

/-- The rounded quotient of two finite magnitudes, the second not zero. -/
def div (a b : Double) : Double :=
  let (na, da) := a.ratio
  let (nb, db) := b.ratio
  ofRatio (na * db) (da * nb)

/-- The largest power of ten that is a finite double. -/
def largestTenPower : Nat := 308

/-- `f * 10 ^ exponent` in steps of one rounding each, where each step takes at most the largest power
of ten; no value if it leaves the finite doubles. -/
def scale? (f : Double) (exponent : Int) : Option Double :=
  if exponent.natAbs ≤ largestTenPower then
    if 0 ≤ exponent then
      let product := f.mul (tenPower exponent.natAbs)
      if product.isInfinite then none else some product
    else some (f.div (tenPower exponent.natAbs))
  else if f.bits = 0 then some f
  else if 0 ≤ exponent then none
  else (f.div (tenPower largestTenPower)).scale? (exponent + largestTenPower)
termination_by exponent.natAbs
decreasing_by simp only [largestTenPower] at *; omega

/-- The double that the decimal number `significand * 10 ^ exponent` is read as: the significand is
rounded first and then scaled. -/
def ofDecimal? (significand : UInt64) (exponent : Int) : Option Double :=
  (ofNat significand.toNat).scale? exponent

end Double

end WatchParty
