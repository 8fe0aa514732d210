/-
Characters of texts: white space as Unicode has it, and texts with it removed from both ends; digits, their
values in a base up to sixteen, and numerals read from the most significant digit on. Powers of numbers are
the core library's, also where a module imports more than that.
-/

namespace WatchParty

@[default_instance 20001]
instance (priority := high) natPow : Pow Nat Nat := instPowNat

@[default_instance 20000]
instance (priority := high) intPow : Pow Int Nat := instPowNat

namespace Text

/-! ## White space -/

/-- The characters with the Unicode property `White_Space`: twenty-five, of which only the first five and the
space are ASCII. -/
def isBlank (c : Char) : Bool :=
  let n := c.toNat
  (0x9 ≤ n && n ≤ 0xD) || n == 0x20 || n == 0x85 || n == 0xA0 || n == 0x1680 ||
    (0x2000 ≤ n && n ≤ 0x200A) || n == 0x2028 || n == 0x2029 || n == 0x202F || n == 0x205F ||
    n == 0x3000

def trimChars (cs : List Char) : List Char :=
  ((cs.dropWhile isBlank).reverse.dropWhile isBlank).reverse

def trim (s : String) : String :=
  String.ofList (trimChars s.toList)

/-- A text of nothing but white space, the empty text among them. -/
def isAllBlank (s : String) : Bool :=
  s.toList.all isBlank

/-! ## Digits -/

/-- The value of a hexadecimal digit in either case. -/
def digitValue? (c : Char) : Option Nat :=
  if '0' ≤ c ∧ c ≤ '9' then some (c.toNat - '0'.toNat)
  else if 'a' ≤ c ∧ c ≤ 'f' then some (c.toNat - 'a'.toNat + 10)
  else if 'A' ≤ c ∧ c ≤ 'F' then some (c.toNat - 'A'.toNat + 10)
  else none

/-- The character is a digit of the base, which is sixteen at most. -/
def isDigitOf (base : Nat) (c : Char) : Bool :=
  match digitValue? c with
  | some d => decide (d < base)
  | none => false

/-- The number that a list of digits denotes, if each of them is a digit of the base. -/
def numeral? (base : Nat) (cs : List Char) : Option Nat :=
  cs.foldlM (fun n c =>
    match digitValue? c with
    | some d => if d < base then some (n * base + d) else none
    | none => none) 0

/-- A byte as two hexadecimal digits, those above nine in lower case. -/
def hexByte (n : Nat) : List Char := [Nat.digitChar (n / 16 % 16), Nat.digitChar (n % 16)]

end Text

end WatchParty
