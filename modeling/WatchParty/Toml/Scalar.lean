/-
TOML's words without quotes: truth values, integers in four bases, floats, and dates and times. A word
is one of these as a whole or it is an error. Underscores may stand between two digits of a number. Words
with nothing but white space between them are one word.

An integer is looked at only in part before its value is needed: a base without a digit, and a word that
begins with digits and an underscore, are read as misspelled, and are no error until they are used.
-/
import WatchParty.Text.Basic
import WatchParty.Json.Double
import WatchParty.Toml.Value

namespace WatchParty.Toml

/-! ## Words in a text -/

def isBlank (c : Char) : Bool := c == ' ' || c == '\t'

/-- Drops the white space up to the next character of the line. -/
def skipBlanks (cs : List Char) : List Char := cs.dropWhile isBlank

def endsWord (c : Char) : Bool :=
  c ∈ ['=', ',', '[', ']', '\x7b', '\x7d', '#', ' ', '\t', '\r', '\n']

def isWordChar (c : Char) : Bool := !endsWord c

/-- After white space comes something that is no quoted text, and so belongs to the word before it. -/
def goesOn (cs : List Char) : Bool :=
  (skipBlanks cs).head?.any fun c => isWordChar c && c != '"' && c != '\''

/-- The word that a text starts with, and what follows it. White space that the word goes on after is
part of it, as between a day and a time. -/
def splitWord : List Char → List Char × List Char
  | [] => ([], [])
  | c :: cs =>
    if isWordChar c || (isBlank c && goesOn cs) then
      let (word, rest) := splitWord cs
      (c :: word, rest)
    else ([], c :: cs)

/-! ## Numbers -/

/-- Digits of a base with underscores between them, without the underscores. There is a digit at both
ends and next to every underscore. -/
def grouped? (base : Nat) : List Char → Option (List Char)
  | [] => none
  | [c] => if Text.isDigitOf base c then some [c] else none
  | c :: '_' :: cs => if Text.isDigitOf base c then (grouped? base cs).map (c :: ·) else none
  | c :: cs => if Text.isDigitOf base c then (grouped? base cs).map (c :: ·) else none

/-- The sign in front of a word, and the rest: whether it is a minus, if there is one. -/
def splitSign : List Char → Option Bool × List Char
  | '+' :: cs => (some false, cs)
  | '-' :: cs => (some true, cs)
  | cs => (none, cs)

/-- Decimal digits without a needless zero in front. -/
def decimal? (cs : List Char) : Option (List Char) := do
  let ds ← grouped? 10 cs
  if ds.length ≠ 1 ∧ ds.head? = some '0' then none else some ds

/-- The integer that digits of a base denote; without any digit there is none. -/
def based? (base : Nat) (cs : List Char) : Option Toml := do
  if cs = [] then return .misspelled
  return .integer (← Text.numeral? base (← grouped? base cs) : Nat)

/-- An integer in a base that its first two characters tell; none of these has a sign. -/
def prefixed? : List Char → Option Toml
  | '0' :: 'x' :: cs => based? 16 cs
  | '0' :: 'o' :: cs => based? 8 cs
  | '0' :: 'b' :: cs => based? 2 cs
  | _ => none

/-- Every underscore stands between two characters that are digits in some base. -/
def separates : List Char → Bool
  | [] => true
  | '_' :: _ => false
  | [_, '_'] => false
  | c :: '_' :: d :: cs => Text.isDigitOf 16 c && Text.isDigitOf 16 d && separates (d :: cs)
  | _ :: cs => separates cs

/-- The word, which has no sign, begins as an integer with an underscore does: after the first digits, the
first of which is not zero, comes an underscore, no space follows, and nothing says that the word is a
float. -/
def beginsGrouped (cs : List Char) : Bool :=
  let rest := cs.dropWhile Char.isDigit
  cs.head? != some '0' && (cs.head?).any Char.isDigit && rest.head? == some '_' && separates cs &&
    rest.all fun c => c != ' ' && c != '.' && c != 'e' && c != 'E'

def integer? (cs : List Char) : Option Toml :=
  match prefixed? cs with
  | some v => some v
  | none =>
    let (sign, unsigned) := splitSign cs
    match decimal? unsigned with
    | some ds =>
      let n := Nat.ofDigitChars 10 ds 0
      some (.integer (if sign = some true then -(n : Int) else n))
    | none => if beginsGrouped unsigned then some .misspelled else none

/-- The decimal number `0.d₁d₂… * 10 ^ exponent` rounds to a finite double. -/
def isFinite (digits : List Char) (exponent : Int) : Bool :=
  let significant := digits.dropWhile (· == '0')
  let point := exponent - (digits.length - significant.length : Nat)
  if significant = [] ∨ point ≤ 300 then true
  else if 320 < point then false
  else
    let scale := 10 ^ (point.toNat)
    !(Double.ofRatio (Nat.ofDigitChars 10 significant 0 * scale)
      (10 ^ significant.length)).isInfinite

/-- The exponent of a float, after its letter. -/
def exponent? (cs : List Char) : Option Int := do
  let (sign, unsigned) := splitSign cs
  let n := Nat.ofDigitChars 10 (← grouped? 10 unsigned) 0
  return if sign = some true then -(n : Int) else n

/-- A float: whether it is within range. It has a fraction, an exponent or both, or it is one of the two
names for what is no number and for infinity. -/
def float? (cs : List Char) : Option Bool :=
  let (_, unsigned) := splitSign cs
  if unsigned = ['i', 'n', 'f'] ∨ unsigned = ['n', 'a', 'n'] then some true
  else do
    let isLetter := fun c => c == 'e' || c == 'E'
    let mantissa := unsigned.takeWhile (!isLetter ·)
    let exponent ←
      match unsigned.dropWhile (!isLetter ·) with
      | [] => some none
      | _ :: ds => (exponent? ds).map some
    let whole ← decimal? (mantissa.takeWhile (· != '.'))
    let fraction ←
      match mantissa.dropWhile (· != '.') with
      | [] => some none
      | _ :: ds => (grouped? 10 ds).map some
    if fraction = none ∧ exponent = none then none
    else some (isFinite (whole ++ fraction.getD []) (exponent.getD 0 + whole.length))

/-! ## Dates and times -/

/-- The number that exactly so many decimal digits at the start denote. -/
def fixed? (width : Nat) (cs : List Char) : Option (Nat × List Char) :=
  let ds := cs.take width
  if ds.length = width ∧ ds.all Char.isDigit then some (Nat.ofDigitChars 10 ds 0, cs.drop width)
  else none

def mark? (c : Char) : List Char → Option (List Char)
  | d :: cs => if d = c then some cs else none
  | [] => none

def daysIn (year month : Nat) : Nat :=
  if month = 2 then
    if year % 4 = 0 ∧ (year % 100 ≠ 0 ∨ year % 400 = 0) then 29 else 28
  else if month = 4 ∨ month = 6 ∨ month = 9 ∨ month = 11 then 30
  else 31

/-- A day of the calendar at the start. -/
def day? (cs : List Char) : Option (List Char) := do
  let (year, cs) ← fixed? 4 cs
  let (month, cs) ← fixed? 2 (← mark? '-' cs)
  let (day, cs) ← fixed? 2 (← mark? '-' cs)
  if 1 ≤ month ∧ month ≤ 12 ∧ 1 ≤ day ∧ day ≤ daysIn year month then some cs else none

/-- Seconds and their fraction, if there are any. -/
def seconds? : List Char → Option (List Char)
  | ':' :: cs => do
    let (second, cs) ← fixed? 2 cs
    if 60 < second then none
    else match cs with
      | '.' :: cs =>
        if (cs.takeWhile Char.isDigit).isEmpty then none else some (cs.dropWhile Char.isDigit)
      | cs => some cs
  | cs => some cs

/-- A time of the day at the start. Seconds may be left out. -/
def timeOfDay? (cs : List Char) : Option (List Char) := do
  let (hour, cs) ← fixed? 2 cs
  let (minute, cs) ← fixed? 2 (← mark? ':' cs)
  if 23 < hour ∨ 59 < minute then none else seconds? cs

/-- The distance from universal time, to the end of the word. -/
def isOffset : List Char → Bool
  | [] => true
  | ['Z'] => true
  | ['z'] => true
  | c :: cs =>
    (c == '+' || c == '-') &&
      (match fixed? 2 cs with
      | some (hour, ':' :: rest) =>
        match fixed? 2 rest with
        | some (minute, []) => hour ≤ 23 && minute ≤ 59
        | _ => false
      | _ => false)

/-- The rest of a word after a day: nothing, or a time and perhaps its distance from universal time. -/
def isDateEnd : List Char → Bool
  | [] => true
  | c :: cs =>
    (c == 'T' || c == 't' || c == ' ') &&
      (match timeOfDay? cs with
      | some rest => isOffset rest
      | none => false)

def isDate (cs : List Char) : Bool :=
  match day? cs with
  | some rest => isDateEnd rest
  | none => timeOfDay? cs == some []

def ofWord? (cs : List Char) : Option Toml :=
  if cs = ['t', 'r', 'u', 'e'] then some (.boolean true)
  else if cs = ['f', 'a', 'l', 's', 'e'] then some (.boolean false)
  else match integer? cs with
    | some v => some v
    | none =>
      match float? cs with
      | some ok => some (.float ok)
      | none => if isDate cs then some .date else none

end WatchParty.Toml
