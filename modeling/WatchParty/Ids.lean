/-
The names of sessions and of connections. Both are texts of any form; ids that the server makes up
have a fixed one. The ids made up by a server are numbered: `SessionId.generated` gives a different id
for each number, and `ConnectionId.generated` for each number of at most thirty hexadecimal digits.
-/
import Std.Data.ExtTreeMap
import WatchParty.Text.Basic

namespace WatchParty

structure SessionId where
  text : String
  deriving DecidableEq

/-- The name of one connection, for as long as it lasts. -/
structure ConnectionId where
  text : String
  deriving DecidableEq

namespace SessionId

/-- Ids are ordered as their texts are. -/
instance : Ord SessionId := ⟨fun a b => compare a.text b.text⟩

instance : Std.TransOrd SessionId := inferInstanceAs (Std.TransCmp (compareOn SessionId.text))

instance : Std.LawfulEqOrd SessionId where
  eq_of_compare {a b} h := by
    cases a
    cases b
    exact congrArg SessionId.mk (Std.LawfulEqOrd.eq_of_compare h)

/-- A number below ten thousand in four digits. A larger number is written in full. -/
def group (n : Nat) : List Char :=
  let digits := Nat.toDigits 10 n
  List.replicate (4 - digits.length) '0' ++ digits

/-- The numbers of generated ids start above this one. -/
def base : Nat := 9999 * 10 ^ 12

/-- The `n`-th generated id: sixteen digits in four groups with hyphens between them. -/
def generated (n : Nat) : SessionId :=
  let number := base + n
  let part := fun k => group (number / 10 ^ (4 * k) % 10 ^ 4)
  ⟨String.ofList (group (number / 10 ^ 12) ++ '-' :: part 2 ++ '-' :: part 1 ++ '-' :: part 0)⟩

/-- Four groups of four digits with hyphens between them. -/
def isGenerated (id : SessionId) : Bool :=
  let cs := id.text.toList
  cs.length == 19 &&
    (List.range 19).all fun i =>
      if i % 5 = 4 then cs[i]? == some '-' else (cs[i]?).any Char.isDigit

def sorted (ids : List SessionId) : List SessionId := ids.mergeSort fun a b => (compare a b).isLE

def distinct (ids : List SessionId) : List SessionId := (Std.ExtTreeMap.ofList (ids.map (·, ()))).keys

end SessionId

namespace ConnectionId

/-- Ids are ordered as their texts are. -/
instance : Ord ConnectionId := ⟨fun a b => compare a.text b.text⟩

instance : Std.TransOrd ConnectionId := inferInstanceAs (Std.TransCmp (compareOn ConnectionId.text))

instance : Std.LawfulEqOrd ConnectionId where
  eq_of_compare {a b} h := by
    cases a
    cases b
    exact congrArg ConnectionId.mk (Std.LawfulEqOrd.eq_of_compare h)

/-- The lowest `count` hexadecimal digits of a number. -/
def hexDigits (n : Nat) : Nat → List Char
  | 0 => []
  | count + 1 => hexDigits (n / 16) count ++ [Nat.digitChar (n % 16)]

/-- The `n`-th generated id: a version 4 UUID in lower case that ends in the number. -/
def generated (n : Nat) : ConnectionId :=
  ⟨String.ofList (hexDigits (n / 16 ^ 22) 8 ++ '-' :: hexDigits (n / 16 ^ 18) 4 ++ '-' :: '4' ::
    hexDigits (n / 16 ^ 15) 3 ++ '-' :: '8' :: hexDigits (n / 16 ^ 12) 3 ++ '-' :: hexDigits n 12)⟩

/-- A version 4 UUID in lower case. -/
def isGenerated (id : ConnectionId) : Bool :=
  let cs := id.text.toList
  cs.length == 36 &&
    (List.range 36).all fun i =>
      if i = 8 ∨ i = 13 ∨ i = 18 ∨ i = 23 then cs[i]? == some '-'
      else if i = 14 then cs[i]? == some '4'
      else if i = 19 then (cs[i]?).any fun c => c ∈ ['8', '9', 'a', 'b']
      else (cs[i]?).any fun c => Text.isDigitOf 16 c && !c.isUpper

def sorted (ids : List ConnectionId) : List ConnectionId := ids.mergeSort fun a b => (compare a b).isLE

def distinct (ids : List ConnectionId) : List ConnectionId := (Std.ExtTreeMap.ofList (ids.map (·, ()))).keys

end ConnectionId

end WatchParty
