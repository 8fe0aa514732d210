/-
JSON values. A number is an integer of 64 bits, signed or unsigned, or a double; an object is the
list of its fields with the names in increasing order and each name once. `Json.record` brings any
list of fields into that form: of two fields with one name the later one stays.
-/
import Std.Data.ExtTreeMap
import WatchParty.Json.Double

namespace WatchParty

/-- A JSON number: the integers are those of 64 bits, everything else is a double. -/
inductive Number
  | int (n : Int)
  | double (d : Double)
  deriving DecidableEq

inductive Json
  | null
  | bool (b : Bool)
  | number (n : Number)
  | string (s : String)
  | array (items : List Json)
  | object (fields : List (String × Json))

instance : Inhabited Json := ⟨.null⟩

def Number.least : Int := -2 ^ 63

/-- One more than the largest integer that a number holds as an integer. -/
def Number.bound : Int := 2 ^ 64

/-- The integers that a number holds as such; JSON has a double for any other. -/
def Number.Holds (n : Int) : Prop := Number.least ≤ n ∧ n < Number.bound

namespace Json

/-- The object with the given fields, ordered by name; the last field of a name stays. -/
def record (fields : List (String × Json)) : Json :=
  .object (Std.ExtTreeMap.ofList fields).toList

/-- A number of 64 bits without sign. -/
def natural (n : UInt64) : Json := .number (.int n.toNat)

def count (n : Nat) : Json := .number (.int n)

/-- An absent value is written as null. -/
def ofOption {α : Type} (f : α → Json) : Option α → Json
  | none => .null
  | some a => f a

/-- The 64-bit number without sign that a value is, if it is one. -/
def natural? : Json → Option UInt64
  | .number (.int n) => if 0 ≤ n ∧ n < Number.bound then some (UInt64.ofNat n.toNat) else none
  | _ => none

def string? : Json → Option String
  | .string s => some s
  | _ => none

def array? : Json → Option (List Json)
  | .array items => some items
  | _ => none

def object? : Json → Option (List (String × Json))
  | .object fields => some fields
  | _ => none

def field? (name : String) : Json → Option Json
  | .object fields => List.lookup name fields
  | _ => none

/-- What a value gives for the fields of a record, in the order in which they are declared: an object
names them, an array lists them from the first on. An array with more items than there are fields
gives nothing, nor does a value that is neither. -/
def arrange (names : List String) : Json → Option (List (Option Json))
  | .object fields => some (names.map (List.lookup · fields))
  | .array items =>
    if items.length ≤ names.length then some ((List.range names.length).map (items[·]?)) else none
  | _ => none

end Json

end WatchParty
