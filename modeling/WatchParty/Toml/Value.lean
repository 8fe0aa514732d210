/-
TOML values, and the tables of a document while it is read. A table remembers how it came to be,
because that decides what may still be added to it: a header may name a table once, keys with dots may
only extend tables that keys with dots or longer headers have made, and an inline table is closed.
-/
import WatchParty.Text.Basic

namespace WatchParty

inductive TableOrigin
  /-- it is the document, or a header named it -/
  | header
  /-- a header named a table inside it -/
  | implied
  /-- a key with dots passed through it, and no header had named it -/
  | dotted
  /-- it was written in braces -/
  | inline
  deriving DecidableEq

/-- No text has named the table for its own sake. -/
def TableOrigin.isImplicit : TableOrigin → Bool
  | .implied => true
  | .dotted => true
  | _ => false

/-- A TOML value. Of floats and dates only what other modules ask is kept: whether a float is within the
range of doubles, and nothing of a date. -/
inductive Toml
  | string (s : String)
  | integer (n : Int)
  /-- a word that begins as an integer does and denotes none; only to use it is an error -/
  | misspelled
  | float (inRange : Bool)
  | boolean (b : Bool)
  | date
  /-- the items, and whether they are the tables of headers in double brackets -/
  | array (ofTables : Bool) (items : List Toml)
  | table (origin : TableOrigin) (entries : List (String × Toml))

namespace Toml

/-- The entries with the value of one key changed. -/
def replace (key : String) (v : Toml) (entries : List (String × Toml)) : List (String × Toml) :=
  entries.map fun (k, old) => if k = key then (k, v) else (k, old)

/-- Changes the table at the end of a path. Tables that the path names and that are missing are made on
the way, and of an array of tables the last one is meant. A path with dots, as a key has it, passes only
through tables that no text has named for their own sake, and from then on no header may name them. -/
def under (dotted : Bool) (path : List String)
    (change : TableOrigin → List (String × Toml) → Option (List (String × Toml)))
    (origin : TableOrigin) (entries : List (String × Toml)) : Option (List (String × Toml)) :=
  match path with
  | [] => change origin entries
  | key :: rest =>
    match entries.lookup key with
    | none => do
      let made := if dotted then .dotted else .implied
      let inner ← under dotted rest change made []
      return entries ++ [(key, .table made inner)]
    | some (.table inside inner) =>
      if inside = .inline ∨ (dotted ∧ inside.isImplicit = false) then none
      else do
        let passed := if dotted then .dotted else inside
        let inner ← under dotted rest change passed inner
        return replace key (.table passed inner) entries
    | some (.array true items) =>
      match items.getLast? with
      | some (.table inside inner) => do
        let inner ← under dotted rest change inside inner
        return replace key (.array true (items.dropLast ++ [.table inside inner])) entries
      | _ => none
    | some _ => none

/-- Adds a value to a table under a key that may have dots. A key is given a value once. -/
def assign (path : List String) (key : String) (v : Toml) (origin : TableOrigin)
    (entries : List (String × Toml)) : Option (List (String × Toml)) :=
  let dotted := !path.isEmpty
  under dotted path (fun inside inner =>
    if dotted ∧ inside.isImplicit = false then none
    else if (inner.lookup key).isSome then none
    else some (inner ++ [(key, v)])) origin entries

/-- Opens the table that a header names. It may exist already if only longer headers have made it. -/
def openTable (path : List String) (key : String) (document : List (String × Toml)) :
    Option (List (String × Toml)) :=
  under false path (fun _ inner =>
    match inner.lookup key with
    | none => some (inner ++ [(key, .table .header [])])
    | some (.table .implied entries) => some (replace key (.table .header entries) inner)
    | some _ => none) .header document

/-- Adds a table to the array that a header in double brackets names. -/
def openRow (path : List String) (key : String) (document : List (String × Toml)) :
    Option (List (String × Toml)) :=
  under false path (fun _ inner =>
    match inner.lookup key with
    | none => some (inner ++ [(key, .array true [.table .header []])])
    | some (.array true items) =>
      some (replace key (.array true (items ++ [.table .header []])) inner)
    | some _ => none) .header document

/-- The least integer that is understood. -/
def leastInteger : Int := -2 ^ 127

/-- One more than the greatest integer that is understood. -/
def integerBound : Int := 2 ^ 128

mutual

/-- Every number in the value is one, and within its range. -/
def inRange : Toml → Bool
  | .integer n => leastInteger ≤ n && n < integerBound
  | .misspelled => false
  | .float ok => ok
  | .array _ items => allInRange items
  | .table _ entries => entriesInRange entries
  | _ => true

/-- Every number in the items is one, and within its range. -/
def allInRange : List Toml → Bool
  | [] => true
  | v :: vs => v.inRange && allInRange vs

/-- Every number in the entries is one, and within its range. -/
def entriesInRange : List (String × Toml) → Bool
  | [] => true
  | (_, v) :: es => v.inRange && entriesInRange es

end

def string? : Toml → Option String
  | .string s => some s
  | _ => none

/-- The natural number below a bound that a value is, if it is one. -/
def naturalBelow? (bound : Nat) : Toml → Option Nat
  | .integer n => if 0 ≤ n ∧ n < bound then some n.toNat else none
  | _ => none

/-- What a value gives for the fields of a section, in the order in which they are declared. A table
names them, and its other entries must have numbers within range; an array lists them, and what comes
after them is not looked at; a date counts as a table with no field of the section. -/
def arrange? (names : List String) : Toml → Option (List (Option Toml))
  | .table _ entries =>
    if entriesInRange (entries.filter fun (k, _) => !names.contains k) then
      some (names.map (List.lookup · entries))
    else none
  | .array _ items => some ((List.range names.length).map (items[·]?))
  | .date => some (names.map fun _ => none)
  | _ => none

end Toml

end WatchParty
