/-
The tree of a JSON text, read from its tokens by a stack of the arrays and objects that are still
open. A tree keeps what a value loses: the order and repetition of fields, strings and numbers without
a value, and nesting of any depth. `Tree.value?` is the value with all of these settled; it allows as
many levels of nesting as it is told.
-/
import WatchParty.Json.Token

namespace WatchParty.Json

/-- A JSON text by its structure. -/
inductive Tree
  | null
  | bool (b : Bool)
  | number (n : Option Number)
  | string (s : Option String)
  | array (items : List Tree)
  | object (fields : List (Option String × Tree))

namespace Tree

/-! ## Reading -/

/-- An array or object that is still open, with what it holds so far, the latest first. -/
inductive Open
  | array (items : List Tree)
  | object (fields : List (Option String × Tree))
  | field (fields : List (Option String × Tree)) (name : Option String)

inductive Expect
  /-- a value -/
  | value
  /-- a value, or the end of an array that has just been opened -/
  | item
  /-- a field's name -/
  | name
  /-- a field's name, or the end of an object that has just been opened -/
  | field
  /-- the colon between a field's name and its value -/
  | colon
  /-- after a whole value: a comma or a closing bracket, or the end -/
  | delimiter (t : Tree)

/-- A token where a value may begin. -/
def start (stack : List Open) : Token → Option (Expect × List Open)
  | .null => some (.delimiter .null, stack)
  | .bool b => some (.delimiter (.bool b), stack)
  | .number n => some (.delimiter (.number n), stack)
  | .string s => some (.delimiter (.string s), stack)
  | .openArray => some (.item, .array [] :: stack)
  | .openObject => some (.field, .object [] :: stack)
  | _ => none

def step : Expect → List Open → Token → Option (Expect × List Open)
  | .item, .array items :: stack, .closeArray => some (.delimiter (.array items.reverse), stack)
  | .item, stack, t => start stack t
  | .value, stack, t => start stack t
  | .field, .object fields :: stack, .closeObject =>
    some (.delimiter (.object fields.reverse), stack)
  | .field, .object fields :: stack, .string s => some (.colon, .field fields s :: stack)
  | .name, .object fields :: stack, .string s => some (.colon, .field fields s :: stack)
  | .colon, stack, .colon => some (.value, stack)
  | .delimiter v, .array items :: stack, .comma => some (.value, .array (v :: items) :: stack)
  | .delimiter v, .array items :: stack, .closeArray =>
    some (.delimiter (.array (v :: items).reverse), stack)
  | .delimiter v, .field fields n :: stack, .comma =>
    some (.name, .object ((n, v) :: fields) :: stack)
  | .delimiter v, .field fields n :: stack, .closeObject =>
    some (.delimiter (.object ((n, v) :: fields).reverse), stack)
  | _, _, _ => none

def run : Expect → List Open → List Token → Option Tree
  | .delimiter v, [], [] => some v
  | _, _, [] => none
  | e, stack, t :: ts =>
    match step e stack t with
    | some (e', stack') => run e' stack' ts
    | none => none

def ofTokens? (ts : List Token) : Option Tree := run .value [] ts

def parse? (s : String) : Option Tree := (Token.list? s.toList).bind ofTokens?

/-! ## Values -/

mutual

/-- The value of a tree that nests at most `room` levels deep and whose numbers and strings all have
values. Of two fields with one name the later one counts, but both must have a value. -/
def value? (room : Nat) : Tree → Option Json
  | .null => some .null
  | .bool b => some (.bool b)
  | .number n => n.map .number
  | .string s => s.map .string
  | .array items =>
    match room with
    | 0 => none
    | room + 1 => (values? room items).map .array
  | .object fields =>
    match room with
    | 0 => none
    | room + 1 => (fieldValues? room fields).map Json.record

def values? (room : Nat) : List Tree → Option (List Json)
  | [] => some []
  | t :: ts => do return (← value? room t) :: (← values? room ts)

/-- The names and values of an object's fields. -/
def fieldValues? (room : Nat) : List (Option String × Tree) → Option (List (String × Json))
  | [] => some []
  | (name, t) :: fs => do return (← name, ← value? room t) :: (← fieldValues? room fs)

end

def string? : Tree → Option String
  | .string s => s
  | _ => none

def bool? : Tree → Option Bool
  | .bool b => some b
  | _ => none

/-- The 64-bit number without sign that a tree is, if it is one. -/
def natural? : Tree → Option UInt64
  | .number (some n) => (Json.number n).natural?
  | _ => none

/-! ## Records -/

/-- The names of an object's fields, if each has a value. -/
def names? (fields : List (Option String × Tree)) : Option (List (String × Tree)) :=
  fields.mapM fun (name, t) => name.map (·, t)

/-- The field of a name that may occur once at most; two of them are refused. -/
def single? (name : String) (fields : List (String × Tree)) : Option (Option Tree) :=
  match fields.filter (·.1 == name) with
  | [] => some none
  | [(_, t)] => some (some t)
  | _ => none

/-- What a tree gives for the fields of a record, in the order in which they are declared: an object
names each of them once at most, an array lists them from the first on and has no more. Other fields
of an object are skipped unread. -/
def arrange? (names : List String) : Tree → Option (List (Option Tree))
  | .object fields => do
    let named ← names? fields
    names.mapM (single? · named)
  | .array items =>
    if items.length ≤ names.length then some ((List.range names.length).map (items[·]?)) else none
  | _ => none

end Tree

/-! ## Values from text and back -/

/-- The deepest nesting of a value that is read. -/
def maxDepth : Nat := 127

def parse? (s : String) : Option Json := (Tree.parse? s).bind (Tree.value? maxDepth)

mutual

/-- The tokens of a value, with no spare ones. -/
def tokens : Json → List Token
  | .null => [.null]
  | .bool b => [.bool b]
  | .number n => [.number (some n)]
  | .string s => [.string (some s)]
  | .array items => .openArray :: (itemTokens items ++ [.closeArray])
  | .object fields => .openObject :: (fieldTokens fields ++ [.closeObject])

/-- The tokens of an array's items with commas between them. -/
def itemTokens : List Json → List Token
  | [] => []
  | [v] => v.tokens
  | v :: w :: vs => v.tokens ++ .comma :: itemTokens (w :: vs)

/-- The tokens of an object's fields with commas between them. -/
def fieldTokens : List (String × Json) → List Token
  | [] => []
  | [(name, v)] => .string (some name) :: .colon :: v.tokens
  | (name, v) :: f :: fs => .string (some name) :: .colon :: (v.tokens ++ .comma :: fieldTokens (f :: fs))

end

def render (v : Json) : String := String.ofList (v.tokens.flatMap Token.chars)

end WatchParty.Json
