/-
Reading a TOML document: strings of the four kinds, keys, values, and the lines of the document one
after the other. Every reader takes the characters that are left and gives what it has read and what
then is left; an error is no result at all.
-/
import WatchParty.Toml.Scalar

namespace WatchParty.Toml

abbrev Reader (α : Type) := List Char → Option (α × List Char)

/-! ## Space -/

/-- A character that may stand in comments and, quotes and backslashes aside, in strings. -/
def isTextChar (c : Char) : Bool := c == '\t' || (0x20 ≤ c.toNat && c != '\x7f')

def startsLine : List Char → Bool
  | '\n' :: _ => true
  | '\r' :: '\n' :: _ => true
  | _ => false

/-- Drops white space, comments and line ends. -/
def skipSpace (inComment : Bool) : List Char → Option (List Char)
  | [] => some []
  | '\n' :: cs => skipSpace false cs
  | '\r' :: cs => if cs.head? = some '\n' then skipSpace inComment cs else none
  | c :: cs =>
    if inComment then if isTextChar c then skipSpace true cs else none
    else if isBlank c then skipSpace false cs
    else if c = '#' then skipSpace true cs
    else some (c :: cs)

/-- Drops the rest of a line, which holds no more than white space and a comment. -/
def endLine (cs : List Char) : Option (List Char) :=
  match skipBlanks cs with
  | [] => some []
  | '#' :: cs => skipSpace true cs
  | cs => if startsLine cs then skipSpace false cs else none

/-! ## Strings -/

/-- Hexadecimal digits that give the number of a character. -/
def codePoint? (ds : List Char) : Option Char := do
  let n ← Text.numeral? 16 ds
  if n < 0xD800 ∨ (0xDFFF < n ∧ n < 0x110000) then some (Char.ofNat n) else none

/-- The character that a one-letter escape stands for. -/
def escaped? : Char → Option Char
  | '"' => some '"'
  | '\\' => some '\\'
  | 'b' => some '\x08'
  | 'e' => some '\x1b'
  | 'f' => some '\x0c'
  | 'n' => some '\n'
  | 'r' => some '\r'
  | 't' => some '\t'
  | _ => none

/-- An escape after its backslash: the character and what follows. -/
def escape? : Reader Char
  | 'x' :: a :: b :: cs => (codePoint? [a, b]).map (·, cs)
  | 'u' :: a :: b :: c :: d :: cs => (codePoint? [a, b, c, d]).map (·, cs)
  | 'U' :: a :: b :: c :: d :: e :: f :: g :: h :: cs =>
    (codePoint? [a, b, c, d, e, f, g, h]).map (·, cs)
  | c :: cs => (escaped? c).map (·, cs)
  | [] => none

/-- The rest of a string in double quotes. The bound is on the number of characters. -/
def basicRest : Nat → Reader (List Char)
  | 0, _ => none
  | _, [] => none
  | _, '"' :: cs => some ([], cs)
  | bound + 1, '\\' :: cs => do
    let (c, cs) ← escape? cs
    let (s, rest) ← basicRest bound cs
    return (c :: s, rest)
  | bound + 1, c :: cs =>
    if isTextChar c then (basicRest bound cs).map fun (s, rest) => (c :: s, rest) else none

/-- The rest of a string in single quotes, which knows no escapes. -/
def literalRest : Reader (List Char)
  | [] => none
  | '\'' :: cs => some ([], cs)
  | c :: cs =>
    if isTextChar c then (literalRest cs).map fun (s, rest) => (c :: s, rest) else none

/-- The end of a string in three quotes each: up to two more quotes before the last three belong to the
string. -/
def closing? (quote : Char) (cs : List Char) : Option (List Char × List Char) :=
  let run := (cs.takeWhile (· == quote)).length
  if run < 3 then none
  else
    let inside := min run 5 - 3
    some (List.replicate inside quote, cs.drop (inside + 3))

/-- Drops the line end that directly follows the opening of a string in three quotes. -/
def skipFirstLineEnd : List Char → List Char
  | '\n' :: cs => cs
  | '\r' :: '\n' :: cs => cs
  | cs => cs

def skipLines : List Char → List Char
  | [] => []
  | '\r' :: '\n' :: cs => skipLines cs
  | c :: cs => if isBlank c || c == '\n' then skipLines cs else c :: cs

/-- The rest of a string in three double quotes. A backslash at the end of a line takes away all white
space up to the next character. -/
def multilineRest : Nat → Reader (List Char)
  | 0, _ => none
  | _, [] => none
  | bound + 1, '\\' :: cs =>
    if startsLine (skipBlanks cs) then
      multilineRest bound (skipLines cs)
    else do
      let (c, cs) ← escape? cs
      let (s, rest) ← multilineRest bound cs
      return (c :: s, rest)
  | bound + 1, c :: cs =>
    match closing? '"' (c :: cs) with
    | some found => some found
    | none =>
      if isTextChar c || startsLine (c :: cs) then
        (multilineRest bound cs).map fun (s, rest) => (c :: s, rest)
      else none

/-- The rest of a string in three single quotes. -/
def multilineLiteralRest : Reader (List Char)
  | [] => none
  | c :: cs =>
    match closing? '\'' (c :: cs) with
    | some found => some found
    | none =>
      if isTextChar c || startsLine (c :: cs) then
        (multilineLiteralRest cs).map fun (s, rest) => (c :: s, rest)
      else none

def line? : Reader String
  | '"' :: cs => (basicRest (cs.length + 1) cs).map fun (s, rest) => (String.ofList s, rest)
  | '\'' :: cs => (literalRest cs).map fun (s, rest) => (String.ofList s, rest)
  | _ => none

def text? : Reader String
  | '"' :: '"' :: '"' :: cs =>
    let body := skipFirstLineEnd cs
    (multilineRest (body.length + 1) body).map fun (s, rest) => (String.ofList s, rest)
  | '\'' :: '\'' :: '\'' :: cs =>
    (multilineLiteralRest (skipFirstLineEnd cs)).map fun (s, rest) => (String.ofList s, rest)
  | cs => line? cs

/-! ## Keys -/

/-- A character of a key without quotes. -/
def isKeyChar (c : Char) : Bool := c.isAlphanum || c == '_' || c == '-'

def keyPart? (cs : List Char) : Option (String × List Char) :=
  let bare := cs.takeWhile isKeyChar
  if bare = [] then line? cs else some (String.ofList bare, cs.dropWhile isKeyChar)

/-- The most parts that a key may have. -/
def maxParts : Nat := 80

/-- A key of a bounded number of parts: its parts but the last, and the last. White space of the line may
surround the dots. -/
def keyUpTo? : Nat → Reader (List String × String)
  | 0, _ => none
  | room + 1, cs => do
    let (part, rest) ← keyPart? (skipBlanks cs)
    match skipBlanks rest with
    | '.' :: more => do
      let ((path, last), rest) ← keyUpTo? room more
      return ((part :: path, last), rest)
    | rest => return (([], part), rest)

def key? : Reader (List String × String) := keyUpTo? maxParts

/-! ## Values -/

/-- The deepest nesting of arrays and inline tables. -/
def maxDepth : Nat := 80

mutual

/-- A value. The first bound is on the number of characters, `room` on the nesting. -/
def value? : Nat → Nat → Reader Toml
  | 0, _, _ => none
  | _, _, [] => none
  | bound + 1, room, '[' :: cs =>
    match room with
    | 0 => none
    | room + 1 => do
      let (items, rest) ← items? bound room cs
      return (.array false items, rest)
  | bound + 1, room, '{' :: cs =>
    match room with
    | 0 => none
    | room + 1 => do
      let (entries, rest) ← entries? bound room [] cs
      return (.table .inline entries, rest)
  | _, _, c :: cs =>
    if c = '"' ∨ c = '\'' then (text? (c :: cs)).map fun (s, rest) => (.string s, rest)
    else do
      let (word, rest) := splitWord (c :: cs)
      return (← ofWord? word, rest)

/-- The items of an array up to its end. A comma may follow the last one. -/
def items? : Nat → Nat → Reader (List Toml)
  | 0, _, _ => none
  | bound + 1, room, cs => do
    match ← skipSpace false cs with
    | ']' :: rest => return ([], rest)
    | cs =>
      let (v, rest) ← value? bound room cs
      match ← skipSpace false rest with
      | ',' :: rest =>
        let (vs, rest) ← items? bound room rest
        return (v :: vs, rest)
      | ']' :: rest => return ([v], rest)
      | _ => none

/-- The entries of an inline table up to its end. Lines may end between any two of their parts, though not
within a key. A comma may follow the last one. -/
def entries? : Nat → Nat → List (String × Toml) → Reader (List (String × Toml))
  | 0, _, _, _ => none
  | bound + 1, room, entries, cs => do
    match ← skipSpace false cs with
    | '}' :: rest => return (entries, rest)
    | cs =>
      let ((path, key), rest) ← key? cs
      let rest ← mark? '=' (← skipSpace false rest)
      let (v, rest) ← value? bound room (← skipSpace false rest)
      let entries ← assign path key v .inline entries
      match ← skipSpace false rest with
      | ',' :: rest => entries? bound room entries rest
      | '}' :: rest => return (entries, rest)
      | _ => none

end

/-! ## Documents -/

/-- The lines of a document. Keys belong to the table that the last header names. -/
def lines? : Nat → List String → List (String × Toml) → List Char → Option (List (String × Toml))
  | _, _, document, [] => some document
  | 0, _, _, _ => none
  | bound + 1, _, document, '[' :: '[' :: cs => do
    let ((path, key), rest) ← key? cs
    let rest ← mark? ']' (← mark? ']' rest)
    let document ← openRow path key document
    lines? bound (path ++ [key]) document (← endLine rest)
  | bound + 1, _, document, '[' :: cs => do
    let ((path, key), rest) ← key? cs
    let rest ← mark? ']' rest
    let document ← openTable path key document
    lines? bound (path ++ [key]) document (← endLine rest)
  | bound + 1, header, document, cs => do
    let ((path, key), rest) ← key? cs
    let rest ← mark? '=' rest
    let (v, rest) ← value? bound maxDepth (skipBlanks rest)
    let document ← under false header (assign path key v) .header document
    lines? bound header document (← endLine rest)

/-- A byte order mark at the start is ignored. -/
def skipByteOrderMark : List Char → List Char
  | '\uFEFF' :: cs => cs
  | cs => cs

/-- The table that a document describes. -/
def parse? (s : String) : Option Toml := do
  let cs ← skipSpace false (skipByteOrderMark s.toList)
  let document ← lines? (cs.length + 1) [] [] cs
  return .table .header document

end WatchParty.Toml
