/-
The tokens of a JSON text. Reading goes from the left and skips white space between tokens. A token
records what it stands for; a string with half a surrogate pair and a numeral too large for a double
are tokens too, but of no value, because a reader that only skips them does not mind.
-/
import WatchParty.Json.Numeral
import WatchParty.Json.Shortest

namespace WatchParty.Json

/-- A token. Numbers and strings that are well formed without having a value hold `none`. -/
inductive Token
  | openArray
  | closeArray
  | openObject
  | closeObject
  | comma
  | colon
  | null
  | bool (b : Bool)
  | number (n : Option Number)
  | string (s : Option String)

def isSpace (c : Char) : Bool := c == ' ' || c == '\t' || c == '\n' || c == '\r'

/-! ## Strings -/

/-- One piece of a string: a character, or a unit of UTF-16 written as an escape. -/
inductive Piece
  | char (c : Char)
  | unit (u : Nat)

/-- The character that a one-letter escape stands for. -/
def escaped? : Char → Option Char
  | '"' => some '"'
  | '\\' => some '\\'
  | '/' => some '/'
  | 'b' => some '\x08'
  | 'f' => some '\x0c'
  | 'n' => some '\n'
  | 'r' => some '\r'
  | 't' => some '\t'
  | _ => none

/-- The pieces up to the closing quote, and what follows it. -/
def pieces : List Char → Option (List Piece × List Char)
  | [] => none
  | '"' :: cs => some ([], cs)
  | '\\' :: 'u' :: a :: b :: c :: d :: cs => do
    let u ← Text.numeral? 16 [a, b, c, d]
    let (ps, rest) ← pieces cs
    return (.unit u :: ps, rest)
  | '\\' :: e :: cs => do
    let c ← escaped? e
    let (ps, rest) ← pieces cs
    return (.char c :: ps, rest)
  | c :: cs => do
    if c = '\\' ∨ c.toNat < 0x20 then none
    let (ps, rest) ← pieces cs
    return (.char c :: ps, rest)

/-- The first unit of a surrogate pair. -/
def isLeading (u : Nat) : Bool := 0xD800 ≤ u && u ≤ 0xDBFF

/-- The second unit of a surrogate pair. -/
def isTrailing (u : Nat) : Bool := 0xDC00 ≤ u && u ≤ 0xDFFF

/-- The characters that the pieces spell, if each surrogate has its partner. -/
def assemble? : List Piece → Option (List Char)
  | [] => some []
  | .char c :: ps => (assemble? ps).map (c :: ·)
  | .unit u :: .unit v :: ps =>
    if isLeading u && isTrailing v then
      (assemble? ps).map (Char.ofNat (0x10000 + (u - 0xD800) * 0x400 + (v - 0xDC00)) :: ·)
    else if isLeading u || isTrailing u then none
    else (assemble? (.unit v :: ps)).map (Char.ofNat u :: ·)
  | .unit u :: ps =>
    if isLeading u || isTrailing u then none else (assemble? ps).map (Char.ofNat u :: ·)

/-! ## Reading -/

/-- The token that a text starts with, and what follows it. -/
def Token.next? : List Char → Option (Token × List Char)
  | '[' :: cs => some (.openArray, cs)
  | ']' :: cs => some (.closeArray, cs)
  | '{' :: cs => some (.openObject, cs)
  | '}' :: cs => some (.closeObject, cs)
  | ',' :: cs => some (.comma, cs)
  | ':' :: cs => some (.colon, cs)
  | 'n' :: 'u' :: 'l' :: 'l' :: cs => some (.null, cs)
  | 't' :: 'r' :: 'u' :: 'e' :: cs => some (.bool true, cs)
  | 'f' :: 'a' :: 'l' :: 's' :: 'e' :: cs => some (.bool false, cs)
  | '"' :: cs => do
    let (ps, rest) ← pieces cs
    return (.string ((assemble? ps).map String.ofList), rest)
  | cs => do
    let (n, rest) ← Numeral.read cs
    return (.number n.number?, rest)

/-- The tokens of a text of at most as many characters as the bound. -/
def Token.listWithin : Nat → List Char → Option (List Token)
  | _, [] => some []
  | 0, _ => none
  | bound + 1, c :: cs =>
    if isSpace c then listWithin bound cs
    else do
      let (t, rest) ← Token.next? (c :: cs)
      return t :: (← listWithin bound rest)

def Token.list? (cs : List Char) : Option (List Token) :=
  Token.listWithin cs.length cs

/-! ## Writing -/

/-- A character inside a string. Only the quote, the backslash and control characters are escaped. -/
def quoteChar (c : Char) : List Char :=
  if c = '"' then ['\\', '"']
  else if c = '\\' then ['\\', '\\']
  else if c = '\n' then ['\\', 'n']
  else if c = '\r' then ['\\', 'r']
  else if c = '\t' then ['\\', 't']
  else if c = '\x08' then ['\\', 'b']
  else if c = '\x0c' then ['\\', 'f']
  else if c.toNat < 0x20 then '\\' :: 'u' :: '0' :: '0' :: Text.hexByte c.toNat
  else [c]

def quote (s : String) : List Char :=
  '"' :: s.toList.flatMap quoteChar ++ ['"']

def numberChars : Number → List Char
  | .int n => if n < 0 then '-' :: Nat.toDigits 10 n.natAbs else Nat.toDigits 10 n.natAbs
  | .double d => d.text.toList

/-- The text of a token. A token without a value has none. -/
def Token.chars : Token → List Char
  | .openArray => ['[']
  | .closeArray => [']']
  | .openObject => ['{']
  | .closeObject => ['}']
  | .comma => [',']
  | .colon => [':']
  | .null => ['n', 'u', 'l', 'l']
  | .bool true => ['t', 'r', 'u', 'e']
  | .bool false => ['f', 'a', 'l', 's', 'e']
  | .number (some n) => numberChars n
  | .number none => []
  | .string (some s) => quote s
  | .string none => []

end WatchParty.Json
