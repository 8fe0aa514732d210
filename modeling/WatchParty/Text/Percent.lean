/-
Percent-encoding, as in web addresses. A text is encoded by the bytes of its UTF-8 form: letters,
digits and the four marks `-`, `.`, `_` and `~` stand for themselves, and every other byte is written
as a percent sign and two upper-case hexadecimal digits. Decoding leaves alone a percent sign that no
two hexadecimal digits follow.
-/
import WatchParty.Text.Basic

namespace WatchParty.Text

/-- The characters that stand for themselves. -/
def isUnreserved (c : Char) : Bool :=
  c.isAlphanum || c == '-' || c == '.' || c == '_' || c == '~'

def percentByte (b : UInt8) : List Char := '%' :: (hexByte b.toNat).map Char.toUpper

def encodeByte (b : UInt8) : List Char :=
  let c := Char.ofNat b.toNat
  if isUnreserved c then [c] else percentByte b

def percentEncode (s : String) : String :=
  String.ofList (s.toUTF8.toList.flatMap encodeByte)

def percentDecodeBytes : List UInt8 → List UInt8
  | [] => []
  | b :: bs =>
    if b = '%'.toNat.toUInt8 then
      match bs with
      | x :: y :: rest =>
        match digitValue? (Char.ofNat x.toNat), digitValue? (Char.ofNat y.toNat) with
        | some high, some low => UInt8.ofNat (high * 16 + low) :: percentDecodeBytes rest
        | _, _ => b :: percentDecodeBytes (x :: y :: rest)
      | rest => b :: percentDecodeBytes rest
    else b :: percentDecodeBytes bs

/-- The text that an encoded text denotes, unless its bytes are not UTF-8. -/
def percentDecode? (s : String) : Option String :=
  String.fromUTF8? (percentDecodeBytes s.toUTF8.toList).toByteArray

end WatchParty.Text
