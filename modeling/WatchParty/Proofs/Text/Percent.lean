/-
Percent-encoding loses nothing: what a text is encoded as decodes to this text, whatever bytes it has in
UTF-8, and it consists of characters that may stand anywhere in a web address.
-/
import WatchParty.Text.Percent

namespace WatchParty.Text

/-! ## The bytes of a text -/

theorem toList_loop (bs : ByteArray) (i : Nat) (done : List UInt8) :
    ByteArray.toList.loop bs i done = done.reverse ++ bs.data.toList.drop i := by
  induction i, done using ByteArray.toList.loop.induct bs with
  | case1 i done hi ih =>
    have hlt : i < bs.data.toList.length := hi
    have hbyte : bs.get! i = bs.data.toList[i] := getElem!_pos bs.data i hi
    rw [ByteArray.toList.loop, if_pos hi, ih, List.drop_eq_getElem_cons hlt, List.reverse_cons,
      List.append_assoc, List.singleton_append, hbyte]
  | case2 i done hi =>
    have hle : bs.data.toList.length ≤ i := Nat.le_of_not_lt hi
    rw [ByteArray.toList.loop, if_neg hi, List.drop_eq_nil_of_le hle, List.append_nil]

theorem toList_bytes (bs : ByteArray) : bs.toList = bs.data.toList := by
  unfold ByteArray.toList
  rw [toList_loop]
  rfl

theorem toByteArray_toList (bs : ByteArray) : bs.toList.toByteArray = bs := by
  apply ByteArray.ext
  rw [toList_bytes, List.data_toByteArray]

theorem fromUTF8?_toByteArray (s : String) : String.fromUTF8? s.toByteArray = some s := by
  unfold String.fromUTF8?
  rw [dif_pos s.isValidUTF8]
  rfl

/-- The byte of an ASCII character. -/
def asciiByte (c : Char) : UInt8 := UInt8.ofNat c.toNat

/-- An ASCII text has one byte for each character. -/
theorem bytes_ascii {cs : List Char} (h : ∀ c ∈ cs, c.toNat < 128) :
    (String.ofList cs).toUTF8.toList = cs.map asciiByte := by
  rw [toList_bytes, String.toUTF8_eq_toByteArray, String.toByteArray_ofList]
  induction cs with
  | nil => rfl
  | cons c cs ih =>
    have hsize : c.utf8Size = 1 := by
      apply Char.utf8Size_eq_one_iff.2
      apply UInt32.le_iff_toNat_le.2
      exact Nat.le_of_lt_succ (h c List.mem_cons_self)
    have hrest := ih fun d hd => h d (List.mem_cons_of_mem c hd)
    rw [List.utf8Encode_cons, ByteArray.data_append, Array.toList_append, hrest,
      List.utf8Encode_singleton, String.utf8EncodeChar_eq_singleton hsize, List.data_toByteArray]
    rfl

/-! ## Single bytes -/

theorem asciiByte_ofNat (b : UInt8) : asciiByte (Char.ofNat b.toNat) = b := by
  have hvalid : b.toNat.isValidChar := .inl (Nat.lt_trans b.toNat_lt (by decide))
  have hcode : (Char.ofNat b.toNat).toNat = b.toNat := by
    unfold Char.ofNat
    rw [dif_pos hvalid]
    rfl
  unfold asciiByte
  rw [hcode, UInt8.ofNat_toNat]

theorem ofNat_asciiByte {c : Char} (h : c.toNat < 128) : Char.ofNat (asciiByte c).toNat = c := by
  unfold asciiByte
  rw [UInt8.toNat_ofNat_of_lt' (Nat.lt_trans h (by decide)), Char.ofNat_toNat]

/-- Characters that stand for themselves are printable. -/
theorem isUnreserved_range {c : Char} (h : isUnreserved c = true) : 33 ≤ c.toNat ∧ c.toNat ≤ 126 := by
  have hcases : isUnreserved c =
      (c.isUpper || c.isLower || c.isDigit || c == '-' || c == '.' || c == '_' || c == '~') := rfl
  simp only [hcases, Bool.or_eq_true, beq_iff_eq] at h
  rcases h with (((((h | h) | h) | rfl) | rfl) | rfl) | rfl
  · have hupper : 65 ≤ c.toNat ∧ c.toNat ≤ 90 := of_decide_eq_true h
    omega
  · obtain ⟨hleast, hlast⟩ := Bool.and_eq_true_iff.1 h
    have hleast : 97 ≤ c.toNat := of_decide_eq_true hleast
    have hlast : c.toNat ≤ 122 := of_decide_eq_true hlast
    omega
  · have hdigit : 48 ≤ c.toNat ∧ c.toNat ≤ 57 := Char.isDigit_iff_toNat.1 h
    omega
  · decide
  · decide
  · decide
  · decide

theorem isUnreserved_digit : ∀ d < 16, isUnreserved (Nat.digitChar d).toUpper = true := by decide

theorem digitValue?_digit : ∀ d < 16, digitValue? (Nat.digitChar d).toUpper = some d := by decide

/-- The characters that may stand in an encoded text. -/
def isEncoding (c : Char) : Bool := isUnreserved c || c == '%'

theorem isEncoding_range {c : Char} (h : isEncoding c = true) : 33 ≤ c.toNat ∧ c.toNat ≤ 126 := by
  simp only [isEncoding, Bool.or_eq_true, beq_iff_eq] at h
  rcases h with h | rfl
  · exact isUnreserved_range h
  · decide

theorem isEncoding_encodeByte (b : UInt8) : ∀ c ∈ encodeByte b, isEncoding c = true := by
  have hhigh := isUnreserved_digit (b.toNat / 16 % 16) (by omega)
  have hlow := isUnreserved_digit (b.toNat % 16) (by omega)
  unfold encodeByte
  dsimp only
  split
  · rename_i hself
    simp [isEncoding, hself]
  · simp [percentByte, hexByte, isEncoding, hhigh, hlow]

/-! ## Decoding -/

theorem percentDecodeBytes_of_ne {b : UInt8} (h : b ≠ '%'.toNat.toUInt8) (rest : List UInt8) :
    percentDecodeBytes (b :: rest) = b :: percentDecodeBytes rest := by
  rw [percentDecodeBytes.eq_def]
  simp only [if_neg h]

theorem percentDecodeBytes_of_digits {x y : Char} {high low : Nat} (hx : digitValue? x = some high)
    (hy : digitValue? y = some low) (hx' : x.toNat < 128) (hy' : y.toNat < 128) (rest : List UInt8) :
    percentDecodeBytes (asciiByte '%' :: asciiByte x :: asciiByte y :: rest) =
      UInt8.ofNat (high * 16 + low) :: percentDecodeBytes rest := by
  rw [percentDecodeBytes.eq_def]
  simp only [ofNat_asciiByte hx', ofNat_asciiByte hy', hx, hy]
  rfl

/-- What one byte is encoded as decodes to this byte. -/
theorem percentDecodeBytes_encodeByte (b : UInt8) (rest : List UInt8) :
    percentDecodeBytes ((encodeByte b).map asciiByte ++ rest) = b :: percentDecodeBytes rest := by
  unfold encodeByte
  dsimp only
  split
  · rename_i hself
    have hne : b ≠ '%'.toNat.toUInt8 := by
      rintro rfl
      revert hself
      decide
    rw [List.map_singleton, asciiByte_ofNat, List.singleton_append]
    exact percentDecodeBytes_of_ne hne rest
  · have hhigh : b.toNat / 16 % 16 < 16 := by omega
    have hlow : b.toNat % 16 < 16 := by omega
    have hhigh' := isUnreserved_range (isUnreserved_digit _ hhigh)
    have hlow' := isUnreserved_range (isUnreserved_digit _ hlow)
    have hdecoded := percentDecodeBytes_of_digits (digitValue?_digit _ hhigh) (digitValue?_digit _ hlow)
      (by omega) (by omega) rest
    have hvalue : b.toNat / 16 % 16 * 16 + b.toNat % 16 = b.toNat := by
      have hlt : b.toNat < 256 := b.toNat_lt
      omega
    rw [hvalue, UInt8.ofNat_toNat] at hdecoded
    exact hdecoded

theorem percentDecodeBytes_encode (bs : List UInt8) :
    percentDecodeBytes ((bs.flatMap encodeByte).map asciiByte) = bs := by
  induction bs with
  | nil => rfl
  | cons b bs ih => rw [List.flatMap_cons, List.map_append, percentDecodeBytes_encodeByte, ih]

/-! ## Texts -/

variable (s : String)

theorem percentEncode_eq :
    percentEncode s = String.ofList (s.toUTF8.data.toList.flatMap encodeByte) := by
  unfold percentEncode
  rw [toList_bytes]

example : percentEncode "a/ü %" = "a%2F%C3%BC%20%25" := by
  rw [percentEncode_eq]
  decide

theorem isEncoding_percentEncode : ∀ c ∈ (percentEncode s).toList, isEncoding c = true := by
  unfold percentEncode
  rw [String.toList_ofList]
  intro c hc
  obtain ⟨b, -, hb⟩ := List.mem_flatMap.1 hc
  exact isEncoding_encodeByte b c hb

/-- An encoded text decodes to the text. -/
theorem percentDecode?_percentEncode : percentDecode? (percentEncode s) = some s := by
  have hascii : ∀ c ∈ s.toUTF8.toList.flatMap encodeByte, c.toNat < 128 := by
    intro c hc
    obtain ⟨b, -, hb⟩ := List.mem_flatMap.1 hc
    have hrange := isEncoding_range (isEncoding_encodeByte b c hb)
    omega
  unfold percentDecode? percentEncode
  rw [bytes_ascii hascii, percentDecodeBytes_encode, toByteArray_toList]
  exact fromUTF8?_toByteArray s

theorem percentEncode_inj {s t : String} (h : percentEncode s = percentEncode t) : s = t := by
  apply Option.some_inj.1
  rw [← percentDecode?_percentEncode s, h, percentDecode?_percentEncode]

theorem toList_percentEncode_ne_nil {s : String} (h : s ≠ "") : (percentEncode s).toList ≠ [] := by
  intro hnil
  have hempty : percentEncode "" = "" := by
    rw [percentEncode_eq]
    rfl
  apply h
  apply percentEncode_inj
  rw [hempty]
  exact String.toList_inj.1 hnil

end WatchParty.Text
