/-
Texts that spell a row of tokens. What is written for a token reads back as the token wherever what
follows cannot go on with it, which only digits and their like can do after a number. A text spells its
tokens if white space at most stands between them, and reading it gives these tokens:
`Token.list?_of_spells`.
-/
import Mathlib.Data.List.Chain
import WatchParty.Json.Token

namespace WatchParty.Json

/-! ## Numbers -/

/-- The character could go on with a number. -/
def isNumeric (c : Char) : Bool := c.isDigit || c == '.' || c == 'e' || c == 'E'

namespace Numeral

/-- The digits of a positive number do not start with a zero. -/
theorem eq_zero_of_head?_toDigits {n : Nat} (h : (Nat.toDigits 10 n).head? = some '0') : n = 0 := by
  induction n using Nat.strongRecOn with
  | ind n ih =>
    by_cases hn : n < 10
    · rw [Nat.toDigits_of_lt_base hn] at h
      exact Nat.digitChar_eq_zero.1 (Option.some.inj h)
    · -- the first digit of a longer number is that of its tenth part
      have hhead : ∀ ds : List Char, (Nat.toDigits 10 (n / 10) ++ ds).head? =
          (Nat.toDigits 10 (n / 10)).head? := fun ds => by
        obtain ⟨d, rest, hd⟩ := List.exists_cons_of_ne_nil (Nat.toDigits_ne_nil (n := n / 10) (b := 10))
        rw [hd]
        rfl
      rw [Nat.toDigits_of_base_le (by decide) (by omega), hhead] at h
      have htenth := ih (n / 10) (by omega) h
      omega

theorem digits_append {ds rest : List Char} (hds : ∀ c ∈ ds, c.isDigit = true)
    (hrest : ∀ c ∈ rest.head?, isNumeric c = false) : digits (ds ++ rest) = (ds, rest) := by
  have hstop : ∀ c ∈ rest.head?, c.isDigit = false := by
    intro c hc
    have hnot := hrest c hc
    unfold isNumeric at hnot
    simp only [Bool.or_eq_false_iff] at hnot
    exact hnot.1.1.1
  unfold digits
  rw [List.takeWhile_append_of_pos hds, List.dropWhile_append_of_pos hds]
  cases rest with
  | nil => simp
  | cons c cs =>
    have hc : c.isDigit = false := hstop c rfl
    simp [hc]

theorem readFraction_of_not_numeric {cs : List Char} (h : ∀ c ∈ cs.head?, isNumeric c = false) :
    readFraction cs = some ([], cs) := by
  unfold readFraction
  split
  · exact absurd (h '.' rfl) (by decide)
  · rfl

theorem readExponent_of_not_numeric {cs : List Char} (h : ∀ c ∈ cs.head?, isNumeric c = false) :
    readExponent cs = some (none, cs) := by
  unfold readExponent
  split
  · rfl
  · rename_i c cs
    have hc := h c rfl
    rw [if_neg]
    rintro (rfl | rfl)
    · exact absurd hc (by decide)
    · exact absurd hc (by decide)

/-- The digits of a number are read up to what cannot go on with it. -/
theorem readUnsigned_toDigits (negative : Bool) (n : Nat) {cs : List Char}
    (h : ∀ c ∈ cs.head?, isNumeric c = false) :
    readUnsigned negative (Nat.toDigits 10 n ++ cs) = some (⟨negative, Nat.toDigits 10 n, [], none⟩, cs) := by
  have hdigits : ∀ c ∈ Nat.toDigits 10 n, c.isDigit = true := fun c hc =>
    Nat.isDigit_of_mem_toDigits (by decide) (by decide) hc
  have hproper : ¬ (Nat.toDigits 10 n = [] ∨
      ((Nat.toDigits 10 n).head? = some '0' ∧ (Nat.toDigits 10 n).length ≠ 1)) := by
    rintro (hnil | ⟨hzero, hlength⟩)
    · exact Nat.toDigits_ne_nil hnil
    · rw [eq_zero_of_head?_toDigits hzero] at hlength
      exact hlength rfl
  unfold readUnsigned
  rw [digits_append hdigits h]
  simp only [if_neg hproper, readFraction_of_not_numeric h, readExponent_of_not_numeric h,
    Option.bind_eq_bind, Option.bind_some]

/-- The sign of a numeral is read first. -/
theorem read_of_digit {d : Char} (hd : d.isDigit = true) (cs : List Char) :
    read (d :: cs) = readUnsigned false (d :: cs) := by
  unfold read
  split
  · rename_i heq
    cases heq
    exact absurd hd (by decide)
  · rfl

theorem read_numberChars (n : Int) {cs : List Char} (h : ∀ c ∈ cs.head?, isNumeric c = false) :
    read (numberChars (.int n) ++ cs) =
      some (⟨decide (n < 0), Nat.toDigits 10 n.natAbs, [], none⟩, cs) := by
  simp only [numberChars]
  by_cases hneg : n < 0
  · rw [if_pos hneg, decide_eq_true hneg]
    exact readUnsigned_toDigits true n.natAbs h
  · rw [if_neg hneg, decide_eq_false hneg]
    obtain ⟨d, ds, hds⟩ := List.exists_cons_of_ne_nil (Nat.toDigits_ne_nil (n := n.natAbs) (b := 10))
    have hd : d.isDigit = true :=
      Nat.isDigit_of_mem_toDigits (b := 10) (n := n.natAbs) (by decide) (by decide) (by simp [hds])
    have hread := readUnsigned_toDigits false n.natAbs h
    rw [hds] at hread ⊢
    rw [List.cons_append] at hread ⊢
    rw [read_of_digit hd, hread]

/-- An integer that a number holds is the value of its numeral. -/
theorem number?_of_int {n : Int} (h : Number.Holds n) :
    number? ⟨decide (n < 0), Nat.toDigits 10 n.natAbs, [], none⟩ = some (.int n) := by
  obtain ⟨hleast, hbound⟩ := h
  unfold Number.least at hleast
  unfold Number.bound at hbound
  simp only [number?, and_self, if_true, Nat.ofDigitChars_ten_toDigits]
  by_cases hneg : n < 0
  · simp only [hneg, decide_true, reduceCtorEq, false_and, if_false, true_and]
    rw [if_pos (by omega)]
    have hback : -(n.natAbs : Int) = n := by omega
    rw [hback]
  · simp only [hneg, decide_false, true_and]
    rw [if_pos (by omega)]
    have hback : (n.natAbs : Int) = n := by omega
    rw [hback]

end Numeral

/-! ## Strings -/

/-- The piece of a string that is written for a character. -/
def Piece.ofChar (c : Char) : Piece :=
  if c.toNat < 0x20 ∧ c ∉ ['\n', '\r', '\t', '\x08', '\x0c'] then .unit c.toNat else .char c

theorem numeral?_hexByte : ∀ n < 0x20, Text.numeral? 16 ('0' :: '0' :: Text.hexByte n) = some n := by
  decide

/-- What is written for a character of a string reads back as its piece. -/
theorem pieces_quoteChar (c : Char) (cs : List Char) :
    pieces (quoteChar c ++ cs) = (pieces cs).map fun (ps, rest) => (.ofChar c :: ps, rest) := by
  have hbind : ∀ (p : Piece), (do let (ps, rest) ← pieces cs; return (p :: ps, rest)) =
      (pieces cs).map fun (ps, rest) => (p :: ps, rest) := by
    intro p
    cases pieces cs with
    | none => rfl
    | some result => rfl
  unfold quoteChar
  split
  · rename_i h
    rw [h]
    exact hbind (.char '"')
  split
  · rename_i h
    rw [h]
    exact hbind (.char '\\')
  split
  · rename_i h
    rw [h]
    exact hbind (.char '\n')
  split
  · rename_i h
    rw [h]
    exact hbind (.char '\r')
  split
  · rename_i h
    rw [h]
    exact hbind (.char '\t')
  split
  · rename_i h
    rw [h]
    exact hbind (.char '\x08')
  split
  · rename_i h
    rw [h]
    exact hbind (.char '\x0c')
  split
  · rename_i hn hr ht hb hf hcontrol
    have hchar : Piece.ofChar c = .unit c.toNat := by
      simp [Piece.ofChar, hcontrol, hn, hr, ht, hb, hf]
    have hunit := numeral?_hexByte c.toNat hcontrol
    unfold Text.hexByte at hunit ⊢
    rw [hchar, ← hbind]
    simp only [List.cons_append, List.nil_append, pieces, hunit, Option.bind_eq_bind,
      Option.bind_some]
  · rename_i hquote hslash hn hr ht hb hf hcontrol
    have hchar : Piece.ofChar c = .char c := by simp [Piece.ofChar, hcontrol]
    have hplain : ¬ (c = '\\' ∨ c.toNat < 0x20) := fun h => h.elim hslash hcontrol
    rw [hchar, ← hbind, List.singleton_append, pieces.eq_def]
    split
    · rename_i heq
      cases heq
    · rename_i heq
      cases heq
      exact absurd rfl hquote
    · rename_i heq
      cases heq
      exact absurd rfl hslash
    · rename_i heq
      cases heq
      exact absurd rfl hslash
    · rename_i heq
      cases heq
      rw [if_neg hplain]

/-- What is written for a string reads back as the pieces of its characters, up to its closing quote. -/
theorem pieces_quote (s cs : List Char) :
    pieces (s.flatMap quoteChar ++ '"' :: cs) = some (s.map .ofChar, cs) := by
  induction s with
  | nil => rfl
  | cons c s ih =>
    rw [List.flatMap_cons, List.append_assoc, pieces_quoteChar, ih]
    rfl

/-- A control character is no half of a surrogate pair. -/
theorem not_surrogate {u : Nat} (h : u < 0x20) : isLeading u = false ∧ isTrailing u = false := by
  unfold isLeading isTrailing
  refine ⟨?_, ?_⟩
  · have hsmall : ¬ 0xD800 ≤ u := by omega
    simp [hsmall]
  · have hsmall : ¬ 0xDC00 ≤ u := by omega
    simp [hsmall]

/-- A unit that is a control character stands for that character. -/
theorem assemble?_unit {u : Nat} (hu : u < 0x20) (ps : List Piece) :
    assemble? (.unit u :: ps) = (assemble? ps).map (Char.ofNat u :: ·) := by
  obtain ⟨hlead, htrail⟩ := not_surrogate hu
  cases ps with
  | nil => simp [assemble?, hlead, htrail]
  | cons p ps =>
    cases p with
    | char c => simp [assemble?, hlead, htrail]
    | unit v => simp [assemble?, hlead, htrail]

/-- The pieces of a string's characters spell the string. -/
theorem assemble?_ofChar (s : List Char) : assemble? (s.map .ofChar) = some s := by
  induction s with
  | nil => rfl
  | cons c s ih =>
    rw [List.map_cons]
    by_cases hc : c.toNat < 0x20 ∧ c ∉ ['\n', '\r', '\t', '\x08', '\x0c']
    · have hunit : Piece.ofChar c = .unit c.toNat := if_pos hc
      rw [hunit, assemble?_unit hc.1, ih, Option.map_some, Char.ofNat_toNat]
    · have hchar : Piece.ofChar c = .char c := if_neg hc
      rw [hchar]
      show (assemble? (s.map .ofChar)).map (c :: ·) = _
      rw [ih]
      rfl

/-! ## Tokens -/

namespace Token

/-- The token can be told from what is written for it: a number is an integer, and a number or a string
has a value. -/
def Legible : Token → Prop
  | .number n => ∃ k, n = some (.int k) ∧ Number.Holds k
  | .string s => s.isSome = true
  | _ => True

def isNumber : Token → Bool
  | .number _ => true
  | _ => false

/-- One number does not follow upon another. -/
def Parted (ts : List Token) : Prop := ts.IsChain fun t u => t.isNumber = true → u.isNumber = false

/-- The text spells the tokens: nothing but white space stands before, between and after them. -/
inductive Spelled : List Token → List Char → Prop
  | done {ws : List Char} (hws : ∀ c ∈ ws, c ∈ [' ', '\t', '\n', '\r']) : Spelled [] ws
  | token {ws : List Char} (hws : ∀ c ∈ ws, c ∈ [' ', '\t', '\n', '\r']) (t : Token) {ts : List Token}
    {cs : List Char} (h : Spelled ts cs) : Spelled (t :: ts) (ws ++ t.chars ++ cs)

/-- What is written for a number starts with a digit or the sign. -/
theorem exists_numberChars (n : Int) : ∃ c cs, numberChars (.int n) = c :: cs ∧ (c = '-' ∨ c.isDigit = true) := by
  simp only [numberChars]
  by_cases hneg : n < 0
  · rw [if_pos hneg]
    exact ⟨_, _, rfl, .inl rfl⟩
  · rw [if_neg hneg]
    obtain ⟨d, ds, hds⟩ := List.exists_cons_of_ne_nil (Nat.toDigits_ne_nil (n := n.natAbs) (b := 10))
    refine ⟨d, ds, hds, .inr ?_⟩
    exact Nat.isDigit_of_mem_toDigits (b := 10) (n := n.natAbs) (by decide) (by decide) (by simp [hds])

theorem next?_number {c : Char} (hc : c = '-' ∨ c.isDigit = true) (cs : List Char) :
    next? (c :: cs) = (Numeral.read (c :: cs)).map fun (n, rest) => (.number n.number?, rest) := by
  have hnot : ∀ d ∈ ['[', ']', '{', '}', ',', ':', 'n', 't', 'f', '"'], c ≠ d := by
    rintro d hd rfl
    have hdigit : c.isDigit = false ∧ c ≠ '-' := by
      revert hd
      simp only [List.mem_cons, List.not_mem_nil, or_false]
      rintro (rfl | rfl | rfl | rfl | rfl | rfl | rfl | rfl | rfl | rfl) <;> decide
    rcases hc with hc | hc
    · exact hdigit.2 hc
    · exact absurd (hdigit.1.symm.trans hc) nofun
  unfold next?
  split
  case h_11 =>
    cases Numeral.read (c :: cs) with
    | none => rfl
    | some result => rfl
  all_goals
    rename_i heq
    cases heq
    exact absurd rfl (hnot _ (by decide))

/-- What is written for a token reads back as the token, if what follows cannot go on with it. -/
theorem next?_chars {t : Token} (ht : t.Legible) {cs : List Char}
    (hcs : t.isNumber = true → ∀ c ∈ cs.head?, isNumeric c = false) :
    next? (t.chars ++ cs) = some (t, cs) := by
  cases t with
  | number n =>
    obtain ⟨k, rfl, hk⟩ := ht
    obtain ⟨c, ds, hds, hc⟩ := exists_numberChars k
    have hread := Numeral.read_numberChars k (hcs rfl)
    have hvalue := Numeral.number?_of_int hk
    show next? (numberChars (.int k) ++ cs) = _
    rw [hds] at hread ⊢
    rw [List.cons_append] at hread ⊢
    rw [next?_number hc, hread, ← hvalue]
    rfl
  | string s =>
    obtain ⟨s, rfl⟩ := Option.isSome_iff_exists.1 ht
    have hpieces := pieces_quote s.toList cs
    show next? ('"' :: s.toList.flatMap quoteChar ++ ['"'] ++ cs) = _
    rw [List.append_assoc, List.cons_append]
    show ((pieces (s.toList.flatMap quoteChar ++ '"' :: cs)).bind fun x =>
      some (Token.string ((assemble? x.1).map String.ofList), x.2)) = _
    rw [hpieces, Option.bind_some, assemble?_ofChar, Option.map_some, String.ofList_toList]
  | bool b => cases b <;> rfl
  | _ => rfl

/-! ## Texts -/

/-- What is written for a token starts with no white space, and with no digit unless it is a number. -/
theorem exists_chars {t : Token} (ht : t.Legible) : ∃ c cs, t.chars = c :: cs ∧ isSpace c = false ∧
    (t.isNumber = false → isNumeric c = false) := by
  cases t with
  | number n =>
    obtain ⟨k, rfl, -⟩ := ht
    obtain ⟨c, cs, hcs, hc⟩ := exists_numberChars k
    refine ⟨c, cs, hcs, ?_, nofun⟩
    rcases hc with rfl | hc
    · decide
    · cases hspace : isSpace c with
      | false => rfl
      | true =>
        simp only [isSpace, Bool.or_eq_true, beq_iff_eq] at hspace
        rcases hspace with ((rfl | rfl) | rfl) | rfl <;> exact absurd hc (by decide)
  | string s =>
    obtain ⟨s, rfl⟩ := Option.isSome_iff_exists.1 ht
    exact ⟨'"', _, rfl, rfl, fun _ => rfl⟩
  | bool b => cases b <;> exact ⟨_, _, rfl, rfl, fun _ => rfl⟩
  | _ => exact ⟨_, _, rfl, rfl, fun _ => rfl⟩

theorem isSpace_of_mem {c : Char} (h : c ∈ [' ', '\t', '\n', '\r']) :
    isSpace c = true ∧ isNumeric c = false := by
  simp only [List.mem_cons, List.not_mem_nil, or_false] at h
  rcases h with rfl | rfl | rfl | rfl <;> decide

/-- White space is skipped. -/
theorem listWithin_spaces {ws cs : List Char} (hws : ∀ c ∈ ws, c ∈ [' ', '\t', '\n', '\r']) (bound : Nat) :
    listWithin (ws.length + bound) (ws ++ cs) = listWithin bound cs := by
  induction ws with
  | nil => rw [List.nil_append, List.length_nil, Nat.zero_add]
  | cons c ws ih =>
    have hc := (isSpace_of_mem (hws c List.mem_cons_self)).1
    rw [List.length_cons, Nat.add_right_comm, List.cons_append, listWithin, if_pos hc]
    exact ih fun d hd => hws d (List.mem_cons_of_mem c hd)

/-- After a number the text goes on with something else. -/
theorem Spelled.head?_of_parted {ts : List Token} {cs : List Char} (h : Spelled ts cs)
    (hts : ∀ t ∈ ts, t.Legible) (hhead : ∀ t ∈ ts.head?, t.isNumber = false) :
    ∀ c ∈ cs.head?, isNumeric c = false := by
  intro c hc
  cases h with
  | done hws => exact (isSpace_of_mem (hws c (List.mem_of_mem_head? hc))).2
  | @token ws hws t ts cs h =>
    cases ws with
    | cons d ws =>
      cases hc
      exact (isSpace_of_mem (hws c List.mem_cons_self)).2
    | nil =>
      obtain ⟨d, ds, hds, -, hnot⟩ := exists_chars (hts t List.mem_cons_self)
      rw [List.nil_append, hds] at hc
      cases hc
      exact hnot (hhead t rfl)

theorem Spelled.listWithin {ts : List Token} {cs : List Char} (h : Spelled ts cs)
    (hts : ∀ t ∈ ts, t.Legible) (hparted : Parted ts) {bound : Nat} (hbound : cs.length ≤ bound) :
    Token.listWithin bound cs = some ts := by
  induction h generalizing bound with
  | @done ws hws =>
    obtain ⟨more, rfl⟩ := Nat.exists_eq_add_of_le hbound
    have hskip : Token.listWithin (ws.length + more) (ws ++ []) = Token.listWithin more [] :=
      listWithin_spaces hws more
    rw [List.append_nil] at hskip
    rw [hskip]
    cases more <;> rfl
  | @token ws hws t ts cs h ih =>
    obtain ⟨hnext, hrest⟩ := List.isChain_cons.1 hparted
    have hlegible : ∀ u ∈ ts, u.Legible := fun u hu => hts u (List.mem_cons_of_mem t hu)
    have hread : next? (t.chars ++ cs) = some (t, cs) :=
      next?_chars (hts t List.mem_cons_self) fun hnumber =>
        h.head?_of_parted hlegible fun u hu => hnext u hu hnumber
    obtain ⟨c, ds, hds, hspace, -⟩ := exists_chars (hts t List.mem_cons_self)
    rw [List.append_assoc, List.length_append, List.length_append, hds, List.length_cons] at hbound
    obtain ⟨more, rfl⟩ := Nat.exists_eq_add_of_le
      (show ws.length + 1 ≤ bound by omega)
    have hmore : Token.listWithin more cs = some ts := ih hlegible hrest (by omega)
    rw [hds, List.cons_append] at hread
    rw [List.append_assoc, hds, List.cons_append, Nat.add_assoc, listWithin_spaces hws, Nat.add_comm 1,
      Token.listWithin, hspace, hread]
    simp only [Bool.false_eq_true, if_false, Option.bind_eq_bind, Option.bind_some, hmore,
      Option.pure_def]

/-- A text that spells tokens reads as these tokens. -/
theorem list?_of_spelled {ts : List Token} {cs : List Char} (h : Spelled ts cs)
    (hts : ∀ t ∈ ts, t.Legible) (hparted : Parted ts) : list? cs = some ts :=
  h.listWithin hts hparted (Nat.le_refl _)

/-- More white space in front changes nothing. -/
theorem Spelled.spaced {ts : List Token} {cs ws : List Char} (h : Spelled ts cs)
    (hws : ∀ c ∈ ws, c ∈ [' ', '\t', '\n', '\r']) : Spelled ts (ws ++ cs) := by
  cases h with
  | done hws' => exact .done (List.forall_mem_append.2 ⟨hws, hws'⟩)
  | token hws' t h =>
    rw [List.append_assoc, ← List.append_assoc, ← List.append_assoc]
    exact .token (List.forall_mem_append.2 ⟨hws, hws'⟩) t h

/-- The tokens written one after the other spell themselves. -/
theorem spelled_chars (ts : List Token) : Spelled ts (ts.flatMap chars) := by
  induction ts with
  | nil => exact .done nofun
  | cons t ts ih =>
    have hnone : ∀ c ∈ ([] : List Char), c ∈ [' ', '\t', '\n', '\r'] := nofun
    exact .token hnone t ih

end Token

end WatchParty.Json
