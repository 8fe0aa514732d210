/-
Reading a JSON value from its own text. The text of a value, with white space between its tokens or
without, reads as the tree of the value (`Tree.parse?_of_spells`), and this tree gives the value back if
its numbers are integers, the names of its fields are in order and it nests no deeper than is allowed
(`Plain.value?_tree`). Both together are `parse?_of_spells`.
-/
import Mathlib.Data.List.Sort
import WatchParty.Ids
import WatchParty.Json.Tree
import WatchParty.Proofs.Json.Spelling

namespace WatchParty.Json

/-! ## Definitions -/

/-- The name of the one field comes before that of the other. -/
def Precedes (f g : String × Json) : Prop := compare f.1 g.1 = .lt

/-- The value has no numbers but integers of 64 bits, the names of its fields increase in every object,
and of its arrays and objects at most so many stand one in another. -/
inductive Plain : Nat → Json → Prop
  | null (room : Nat) : Plain room .null
  | bool (room : Nat) (b : Bool) : Plain room (.bool b)
  | int (room : Nat) {n : Int} (h : Number.Holds n) : Plain room (.number (.int n))
  | string (room : Nat) (s : String) : Plain room (.string s)
  | array {room : Nat} {items : List Json} (h : ∀ v ∈ items, Plain room v) : Plain (room + 1) (.array items)
  | object {room : Nat} {fields : List (String × Json)}
    (hnames : fields.Pairwise Precedes) (h : ∀ f ∈ fields, Plain room f.2) : Plain (room + 1) (.object fields)

/-- The text is that of the value, but for white space between its tokens and around them. -/
def Spells (v : Json) (s : String) : Prop := Token.Spelled v.tokens s.toList

mutual

/-- The tree of a value's text. -/
def tree : Json → Tree
  | .null => .null
  | .bool b => .bool b
  | .number n => .number (some n)
  | .string s => .string (some s)
  | .array items => .array (trees items)
  | .object fields => .object (fieldTrees fields)

def trees : List Json → List Tree
  | [] => []
  | v :: vs => v.tree :: trees vs

def fieldTrees : List (String × Json) → List (Option String × Tree)
  | [] => []
  | (name, v) :: fs => (some name, v.tree) :: fieldTrees fs

end

/-- What holds of arrays and objects because it holds of what they consist of holds of all values. -/
theorem induct {P : Json → Prop} (null : P .null) (bool : ∀ b, P (.bool b)) (number : ∀ n, P (.number n))
    (string : ∀ s, P (.string s)) (array : ∀ items, (∀ v ∈ items, P v) → P (.array items))
    (object : ∀ fields, (∀ f ∈ fields, P f.2) → P (.object fields)) (v : Json) : P v :=
  Json.rec (motive_1 := P) (motive_2 := fun items => ∀ v ∈ items, P v)
    (motive_3 := fun fields => ∀ f ∈ fields, P f.2) (motive_4 := fun f => P f.2)
    null bool number string array object nofun (fun _ _ hv hvs => List.forall_mem_cons.2 ⟨hv, hvs⟩)
    nofun (fun _ _ hf hfs => List.forall_mem_cons.2 ⟨hf, hfs⟩) (fun _ _ hv => hv) v

/-! ## Readers -/

theorem natural?_eq_some_iff {v : Json} {n : UInt64} : v.natural? = some n ↔ v = .natural n := by
  constructor
  · intro h
    cases v with
    | number m =>
      cases m with
      | int m =>
        rw [Json.natural?, Option.ite_none_right_eq_some, Option.some.injEq] at h
        obtain ⟨⟨hpos, hlt⟩, rfl⟩ := h
        rw [Number.bound] at hlt
        have hback : ((UInt64.ofNat m.toNat).toNat : Int) = m := by
          rw [UInt64.toNat_ofNat']
          omega
        rw [Json.natural, hback]
      | double d => cases h
    | _ => cases h
  · rintro rfl
    have hlt := n.toNat_lt
    have hholds : (0 : Int) ≤ n.toNat ∧ (n.toNat : Int) < Number.bound := by
      rw [Number.bound]
      omega
    rw [Json.natural, Json.natural?, if_pos hholds, Int.toNat_natCast, UInt64.ofNat_toNat]

theorem string?_eq_some_iff {v : Json} {s : String} : v.string? = some s ↔ v = .string s := by
  constructor
  · intro h
    cases v with
    | string s => cases h; rfl
    | _ => cases h
  · rintro rfl
    rfl

/-! ## Tokens of a value -/

theorem mem_itemTokens {items : List Json} {t : Token} (h : t ∈ itemTokens items) :
    t = .comma ∨ ∃ v ∈ items, t ∈ v.tokens := by
  induction items with
  | nil => exact absurd h List.not_mem_nil
  | cons v vs ih =>
    cases vs with
    | nil => exact .inr ⟨v, List.mem_cons_self, h⟩
    | cons w ws =>
      rcases List.mem_append.1 h with h | h
      · exact .inr ⟨v, List.mem_cons_self, h⟩
      · rcases List.mem_cons.1 h with rfl | h
        · exact .inl rfl
        · refine (ih h).imp_right ?_
          rintro ⟨u, hu, ht⟩
          exact ⟨u, List.mem_cons_of_mem v hu, ht⟩

theorem mem_fieldTokens {fields : List (String × Json)} {t : Token} (h : t ∈ fieldTokens fields) :
    t = .comma ∨ t = .colon ∨ ∃ f ∈ fields, t = .string (some f.1) ∨ t ∈ f.2.tokens := by
  induction fields with
  | nil => exact absurd h List.not_mem_nil
  | cons f fs ih =>
    have hfirst : ∀ ts : List Token, t ∈ .string (some f.1) :: .colon :: (f.2.tokens ++ ts) →
        (t = .colon ∨ t = .string (some f.1) ∨ t ∈ f.2.tokens) ∨ t ∈ ts := by
      intro ts ht
      simp only [List.mem_cons, List.mem_append] at ht
      tauto
    cases fs with
    | nil =>
      have ht := hfirst [] (by rw [List.append_nil]; exact h)
      rcases ht with (rfl | ht) | ht
      · exact .inr (.inl rfl)
      · exact .inr (.inr ⟨f, List.mem_cons_self, ht⟩)
      · exact absurd ht List.not_mem_nil
    | cons g gs =>
      rcases hfirst (.comma :: fieldTokens (g :: gs)) h with (rfl | ht) | ht
      · exact .inr (.inl rfl)
      · exact .inr (.inr ⟨f, List.mem_cons_self, ht⟩)
      · rcases List.mem_cons.1 ht with rfl | ht
        · exact .inl rfl
        · refine (ih ht).imp_right (.imp_right ?_)
          rintro ⟨e, he, ht⟩
          exact ⟨e, List.mem_cons_of_mem f he, ht⟩

/-- The tokens of an object can be told from what is written for them if those of its values can. -/
theorem legible_object {fields : List (String × Json)} (h : ∀ f ∈ fields, ∀ t ∈ f.2.tokens, t.Legible) :
    ∀ t ∈ (Json.object fields).tokens, t.Legible := by
  intro t ht
  rcases List.mem_cons.1 ht with rfl | ht
  · trivial
  · rcases List.mem_append.1 ht with ht | ht
    · rcases mem_fieldTokens ht with rfl | rfl | ⟨f, hf, rfl | ht⟩
      · trivial
      · trivial
      · rfl
      · exact h f hf t ht
    · cases List.mem_singleton.1 ht
      trivial

/-- The tokens of a plain value can be told from what is written for them. -/
theorem Plain.legible {room : Nat} {v : Json} (h : v.Plain room) : ∀ t ∈ v.tokens, t.Legible := by
  induction h with
  | null => exact List.forall_mem_singleton.2 trivial
  | bool => exact List.forall_mem_singleton.2 trivial
  | int room hn => exact List.forall_mem_singleton.2 ⟨_, rfl, hn⟩
  | string => exact List.forall_mem_singleton.2 rfl
  | @array room items _ ih =>
    intro t ht
    rcases List.mem_cons.1 ht with rfl | ht
    · trivial
    · rcases List.mem_append.1 ht with ht | ht
      · rcases mem_itemTokens ht with rfl | ⟨v, hv, ht⟩
        · trivial
        · exact ih v hv t ht
      · cases List.mem_singleton.1 ht
        trivial
  | object _ _ ih => exact legible_object ih

/-- In the tokens of a value every number is followed by something else, if what comes after the value
is no number. -/
theorem parted_append (v : Json) {ts : List Token} (hts : Token.Parted ts)
    (hhead : ∀ t ∈ ts.head?, t.isNumber = false) : Token.Parted (v.tokens ++ ts) := by
  have hcons : ∀ {t : Token} {us : List Token}, t.isNumber = false → Token.Parted us →
      Token.Parted (t :: us) := fun ht hus =>
    List.isChain_cons.2 ⟨fun u _ hnumber => absurd (ht.symm.trans hnumber) nofun, hus⟩
  induction v using Json.induct generalizing ts with
  | null => exact hcons rfl hts
  | bool => exact hcons rfl hts
  | string => exact hcons rfl hts
  | number n => exact List.isChain_cons.2 ⟨fun u hu _ => hhead u hu, hts⟩
  | array items ih =>
    show Token.Parted (.openArray :: (itemTokens items ++ [.closeArray] ++ ts))
    rw [List.append_assoc]
    refine hcons rfl ?_
    have hclose : Token.Parted (.closeArray :: ts) := hcons rfl hts
    induction items with
    | nil => exact hclose
    | cons v vs ihs =>
      have hrest := ihs fun w hw => ih w (List.mem_cons_of_mem v hw)
      cases vs with
      | nil => exact ih v List.mem_cons_self hclose fun t ht => by cases ht; rfl
      | cons w ws =>
        -- the comma parts the last token of `v` from the first one of `w`
        have hcomma := ih v List.mem_cons_self (hcons (t := .comma) rfl hrest) fun t ht => by cases ht; rfl
        show Token.Parted (v.tokens ++ .comma :: itemTokens (w :: ws) ++ ([.closeArray] ++ ts))
        rw [List.append_assoc]
        exact hcomma
  | object fields ih =>
    show Token.Parted (.openObject :: (fieldTokens fields ++ [.closeObject] ++ ts))
    rw [List.append_assoc]
    refine hcons rfl ?_
    have hclose : Token.Parted (.closeObject :: ts) := hcons rfl hts
    induction fields with
    | nil => exact hclose
    | cons f fs ihs =>
      have hrest := ihs fun g hg => ih g (List.mem_cons_of_mem f hg)
      cases fs with
      | nil =>
        have hvalue := ih f List.mem_cons_self hclose fun t ht => by cases ht; rfl
        exact hcons rfl (hcons rfl hvalue)
      | cons g gs =>
        have hcomma := ih f List.mem_cons_self (hcons (t := .comma) rfl hrest) fun t ht => by cases ht; rfl
        show Token.Parted (.string (some f.1) :: .colon ::
          (f.2.tokens ++ .comma :: fieldTokens (g :: gs) ++ ([.closeObject] ++ ts)))
        rw [List.append_assoc]
        exact hcons rfl (hcons rfl hcomma)

theorem parted_tokens (v : Json) : Token.Parted v.tokens := by
  have hnil : Token.Parted [] := List.isChain_nil
  have h := v.parted_append hnil nofun
  rw [List.append_nil] at h
  exact h

/-! ## The tree of a value -/

open WatchParty.Json.Tree (run step start)

/-- What is left of an array is read, item by item, if each item is read as its tree. -/
theorem run_itemTokens {v : Json} {vs : List Json} (done : List Tree) (stack : List Tree.Open) (ts : List Token)
    (h : ∀ w ∈ v :: vs, ∀ stack ts, run .value stack (w.tokens ++ ts) = run (.delimiter w.tree) stack ts) :
    run .value (.array done :: stack) (itemTokens (v :: vs) ++ .closeArray :: ts) =
      run (.delimiter (.array (done.reverse ++ trees (v :: vs)))) stack ts := by
  induction vs generalizing v done with
  | nil =>
    show run .value _ (v.tokens ++ _) = _
    rw [h v List.mem_cons_self]
    show run (.delimiter (.array (v.tree :: done).reverse)) stack ts = _
    rw [List.reverse_cons]
    rfl
  | cons w ws ih =>
    show run .value _ (v.tokens ++ .comma :: itemTokens (w :: ws) ++ _) = _
    rw [List.append_assoc, h v List.mem_cons_self]
    show run .value (.array (v.tree :: done) :: stack) (itemTokens (w :: ws) ++ _) = _
    rw [ih _ fun u hu => h u (List.mem_cons_of_mem v hu), List.reverse_cons, List.append_assoc]
    rfl

/-- What is left of an object is read, field by field, if the value of each is read as its tree. -/
theorem run_fieldTokens {f : String × Json} {fs : List (String × Json)} (done : List (Option String × Tree))
    (stack : List Tree.Open) (ts : List Token)
    (h : ∀ g ∈ f :: fs, ∀ stack ts, run .value stack (g.2.tokens ++ ts) = run (.delimiter g.2.tree) stack ts) :
    run .name (.object done :: stack) (fieldTokens (f :: fs) ++ .closeObject :: ts) =
      run (.delimiter (.object (done.reverse ++ fieldTrees (f :: fs)))) stack ts := by
  induction fs generalizing f done with
  | nil =>
    show run .value (.field done (some f.1) :: stack) (f.2.tokens ++ _) = _
    rw [h f List.mem_cons_self]
    show run (.delimiter (.object ((some f.1, f.2.tree) :: done).reverse)) stack ts = _
    rw [List.reverse_cons]
    rfl
  | cons g gs ih =>
    show run .value (.field done (some f.1) :: stack)
      (f.2.tokens ++ .comma :: fieldTokens (g :: gs) ++ _) = _
    rw [List.append_assoc, h f List.mem_cons_self]
    show run .name (.object ((some f.1, f.2.tree) :: done) :: stack) (fieldTokens (g :: gs) ++ _) = _
    rw [ih _ fun e he => h e (List.mem_cons_of_mem f he), List.reverse_cons, List.append_assoc]
    rfl

/-- A value may stand where an item of an array is expected, as its tokens do not close the array. -/
theorem run_item (v : Json) (stack : List Tree.Open) (ts : List Token) :
    run .item (.array [] :: stack) (v.tokens ++ ts) = run .value (.array [] :: stack) (v.tokens ++ ts) := by
  cases v <;> rfl

/-- Where a value is expected, the tokens of a value are read as its tree. -/
theorem run_tokens (v : Json) (stack : List Tree.Open) (ts : List Token) :
    run .value stack (v.tokens ++ ts) = run (.delimiter v.tree) stack ts := by
  induction v using Json.induct generalizing stack ts with
  | null => rfl
  | bool => rfl
  | number => rfl
  | string => rfl
  | array items ih =>
    show run .item (.array [] :: stack) (itemTokens items ++ [.closeArray] ++ ts) = _
    rw [List.append_assoc]
    cases items with
    | nil => rfl
    | cons v vs =>
      have hitems := run_itemTokens [] stack ts ih
      cases vs with
      | nil => exact (v.run_item stack _).trans hitems
      | cons w ws =>
        show run .item _ (v.tokens ++ .comma :: itemTokens (w :: ws) ++ _) = _
        rw [List.append_assoc, run_item, ← List.append_assoc]
        exact hitems
  | object fields ih =>
    show run .field (.object [] :: stack) (fieldTokens fields ++ [.closeObject] ++ ts) = _
    rw [List.append_assoc]
    cases fields with
    | nil => rfl
    | cons f fs =>
      have hfields := run_fieldTokens [] stack ts ih
      cases fs with
      | nil => exact hfields
      | cons g gs => exact hfields

/-- A text of a value reads as the tree of the value. -/
theorem Tree.parse?_of_spells {v : Json} {s : String} (h : v.Spells s) (hlegible : ∀ t ∈ v.tokens, t.Legible) :
    Tree.parse? s = some v.tree := by
  unfold Tree.parse? Tree.ofTokens?
  rw [Token.list?_of_spelled h hlegible v.parted_tokens, Option.bind_some]
  have hrun := v.run_tokens [] []
  rw [List.append_nil] at hrun
  exact hrun

/-! ## The value of a tree -/

instance : Std.Irrefl Precedes where
  irrefl f h := by
    unfold Precedes at h
    rw [Std.ReflOrd.compare_self] at h
    cases h

instance : Std.Antisymm Precedes where
  antisymm f g hfg hgf := by
    unfold Precedes at hfg hgf
    rw [Std.OrientedOrd.eq_swap, hgf] at hfg
    cases hfg

/-- Fields of distinct names are those of the record, in some order. -/
theorem mem_ofList {fields : List (String × Json)}
    (hdistinct : fields.Pairwise fun f g => ¬ compare f.1 g.1 = .eq) (f : String × Json) :
    f ∈ (Std.ExtTreeMap.ofList fields).toList ↔ f ∈ fields := by
  obtain ⟨name, v⟩ := f
  rw [Std.ExtTreeMap.mem_toList_iff_getElem?_eq_some]
  constructor
  · intro hv
    cases hcontains : (fields.map Prod.fst).contains name with
    | false =>
      rw [Std.ExtTreeMap.getElem?_ofList_of_contains_eq_false hcontains] at hv
      cases hv
    | true =>
      obtain ⟨f, hf, rfl⟩ := List.mem_map.1 (List.contains_iff_mem.1 hcontains)
      rw [Std.ExtTreeMap.getElem?_ofList_of_mem Std.ReflOrd.compare_self hdistinct hf] at hv
      cases hv
      exact hf
  · exact Std.ExtTreeMap.getElem?_ofList_of_mem Std.ReflOrd.compare_self hdistinct

/-- Fields whose names increase are in the order of a record already. -/
theorem record_of_increasing {fields : List (String × Json)} (h : fields.Pairwise Precedes) :
    record fields = .object fields := by
  have hdistinct : fields.Pairwise fun f g => ¬ compare f.1 g.1 = .eq :=
    h.imp fun hlt heq => nomatch hlt.symm.trans heq
  -- two lists in order that have the same fields are the same
  have hordered : (Std.ExtTreeMap.ofList fields).toList.Pairwise Precedes :=
    Std.ExtTreeMap.ordered_keys_toList
  exact congrArg Json.object (hordered.eq_of_mem_iff h (mem_ofList hdistinct))

/-- Plain values under distinct names, in any order, are the fields of a plain object. -/
theorem plain_record {room : Nat} {fields : List (String × Json)} (hdistinct : (fields.map Prod.fst).Nodup)
    (h : ∀ f ∈ fields, f.2.Plain room) : (record fields).Plain (room + 1) := by
  have hnames : fields.Pairwise fun f g => ¬ compare f.1 g.1 = .eq :=
    (List.pairwise_map.1 hdistinct).imp fun hne heq => hne (Std.LawfulEqCmp.compare_eq_iff_eq.1 heq)
  exact .object Std.ExtTreeMap.ordered_keys_toList fun f hf => h f ((mem_ofList hnames f).1 hf)

/-- The tree of a plain value has the value again. -/
theorem Plain.value?_tree {room : Nat} {v : Json} (h : v.Plain room) : v.tree.value? room = some v := by
  induction h with
  | null => rfl
  | bool => rfl
  | int => rfl
  | string => rfl
  | @array room items _ ih =>
    have hitems : Tree.values? room (trees items) = some items := by
      clear * - ih
      induction items with
      | nil => rfl
      | cons v vs ihs =>
        have hrest := ihs fun w hw => ih w (List.mem_cons_of_mem v hw)
        show (do return (← v.tree.value? room) :: (← Tree.values? room (trees vs))) = _
        rw [ih v List.mem_cons_self, hrest]
        rfl
    show (Tree.values? room (trees items)).map Json.array = _
    rw [hitems]
    rfl
  | @object room fields hnames _ ih =>
    have hfields : Tree.fieldValues? room (fieldTrees fields) = some fields := by
      clear * - ih
      induction fields with
      | nil => rfl
      | cons f fs ihs =>
        have hrest := ihs fun g hg => ih g (List.mem_cons_of_mem f hg)
        show (do return (f.1, ← f.2.tree.value? room) :: (← Tree.fieldValues? room (fieldTrees fs))) = _
        rw [ih f List.mem_cons_self, hrest]
        rfl
    show (Tree.fieldValues? room (fieldTrees fields)).map record = _
    rw [hfields]
    exact congrArg some (record_of_increasing hnames)

/-- A text of a plain value reads as the value. -/
theorem parse?_of_spells {v : Json} (hv : v.Plain maxDepth) {s : String} (h : v.Spells s) :
    parse? s = some v := by
  unfold parse?
  rw [Tree.parse?_of_spells h hv.legible]
  exact hv.value?_tree

/-- The text that is written for a value is one of its texts. -/
theorem spells_render (v : Json) : v.Spells v.render := by
  unfold Spells render
  rw [String.toList_ofList]
  exact Token.spelled_chars v.tokens

end WatchParty.Json
