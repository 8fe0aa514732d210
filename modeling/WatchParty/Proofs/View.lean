/-
Views of sessions, written and read. A view is one flat object, in which the id of the session and the
members stand beside the fields of the status. It reads back from every text of such an object: the fields
may come in any order, and so may the members, and fields of other names may stand between them. The text
that is written for a view is one of these, so that nothing of a view is lost between writing and reading:
`view_round_trip`.
-/
import WatchParty.Proofs.Json.RoundTrip
import WatchParty.View

namespace WatchParty

open Json (Tree)

/-! ## Objects with their fields in any order -/

namespace Json

/-- The fields of an object, each with the tree of its value. -/
def named (fields : List (String × Json)) : List (String × Tree) := fields.map fun f => (f.1, f.2.tree)

theorem mapM_eq_some_map {α β : Type} {f : α → Option β} {g : α → β} {l : List α}
    (h : ∀ a ∈ l, f a = some (g a)) : l.mapM f = some (l.map g) := by
  induction l with
  | nil => rfl
  | cons a l ih =>
    have hrest := ih fun b hb => h b (List.mem_cons_of_mem a hb)
    rw [List.mapM_cons, h a List.mem_cons_self, hrest]
    rfl

theorem names?_fieldTrees (fields : List (String × Json)) :
    Tree.names? (fieldTrees fields) = some (named fields) := by
  induction fields with
  | nil => rfl
  | cons f fs ih =>
    unfold Tree.names? at ih ⊢
    rw [show fieldTrees (f :: fs) = (some f.1, f.2.tree) :: fieldTrees fs from rfl, List.mapM_cons, ih]
    rfl

/-- Fields that are left out by their names may be left out before their trees are looked at. -/
theorem filter_named (p : String → Bool) (fields : List (String × Json)) :
    (named fields).filter (fun f => p f.1) = named (fields.filter fun f => p f.1) := by
  unfold named
  rw [List.filter_map]
  rfl

/-- A field is found wherever it stands, if it is the only one of its name. -/
theorem single?_named {name : String} {v : Json} {fields ordered : List (String × Json)}
    (h : fields.Perm ordered) (hone : (ordered.filter fun f => f.1 == name) = [(name, v)]) :
    Tree.single? name (named fields) = some (some v.tree) := by
  have hfilter : (fields.filter fun f => f.1 == name) = [(name, v)] := by
    apply List.perm_singleton.1
    rw [← hone]
    exact h.filter _
  unfold Tree.single?
  rw [filter_named (· == name), hfilter]
  rfl

theorem mapM_value?_named {room : Nat} {fields : List (String × Json)} (h : ∀ f ∈ fields, f.2.Plain room) :
    (named fields).mapM (fun (_, t) => t.value? room) = some (fields.map Prod.snd) := by
  unfold named
  rw [List.mapM_map]
  exact mapM_eq_some_map fun f hf => (h f hf).value?_tree

theorem plain_natural (room : Nat) (n : UInt64) : (natural n).Plain room := by
  have hlt := n.toNat_lt
  apply Plain.int
  constructor
  · unfold Number.least
    omega
  · unfold Number.bound
    omega

end Json

namespace SessionView

/-! ## Definitions -/

/-- The members as the fields of an object, in the order given. -/
def entries (members : List (ConnectionId × MemberView)) : List (String × Json) :=
  members.map fun (id, m) => (id.text, m.toJson)

/-- The fields of an object that shows a view, with the members in the order given. -/
def fields (v : SessionView) (members : List (ConnectionId × MemberView)) : List (String × Json) :=
  [("session_id", .string v.id.text), ("video_id", .natural v.status.videoId),
    ("time", .natural v.status.time), ("paused", .bool v.status.paused), ("members", .object (entries members))]

def fieldNames : List String := ["session_id", "video_id", "time", "paused", "members"]

/-- The object has the fields of the view, in any order, with the members in any order; of two with one
name the later one counts. Further fields have other names, and any plain values. -/
def ShownAs (v : SessionView) (shown : List (String × Json)) : Prop :=
  ∃ members others, Std.ExtTreeMap.ofList members = v.members ∧
    shown.Perm (v.fields members ++ others) ∧
    ∀ f ∈ others, f.1 ∉ fieldNames ∧ f.2.Plain (Json.maxDepth - 1)

variable {v : SessionView} {shown others : List (String × Json)}
  {members : List (ConnectionId × MemberView)}

/-! ## Members -/

theorem ofList_toList {V : Type} (m : Std.ExtTreeMap ConnectionId V) :
    Std.ExtTreeMap.ofList m.toList = m := by
  refine Std.ExtTreeMap.ext_getElem? fun c => ?_
  cases hc : m[c]? with
  | some v =>
    apply Std.ExtTreeMap.getElem?_ofList_of_mem Std.ReflCmp.compare_self m.distinct_keys_toList
    exact Std.ExtTreeMap.mem_toList_iff_getElem?_eq_some.2 hc
  | none =>
    apply Std.ExtTreeMap.getElem?_ofList_of_contains_eq_false
    rw [Std.ExtTreeMap.map_fst_toList_eq_keys]
    simpa using hc

/-- The members are read one by one and put into a table. -/
theorem membersOfTree?_entries (members : List (ConnectionId × MemberView)) :
    membersOfTree? (Json.object (entries members)).tree = some (Std.ExtTreeMap.ofList members) := by
  have hread : (Json.named (entries members)).mapM
      (fun (name, t) => (MemberView.ofTree? t).map ((⟨name⟩ : ConnectionId), ·)) = some members := by
    unfold Json.named entries
    rw [List.map_map, List.mapM_map]
    have hmembers := Json.mapM_eq_some_map (l := members) (f := fun m => some m) (g := fun m => m) fun _ _ => rfl
    rw [List.map_id'] at hmembers
    exact hmembers
  unfold membersOfTree?
  simp only [Json.tree, Json.names?_fieldTrees, Option.bind_eq_bind, Option.bind_some, hread, Option.pure_def]

/-! ## The status -/

/-- The fields of a status, in the order in which they are read. -/
def statusFields (s : StatusView) : List (String × Json) :=
  [("video_id", .natural s.videoId), ("time", .natural s.time), ("paused", .bool s.paused)]

theorem ofFields?_trees (s : StatusView) :
    StatusView.ofFields? ((statusFields s).map fun f => some f.2.tree) = some s := by
  have hnatural : ∀ n, Tree.natural? (Json.natural n).tree = some n := by
    intro n
    change (Json.natural n).natural? = some n
    exact Json.natural?_eq_some_iff.2 rfl
  simp only [statusFields, List.map_cons, List.map_nil, StatusView.ofFields?, hnatural,
    Option.bind_eq_bind, Option.bind_some]
  rfl

/-! ## Objects that show a view -/

/-- What is written for a view shows it: its fields in the order of their names, and no others. -/
theorem shownAs_toJson (v : SessionView) : ∃ shown, v.toJson = .object shown ∧
    shown.map Prod.fst = ["members", "paused", "session_id", "time", "video_id"] ∧ v.ShownAs shown := by
  refine ⟨_, rfl, rfl, v.members.toList, [], ofList_toList v.members, ?_, nofun⟩
  rw [List.append_nil]
  apply (List.reverse_perm _).symm.trans
  exact @List.perm_middle _ _ [_, _] _

/-- Fields of other names are of no use to those who look for a field of a view. -/
theorem single?_named_append {fields rest : List (String × Json)} (hperm : rest.Perm (fields ++ others))
    (hothers : ∀ f ∈ others, f.1 ∉ fieldNames) (name : String) (hname : name ∈ fieldNames) {value : Json}
    (hone : (fields.filter fun f => f.1 == name) = [(name, value)]) :
    Tree.single? name (Json.named rest) = some (some value.tree) := by
  refine Json.single?_named hperm ?_
  have hnone : (others.filter fun f => f.1 == name) = [] := by
    apply List.filter_eq_nil_iff.2
    rintro ⟨other, _⟩ hf hsame
    cases beq_iff_eq.1 hsame
    exact hothers _ hf hname
  rw [List.filter_append, hnone, List.append_nil, hone]

/-- Without the id and the members, the fields of the status and those of other names remain. -/
theorem perm_rest (hperm : shown.Perm (v.fields members ++ others))
    (hothers : ∀ f ∈ others, f.1 ∉ fieldNames) :
    (shown.filter fun f => f.1 != "session_id" && f.1 != "members").Perm
      (statusFields v.status ++ others) := by
  have hkept : (others.filter fun f => f.1 != "session_id" && f.1 != "members") = others := by
    apply List.filter_eq_self.2
    intro f hf
    have hname := hothers f hf
    simp only [fieldNames, List.mem_cons, not_or] at hname
    simp [hname]
  have hfilter := hperm.filter fun f => f.1 != "session_id" && f.1 != "members"
  rw [List.filter_append, hkept] at hfilter
  exact hfilter

/-- All of these have values, and the status is found among them. -/
theorem read_rest {rest : List (String × Json)} {s : StatusView}
    (hperm : rest.Perm (statusFields s ++ others))
    (hothers : ∀ f ∈ others, f.1 ∉ fieldNames ∧ f.2.Plain (Json.maxDepth - 1)) :
    (Json.named rest).mapM (fun (_, t) => t.value? (Json.maxDepth - 1)) = some (rest.map Prod.snd) ∧
      StatusView.fieldNames.mapM (Tree.single? · (Json.named rest)) =
        some ((statusFields s).map fun f => some f.2.tree) := by
  constructor
  · refine Json.mapM_value?_named fun f hf => ?_
    rcases List.mem_append.1 (hperm.mem_iff.1 hf) with hf | hf
    · simp only [statusFields, List.mem_cons, List.not_mem_nil, or_false] at hf
      rcases hf with rfl | rfl | rfl
      · exact Json.plain_natural _ _
      · exact Json.plain_natural _ _
      · exact Json.Plain.bool _ _
    · exact (hothers f hf).2
  · have hnames : ∀ f ∈ others, f.1 ∉ fieldNames := fun f hf => (hothers f hf).1
    have hvideo := single?_named_append hperm hnames "video_id" (by decide) rfl
    have htime := single?_named_append hperm hnames "time" (by decide) rfl
    have hpaused := single?_named_append hperm hnames "paused" (by decide) rfl
    simp only [StatusView.fieldNames, List.mapM_cons, List.mapM_nil, hvideo, htime, hpaused]
    rfl

/-- What a view is read from: its id, its members, and what remains without them. -/
theorem ofTree?_of_parts {trees : List (Option String × Tree)} {named rest : List (String × Tree)}
    {id table : Tree} {text : String} {entries : Std.ExtTreeMap ConnectionId MemberView} {values : List Json}
    {given : List (Option Tree)} {status : StatusView} (hnamed : Tree.names? trees = some named)
    (hid : Tree.single? "session_id" named = some (some id)) (htext : id.string? = some text)
    (htable : Tree.single? "members" named = some (some table)) (hentries : membersOfTree? table = some entries)
    (hrest : (named.filter fun f => f.1 != "session_id" && f.1 != "members") = rest)
    (hvalues : rest.mapM (fun (_, t) => t.value? (Json.maxDepth - 1)) = some values)
    (hgiven : StatusView.fieldNames.mapM (Tree.single? · rest) = some given)
    (hstatus : StatusView.ofFields? given = some status) :
    ofTree? (.object trees) = some ⟨⟨text⟩, status, entries⟩ := by
  unfold ofTree?
  simp only [hnamed, hid, htext, htable, hentries, hrest, hvalues, hgiven, hstatus, Option.bind_eq_bind,
    Option.bind_some, Option.pure_def]

/-- The view is read off an object that shows it. -/
theorem ofTree?_shown (h : v.ShownAs shown) : ofTree? (Json.object shown).tree = some v := by
  obtain ⟨members, others, hmembers, hperm, hothers⟩ := h
  have hnames : ∀ f ∈ others, f.1 ∉ fieldNames := fun f hf => (hothers f hf).1
  have hid := single?_named_append hperm hnames "session_id" (by decide) rfl
  have htable := single?_named_append hperm hnames "members" (by decide) rfl
  obtain ⟨hvalues, hstatus⟩ := read_rest (perm_rest hperm hnames) hothers
  have hrest := Json.filter_named (fun name => name != "session_id" && name != "members") shown
  have hentries := membersOfTree?_entries members
  rw [hmembers] at hentries
  exact ofTree?_of_parts (Json.names?_fieldTrees shown) hid rfl htable hentries hrest hvalues hstatus
    (ofFields?_trees v.status)

theorem legible_shown (h : v.ShownAs shown) : ∀ t ∈ (Json.object shown).tokens, t.Legible := by
  obtain ⟨members, others, -, hperm, hothers⟩ := h
  refine Json.legible_object fun f hf => ?_
  rcases List.mem_append.1 (hperm.mem_iff.1 hf) with hf | hf
  · simp only [fields, List.mem_cons, List.not_mem_nil, or_false] at hf
    rcases hf with rfl | rfl | rfl | rfl | rfl
    · exact (Json.Plain.string 0 _).legible
    · exact (Json.plain_natural 0 _).legible
    · exact (Json.plain_natural 0 _).legible
    · exact (Json.Plain.bool 0 _).legible
    · refine Json.legible_object fun entry hentry => ?_
      obtain ⟨m, -, rfl⟩ := List.mem_map.1 hentry
      refine Json.legible_object fun nick hnick => ?_
      cases List.mem_singleton.1 hnick
      exact (Json.Plain.string 0 _).legible
  · exact (hothers f hf).2.legible

/-- A view reads back from every text of an object that shows it. -/
theorem parse_of_spells (h : v.ShownAs shown) {text : String} (htext : (Json.object shown).Spells text) :
    (Tree.parse? text).bind ofTree? = some v := by
  rw [Tree.parse?_of_spells htext (legible_shown h)]
  exact ofTree?_shown h

theorem parse_render (v : SessionView) : (Tree.parse? v.toJson.render).bind ofTree? = some v := by
  obtain ⟨shown, heq, -, hshown⟩ := v.shownAs_toJson
  rw [heq]
  exact parse_of_spells hshown (Json.spells_render _)

/-! ## Every view -/

/-- A view is written as one object that has the five fields of a view and no others, and it reads back
from the text of this object. It reads back as well from every text of an object that shows it, whatever the
order of the fields and of the members, and whatever fields and white space stand between them. And what any
text at all was read as reads back from the text that is written for it. -/
theorem view_round_trip (v : SessionView) :
    (∃ shown, v.toJson = .object shown ∧
      shown.map Prod.fst = ["members", "paused", "session_id", "time", "video_id"] ∧ v.ShownAs shown) ∧
    (Tree.parse? v.toJson.render).bind ofTree? = some v ∧
    (∀ shown text, v.ShownAs shown → (Json.object shown).Spells text →
      (Tree.parse? text).bind ofTree? = some v) ∧
    ∀ text w, (Tree.parse? text).bind ofTree? = some w →
      (Tree.parse? w.toJson.render).bind ofTree? = some w := by
  refine ⟨v.shownAs_toJson, v.parse_render, ?_, ?_⟩
  · intro shown text hshown htext
    exact parse_of_spells hshown htext
  · intro text w _
    exact w.parse_render

/-- A view with the largest numbers, in a text that starts with a line end and has everything the other way
round: a field of another name first, then the members, one of them twice, and the id at the end. -/
theorem view_read_backwards :
    let alice : ConnectionId := ⟨"alice"⟩
    let members : List (ConnectionId × MemberView) := [(alice, ⟨"al"⟩), (alice, ⟨"\\"⟩)]
    let v : SessionView := ⟨⟨"\"é"⟩, ⟨18446744073709551615, 9223372036854775808, true⟩, .ofList members⟩
    let text := "\n\x7b\"seen\":[null],\"members\":\x7b\"alice\":\x7b\"nick\":\"al\"\x7d,\"alice\":" ++
      "\x7b\"nick\":\"\\\\\"\x7d\x7d,\"paused\":true,\"time\":9223372036854775808," ++
      "\"video_id\":18446744073709551615,\"session_id\":\"\\\"é\"\x7d"
    (Tree.parse? text).bind ofTree? = some v ∧ (Tree.parse? v.toJson.render).bind ofTree? = some v := by
  intro alice members v text
  let shown := (v.fields members ++ [("seen", Json.array [.null])]).reverse
  have hshown : v.ShownAs shown := by
    refine ⟨members, _, rfl, List.reverse_perm _, fun f hf => ?_⟩
    cases List.mem_singleton.1 hf
    refine ⟨by decide, .array fun item hitem => ?_⟩
    cases List.mem_singleton.1 hitem
    exact .null _
  have hspells : (Json.object shown).Spells text := by
    have hline : ∀ c ∈ ['\n'], c ∈ [' ', '\t', '\n', '\r'] := by simp
    have htext : text.toList = ['\n'] ++ (Json.object shown).tokens.flatMap Json.Token.chars := by
      decide +kernel
    unfold Json.Spells
    rw [htext]
    exact (Json.Token.spelled_chars _).spaced hline
  obtain ⟨-, -, hread, hagain⟩ := view_round_trip v
  have htext := hread _ text hshown hspells
  exact ⟨htext, hagain text v htext⟩

end SessionView

end WatchParty
