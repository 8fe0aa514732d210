/-
The frame of what a connection does. `Server.Within` says that only sessions of certain ids have been
touched between two states, that nothing changed for the other connections, and who was told of it.
Each proper call stays within the sessions that it touches (`Within.answer`), and a handler within those
that its calls touch (`Within.run`).
-/
import WatchParty.Proofs.Handler.Along

namespace WatchParty

/-- The delivery is for the connection or for a member of a session of such an id, and a view names
nobody but the connection and members of sessions. -/
structure Delivery.Meant (c : ConnectionId) (S : SessionId → Prop) (sv : Server) (x : Delivery) :
    Prop where
  recipient : x.recipient = c ∨
    ∃ (n : Nat) (s : Session), sv.sessions[n]? = some s ∧ S s.id ∧ x.recipient ∈ s.members
  named : ∀ v, x.content.view? = some v → ∀ d ∈ v.members,
    d = c ∨ ∃ (n : Nat) (s : Session), sv.sessions[n]? = some s ∧ d ∈ s.members

namespace Delivery

variable {c : ConnectionId} {S T : SessionId → Prop} {sv : Server} {x : Delivery}

theorem Meant.mono (h : x.Meant c S sv) (hST : ∀ id, S id → T id) : x.Meant c T sv := by
  refine ⟨h.recipient.imp_right ?_, h.named⟩
  rintro ⟨n, s, hs, hS, hmem⟩
  exact ⟨n, s, hs, hST _ hS, hmem⟩

/-- What is due is meant for the same. -/
theorem Due.meant (h : x.Due c S sv) : x.Meant c S sv := by
  refine ⟨h.recipient, fun v hv d hd => ?_⟩
  obtain ⟨n, s, hs, rfl⟩ := h.view v hv
  exact .inr ⟨n, s, hs, Std.ExtTreeMap.mem_map.1 hd⟩

end Delivery

namespace Server

/-- Sessions of other ids are as they were, registered or not; nothing changed for the other
connections; and whoever was told of it is the connection or a member of a session of such an id. -/
structure Within (c : ConnectionId) (S : SessionId → Prop) (sv sv' : Server) : Prop where
  sessions : ∀ (n : Nat) (s : Session), ¬ S s.id →
    (sv'.sessions[n]? = some s ↔ sv.sessions[n]? = some s)
  registered : ∀ id : SessionId, ¬ S id → sv'.registered[id]? = sv.registered[id]?
  others : ∀ d, c ≠ d → Undisturbed d sv sv'
  told : Network.Tells (Delivery.Meant c S sv) sv.network sv'.network

variable {sv sv' sv₁ sv₂ sv₃ : Server} {c d : ConnectionId} {S : SessionId → Prop}

/-! ## Chains -/

/-- A connection that was not disturbed has been a member of the session before. -/
theorem Undisturbed.session_of_mem (h : Undisturbed d sv sv') {n : Nat} {t : Session}
    (ht : sv'.sessions[n]? = some t) (hd : d ∈ t.members) :
    ∃ s, sv.sessions[n]? = some s ∧ s.id = t.id ∧ d ∈ s.members := by
  have hseat := seat?_isSome_of_mem ht hd
  rw [h.seat n] at hseat
  obtain ⟨m, hm⟩ := Option.isSome_iff_exists.1 hseat
  obtain ⟨s, hs, -⟩ := seat?_eq_some.1 hm
  obtain ⟨t', ht', hid⟩ := h.has ⟨n, s.id⟩ ⟨s, hs, rfl⟩
  rw [ht] at ht'
  cases ht'
  exact ⟨s, hs, hid.symm, mem_of_seat?_isSome hs hseat⟩

/-- Who was meant in a later state was meant before, as the others have stayed where they were. -/
theorem meant_of_others (hothers : ∀ d, c ≠ d → Undisturbed d sv sv') {x : Delivery}
    (hx : Delivery.Meant c S sv' x) : Delivery.Meant c S sv x := by
  refine ⟨?_, fun v hv d hd => ?_⟩
  · by_cases hself : x.recipient = c
    · exact .inl hself
    · obtain ⟨n, t, ht, hS, hmem⟩ := hx.recipient.resolve_left hself
      obtain ⟨s, hs, hid, hmem⟩ := (hothers _ (Ne.symm hself)).session_of_mem ht hmem
      exact .inr ⟨n, s, hs, hid ▸ hS, hmem⟩
  · by_cases hself : d = c
    · exact .inl hself
    · obtain ⟨n, t, ht, hmem⟩ := (hx.named v hv d hd).resolve_left hself
      obtain ⟨s, hs, -, hmem⟩ := (hothers d (Ne.symm hself)).session_of_mem ht hmem
      exact .inr ⟨n, s, hs, hmem⟩

theorem Within.refl (c : ConnectionId) (S : SessionId → Prop) (sv : Server) : Within c S sv sv :=
  ⟨fun _ _ _ => .rfl, fun _ _ => rfl, fun d _ => .refl d sv, .refl _ _⟩

theorem Within.trans (h : Within c S sv₁ sv₂) (k : Within c S sv₂ sv₃) : Within c S sv₁ sv₃ where
  sessions n s hs := (k.sessions n s hs).trans (h.sessions n s hs)
  registered id hid := (k.registered id hid).trans (h.registered id hid)
  others d hcd := (h.others d hcd).trans (k.others d hcd)
  told := h.told.trans (k.told.mono fun _ => meant_of_others h.others)

/-! ## Calls -/

/-- A session of another id is found where it was when one session is replaced by another of its id. -/
theorem getElem?_set_of_id_ne {l : List Session} {n : Nat} {s t : Session} (hs : l[n]? = some s)
    (hid : t.id = s.id) {m : Nat} {u : Session} (hu : s.id ≠ u.id) :
    (l.set n t)[m]? = some u ↔ l[m]? = some u := by
  rw [getElem?_set_of_some hs]
  split
  · rename_i hnm
    rw [← hnm, hs]
    constructor
    · rintro ⟨⟩
      exact absurd hid.symm hu
    · rintro ⟨⟩
      exact absurd rfl hu
  · rfl

theorem getElem?_onSession_of_id_ne {α : Type} {r : SessionRef} (hr : sv.Has r)
    {f : Session → Network → α × Session × Network} (hf : ∀ (s : Session) net, (f s net).2.1.id = s.id)
    {n : Nat} {s : Session} (hs : r.id ≠ s.id) :
    (sv.onSession r f).2.sessions[n]? = some s ↔ sv.sessions[n]? = some s := by
  obtain ⟨t, ht, hid⟩ := hr
  rw [onSession_eq ht]
  exact getElem?_set_of_id_ne ht (hf t _) (hid ▸ hs)

/-- A proper call leaves a session alone that it does not touch. -/
theorem Sound.getElem?_answer (h : sv.Sound) {q : Call} (hq : q.Proper c sv) {n : Nat} {s : Session}
    (hs : ¬ q.Touches sv s.id) :
    (sv.answer q).2.sessions[n]? = some s ↔ sv.sessions[n]? = some s := by
  cases q with
  | unbind d =>
    change (sv.unbind d).2.sessions[n]? = some s ↔ _
    cases hd : sv.bindings[d]? with
    | none => rw [unbind_unbound hd]
    | some id =>
      obtain ⟨m, t, _, ht, hid, -, -, heq⟩ := h.unbind_bound hd
      rw [heq]
      refine getElem?_set_of_id_ne (t := t.without d) ht rfl fun hne => hs ?_
      rw [← hne, hid]
      exact hd
  | destroyIfEmpty id =>
    change (sv.destroyIfEmpty id).2.sessions[n]? = some s ↔ _
    rcases h.destroyIfEmpty_cases id with ⟨heq, -⟩ | ⟨m, t, ht, hid, -, -, heq⟩
    · rw [heq]
    · rw [heq]
      exact getElem?_set_of_id_ne (t := t.shutdown) ht rfl fun hne => hs (hid.symm.trans hne)
  | create videoId time =>
    change (sv.create videoId time).2.sessions[n]? = some s ↔ _
    rw [h.create_eq]
    simp only [getElem?_concat_eq_some]
    refine ⟨fun hn => hn.resolve_right ?_, .inl⟩
    rintro ⟨-, rfl⟩
    exact hs rfl
  | addMember r d nick =>
    refine getElem?_onSession_of_id_ne hq.2 (fun t net => ?_) hs
    unfold Session.addMember
    split
    · rfl
    · rfl
  | play r =>
    exact getElem?_onSession_of_id_ne (f := fun s net => ((), s.play net)) hq
      (fun t net => (t.sameRoster_play net).id) hs
  | pause r =>
    exact getElem?_onSession_of_id_ne (f := fun s net => ((), s.pause net)) hq
      (fun t net => (t.sameRoster_pause net).id) hs
  | setTime r time =>
    exact getElem?_onSession_of_id_ne (f := fun s net => ((), s.setTime time net)) hq
      (fun t net => (t.sameRoster_setTime time net).id) hs
  | _ => rfl

/-- A call leaves the registration of a session alone that it does not touch. -/
theorem Sound.registered_answer (h : sv.Sound) {q : Call} {id : SessionId} (hid : ¬ q.Touches sv id) :
    (sv.answer q).2.registered[id]? = sv.registered[id]? := by
  cases q with
  | unbind d =>
    change (sv.unbind d).2.registered[id]? = _
    cases hd : sv.bindings[d]? with
    | none => rw [unbind_unbound hd]
    | some id' =>
      obtain ⟨m, t, _, -, -, -, -, heq⟩ := h.unbind_bound hd
      rw [heq]
  | destroyIfEmpty id' =>
    change (sv.destroyIfEmpty id').2.registered[id]? = _
    rcases h.destroyIfEmpty_cases id' with ⟨heq, -⟩ | ⟨m, t, -, -, -, -, heq⟩
    · rw [heq]
    · rw [heq]
      simp only [Std.ExtTreeMap.getElem?_erase]
      rw [if_neg fun heq => hid (Std.LawfulEqCmp.compare_eq_iff_eq.1 heq)]
  | create videoId time =>
    change (sv.create videoId time).2.registered[id]? = _
    rw [h.create_eq]
    simp only [Std.ExtTreeMap.getElem?_insert]
    rw [if_neg fun heq => hid (Std.LawfulEqCmp.compare_eq_iff_eq.1 heq)]
  | _ => rfl

/-- A fair call stays within the sessions that it touches. -/
theorem Within.answer {q : Call} (hq : q.Fair c sv) (hS : ∀ id, q.Touches sv id → S id) :
    Within c S sv (sv.answer q).2 where
  sessions n s hs := hq.sound.getElem?_answer hq.proper fun htouches => hs (hS s.id htouches)
  registered id hid := hq.sound.registered_answer fun htouches => hid (hS id htouches)
  others d hcd := .answer hq.sound hcd hq.proper
  told := by
    refine (tells_answer hq.sound hq.proper hq.truthful).mono fun x hx => ?_
    exact meant_of_others (fun d hcd => .answer hq.sound hcd hq.proper) (hx.meant.mono hS)

end Server

/-! ## Handlers -/

/-- Every call that the handler makes touches only sessions of such ids. -/
def Handler.KeepsTo {α : Type} (S : SessionId → Prop) (h : Handler α) (sv : Server) : Prop :=
  h.Along (fun sv q => ∀ id, q.Touches sv id → S id) sv

/-- A handler whose calls are fair stays within the sessions that its calls touch. -/
theorem Server.Within.run {α : Type} {c : ConnectionId} {S : SessionId → Prop} {sv : Server}
    {h : Handler α} (hfair : h.Along (fun sv q => q.Fair c sv) sv) (hkeeps : h.KeepsTo S sv) :
    Within c S sv (h.run sv).2 :=
  (hfair.and hkeeps).run (.refl c S) .trans fun _ _ hq => .answer hq.1 hq.2

end WatchParty
