/-
Where a connection stands in the course of its own handler: in no session at all, or confined to one,
in which it may be a member already without being bound. The calls of others change neither, and its
own calls lead from the one to the other.
-/
import WatchParty.Proofs.Server.Calls

namespace WatchParty.Server

/-! ## Where a connection stands -/

/-- The connection is in no session, neither bound nor as a member. -/
structure Apart (c : ConnectionId) (sv : Server) : Prop where
  binding : sv.bindings[c]? = none
  seat : ∀ n, sv.seat? n c = none

/-- The connection is in no session but perhaps this one. -/
structure Confined (c : ConnectionId) (r : SessionRef) (sv : Server) : Prop where
  has : sv.Has r
  binding : sv.bindings[c]? = none ∨ sv.bindings[c]? = some r.id
  seat : ∀ n, n ≠ r.number → sv.seat? n c = none

variable {c : ConnectionId} {r : SessionRef} {sv sv' : Server}

theorem Apart.undisturbed (h : Apart c sv) (hu : Undisturbed c sv sv') : Apart c sv' :=
  ⟨hu.binding.trans h.binding, fun n => (hu.seat n).trans (h.seat n)⟩

theorem Confined.undisturbed (h : Confined c r sv) (hu : Undisturbed c sv sv') :
    Confined c r sv' where
  has := hu.has r h.has
  binding := by rw [hu.binding]; exact h.binding
  seat n hn := (hu.seat n).trans (h.seat n hn)

theorem Apart.confined (h : Apart c sv) (hr : sv.Has r) : Confined c r sv :=
  ⟨hr, .inl h.binding, fun n _ => h.seat n⟩

theorem seat?_isSome_of_mem {n : Nat} {s : Session} (hs : sv.sessions[n]? = some s)
    (hc : c ∈ s.members) : (sv.seat? n c).isSome := by
  obtain ⟨m, hm⟩ := Option.isSome_iff_exists.1 (Std.ExtTreeMap.mem_iff_isSome_getElem?.1 hc)
  rw [seat?_eq_some.2 ⟨s, hs, hm⟩]
  rfl

theorem mem_of_seat?_isSome {n : Nat} {s : Session} (hs : sv.sessions[n]? = some s)
    (hc : (sv.seat? n c).isSome) : c ∈ s.members := by
  obtain ⟨m, hm⟩ := Option.isSome_iff_exists.1 hc
  obtain ⟨t, ht, hm⟩ := seat?_eq_some.1 hm
  rw [hs] at ht
  cases ht
  rw [Std.ExtTreeMap.mem_iff_isSome_getElem?, hm]
  rfl

theorem Apart.settled (h : Apart c sv) : Settled c sv := by
  intro n s hs hc
  have hseat := seat?_isSome_of_mem hs hc
  rw [h.seat n] at hseat
  cases hseat

/-- A settled connection that is not bound is in no session. -/
theorem Settled.apart (h : Settled c sv) (hb : sv.bindings[c]? = none) : Apart c sv := by
  refine ⟨hb, fun n => ?_⟩
  cases hseat : sv.seat? n c with
  | none => rfl
  | some m =>
    obtain ⟨s, hs, hm⟩ := seat?_eq_some.1 hseat
    have hbound := h n s hs (Std.ExtTreeMap.mem_iff_isSome_getElem?.2 (by rw [hm]; rfl))
    rw [hb] at hbound
    cases hbound

/-- A settled connection is in no session but the one it is bound to. -/
theorem Settled.confined (h : Settled c sv) (hsound : sv.Sound) (hr : sv.Has r)
    (hb : sv.bindings[c]? = some r.id) : Confined c r sv := by
  refine ⟨hr, .inr hb, fun n hn => ?_⟩
  cases hseat : sv.seat? n c with
  | none => rfl
  | some m =>
    obtain ⟨s, hs, hm⟩ := seat?_eq_some.1 hseat
    obtain ⟨t, ht, hid⟩ := hr
    have hbound := h n s hs (Std.ExtTreeMap.mem_iff_isSome_getElem?.2 (by rw [hm]; rfl))
    rw [hb] at hbound
    have hst : s.id = t.id := by
      rw [hid]
      exact (Option.some.inj hbound).symm
    exact absurd (hsound.number_unique hs ht hst) hn

/-- A connection that is in no other session and bound to this one is settled. -/
theorem Confined.settled (h : Confined c r sv) (hb : sv.bindings[c]? = some r.id) :
    Settled c sv := by
  intro n s hs hc
  have hseat := seat?_isSome_of_mem hs hc
  by_cases hn : n = r.number
  · obtain ⟨t, ht, hid⟩ := h.has
    rw [hn, ht] at hs
    cases hs
    rw [hb, hid]
  · rw [h.seat n hn] at hseat
    cases hseat

/-! ## Calls on oneself -/

theorem Sound.has_unbind (h : sv.Sound) (hr : sv.Has r) : (sv.unbind c).2.Has r := by
  cases hc : sv.bindings[c]? with
  | none => rw [unbind_unbound hc]; exact hr
  | some id =>
    obtain ⟨n, s, m, hs, -, -, -, heq⟩ := h.unbind_bound hc
    rw [heq]
    exact hr.replace (t := s.without c) hs rfl

/-- Whoever has been unbound is in no session any more. -/
theorem Settled.apart_unbind (h : Settled c sv) (hsound : sv.Sound) : Apart c (sv.unbind c).2 := by
  cases hc : sv.bindings[c]? with
  | none => rw [unbind_unbound hc]; exact h.apart hc
  | some id =>
    obtain ⟨n, s, m, hs, hid, -, -, heq⟩ := hsound.unbind_bound hc
    have hconfined := h.confined (r := ⟨n, id⟩) hsound ⟨s, hs, hid⟩ hc
    rw [heq]
    refine ⟨Std.ExtTreeMap.getElem?_erase_self, fun k => ?_⟩
    unfold seat?
    simp only [getElem?_set_of_some hs]
    by_cases hk : n = k
    · simp [hk, Session.without]
    · rw [if_neg hk]
      exact hconfined.seat k fun h => hk h.symm

theorem Sound.has_create (h : sv.Sound) (videoId time : UInt64) :
    (sv.create videoId time).2.Has (sv.create videoId time).1 := by
  rw [h.create_eq]
  refine ⟨Session.new sv.settings (.generated (sv.issued + 1)) videoId time, ?_, rfl⟩
  exact getElem?_concat_eq_some.2 (.inr ⟨rfl, rfl⟩)

/-- A member that is added to an open session has its seat there, and is still in no other. -/
theorem Confined.addMember {s : Session} (h : Confined c r sv) (hs : sv.sessions[r.number]? = some s)
    (hopen : s.closed = false) (nick : String) :
    Confined c r (sv.addMember r c nick).2 ∧ ((sv.addMember r c nick).2.seat? r.number c).isSome := by
  rw [addMember_open hs hopen]
  refine ⟨⟨h.has.replace (t := s.withMember c nick) hs rfl, h.binding, fun n hn => ?_⟩, ?_⟩
  · have hseat := h.seat n hn
    unfold seat? at hseat ⊢
    simp only [getElem?_set_of_some hs]
    rw [if_neg fun h => hn h.symm]
    exact hseat
  · unfold seat?
    simp [getElem?_set_of_some hs, Session.withMember]

/-- A connection that is confined to a closed session is in no session. -/
theorem Confined.apart_of_closed {s : Session} (h : Confined c r sv) (hsound : sv.Sound)
    (hs : sv.sessions[r.number]? = some s) (hclosed : s.closed = true) : Apart c sv := by
  have hempty : ∀ d, d ∉ s.members := by
    intro d hd
    rw [hsound.open_of_mem hs hd] at hclosed
    cases hclosed
  refine ⟨?_, fun n => ?_⟩
  · rcases h.binding with hb | hb
    · exact hb
    · obtain ⟨n, t, ht, hid, hc⟩ := hsound.bound c r.id hb
      obtain ⟨u, hu, huid⟩ := h.has
      have hn := hsound.number_unique ht hu (hid.trans huid.symm)
      rw [hn, hs] at ht
      cases ht
      exact absurd hc (hempty c)
  · by_cases hn : n = r.number
    · cases hseat : sv.seat? n c with
      | none => rfl
      | some m =>
        rw [hn] at hseat
        exact absurd (mem_of_seat?_isSome hs (by rw [hseat]; rfl)) (hempty c)
    · exact h.seat n hn

end WatchParty.Server
