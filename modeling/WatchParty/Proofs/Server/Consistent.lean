/-
What holds of a server while none of its handlers is in progress. Then every connection is settled and
no open session is without members, which makes the registry, the bindings and the sessions agree:
`Server.Quiescent.consistent`.
-/
import WatchParty.Proofs.Server.Calls

namespace WatchParty.Server

/-- A sound server of which no handler is in progress. -/
structure Quiescent (sv : Server) : Prop where
  sound : sv.Sound
  settled : ∀ c, Settled c sv
  inhabited : ∀ id, ¬ sv.Forsaken id

/-- The registry, the bindings and the sessions agree: a connection is bound to a session exactly if
it is a member of the session registered under that id, registered sessions are open and have
members, and a session without members is neither registered nor alive. -/
structure Consistent (sv : Server) : Prop where
  bound : ∀ c id, sv.boundSession? c = some id ↔
    ∃ r, sv.registeredRef? id = some r ∧ c ∈ (sv.session r).members
  kept : ∀ id r, sv.registeredRef? id = some r →
    (sv.session r).id = id ∧ (sv.session r).closed = false ∧ (sv.session r).members ≠ ∅
  ended : ∀ (n : Nat) (s : Session), sv.sessions[n]? = some s → s.members = ∅ →
    (∀ id : SessionId, sv.registered[id]? ≠ some n) ∧ s.closed = true ∧ s.paused = true ∧
      s.clock.cancelled = true

variable {sv : Server}

/-- What is registered under an id is an open session of that id. -/
theorem Sound.session_of_registeredRef (h : sv.Sound) {id : SessionId} {r : SessionRef}
    (hr : sv.registeredRef? id = some r) :
    ∃ s : Session, sv.sessions[r.number]? = some s ∧ sv.session r = s ∧ s.id = id ∧
      s.closed = false := by
  obtain ⟨s, hs, hid, hopen⟩ := (h.registered id r.number).1 (registeredRef?_eq_some.1 hr).1
  exact ⟨s, hs, session_eq hs, hid, hopen⟩

/-- An open session is registered under its id. -/
theorem Sound.registeredRef_of_open (h : sv.Sound) {n : Nat} {s : Session}
    (hs : sv.sessions[n]? = some s) (hopen : s.closed = false) :
    sv.registeredRef? s.id = some ⟨n, s.id⟩ :=
  registeredRef?_eq_some.2 ⟨h.registered_of_open hs hopen, rfl⟩

/-- Whoever is bound to an id is a member of the session registered under it. -/
theorem Sound.member_of_bound (h : sv.Sound) {c : ConnectionId} {id : SessionId}
    (hc : sv.boundSession? c = some id) :
    ∃ r, sv.registeredRef? id = some r ∧ (sv.session r).closed = false ∧
      c ∈ (sv.session r).members := by
  obtain ⟨n, s, hs, hid, hmem⟩ := h.bound c id hc
  have hopen := h.open_of_mem hs hmem
  have hreg := h.registeredRef_of_open hs hopen
  have hsession : sv.session ⟨n, s.id⟩ = s := session_eq (r := ⟨n, s.id⟩) hs
  refine ⟨⟨n, s.id⟩, hid ▸ hreg, ?_, ?_⟩
  · rw [hsession]; exact hopen
  · rw [hsession]; exact hmem

theorem Quiescent.consistent (h : sv.Quiescent) : sv.Consistent where
  bound c id := by
    constructor
    · intro hc
      obtain ⟨r, hr, -, hmem⟩ := h.sound.member_of_bound hc
      exact ⟨r, hr, hmem⟩
    · rintro ⟨r, hr, hmem⟩
      obtain ⟨s, hs, hsession, rfl, -⟩ := h.sound.session_of_registeredRef hr
      rw [hsession] at hmem
      exact h.settled c r.number s hs hmem
  kept id r hr := by
    obtain ⟨s, hs, hsession, hid, hopen⟩ := h.sound.session_of_registeredRef hr
    rw [hsession]
    exact ⟨hid, hopen, fun hempty => h.inhabited id ⟨r.number, s, hs, hid, hopen, hempty⟩⟩
  ended n s hs hempty := by
    have hclosed : s.closed = true := by
      cases hopen : s.closed with
      | true => rfl
      | false => exact absurd ⟨n, s, hs, rfl, hopen, hempty⟩ (h.inhabited s.id)
    obtain ⟨-, hpaused, hcancelled⟩ := (h.sound.orderly n s hs).shut hclosed
    refine ⟨fun id hid => ?_, hclosed, hpaused, hcancelled⟩
    obtain ⟨t, ht, -, hopen⟩ := (h.sound.registered id n).1 hid
    rw [hs] at ht
    cases ht
    rw [hclosed] at hopen
    cases hopen

theorem quiescent_start (settings : Settings) : (start settings).Quiescent where
  sound := sound_start settings
  settled c n s hs := by simp [start] at hs
  inhabited id := by
    rintro ⟨n, s, hs, -⟩
    simp [start] at hs

theorem Quiescent.sameRoster {sv' : Server} (h : sv.Quiescent) (hs : sv.SameRoster sv') :
    sv'.Quiescent where
  sound := h.sound.sameRoster hs
  settled c := (h.settled c).undisturbed (.of_sameRoster hs c)
  inhabited id hf := h.inhabited id (hs.forsaken hf)

end WatchParty.Server
