/-
What it takes to destroy a session for being empty. The registry asks the session to close if it has no
members, and takes it out if it is closed then. So a session that was closed before goes as well, whoever
is in it: `Grounded.destroysIfEmpty_iff` says that this is the only case in which a session with members is
taken out. While a server takes inputs only, it does not come about.
-/
import WatchParty.Proofs.Quiescence
import WatchParty.Proofs.Rejection

namespace WatchParty

/-- The session is closed although it still has members. -/
def Session.ClosedOnMembers (s : Session) : Prop := s.closed = true ∧ s.members ≠ ∅

namespace Server

/-- To destroy the session registered under an id if it is empty does no more than that. A session without
members is taken out and shut down, and nothing else is different then; and where there is none, all
stays as it was. -/
structure DestroysIfEmpty (sv : Server) (id : SessionId) : Prop where
  empty : ∀ r, sv.registeredRef? id = some r → (sv.session r).members = ∅ →
    sv.destroyIfEmpty id = (true, sv.retire r)
  otherwise : (∀ r, sv.registeredRef? id = some r → (sv.session r).members ≠ ∅) →
    sv.destroyIfEmpty id = (false, sv)

variable {sv : Server} {id : SessionId} {r : SessionRef}

/-! ## Closing a session if it is empty -/

theorem closeIfEmpty_eq_true_iff (sv : Server) (r : SessionRef) :
    (sv.closeIfEmpty r).1 = true ↔ (sv.session r).closed = true ∨ (sv.session r).members = ∅ := by
  show (sv.session r).closeIfEmpty.1 = true ↔ _
  rw [Session.closeIfEmpty_closed, Bool.or_eq_true, Std.ExtTreeMap.isEmpty_iff]

/-- That a session is closed then means that it has no members, unless it was closed on them before. -/
theorem empty_of_closeIfEmpty_iff (sv : Server) (r : SessionRef) :
    ((sv.closeIfEmpty r).1 = true → (sv.session r).members = ∅) ↔ ¬ (sv.session r).ClosedOnMembers := by
  rw [closeIfEmpty_eq_true_iff]
  constructor
  · rintro hempty ⟨hclosed, hmembers⟩
    exact hmembers (hempty (.inl hclosed))
  · rintro hnot (hclosed | hempty)
    · exact Classical.byContradiction fun hmembers => hnot ⟨hclosed, hmembers⟩
    · exact hempty

/-! ## Destroying a session if it is empty -/

theorem Grounded.destroyIfEmpty_eq (hg : sv.Grounded) (hr : sv.registeredRef? id = some r) :
    sv.destroyIfEmpty id =
      if (sv.session r).closed || (sv.session r).members.isEmpty then (true, sv.retire r) else (false, sv) := by
  obtain ⟨s, hs, -⟩ := hg.has_of_registeredRef hr
  rw [destroyIfEmpty_of_some hr hs, session_eq hs]

theorem Grounded.destroyIfEmpty_of_empty (hg : sv.Grounded) (hr : sv.registeredRef? id = some r)
    (hempty : (sv.session r).members = ∅) : sv.destroyIfEmpty id = (true, sv.retire r) := by
  rw [hg.destroyIfEmpty_eq hr, if_pos]
  rw [Std.ExtTreeMap.isEmpty_iff.2 hempty, Bool.or_true]

/-- A session that is closed on its members is taken out like an empty one. -/
theorem Grounded.destroyIfEmpty_of_closed (hg : sv.Grounded) (hr : sv.registeredRef? id = some r)
    (hclosed : (sv.session r).closed = true) : sv.destroyIfEmpty id = (true, sv.retire r) := by
  rw [hg.destroyIfEmpty_eq hr, if_pos]
  rw [hclosed, Bool.true_or]

theorem Grounded.destroyIfEmpty_of_inhabited (hg : sv.Grounded) (hr : sv.registeredRef? id = some r)
    (hopen : (sv.session r).closed = false) (hmembers : (sv.session r).members ≠ ∅) :
    sv.destroyIfEmpty id = (false, sv) := by
  rw [hg.destroyIfEmpty_eq hr, if_neg]
  rw [hopen, Bool.false_or]
  exact mt Std.ExtTreeMap.isEmpty_iff.1 hmembers

theorem Grounded.destroysIfEmpty_iff (hg : sv.Grounded) (id : SessionId) :
    sv.DestroysIfEmpty id ↔ ∀ r, sv.registeredRef? id = some r → ¬ (sv.session r).ClosedOnMembers := by
  constructor
  · rintro hdestroys r hr ⟨hclosed, hmembers⟩
    have hnone : ∀ r', sv.registeredRef? id = some r' → (sv.session r').members ≠ ∅ := by
      intro r' hr'
      cases hr.symm.trans hr'
      exact hmembers
    -- it is taken out all the same
    have hstays := hdestroys.otherwise hnone
    rw [hg.destroyIfEmpty_of_closed hr hclosed] at hstays
    cases congrArg Prod.fst hstays
  · intro hnot
    refine ⟨fun r hr hempty => hg.destroyIfEmpty_of_empty hr hempty, fun hmembers => ?_⟩
    cases hr : sv.registeredRef? id with
    | none => exact destroyIfEmpty_of_none hr
    | some r =>
      refine hg.destroyIfEmpty_of_inhabited hr ?_ (hmembers r hr)
      cases hclosed : (sv.session r).closed with
      | false => rfl
      | true => exact absurd ⟨hclosed, hmembers r hr⟩ (hnot r hr)

/-! ## After any operations -/

/-- Whatever was done to the server before: to destroy the session registered under an id if it is empty
does no more than that, unless the session is closed on its members, and then it takes the session out
all the same. Likewise a session that is closed after it was to be closed if empty has no members, unless
it was closed on them before. -/
theorem destroys_if_empty_iff (settings : Settings) (operations : List Operation) :
    let sv := (start settings).performAll operations
    (∀ id, sv.DestroysIfEmpty id ↔
      ∀ r, sv.registeredRef? id = some r → ¬ (sv.session r).ClosedOnMembers) ∧
    (∀ id r, sv.registeredRef? id = some r → (sv.session r).ClosedOnMembers →
      sv.destroyIfEmpty id = (true, sv.retire r)) ∧
    (∀ r, ((sv.closeIfEmpty r).1 = true → (sv.session r).members = ∅) ↔
      ¬ (sv.session r).ClosedOnMembers) := by
  intro sv
  have hg : sv.Grounded := (grounded_start settings).performAll operations
  refine ⟨hg.destroysIfEmpty_iff, fun id r hr hclosed => ?_, sv.empty_of_closeIfEmpty_iff⟩
  exact hg.destroyIfEmpty_of_closed hr hclosed.1

/-- Alice is in a session that is shut down while it is registered. It is destroyed as if it were empty,
and she stays bound to it. -/
theorem session_destroyed_on_alice :
    let alice : ConnectionId := ⟨"alice"⟩
    let id := SessionId.generated 1
    let sv := (start {}).performAll
      [.create 1 0, .onSession 0 (.addMember alice "Alice"), .bind alice id, .onSession 0 .shutdown]
    alice ∈ (sv.session ⟨0, id⟩).members ∧ (sv.closeIfEmpty ⟨0, id⟩).1 = true ∧
      (sv.destroyIfEmpty id).1 = true ∧ (sv.destroyIfEmpty id).2.registeredRef? id = none ∧
      (sv.destroyIfEmpty id).2.boundSession? alice = some id ∧ ¬ sv.DestroysIfEmpty id := by
  intro alice id sv
  have hr : sv.registeredRef? id = some ⟨0, id⟩ := by decide
  have hmember : alice ∈ (sv.session ⟨0, id⟩).members := by decide
  have hclosed : (sv.session ⟨0, id⟩).closed = true := by decide
  refine ⟨hmember, by decide, by decide, by decide, by decide, fun hdestroys => ?_⟩
  have hnot := ((grounded_start {}).performAll _).destroysIfEmpty_iff id |>.1 hdestroys _ hr
  refine hnot ⟨hclosed, fun hempty => ?_⟩
  rw [hempty] at hmember
  exact absurd hmember Std.ExtTreeMap.not_mem_empty

/-- While a server takes inputs only, it destroys nothing but empty sessions. -/
theorem takeAll_destroysIfEmpty (settings : Settings) (inputs : List Input) (id : SessionId) :
    ((start settings).takeAll inputs).DestroysIfEmpty id := by
  have hquiescent := (quiescent_start settings).takeAll inputs
  refine (hquiescent.sound.grounded.destroysIfEmpty_iff id).2 fun r hr hclosed => ?_
  have hopen := (hquiescent.consistent.kept id r hr).2.1
  exact absurd (hopen.symm.trans hclosed.1) nofun

end Server

end WatchParty
