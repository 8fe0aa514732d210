/-
A server that takes one input after the other, and handles each from its first call to its last before
the next one, is quiescent after every one of them.
-/
import WatchParty.Proofs.Handler.Requests
import WatchParty.Proofs.Server.Consistent
import WatchParty.Proofs.Server.Input

namespace WatchParty.Server

open Handler

variable {sv : Server}

/-- A server is quiescent again when a safe and tidy handler of a connection has run to its end and
left the connection settled. -/
theorem Quiescent.run {α : Type} (h : sv.Quiescent) {c : ConnectionId} {p : Handler α}
    {ends : α → Server → Prop} (hsafe : p.Safe c ends sv)
    (hends : ∀ a sv', ends a sv' → Settled c sv') (htidy : p.Tidy) : (p.run sv).2.Quiescent := by
  obtain ⟨hend, hsound, hothers⟩ := hsafe.run h.sound
  refine ⟨hsound, fun d => ?_, fun id => ?_⟩
  · by_cases hcd : c = d
    · rw [← hcd]
      exact hends _ _ hend
    · exact (h.settled d).undisturbed (hothers d hcd)
  · exact htidy.run hsafe h.sound (fun id hf => absurd hf (h.inhabited id)) id

theorem Quiescent.dispatch (h : sv.Quiescent) (c : ConnectionId) (event : String) (data : Json) :
    (sv.dispatch c event data).Quiescent :=
  h.run (safe_dispatch h.sound (h.settled c) event data) (fun _ _ hs => hs)
    (tidy_dispatch c event data)

theorem Quiescent.disconnect (h : sv.Quiescent) (c : ConnectionId) : (sv.disconnect c).Quiescent :=
  h.run (safe_disconnect h.sound (h.settled c)) (fun _ _ hs => hs.settled) (tidy_disconnect c)

theorem Quiescent.hangUp (h : sv.Quiescent) (c : ConnectionId) : (sv.hangUp c).Quiescent :=
  (h.disconnect c).sameRoster (sameRoster_network _ _)

theorem Quiescent.receiveText (h : sv.Quiescent) (c : ConnectionId) (text : String) :
    (sv.receiveText c text).Quiescent := by
  unfold Server.receiveText
  split
  · exact h.dispatch c _ _
  · exact h.sameRoster (sameRoster_send sv c _)

theorem Quiescent.receive (h : sv.Quiescent) (c : ConnectionId) (f : Frame) :
    (sv.receive c f).Quiescent := by
  unfold Server.receive
  split
  · exact (h.hangUp c).sameRoster (sameRoster_network _ _)
  · split
    · exact h.receiveText c _
    · exact h.sameRoster (sameRoster_network _ _)
    · exact h

theorem Quiescent.take (h : sv.Quiescent) (i : Input) : (sv.take i).Quiescent := by
  cases i with
  | dispatch c event data => exact h.dispatch c event data
  | disconnect c => exact h.disconnect c
  | receive c f => exact h.receive c f
  | hangUp c => exact h.hangUp c
  | around o => exact h.sameRoster (sameRoster_undergo sv o)

theorem Quiescent.takeAll (h : sv.Quiescent) (inputs : List Input) :
    (sv.takeAll inputs).Quiescent := by
  induction inputs generalizing sv with
  | nil => exact h
  | cons i rest ih => exact ih (h.take i)

end WatchParty.Server
