/-
All that a server takes from outside, one thing after the other: events and ends of connections, frames
and ends of websocket clients, and the occurrences around it that concern no session's roster. A script
of such steps, batched or not, comes down to a sequence of inputs.
-/
import WatchParty.Proofs.Server.Calls
import WatchParty.Socket

namespace WatchParty

/-- What happens around the handlers of a server: connections close and reopen, a websocket client is
accepted, and time passes. -/
inductive Occurrence
  | close (c : ConnectionId)
  | reopen (c : ConnectionId)
  | accept
  | settle
  | elapse (ms : Nat)

/-- What a server takes in one step. -/
inductive Input
  | dispatch (c : ConnectionId) (event : String) (data : Json)
  | disconnect (c : ConnectionId)
  | receive (c : ConnectionId) (f : Frame)
  | hangUp (c : ConnectionId)
  | around (o : Occurrence)

namespace Server

/-- The server after an occurrence. -/
def undergo (sv : Server) : Occurrence → Server
  | .close c => sv.closeConnection c
  | .reopen c => sv.reopenConnection c
  | .accept => sv.accept.2
  | .settle => sv.settle
  | .elapse ms => sv.elapse ms

/-- The server after an input. -/
def take (sv : Server) : Input → Server
  | .dispatch c event data => sv.dispatch c event data
  | .disconnect c => sv.disconnect c
  | .receive c f => sv.receive c f
  | .hangUp c => sv.hangUp c
  | .around o => sv.undergo o

/-- The server after one input and the next. -/
def takeAll (sv : Server) (inputs : List Input) : Server := inputs.foldl take sv

theorem takeAll_cons (sv : Server) (i : Input) (inputs : List Input) :
    sv.takeAll (i :: inputs) = (sv.take i).takeAll inputs := rfl

theorem takeAll_append (sv : Server) (first rest : List Input) :
    sv.takeAll (first ++ rest) = (sv.takeAll first).takeAll rest :=
  List.foldl_append

theorem takeAll_concat (sv : Server) (inputs : List Input) (i : Input) :
    sv.takeAll (inputs ++ [i]) = (sv.takeAll inputs).take i :=
  takeAll_append sv inputs [i]

/-- A text frame that spells an event counts as that event. -/
theorem receive_text {text : String} {envelope : Envelope} (h : Envelope.parse? text = some envelope)
    (sv : Server) (c : ConnectionId) :
    sv.receive c (.text text) = sv.dispatch c envelope.event envelope.data := by
  change sv.receiveText c text = _
  unfold receiveText
  rw [h]

/-! ## Occurrences keep the roster -/

theorem sameRoster_network (sv : Server) (network : Network) :
    sv.SameRoster { sv with network } :=
  ⟨rfl, rfl, rfl, rfl, fun _ s h => ⟨s, h, .refl s⟩⟩

theorem sameRoster_settle (sv : Server) : sv.SameRoster sv.settle where
  registered := rfl
  bindings := rfl
  issued := rfl
  length := List.length_map _
  sessions n s hs := by
    refine ⟨s.settle sv.now, ?_, s.sameRoster_settle sv.now⟩
    unfold settle
    rw [List.getElem?_map, hs]
    rfl

theorem sameRoster_elapse (sv : Server) (ms : Nat) : sv.SameRoster (sv.elapse ms) :=
  have h := sameRoster_settle { sv with now := sv.now + ms }
  ⟨h.registered, h.bindings, h.issued, h.length, h.sessions⟩

theorem sameRoster_accept (sv : Server) : sv.SameRoster sv.accept.2 :=
  ⟨rfl, rfl, rfl, rfl, fun _ s h => ⟨s, h, .refl s⟩⟩

theorem sameRoster_undergo (sv : Server) (o : Occurrence) : sv.SameRoster (sv.undergo o) := by
  cases o with
  | close c => exact sameRoster_network sv _
  | reopen c => exact sameRoster_network sv _
  | accept => exact sameRoster_accept sv
  | settle => exact sameRoster_settle sv
  | elapse ms => exact sameRoster_elapse sv ms

end Server

end WatchParty
