/-
What a connection has been told last about a session: `Network.lastView?`, the view in the latest
delivery to it that shows a session of that id. An event that is emitted to the members of a session
becomes the last of each of them that is open, and concerns no other session.
-/
import WatchParty.Proofs.Session

namespace WatchParty

/-- The view of a session of the given id that a delivery shows to the connection. -/
def Delivery.viewFor? (c : ConnectionId) (id : SessionId) (d : Delivery) : Option SessionView :=
  match d.content with
  | .event e => if d.recipient = c then e.view?.filter fun v => v.id = id else none
  | _ => none

namespace Network

/-- The view of a session of the given id that the connection has received last. -/
def lastView? (net : Network) (c : ConnectionId) (id : SessionId) : Option SessionView :=
  net.log.findSome? (Delivery.viewFor? c id)

variable {net : Network} {c d : ConnectionId} {id : SessionId} {e : Event} {v : SessionView}

/-! ## Deliveries -/

theorem lastView?_deliver (net : Network) (c d : ConnectionId) (id : SessionId) (content : Content) :
    (net.deliver d content).lastView? c id =
      (Delivery.viewFor? c id ⟨d, content⟩).or (net.lastView? c id) := by
  unfold lastView? deliver
  rw [List.findSome?_cons]
  cases Delivery.viewFor? c id ⟨d, content⟩ with
  | none => rfl
  | some v => rfl

/-- What is emitted to an open connection is what it has received last. -/
theorem lastView?_emit_self (hopen : net.isOpen c) (hv : e.view? = some v) :
    (net.emit c e).2.lastView? c v.id = some v := by
  unfold emit
  rw [if_pos hopen, lastView?_deliver]
  simp [Delivery.viewFor?, hv]

/-- What shows no session of the id changes nothing about what was received of it. -/
theorem lastView?_emit_of_ne (hv : ∀ v, e.view? = some v → v.id ≠ id) :
    (net.emit d e).2.lastView? c id = net.lastView? c id := by
  unfold emit
  split
  · rw [lastView?_deliver]
    have hnone : Delivery.viewFor? c id ⟨d, .event e⟩ = none := by
      simp only [Delivery.viewFor?]
      split
      · rw [Option.filter_eq_none_iff]
        intro v he
        simp [hv v he]
      · rfl
    rw [hnone]
    rfl
  · rfl

/-- What is emitted to others changes nothing about what a connection received. -/
theorem lastView?_emit_other (hcd : d ≠ c) : (net.emit d e).2.lastView? c id = net.lastView? c id := by
  unfold emit
  split
  · rw [lastView?_deliver]
    simp [Delivery.viewFor?, hcd]
  · rfl

theorem isOpen_emit (net : Network) (c d : ConnectionId) (e : Event) :
    (net.emit d e).2.isOpen c = net.isOpen c := by
  unfold emit
  split
  · rfl
  · rfl

/-! ## Events for many -/

theorem isOpen_emitAll (net : Network) (c : ConnectionId) (cs : List ConnectionId) (e : Event) :
    (net.emitAll cs e).isOpen c = net.isOpen c := by
  unfold emitAll
  induction cs generalizing net with
  | nil => rfl
  | cons d rest ih =>
    rw [List.foldl_cons, ih]
    exact isOpen_emit net c d e

theorem lastView?_emitAll_of_ne (hv : ∀ v, e.view? = some v → v.id ≠ id) (cs : List ConnectionId) :
    (net.emitAll cs e).lastView? c id = net.lastView? c id := by
  unfold emitAll
  induction cs generalizing net with
  | nil => rfl
  | cons d rest ih =>
    rw [List.foldl_cons, ih]
    exact lastView?_emit_of_ne hv

/-- What has been received last stays so when the same is emitted to others or once more. -/
theorem lastView?_emitAll_keep (hopen : net.isOpen c) (hv : e.view? = some v)
    (hlast : net.lastView? c v.id = some v) (cs : List ConnectionId) :
    (net.emitAll cs e).lastView? c v.id = some v := by
  unfold emitAll
  induction cs generalizing net with
  | nil => exact hlast
  | cons d rest ih =>
    rw [List.foldl_cons]
    refine ih (by rw [isOpen_emit]; exact hopen) ?_
    by_cases hcd : d = c
    · rw [hcd]
      exact lastView?_emit_self hopen hv
    · rw [lastView?_emit_other hcd]
      exact hlast

/-- Each of those to whom an event is emitted has received it last, if it is open. -/
theorem lastView?_emitAll_mem (hopen : net.isOpen c) (hv : e.view? = some v) {cs : List ConnectionId}
    (hc : c ∈ cs) : (net.emitAll cs e).lastView? c v.id = some v := by
  induction cs generalizing net with
  | nil => exact absurd hc List.not_mem_nil
  | cons d rest ih =>
    have hopen' : (net.emit d e).2.isOpen c := by rw [isOpen_emit]; exact hopen
    rcases List.mem_cons.1 hc with rfl | hrest
    · exact lastView?_emitAll_keep hopen' hv (lastView?_emit_self hopen hv) rest
    · exact ih hopen' hrest

end Network

namespace Session

variable {s : Session} {net : Network} {c : ConnectionId}

/-- Every open member has been told last where the session is once all of them are told. -/
theorem lastView?_sync (hs : s.Orderly) (hopen : net.isOpen c) (hc : c ∈ s.members) :
    (s.sync net).lastView? c s.id = some s.view :=
  Network.lastView?_emitAll_mem (v := s.view) hopen rfl ((hs.isSeated.mem_audience c).2 hc)

theorem lastView?_sync_of_ne {id : SessionId} (hid : s.id ≠ id) :
    (s.sync net).lastView? c id = net.lastView? c id := by
  refine Network.lastView?_emitAll_of_ne (fun v hv => ?_) _
  cases hv
  exact hid

theorem isOpen_sync (s : Session) (net : Network) (c : ConnectionId) :
    (s.sync net).isOpen c = net.isOpen c :=
  Network.isOpen_emitAll net c _ _

end Session

end WatchParty
