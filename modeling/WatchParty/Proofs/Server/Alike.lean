/-
Two servers that differ in their networks only. What has been delivered, and which connections refuse,
has no part in what a server does: every operation on both of them has the same result, and it keeps
whatever relation of the networks lasts while the same is emitted in both. With `Network.Alike` for this
relation, connections that are open to both hear the same from both.
-/
import WatchParty.Handler
import WatchParty.Proofs.Network

namespace WatchParty

/-! ## Networks -/

namespace Network

/-- What has been delivered to a connection, the latest first. -/
def heard (net : Network) (c : ConnectionId) : List Content :=
  (net.log.filter fun d => d.recipient = c).map Delivery.content

/-- The connections in question are open in both networks and have heard the same. -/
structure Alike (W : ConnectionId → Prop) (a b : Network) : Prop where
  isOpen : ∀ c, W c → a.isOpen c = true ∧ b.isOpen c = true
  heard : ∀ c, W c → a.heard c = b.heard c

variable {W : ConnectionId → Prop} {a b : Network}

theorem heard_deliver_self (net : Network) (c : ConnectionId) (content : Content) :
    (net.deliver c content).heard c = content :: net.heard c := by
  simp [heard, deliver]

theorem heard_deliver_other {c d : ConnectionId} (hcd : d ≠ c) (net : Network) (content : Content) :
    (net.deliver d content).heard c = net.heard c := by
  simp [heard, deliver, hcd]

/-- What is emitted to one connection is not heard by another. -/
theorem heard_emit_other {c d : ConnectionId} (hcd : d ≠ c) (net : Network) (e : Event) :
    (net.emit d e).2.heard c = net.heard c := by
  unfold emit
  split
  · exact heard_deliver_other hcd net _
  · rfl

theorem heard_emit_open {c : ConnectionId} (hopen : a.isOpen c = true) (e : Event) :
    (a.emit c e).2.heard c = .event e :: a.heard c := by
  unfold emit
  rw [if_pos hopen]
  exact heard_deliver_self a c _

theorem heard_emit_closed {c : ConnectionId} (hclosed : a.isOpen c = false) (e : Event) :
    (a.emit c e).2 = a := by
  unfold emit
  rw [if_neg (by simp [hclosed])]

theorem Alike.symm (h : Alike W a b) : Alike W b a :=
  ⟨fun c hc => (h.isOpen c hc).symm, fun c hc => (h.heard c hc).symm⟩

theorem Alike.deliver (h : Alike W a b) (d : ConnectionId) (content : Content) :
    Alike W (a.deliver d content) (b.deliver d content) := by
  refine ⟨h.isOpen, fun c hc => ?_⟩
  by_cases hdc : d = c
  · rw [hdc, heard_deliver_self, heard_deliver_self, h.heard c hc]
  · rw [heard_deliver_other hdc, heard_deliver_other hdc, h.heard c hc]

/-- An event may be taken in one network and refused in the other, but not by a connection in question. -/
theorem Alike.emit (h : Alike W a b) (d : ConnectionId) (e : Event) :
    Alike W (a.emit d e).2 (b.emit d e).2 := by
  by_cases hd : W d
  · obtain ⟨ha, hb⟩ := h.isOpen d hd
    unfold Network.emit
    rw [if_pos ha, if_pos hb]
    exact h.deliver d _
  · refine ⟨fun c hc => ?_, fun c hc => ?_⟩
    · rw [isOpen_emit, isOpen_emit]
      exact h.isOpen c hc
    · have hdc : d ≠ c := fun heq => hd (heq ▸ hc)
      rw [heard_emit_other hdc, heard_emit_other hdc, h.heard c hc]

/-- One of the networks may come to refuse, or to take, what is emitted to other connections. -/
theorem Alike.of_log (h : Alike W a b) {a' : Network} (hlog : a'.log = a.log)
    (hopen : ∀ c, W c → a'.isOpen c = true) : Alike W a' b := by
  refine ⟨fun c hc => ⟨hopen c hc, (h.isOpen c hc).2⟩, fun c hc => ?_⟩
  rw [← h.heard c hc]
  unfold Network.heard
  rw [hlog]

/-- A relation of two networks that lasts while the same is emitted or delivered in both. -/
structure Likeness where
  Holds : Network → Network → Prop
  emit : ∀ {a b : Network}, Holds a b → ∀ (c : ConnectionId) (e : Event),
    Holds (a.emit c e).2 (b.emit c e).2
  deliver : ∀ {a b : Network}, Holds a b → ∀ (c : ConnectionId) (content : Content),
    Holds (a.deliver c content) (b.deliver c content)

theorem Likeness.emitAll (L : Likeness) {a b : Network} (h : L.Holds a b) (cs : List ConnectionId)
    (e : Event) : L.Holds (a.emitAll cs e) (b.emitAll cs e) := by
  unfold Network.emitAll
  induction cs generalizing a b with
  | nil => exact h
  | cons c rest ih => exact ih (L.emit h c e)

/-- The connections in question hear the same. -/
def alikeness (W : ConnectionId → Prop) : Likeness := ⟨Alike W, Alike.emit, Alike.deliver⟩

end Network

/-! ## Sessions -/

namespace Session

variable {α : Type} {L : Network.Likeness} {a b : Network}

/-- Two outcomes of an operation on a session differ in the networks only. -/
structure Agree (L : Network.Likeness) (x y : α × Session × Network) : Prop where
  answer : x.1 = y.1
  session : x.2.1 = y.2.1
  network : L.Holds x.2.2 y.2.2

theorem agree_play (h : L.Holds a b) (s : Session) : Agree L ((), s.play a) ((), s.play b) := by
  unfold play
  split
  · exact ⟨rfl, rfl, h⟩
  · exact ⟨rfl, rfl, L.emitAll h _ _⟩

theorem agree_pause (h : L.Holds a b) (s : Session) : Agree L ((), s.pause a) ((), s.pause b) :=
  ⟨rfl, rfl, L.emitAll h _ _⟩

theorem agree_setTime (h : L.Holds a b) (s : Session) (time : UInt64) :
    Agree L ((), s.setTime time a) ((), s.setTime time b) :=
  ⟨rfl, rfl, L.emitAll h _ _⟩

/-- Whether the new member takes the event that it is sent first does not matter. -/
theorem agree_addMember (h : L.Holds a b) (s : Session) (c : ConnectionId) (nick : String) :
    Agree L (s.addMember c nick a) (s.addMember c nick b) := by
  cases hclosed : s.closed with
  | true =>
    rw [addMember_closed hclosed, addMember_closed hclosed]
    exact ⟨rfl, rfl, h⟩
  | false =>
    -- the outcome of the first event is dropped, and the members are told in any case
    rw [addMember_open hclosed, addMember_open hclosed]
    have hfirst := L.emit h c (.joinSession (s.withMember c nick).view)
    exact ⟨rfl, rfl, L.emitAll hfirst _ _⟩

theorem agree_removeMember (h : L.Holds a b) (s : Session) (c : ConnectionId) :
    Agree L (s.removeMember c a) (s.removeMember c b) := by
  cases hm : s.members[c]? with
  | none =>
    simp only [removeMember, hm]
    exact ⟨rfl, rfl, h⟩
  | some member =>
    rw [removeMember_of_some hm, removeMember_of_some hm]
    refine ⟨rfl, rfl, ?_⟩
    dsimp only
    split
    · exact h
    · exact L.emitAll h _ _

end Session

/-! ## Servers -/

namespace Server

variable {α : Type} {L : Network.Likeness} {W : ConnectionId → Prop} {a b : Server}

/-- The servers differ in their networks only, between which the relation holds. -/
def Like (L : Network.Likeness) (a b : Server) : Prop :=
  ∃ net, b = { a with network := net } ∧ L.Holds a.network net

/-- The servers differ in their networks only, and these are alike to the connections in question. -/
def Alike (W : ConnectionId → Prop) (a b : Server) : Prop :=
  ∃ net, b = { a with network := net } ∧ a.network.Alike W net

/-- Two outcomes of an operation on a server: the same result, and servers that are alike. -/
structure Agree (L : Network.Likeness) (x y : α × Server) : Prop where
  answer : x.1 = y.1
  server : x.2.Like L y.2

theorem Alike.symm (h : a.Alike W b) : b.Alike W a := by
  obtain ⟨net, rfl, hnet⟩ := h
  exact ⟨a.network, rfl, hnet.symm⟩

theorem Alike.network (h : a.Alike W b) : a.network.Alike W b.network := by
  obtain ⟨net, rfl, hnet⟩ := h
  exact hnet

theorem Alike.like (h : a.Alike W b) : a.Like (Network.alikeness W) b := h

/-- Other connections may come to refuse in one of the servers, or to take what is emitted. -/
theorem Alike.of_log (h : a.Alike W b) {net : Network} (hlog : net.log = a.network.log)
    (hopen : ∀ c, W c → net.isOpen c = true) : { a with network := net }.Alike W b := by
  obtain ⟨other, rfl, hnet⟩ := h
  exact ⟨other, rfl, hnet.of_log hlog hopen⟩

/-! ## What both servers do -/

theorem Like.network (h : a.Like L b) : L.Holds a.network b.network := by
  obtain ⟨net, rfl, hnet⟩ := h
  exact hnet

theorem Like.registeredRef? (h : a.Like L b) (id : SessionId) :
    b.registeredRef? id = a.registeredRef? id := by
  obtain ⟨net, rfl, -⟩ := h
  rfl

theorem Like.boundSession? (h : a.Like L b) (c : ConnectionId) :
    b.boundSession? c = a.boundSession? c := by
  obtain ⟨net, rfl, -⟩ := h
  rfl

/-- What has nothing to do with networks. -/
theorem Like.silent (h : a.Like L b) (g : Server → Server)
    (hg : ∀ (sv : Server) net, g { sv with network := net } = { g sv with network := net }) :
    (g a).Like L (g b) := by
  obtain ⟨net, rfl, hnet⟩ := h
  have hsame : g a = { g a with network := a.network } := hg a a.network
  refine ⟨net, hg a net, ?_⟩
  rw [congrArg Server.network hsame]
  exact hnet

/-- What concerns the network alone. -/
theorem Like.speak (h : a.Like L b) (g : Network → Network)
    (hg : ∀ m n : Network, L.Holds m n → L.Holds (g m) (g n)) :
    { a with network := g a.network }.Like L { b with network := g b.network } := by
  obtain ⟨net, rfl, hnet⟩ := h
  exact ⟨g net, rfl, hg _ _ hnet⟩

theorem Like.onSession (h : a.Like L b) (r : SessionRef)
    {f : Session → Network → α × Session × Network}
    (hf : ∀ s m n, L.Holds m n → Session.Agree L (f s m) (f s n)) :
    Agree L (a.onSession r f) (b.onSession r f) := by
  obtain ⟨net, rfl, hnet⟩ := h
  have hagree := hf (a.session r) _ _ hnet
  refine ⟨hagree.answer, _, ?_, hagree.network⟩
  change { a with
    sessions := a.sessions.set r.number (f (a.session r) net).2.1
    network := (f (a.session r) net).2.2 } = _
  rw [← hagree.session]
  rfl

theorem Like.play (h : a.Like L b) (r : SessionRef) : (a.play r).Like L (b.play r) :=
  (h.onSession r fun s _ _ hnet => Session.agree_play hnet s).server

theorem Like.pause (h : a.Like L b) (r : SessionRef) : (a.pause r).Like L (b.pause r) :=
  (h.onSession r fun s _ _ hnet => Session.agree_pause hnet s).server

theorem Like.setTime (h : a.Like L b) (r : SessionRef) (time : UInt64) :
    (a.setTime r time).Like L (b.setTime r time) :=
  (h.onSession r fun s _ _ hnet => Session.agree_setTime hnet s time).server

theorem Like.addMember (h : a.Like L b) (r : SessionRef) (c : ConnectionId) (nick : String) :
    Agree L (a.addMember r c nick) (b.addMember r c nick) :=
  h.onSession r fun s _ _ hnet => Session.agree_addMember hnet s c nick

theorem Like.removeMember (h : a.Like L b) (r : SessionRef) (c : ConnectionId) :
    Agree L (a.removeMember r c) (b.removeMember r c) :=
  h.onSession r fun s _ _ hnet => Session.agree_removeMember hnet s c

theorem Like.sendToAll (h : a.Like L b) (r : SessionRef) (e : Event) :
    (a.sendToAll r e).Like L (b.sendToAll r e) := by
  obtain ⟨net, rfl, hnet⟩ := h
  exact ⟨_, rfl, L.emitAll hnet _ e⟩

theorem Like.sync (h : a.Like L b) (r : SessionRef) : (a.sync r).Like L (b.sync r) := by
  obtain ⟨net, rfl, hnet⟩ := h
  exact ⟨_, rfl, L.emitAll hnet _ _⟩

theorem Like.send (h : a.Like L b) (c : ConnectionId) (e : Event) :
    (a.send c e).2.Like L (b.send c e).2 :=
  h.speak (fun net => (net.emit c e).2) fun _ _ hnet => L.emit hnet c e

theorem Like.deliver (h : a.Like L b) (c : ConnectionId) (content : Content) :
    (a.deliver c content).Like L (b.deliver c content) :=
  h.speak (·.deliver c content) fun _ _ hnet => L.deliver hnet c content

theorem Like.modify (h : a.Like L b) (r : SessionRef) (f : Session → Session) :
    (a.modify r f).Like L (b.modify r f) :=
  h.silent (·.modify r f) fun _ _ => rfl

/-! ## The registry -/

theorem insert_network (sv : Server) (r : SessionRef) (net : Network) :
    { sv with network := net }.insert r = { sv.insert r with network := net } := by
  unfold Server.insert Server.registeredRef?
  dsimp only
  cases sv.registered[r.id]? with
  | none => rfl
  | some n => rfl

theorem Like.insert (h : a.Like L b) (r : SessionRef) : (a.insert r).Like L (b.insert r) :=
  h.silent (·.insert r) fun sv net => insert_network sv r net

theorem Like.create (h : a.Like L b) (videoId time : UInt64) :
    Agree L (a.create videoId time) (b.create videoId time) := by
  have hmade := h.silent (fun sv => ({ sv with issued := sv.issued + 1 }.newSession
    (.generated (sv.issued + 1)) videoId time).2) fun _ _ => rfl
  obtain ⟨net, rfl, -⟩ := h
  exact ⟨rfl, hmade.insert ⟨a.sessions.length, .generated (a.issued + 1)⟩⟩

theorem Like.destroy (h : a.Like L b) (id : SessionId) :
    (a.destroy id).2.Like L (b.destroy id).2 := by
  refine h.silent (fun sv => (sv.destroy id).2) fun sv net => ?_
  unfold Server.destroy Server.registeredRef?
  dsimp only
  cases sv.registered[id]? with
  | none => rfl
  | some n => rfl

theorem Like.closeIfEmpty (h : a.Like L b) (r : SessionRef) :
    Agree L (a.closeIfEmpty r) (b.closeIfEmpty r) :=
  h.onSession r fun _ _ _ hnet => ⟨rfl, rfl, hnet⟩

theorem Like.destroyIfEmpty (h : a.Like L b) (id : SessionId) :
    Agree L (a.destroyIfEmpty id) (b.destroyIfEmpty id) := by
  unfold Server.destroyIfEmpty
  rw [h.registeredRef? id]
  cases a.registeredRef? id with
  | none => exact ⟨rfl, h⟩
  | some r =>
    obtain ⟨hanswer, hclosed⟩ := h.closeIfEmpty r
    dsimp only
    rw [← hanswer]
    split
    · have hdown := hclosed.silent
        (fun sv => { sv with registered := sv.registered.erase id }.shutdown r) fun _ _ => rfl
      exact ⟨rfl, hdown⟩
    · exact ⟨rfl, hclosed⟩

theorem Like.unbind (h : a.Like L b) (c : ConnectionId) : Agree L (a.unbind c) (b.unbind c) := by
  unfold Server.unbind
  rw [h.boundSession? c]
  cases a.boundSession? c with
  | none => exact ⟨rfl, h⟩
  | some id =>
    have hunbound : Server.Like L { a with bindings := a.bindings.erase c }
        { b with bindings := b.bindings.erase c } :=
      h.silent (fun sv => { sv with bindings := sv.bindings.erase c }) fun _ _ => rfl
    dsimp only
    rw [hunbound.registeredRef? id]
    cases Server.registeredRef? { a with bindings := a.bindings.erase c } id with
    | none => exact ⟨rfl, hunbound⟩
    | some r =>
      obtain ⟨hanswer, hleft⟩ := hunbound.removeMember r c
      have hunbound := congrArg (fun removed => Unbound.mk id removed.1 removed.2) hanswer
      exact ⟨congrArg Except.ok hunbound, hleft⟩

end Server

end WatchParty
