/-
All that can be done to a server, by its inputs or by whoever holds its registry, its sessions and its
members: sessions under any id that are registered by hand or not at all, members without a binding and
bindings without a member, sessions that are closed while they are still registered. Little is left
that holds of a server after any of this. What is registered is a session of that id, though:
`Server.Grounded`.
-/
import WatchParty.Proofs.Server.Input

namespace WatchParty

/-- What can be done with a session that one holds. -/
inductive SessionOperation
  | insert
  | play
  | pause
  | sync
  | setTime (time : UInt64)
  | sendToAll (e : Event)
  | addMember (c : ConnectionId) (nick : String)
  | removeMember (c : ConnectionId)
  | closeIfEmpty
  | shutdown
  /-- nobody holds the session any more, and its clock ends -/
  | drop

/-- What can be done to a server. -/
inductive Operation
  | input (i : Input)
  | create (videoId time : UInt64)
  | newSession (id : SessionId) (videoId time : UInt64)
  | destroy (id : SessionId)
  | destroyIfEmpty (id : SessionId)
  | bind (c : ConnectionId) (id : SessionId)
  | unbind (c : ConnectionId)
  | send (c : ConnectionId) (e : Event)
  | onSession (number : Nat) (o : SessionOperation)

namespace Server

/-- The server after an operation on a session. -/
def operate (sv : Server) (r : SessionRef) : SessionOperation → Server
  | .insert => sv.insert r
  | .play => sv.play r
  | .pause => sv.pause r
  | .sync => sv.sync r
  | .setTime time => sv.setTime r time
  | .sendToAll e => sv.sendToAll r e
  | .addMember c nick => (sv.addMember r c nick).2
  | .removeMember c => (sv.removeMember r c).2
  | .closeIfEmpty => (sv.closeIfEmpty r).2
  | .shutdown => sv.shutdown r
  | .drop => sv.modify r fun s => { s with clock := s.clock.cancel }

/-- The server after an operation. A session is chosen by its number, if there is one of it. -/
def perform (sv : Server) : Operation → Server
  | .input i => sv.take i
  | .create videoId time => (sv.create videoId time).2
  | .newSession id videoId time => (sv.newSession id videoId time).2
  | .destroy id => (sv.destroy id).2
  | .destroyIfEmpty id => (sv.destroyIfEmpty id).2
  | .bind c id => (sv.bind c id).2
  | .unbind c => (sv.unbind c).2
  | .send c e => (sv.send c e).2
  | .onSession number o =>
    match sv.sessions[number]? with
    | some s => sv.operate ⟨number, s.id⟩ o
    | none => sv

/-- The server after one operation and the next. -/
def performAll (sv : Server) (operations : List Operation) : Server := operations.foldl perform sv

/-- What is registered under an id is a session of that id. -/
def Grounded (sv : Server) : Prop :=
  ∀ (id : SessionId) (n : Nat), sv.registered[id]? = some n → sv.Has ⟨n, id⟩

/-- Every session keeps its number and its id. -/
def Keeps (sv sv' : Server) : Prop := ∀ r, sv.Has r → sv'.Has r

variable {sv sv' : Server} {r : SessionRef}

/-- Inputs are operations. -/
theorem takeAll_eq_performAll (sv : Server) (inputs : List Input) :
    sv.takeAll inputs = sv.performAll (inputs.map .input) := by
  induction inputs generalizing sv with
  | nil => rfl
  | cons i rest ih => exact ih (sv.take i)

theorem perform_onSession {n : Nat} {s : Session} (hs : sv.sessions[n]? = some s)
    (o : SessionOperation) : sv.perform (.onSession n o) = sv.operate ⟨n, s.id⟩ o := by
  simp only [perform, hs]

theorem perform_onSession_of_has (hr : sv.Has r) (o : SessionOperation) :
    sv.perform (.onSession r.number o) = sv.operate r o := by
  obtain ⟨s, hs, hid⟩ := hr
  rw [perform_onSession hs, hid]

/-! ## Sessions stay -/

theorem keeps_onSession {α : Type} {f : Session → Network → α × Session × Network}
    (hf : ∀ s net, (f s net).2.1.id = s.id) : Keeps sv (sv.onSession r f).2 := by
  rintro ref ⟨s, hs, hid⟩
  unfold onSession Has
  by_cases hn : r.number = ref.number
  · rw [← hn] at hs
    refine ⟨(f (sv.session r) sv.network).2.1, ?_, ?_⟩
    · simp only [← hn, getElem?_set_of_some hs, if_true]
    · rw [hf, session_eq hs, hid]
  · exact ⟨s, by simp [hn, hs], hid⟩

theorem keeps_modify {f : Session → Session} (hf : ∀ s, (f s).id = s.id) :
    Keeps sv (sv.modify r f) :=
  keeps_onSession (α := Unit) (f := fun s net => ((), f s, net)) fun s _ => hf s

theorem keeps_newSession (id : SessionId) (videoId time : UInt64) :
    Keeps sv (sv.newSession id videoId time).2 := by
  rintro ref ⟨s, hs, hid⟩
  exact ⟨s, getElem?_concat_eq_some.2 (.inl hs), hid⟩

/-! ## What is registered -/

theorem grounded_start (settings : Settings) : (start settings).Grounded := by
  intro id n hn
  simp [start] at hn

theorem Sound.grounded (h : sv.Sound) : sv.Grounded := by
  intro id n hn
  obtain ⟨s, hs, hid, -⟩ := (h.registered id n).1 hn
  exact ⟨s, hs, hid⟩

/-- A server stays grounded while nothing is registered and every session stays. -/
theorem Grounded.keeps (h : sv.Grounded) (hk : Keeps sv sv')
    (hr : ∀ (id : SessionId) (n : Nat), sv'.registered[id]? = some n → sv.registered[id]? = some n) :
    sv'.Grounded :=
  fun id n hn => hk _ (h id n (hr id n hn))

theorem Grounded.onSession (h : sv.Grounded) {α : Type}
    {f : Session → Network → α × Session × Network} (hf : ∀ s net, (f s net).2.1.id = s.id) :
    (sv.onSession r f).2.Grounded :=
  h.keeps (keeps_onSession hf) fun _ _ hn => hn

theorem Grounded.modify (h : sv.Grounded) {f : Session → Session} (hf : ∀ s, (f s).id = s.id) :
    (sv.modify r f).Grounded :=
  h.keeps (keeps_modify hf) fun _ _ hn => hn

theorem Grounded.erase (h : sv.Grounded) (id : SessionId) :
    { sv with registered := sv.registered.erase id }.Grounded := by
  refine h.keeps (fun _ hr => hr) fun id' n hn => ?_
  simp only [Std.ExtTreeMap.getElem?_erase] at hn
  split at hn
  · cases hn
  · exact hn

theorem Grounded.insert (h : sv.Grounded) (hr : sv.Has r) : (sv.insert r).Grounded := by
  have hregistered : { sv with registered := sv.registered.insert r.id r.number }.Grounded := by
    intro id n hn
    simp only [Std.ExtTreeMap.getElem?_insert] at hn
    split at hn
    · rename_i hid
      cases Std.LawfulEqCmp.compare_eq_iff_eq.1 hid
      cases hn
      exact hr
    · exact h id n hn
  unfold Server.insert
  cases sv.registeredRef? r.id with
  | none => exact hregistered
  | some displaced =>
    refine Grounded.modify ?_ fun s => rfl
    exact hregistered.keeps (fun _ hr => hr) fun _ _ hn => hn

theorem Grounded.newSession (h : sv.Grounded) (id : SessionId) (videoId time : UInt64) :
    (sv.newSession id videoId time).2.Grounded :=
  h.keeps (keeps_newSession id videoId time) fun _ _ hn => hn

theorem has_newSession (sv : Server) (id : SessionId) (videoId time : UInt64) :
    (sv.newSession id videoId time).2.Has (sv.newSession id videoId time).1 :=
  ⟨_, getElem?_concat_eq_some.2 (.inr ⟨rfl, rfl⟩), rfl⟩

theorem Grounded.create (h : sv.Grounded) (videoId time : UInt64) :
    (sv.create videoId time).2.Grounded := by
  have hissued : { sv with issued := sv.issued + 1 }.Grounded := h
  exact (hissued.newSession _ videoId time).insert (has_newSession _ _ videoId time)

theorem Grounded.destroy (h : sv.Grounded) (id : SessionId) : (sv.destroy id).2.Grounded := by
  unfold Server.destroy
  cases sv.registeredRef? id with
  | none => exact h
  | some r =>
    refine Grounded.modify ?_ fun s => rfl
    exact (h.erase id).keeps (fun _ hr => hr) fun _ _ hn => hn

theorem Grounded.closeIfEmpty (h : sv.Grounded) : (sv.closeIfEmpty r).2.Grounded := by
  refine h.onSession fun s net => ?_
  simp only [Session.closeIfEmpty]
  split
  · rfl
  · rfl

theorem Grounded.destroyIfEmpty (h : sv.Grounded) (id : SessionId) :
    (sv.destroyIfEmpty id).2.Grounded := by
  unfold Server.destroyIfEmpty
  cases sv.registeredRef? id with
  | none => exact h
  | some r =>
    simp only
    split
    · exact Grounded.modify (h.closeIfEmpty.erase id) fun s => rfl
    · exact h.closeIfEmpty

theorem Grounded.addMember (h : sv.Grounded) (c : ConnectionId) (nick : String) :
    (sv.addMember r c nick).2.Grounded := by
  refine h.onSession fun s net => ?_
  unfold Session.addMember
  split
  · rfl
  · rfl

theorem Grounded.removeMember (h : sv.Grounded) (c : ConnectionId) :
    (sv.removeMember r c).2.Grounded := by
  refine h.onSession fun s net => ?_
  unfold Session.removeMember
  split
  · rfl
  · rfl

theorem Grounded.unbind (h : sv.Grounded) (c : ConnectionId) : (sv.unbind c).2.Grounded := by
  unfold Server.unbind
  cases sv.boundSession? c with
  | none => exact h
  | some id =>
    have hunbound : { sv with bindings := sv.bindings.erase c }.Grounded := h
    simp only
    split
    · exact hunbound
    · exact hunbound.removeMember c

theorem Grounded.play (h : sv.Grounded) : (sv.play r).Grounded :=
  h.onSession fun s net => (s.sameRoster_play net).id

theorem Grounded.pause (h : sv.Grounded) : (sv.pause r).Grounded :=
  h.onSession fun s net => (s.sameRoster_pause net).id

theorem Grounded.setTime (h : sv.Grounded) (time : UInt64) : (sv.setTime r time).Grounded :=
  h.onSession fun s net => (s.sameRoster_setTime time net).id

theorem Grounded.sameRoster (h : sv.Grounded) (hs : sv.SameRoster sv') : sv'.Grounded := by
  refine h.keeps (fun ref hr => ?_) fun id n hn => ?_
  · obtain ⟨s, hs', hid⟩ := hr
    obtain ⟨t, ht, hst⟩ := hs.sessions _ s hs'
    exact ⟨t, ht, hst.id.trans hid⟩
  · rw [← hs.registered]
    exact hn

/-! ## Every operation -/

theorem Grounded.answer (h : sv.Grounded) (q : Call) : (sv.answer q).2.Grounded := by
  cases q with
  | lookup id => exact h
  | boundSession c => exact h
  | unbind c => exact h.unbind c
  | destroyIfEmpty id => exact h.destroyIfEmpty id
  | create videoId time => exact h.create videoId time
  | addMember r c nick => exact h.addMember c nick
  | bind c id => exact h
  | play r => exact h.play
  | pause r => exact h.pause
  | setTime r time => exact h.setTime time
  | view r => exact h
  | send c e => exact h

theorem Grounded.run {α : Type} (h : sv.Grounded) (p : Handler α) : (p.run sv).2.Grounded := by
  induction p generalizing sv with
  | done a => exact h
  | call q next ih => exact ih (sv.answer q).1 (h.answer q)

theorem Grounded.receive (h : sv.Grounded) (c : ConnectionId) (f : Frame) :
    (sv.receive c f).Grounded := by
  have hdisconnected : (sv.disconnect c).Grounded := h.run _
  unfold Server.receive
  split
  · exact hdisconnected
  · split
    · unfold receiveText
      split
      · exact h.run _
      · exact h
    · exact h
    · exact h

theorem Grounded.take (h : sv.Grounded) (i : Input) : (sv.take i).Grounded := by
  cases i with
  | dispatch c event data => exact h.run _
  | disconnect c => exact h.run _
  | receive c f => exact h.receive c f
  | hangUp c =>
    have hdisconnected : (sv.disconnect c).Grounded := h.run _
    exact hdisconnected
  | around o => exact h.sameRoster (sameRoster_undergo sv o)

theorem Grounded.operate (h : sv.Grounded) (hr : sv.Has r) (o : SessionOperation) :
    (sv.operate r o).Grounded := by
  cases o with
  | insert => exact h.insert hr
  | play => exact h.play
  | pause => exact h.pause
  | sync => exact h
  | setTime time => exact h.setTime time
  | sendToAll e => exact h
  | addMember c nick => exact h.addMember c nick
  | removeMember c => exact h.removeMember c
  | closeIfEmpty => exact h.closeIfEmpty
  | shutdown => exact h.modify fun s => rfl
  | drop => exact h.modify fun s => rfl

theorem Grounded.perform (h : sv.Grounded) (o : Operation) : (sv.perform o).Grounded := by
  cases o with
  | input i => exact h.take i
  | create videoId time => exact h.create videoId time
  | newSession id videoId time => exact h.newSession id videoId time
  | destroy id => exact h.destroy id
  | destroyIfEmpty id => exact h.destroyIfEmpty id
  | bind c id => exact h
  | unbind c => exact h.unbind c
  | send c e => exact h
  | onSession number o =>
    simp only [Server.perform]
    split
    · rename_i s hs
      exact h.operate ⟨s, hs, rfl⟩ o
    · exact h

theorem Grounded.performAll (h : sv.Grounded) (operations : List Operation) :
    (sv.performAll operations).Grounded := by
  induction operations generalizing sv with
  | nil => exact h
  | cons o rest ih => exact ih (h.perform o)

end Server

end WatchParty
