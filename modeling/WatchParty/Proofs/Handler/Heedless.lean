/-
Handlers learn whether what they send is taken, but they take no notice: all of them are heedless, which
means that they go on in the same way. So the same handler has the same result on two servers that
differ in their networks only: `Server.Like.run`.
-/
import WatchParty.Proofs.Handler.Makes
import WatchParty.Proofs.Server.Alike
import WatchParty.Socket

namespace WatchParty

/-! ## Handlers -/

/-- If the call sends an event, what comes next is the same whether the event is taken or refused. -/
def Call.Heedless {β : Type} : (q : Call) → (q.Answer → β) → Prop
  | .send c _, next => next (.ok ()) = next (.error (.connectionClosed c))
  | _, _ => True

/-- The call sends no event to a connection by itself. -/
def Call.Quiet : Call → Prop
  | .send .. => False
  | _ => True

theorem Call.Quiet.heedless {β : Type} {q : Call} (hq : q.Quiet) (next : q.Answer → β) :
    q.Heedless next := by
  cases q with
  | send c e => exact absurd hq fun h => h
  | _ => trivial

theorem Call.Plain.quiet {q : Call} (hq : q.Plain) : q.Quiet := by
  cases q with
  | send c e => exact hq
  | _ => trivial

namespace Handler

variable {α β : Type}

/-- The handler goes on in the same way, whether what it sends is taken or refused. -/
def Heedless : Handler α → Prop
  | .done _ => True
  | .call q next => q.Heedless next ∧ ∀ answer, (next answer).Heedless

theorem Makes.heedless {h : Handler α} (hh : h.Makes Call.Quiet) : h.Heedless := by
  induction h with
  | done a => trivial
  | call q next ih => exact ⟨hh.1.heedless next, fun answer => ih answer (hh.2 answer)⟩

theorem Makes.quiet {h : Handler α} (hh : h.Makes Call.Plain) : h.Makes Call.Quiet :=
  hh.mono fun _ hq => hq.quiet

theorem Heedless.bind {h : Handler α} {f : α → Handler β} (hh : h.Heedless) (hf : ∀ a, (f a).Heedless) :
    (h >>= f).Heedless := by
  change (h.andThen f).Heedless
  induction h with
  | done a => exact hf a
  | call q next ih =>
    refine ⟨?_, fun answer => ih answer (hh.2 answer)⟩
    cases q with
    | send c e => exact congrArg (fun rest : Handler α => rest.andThen f) hh.1
    | _ => trivial

/-- What is sent last may be refused. -/
theorem heedless_send (c : ConnectionId) (e : Event) (a : α) :
    (ask (.send c e) >>= fun _ => (pure a : Handler α)).Heedless :=
  ⟨rfl, fun _ => trivial⟩

theorem heedless_newSession (c : ConnectionId) (videoId time : UInt64) (nick : String) :
    (newSession c videoId time nick).Heedless := by
  unfold newSession
  refine Heedless.bind (makes_depart c).quiet.heedless fun _ => ?_
  refine Heedless.bind (Makes.heedless (makes_ask trivial)) fun r => ?_
  refine Heedless.bind (makes_enrol c r nick).quiet.heedless fun outcome => ?_
  cases outcome with
  | error e => trivial
  | ok _ => exact Heedless.bind (Makes.heedless (makes_ask trivial)) fun view => heedless_send c _ _

theorem heedless_onSession (id : SessionId) {q : SessionRef → Call} (hq : ∀ r, (q r).Quiet) :
    (onSession id q).Heedless :=
  Makes.heedless (makes_onSession id trivial hq)

theorem heedless_tellFailure (c : ConnectionId) (event : String) (data : Json) (e : Error) :
    (tellFailure c event data e).Heedless := by
  unfold tellFailure
  split
  · trivial
  · exact heedless_send c _ ()

/-- A connection that refuses the view it asked for is told nothing of this, and the event ends. -/
theorem heedless_getSync (c : ConnectionId) (id : SessionId) (event : String) (data : Json) :
    (getSync c id >>= fun outcome => match outcome with
      | .error e => tellFailure c event data e
      | .ok () => pure ()).Heedless := by
  refine ⟨trivial, fun outcome => ?_⟩
  cases outcome with
  | error e => exact heedless_tellFailure c event data e
  | ok r =>
    refine ⟨trivial, fun view => ⟨rfl, fun answer => ?_⟩⟩
    cases answer with
    | error e => exact heedless_tellFailure c event data e
    | ok _ => trivial

theorem heedless_dispatch (c : ConnectionId) (event : String) (data : Json) :
    (dispatch c event data).Heedless := by
  unfold dispatch
  cases Request.decode event data with
  | error e => exact heedless_tellFailure c event data e
  | ok request =>
    have hafter : ∀ outcome : Except Error Unit, Heedless (match outcome with
        | .error e => tellFailure c request.verb.name data e
        | .ok () => pure ()) := fun outcome => by
      cases outcome with
      | error e => exact heedless_tellFailure c _ data e
      | ok _ => trivial
    dsimp only
    cases request with
    | new videoId time nick => exact Heedless.bind (heedless_newSession c videoId time nick) hafter
    | join id nick => exact Heedless.bind (makes_join c id nick).quiet.heedless hafter
    | getSync id => exact heedless_getSync c id _ data
    | play id => exact Heedless.bind (heedless_onSession id fun _ => trivial) hafter
    | pause id => exact Heedless.bind (heedless_onSession id fun _ => trivial) hafter
    | seek id time => exact Heedless.bind (heedless_onSession id fun _ => trivial) hafter
    | leave => exact Heedless.bind (makes_leave c).quiet.heedless hafter

theorem heedless_disconnect (c : ConnectionId) : (disconnect c).Heedless :=
  Heedless.bind (makes_depart c).quiet.heedless fun _ => trivial

end Handler

/-! ## Servers -/

namespace Server

variable {L : Network.Likeness} {a b : Server}

/-- An event that is sent is taken, or refused because the connection is closed. -/
theorem send_outcome (sv : Server) (c : ConnectionId) (e : Event) :
    (sv.send c e).1 = .ok () ∨ (sv.send c e).1 = .error (.connectionClosed c) := by
  unfold send Network.emit
  by_cases hopen : sv.network.isOpen c
  · rw [if_pos hopen]
    exact .inl rfl
  · rw [if_neg hopen]
    exact .inr rfl

/-- A call leaves two servers alike, and a heedless handler goes on with both in the same way. -/
theorem Like.answer (h : a.Like L b) (q : Call) : (a.answer q).2.Like L (b.answer q).2 ∧
    ∀ {β : Type} (next : q.Answer → β), q.Heedless next → next (a.answer q).1 = next (b.answer q).1 := by
  have hagree : ∀ {x y : q.Answer × Server}, Agree L x y → x.2.Like L y.2 ∧
      ∀ {β : Type} (next : q.Answer → β), q.Heedless next → next x.1 = next y.1 := fun hxy =>
    ⟨hxy.server, fun next _ => congrArg next hxy.answer⟩
  cases q with
  | lookup id =>
    refine hagree ⟨?_, h⟩
    simp only [Server.answer, lookup, h.registeredRef? id]
  | boundSession c => exact hagree ⟨(h.boundSession? c).symm, h⟩
  | unbind c => exact hagree (h.unbind c)
  | destroyIfEmpty id => exact hagree (h.destroyIfEmpty id)
  | create videoId time => exact hagree (h.create videoId time)
  | addMember r c nick => exact hagree (h.addMember r c nick)
  | bind c id => exact hagree ⟨(h.boundSession? c).symm, h.silent (fun sv => (sv.bind c id).2) fun _ _ => rfl⟩
  | play r => exact hagree ⟨rfl, h.play r⟩
  | pause r => exact hagree ⟨rfl, h.pause r⟩
  | setTime r time => exact hagree ⟨rfl, h.setTime r time⟩
  | view r =>
    refine hagree ⟨?_, h⟩
    obtain ⟨net, rfl, -⟩ := h
    rfl
  | send c e =>
    -- here the answers may differ, and it is for the handler to take no notice
    refine ⟨h.send c e, fun next hnext => ?_⟩
    change next (a.send c e).1 = next (b.send c e).1
    rcases a.send_outcome c e with ha | ha <;> rcases b.send_outcome c e with hb | hb <;> rw [ha, hb]
    · exact hnext
    · exact hnext.symm

/-- A heedless handler has the same result on servers that are alike, and leaves them alike. -/
theorem Like.run {α : Type} (h : a.Like L b) {p : Handler α} (hp : p.Heedless) :
    Agree L (p.run a) (p.run b) := by
  induction p generalizing a b with
  | done result => exact ⟨rfl, h⟩
  | call q next ih =>
    obtain ⟨hcalled, hsame⟩ := h.answer q
    change Agree L ((next (a.answer q).1).run (a.answer q).2) ((next (b.answer q).1).run (b.answer q).2)
    rw [hsame next hp.1]
    exact ih _ hcalled (hp.2 _)

theorem Like.receiveText (h : a.Like L b) (c : ConnectionId) (text : String) :
    (a.receiveText c text).Like L (b.receiveText c text) := by
  unfold Server.receiveText
  cases Envelope.parse? text with
  | none => exact h.send c _
  | some envelope => exact (h.run (Handler.heedless_dispatch c _ _)).server

end Server

end WatchParty
