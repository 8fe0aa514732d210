/-
What a connection can do to others. An event concerns the session that it names, and besides that the
session that its connection is in, but only if the connection leaves it: by asking to, with its end, or
for another session. Whatever else there is stays as it was, and nobody there is told anything.
-/
import WatchParty.Proofs.Quiescence
import WatchParty.Proofs.Rejection
import WatchParty.Proofs.Server.Within

namespace WatchParty

/-- Who makes the request is in no session any more, or in another one, once it has succeeded. -/
def Request.moves : Request → Bool
  | .new .. => true
  | .join .. => true
  | .leave => true
  | _ => false

/-- What a connection does: it sends an event, or comes to its end. -/
inductive Turn
  | event (name : String) (data : Json)
  | quit

namespace Server

/-- The server after a connection has had its turn. -/
def turn (sv : Server) (c : ConnectionId) : Turn → Server
  | .event name data => sv.dispatch c name data
  | .quit => sv.disconnect c

/-- The session that a request names, which may be the new one that it is for. -/
def target? (sv : Server) : Request → Option SessionId
  | .new .. => some (.generated (sv.issued + 1))
  | request => request.session?

/-- The session of the id is the one that the event names. -/
def Names (sv : Server) (id : SessionId) : Turn → Prop
  | .event name data => ∃ request, Request.decode name data = .ok request ∧ sv.target? request = some id
  | .quit => False

/-- The connection leaves the session that it is in: with its end, or by an event that does not fail. -/
def Leaves (sv : Server) (c : ConnectionId) : Turn → Prop
  | .event name data => ∃ request, Request.decode name data = .ok request ∧ request.moves = true ∧
      ¬ sv.Fails c name data
  | .quit => True

/-- The session of the id is the one that the event names, or the one that the connection leaves. -/
def Concerns (sv : Server) (c : ConnectionId) (turn : Turn) (id : SessionId) : Prop :=
  sv.Names id turn ∨ (sv.Leaves c turn ∧ sv.boundSession? c = some id)

variable {sv : Server} {c : ConnectionId}

theorem session_of_unbind {unbound : Unbound} (h : (sv.unbind c).1 = .ok unbound) :
    sv.bindings[c]? = some unbound.session := by
  unfold unbind boundSession? at h
  cases hb : sv.bindings[c]? with
  | none =>
    simp only [hb] at h
    cases h
  | some id =>
    simp only [hb] at h
    split at h <;> cases h <;> rfl

end Server

namespace Handler

open Server

variable {sv : Server} {c : ConnectionId} {r : SessionRef} {id : SessionId} {S : SessionId → Prop}

/-! ## What the handlers call -/

section Along

variable {P : Server → Call → Prop}

theorem along_depart (hunbind : P sv (.unbind c))
    (hdestroy : ∀ bound, sv.bindings[c]? = some bound → P (sv.unbind c).2 (.destroyIfEmpty bound)) :
    (depart c).Along P sv := by
  rw [depart_eq]
  refine ⟨hunbind, ?_⟩
  change (departed (sv.unbind c).1).Along P (sv.unbind c).2
  cases hok : (sv.unbind c).1 with
  | error e => trivial
  | ok unbound =>
    by_cases hempty : unbound.leavesNobody
    · simp only [departed, hempty, if_true]
      exact ⟨hdestroy unbound.session (session_of_unbind hok), trivial⟩
    · simp only [departed, hempty]
      trivial

theorem along_enrol {nick : String} (hadd : P sv (.addMember r c nick))
    (hbind : P (sv.addMember r c nick).2 (.bind c r.id)) : (enrol c r nick).Along P sv := by
  rw [enrol_eq]
  refine ⟨hadd, ?_⟩
  change (admitted c r (sv.addMember r c nick).1).Along P (sv.addMember r c nick).2
  cases (sv.addMember r c nick).1 with
  | error e => trivial
  | ok member => exact ⟨hbind, trivial⟩

/-- A handler that begins by looking a session up goes on with the one that is registered. -/
theorem along_lookup {α : Type} {f : Except Error SessionRef → Handler α} (hlookup : P sv (.lookup id))
    (hmissing : (f (.error (.sessionNotFound id))).Along P sv)
    (hfound : ∀ r, sv.registeredRef? id = some r → (f (.ok r)).Along P sv) :
    (ask (.lookup id) >>= f).Along P sv := by
  refine (along_ask hlookup).bind ?_
  rw [run_ask]
  simp only [Server.answer]
  cases hr : sv.registeredRef? id with
  | none =>
    rw [lookup_of_none hr]
    exact hmissing
  | some r =>
    rw [lookup_of_registeredRef hr]
    exact hfound r hr

theorem along_tellFailure {event : String} {data : Json} {e : Error}
    (hsend : ∀ reply, P sv (.send c reply)) : (tellFailure c event data e).Along P sv := by
  unfold tellFailure
  split
  · trivial
  · exact (along_ask (hsend _)).bind trivial

end Along

/-! ## What the handlers touch -/

theorem keepsTo_pure {α : Type} (a : α) : (pure a : Handler α).KeepsTo S sv := trivial

theorem KeepsTo.bind {α β : Type} {h : Handler α} {f : α → Handler β} (hh : h.KeepsTo S sv)
    (hf : (f (h.run sv).1).KeepsTo S (h.run sv).2) : (h >>= f).KeepsTo S sv :=
  Along.bind hh hf

theorem keepsTo_ask {q : Call} (hq : ∀ id, q.Touches sv id → S id) : (ask q).KeepsTo S sv :=
  along_ask hq

theorem keepsTo_depart (hbound : ∀ bound, sv.bindings[c]? = some bound → S bound) :
    (depart c).KeepsTo S sv :=
  along_depart hbound fun bound hb _ hid => hid ▸ hbound bound hb

theorem keepsTo_enrol (hr : S r.id) (nick : String) : (enrol c r nick).KeepsTo S sv :=
  along_enrol (fun _ hid => hid ▸ hr) fun _ => False.elim

/-- Leaving generates no id. -/
theorem issued_depart (c : ConnectionId) (sv : Server) : ((depart c).run sv).2.issued = sv.issued := by
  have hunbind : (sv.unbind c).2.issued = sv.issued := by
    unfold unbind
    split
    · rfl
    · simp only
      split
      · rfl
      · rfl
  have hdestroy : ∀ (sv' : Server) (id : SessionId), (sv'.destroyIfEmpty id).2.issued = sv'.issued := by
    intro sv' id
    unfold destroyIfEmpty
    split
    · rfl
    · simp only
      split
      · rfl
      · rfl
  rw [depart_run]
  cases (sv.unbind c).1 with
  | error e => exact hunbind
  | ok unbound =>
    by_cases hempty : unbound.leavesNobody
    · simp only [departed, hempty, if_true]
      exact (hdestroy _ _).trans hunbind
    · simp only [departed, hempty]
      exact hunbind

theorem keepsTo_newSession (hnew : S (.generated (sv.issued + 1)))
    (hbound : ∀ bound, sv.bindings[c]? = some bound → S bound) (videoId time : UInt64) (nick : String) :
    (newSession c videoId time nick).KeepsTo S sv := by
  unfold newSession
  refine (keepsTo_depart hbound).bind ?_
  have hissued := issued_depart c sv
  generalize ((depart c).run sv).2 = left at hissued ⊢
  refine (keepsTo_ask fun id hid => ?_).bind ?_
  · rw [← (show SessionId.generated (left.issued + 1) = id from hid), hissued]
    exact hnew
  have hid : (left.create videoId time).1.id = .generated (sv.issued + 1) := by
    rw [← hissued]
    rfl
  refine (keepsTo_enrol (r := (left.create videoId time).1) (hid ▸ hnew) nick).bind ?_
  split
  · exact keepsTo_pure _
  · exact (keepsTo_ask fun _ => False.elim).bind ((keepsTo_ask fun _ => False.elim).bind (keepsTo_pure _))

/-- A join touches the session that the connection is in only if there is one to join. -/
theorem keepsTo_join (hid : S id)
    (hbound : ∀ r, sv.registeredRef? id = some r → ∀ bound, sv.bindings[c]? = some bound → S bound)
    (nick : String) : (join c id nick).KeepsTo S sv := by
  refine along_lookup (fun _ => False.elim) trivial fun r hr => ?_
  have hS : S r.id := by
    rw [id_of_registeredRef hr]
    exact hid
  refine (keepsTo_ask fun _ => False.elim).bind ?_
  split
  · exact (keepsTo_depart (hbound r hr)).bind (keepsTo_enrol hS nick)
  · exact keepsTo_enrol hS nick

theorem keepsTo_getSync (c : ConnectionId) (id : SessionId) (sv : Server) :
    (getSync c id).KeepsTo S sv := by
  refine along_lookup (fun _ => False.elim) trivial fun r _ => ?_
  exact (keepsTo_ask fun _ => False.elim).bind (keepsTo_ask fun _ => False.elim)

theorem keepsTo_onSession (hid : S id) {q : SessionRef → Call}
    (hq : ∀ sv r id', (q r).Touches sv id' → r.id = id') : (onSession id q).KeepsTo S sv := by
  refine along_lookup (fun _ => False.elim) trivial fun r hr => ?_
  refine (keepsTo_ask fun id' htouches => ?_).bind (keepsTo_pure _)
  rw [← hq sv r id' htouches, id_of_registeredRef hr]
  exact hid

theorem keepsTo_tellFailure (c : ConnectionId) (event : String) (data : Json) (e : Error) :
    (tellFailure c event data e).KeepsTo S sv :=
  along_tellFailure fun _ _ => False.elim

/-- A join of an open session succeeds. -/
theorem join_run_open (hg : sv.Grounded) (hr : sv.registeredRef? id = some r)
    (hopen : (sv.session r).closed = false) (nick : String) :
    ((join c id nick).run sv).1 = .ok () := by
  obtain ⟨s, hs, -⟩ := hg.has_of_registeredRef hr
  rw [session_eq hs] at hopen
  by_cases hb : sv.bindings[c]? = some id
  · rw [join_run_here hr hb]
    exact enrol_run_open hs hopen nick
  · rw [join_run_elsewhere hr hb]
    refine enrol_run_open (s := s) ?_ hopen nick
    cases hbound : sv.bindings[c]? with
    | none => rw [depart_run_unbound hbound, hs]
    | some bound =>
      rw [depart_run_session hg hr hbound fun heq => hb (heq ▸ hbound), hs]

/-- A request touches the session that it names, and the one that the connection is in only if the
connection moves and the request succeeds. -/
theorem keepsTo_handle (hsound : sv.Sound) {request : Request}
    (htarget : ∀ id, sv.target? request = some id → S id)
    (hmoves : request.moves = true → ((handle c request).run sv).1.isOk = true →
      ∀ bound, sv.bindings[c]? = some bound → S bound) :
    (handle c request).KeepsTo S sv := by
  have hg := hsound.grounded
  cases request with
  | new videoId time nick =>
    have hok : ((newSession c videoId time nick).run sv).1.isOk = true := by
      rw [newSession_run hg]
      rfl
    exact keepsTo_newSession (htarget _ rfl) (hmoves rfl hok) videoId time nick
  | join id nick =>
    refine keepsTo_join (htarget id rfl) (fun r hr => hmoves rfl ?_) nick
    obtain ⟨s, -, hsession, -, hopen⟩ := hsound.session_of_registeredRef hr
    change ((join c id nick).run sv).1.isOk = true
    rw [join_run_open hg hr (hsession ▸ hopen)]
    rfl
  | getSync id => exact keepsTo_getSync c id sv
  | play id => exact keepsTo_onSession (htarget id rfl) fun _ _ _ h => h
  | pause id => exact keepsTo_onSession (htarget id rfl) fun _ _ _ h => h
  | seek id time => exact keepsTo_onSession (htarget id rfl) fun _ _ _ h => h
  | leave =>
    -- leaving fails only for a connection that is in no session
    have hleave : ∀ bound, sv.bindings[c]? = some bound → S bound := by
      intro bound hb
      refine hmoves rfl ?_ bound hb
      obtain ⟨⟨id, hok⟩, -, -⟩ := depart_run_bound (r := ⟨0, bound⟩) hg hb
      unfold handle
      rw [run_bind, hok]
      rfl
    refine (keepsTo_depart hleave).bind ?_
    split
    · exact keepsTo_pure _
    · exact keepsTo_pure _

end Handler

namespace Server

open Handler

variable {sv : Server} {c : ConnectionId}

/-! ## Turns -/

/-- What a connection does touches the sessions that it concerns. -/
theorem within_turn (hquiet : sv.Quiescent) (c : ConnectionId) (turn : Turn) :
    Within c (sv.Concerns c turn) sv (sv.turn c turn) := by
  cases turn with
  | quit =>
    refine .run (along_disconnect hquiet.sound (hquiet.settled c)) ?_
    exact (keepsTo_depart fun bound hb => .inr ⟨trivial, hb⟩).bind (keepsTo_pure _)
  | event name data =>
    refine .run (along_dispatch hquiet.sound (hquiet.settled c) name data) ?_
    unfold Handler.dispatch
    cases hd : Request.decode name data with
    | error e => exact keepsTo_tellFailure c name data e
    | ok request =>
      have hattempt : sv.attempt c name data = (handle c request).run sv := by
        unfold attempt
        rw [hd]
      refine KeepsTo.bind (keepsTo_handle hquiet.sound (fun id hid => ?_) ?_) ?_
      · exact .inl ⟨request, hd, hid⟩
      · intro hmoves hok bound hb
        refine .inr ⟨⟨request, hd, hmoves, ?_⟩, hb⟩
        unfold Fails
        rw [hattempt, hok]
        exact nofun
      · split
        · exact keepsTo_tellFailure c _ data _
        · exact keepsTo_pure _

/-- A connection stays bound to a session that nothing has touched. -/
theorem Within.boundSession {S : SessionId → Prop} {sv' : Server} (h : Within c S sv sv')
    (hquiet : sv.Quiescent) (hquiet' : sv'.Quiescent) {id : SessionId} (hid : ¬ S id) :
    sv'.boundSession? c = some id ↔ sv.boundSession? c = some id := by
  have hregistered : sv'.registeredRef? id = sv.registeredRef? id := by
    unfold registeredRef?
    rw [h.registered id hid]
  rw [hquiet.consistent.bound, hquiet'.consistent.bound, hregistered]
  refine exists_congr fun r => and_congr_right fun hr => ?_
  obtain ⟨s, hs, hsession, rfl, -⟩ := hquiet.sound.session_of_registeredRef hr
  rw [hsession, session_eq ((h.sessions r.number s hid).2 hs)]

/-- Whatever the inputs before: when a connection sends an event or comes to its end, every session but
those concerned is as it was, registered as it was, and has the connections bound to it that it had;
the other connections are bound as they were; and whoever is told something is the connection or a
member of a session concerned. -/
theorem turn_isolated (settings : Settings) (inputs : List Input) (c : ConnectionId) (turn : Turn) :
    let sv := (start settings).takeAll inputs
    let sv' := sv.turn c turn
    (∀ (n : Nat) (s : Session), ¬ sv.Concerns c turn s.id →
      (sv'.sessions[n]? = some s ↔ sv.sessions[n]? = some s)) ∧
    (∀ id, ¬ sv.Concerns c turn id → sv'.registeredRef? id = sv.registeredRef? id ∧
      ∀ d, sv'.boundSession? d = some id ↔ sv.boundSession? d = some id) ∧
    (∀ d, d ≠ c → sv'.boundSession? d = sv.boundSession? d) ∧
    ∃ told, sv'.network.log = told ++ sv.network.log ∧ ∀ x ∈ told, x.recipient = c ∨
      ∃ id r, sv.Concerns c turn id ∧ sv.registeredRef? id = some r ∧
        x.recipient ∈ (sv.session r).members := by
  intro sv sv'
  have hquiet : sv.Quiescent := (quiescent_start settings).takeAll inputs
  have hquiet' : sv'.Quiescent := by
    cases turn with
    | event name data => exact hquiet.dispatch c name data
    | quit => exact hquiet.disconnect c
  have h : Within c (sv.Concerns c turn) sv sv' := within_turn hquiet c turn
  have hothers : ∀ d, d ≠ c → sv'.boundSession? d = sv.boundSession? d :=
    fun d hdc => (h.others d (Ne.symm hdc)).binding
  refine ⟨h.sessions, fun id hid => ⟨?_, fun d => ?_⟩, hothers, ?_⟩
  · unfold registeredRef?
    rw [h.registered id hid]
  · by_cases hdc : d = c
    · rw [hdc]
      exact h.boundSession hquiet hquiet' hid
    · rw [hothers d hdc]
  · obtain ⟨told, htold, hmeant⟩ := h.told
    refine ⟨told, htold, fun x hx => (hmeant x hx).recipient.imp_right ?_⟩
    rintro ⟨n, s, hs, hconcerns, hmem⟩
    have hr := hquiet.sound.registeredRef_of_open hs (hquiet.sound.open_of_mem hs hmem)
    exact ⟨s.id, ⟨n, s.id⟩, hconcerns, hr, by rw [session_eq hs]; exact hmem⟩

end Server

end WatchParty
