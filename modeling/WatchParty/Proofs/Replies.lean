/-
What a connection is told of what becomes of its event. The reasons for which an event is rebuffed are
written down with the event that says so: `Server.Rebuffs`. A rebuff is all that anybody is told then,
and there is no other: an event that is not rebuffed succeeds, and those whom it concerns are shown
sessions (`dispatch_rebuffs_iff`).
-/
import WatchParty.Proofs.Decoding
import WatchParty.Proofs.Isolation

namespace WatchParty

/-- The event tells of a failure. -/
def Event.IsRebuff : Event → Prop
  | .invalidSessionId _ => True
  | .invalidNewData _ => True
  | .invalidData _ => True
  | .memberNotFound => True
  | _ => False

/-- The event shows a session. -/
def Event.IsShow : Event → Prop
  | .newSession _ => True
  | .joinSession _ => True
  | .sync _ => True
  | _ => False

/-- The call sends nothing by itself but events that show a session. -/
def Call.Showing : Call → Prop
  | .send _ e => e.IsShow
  | _ => True

/-- What is delivered is an event that shows a session. -/
def Delivery.IsShow (x : Delivery) : Prop := ∃ e : Event, x.content = .event e ∧ e.IsShow

/-- The event of a connection with these data is rebuffed by that event. -/
inductive Server.Rebuffs (sv : Server) (c : ConnectionId) (event : String) (data : Json) : Event → Prop
  | undecodable {name : String} (h : Request.decode event data = .error (.undecodable name)) :
    Rebuffs sv c event data (.invalidData data)
  | unknown {name : String} (h : Request.decode event data = .error (.unknownEvent name)) :
    Rebuffs sv c event data (.invalidData data)
  | newData {name reason : String} (h : Request.decode event data = .error (.invalidData name reason))
    (hevent : event = Verb.new.name) : Rebuffs sv c event data (.invalidNewData data)
  | otherData {name reason : String} (h : Request.decode event data = .error (.invalidData name reason))
    (hevent : event ≠ Verb.new.name) : Rebuffs sv c event data (.invalidData data)
  /-- the session is named as the client spelled it -/
  | session {request : Request} {id : SessionId} (h : Request.decode event data = .ok request)
    (hid : request.session? = some id) (hnone : sv.registeredRef? id = none) :
    Rebuffs sv c event data (.invalidSessionId id.text)
  | leave (h : Request.decode event data = .ok .leave) (hnone : sv.boundSession? c = none) :
    Rebuffs sv c event data .memberNotFound

namespace Network

variable {P Q : Delivery → Prop} {net net' : Network}

/-- What was delivered is of both kinds if it is of each. -/
theorem Tells.and (h : Tells P net net') (k : Tells Q net net') :
    Tells (fun x => P x ∧ Q x) net net' := by
  obtain ⟨told, htold, hP⟩ := h
  obtain ⟨told', htold', hQ⟩ := k
  have hsame : told' = told := List.append_cancel_right (htold'.symm.trans htold)
  subst hsame
  exact ⟨told', htold, fun x hx => ⟨hP x hx, hQ x hx⟩⟩

end Network

open Network (Tells)

namespace Server

variable {sv : Server} {c : ConnectionId} {event : String} {data : Json} {reply : Event}

/-! ## Calls that show sessions -/

theorem shows_sync (s : Session) (net : Network) : Tells Delivery.IsShow net (s.sync net) :=
  Network.tells_emitAll fun _ _ => ⟨_, rfl, trivial⟩

/-- A fair call that is no reply tells of nothing but sessions. -/
theorem shows_answer {q : Call} (hfair : q.Fair c sv) (hq : q.Showing) :
    Tells Delivery.IsShow sv.network (sv.answer q).2.network := by
  have hsound := hfair.sound
  cases q with
  | unbind d =>
    show Tells _ _ (sv.unbind d).2.network
    cases hd : sv.bindings[d]? with
    | none => rw [unbind_unbound hd]; exact .refl _ _
    | some id =>
      obtain ⟨n, s, m, -, -, -, -, heq⟩ := hsound.unbind_bound hd
      rw [heq]
      by_cases hempty : (s.without d).members.isEmpty
      · simp only [hempty, if_true]
        exact .refl _ _
      · simp only [hempty]
        exact shows_sync _ _
  | destroyIfEmpty id =>
    show Tells _ _ (sv.destroyIfEmpty id).2.network
    rw [network_destroyIfEmpty hsound]
    exact .refl _ _
  | create videoId time =>
    show Tells _ _ (sv.create videoId time).2.network
    rw [network_create hsound]
    exact .refl _ _
  | addMember r d nick =>
    obtain ⟨-, s, hs, -⟩ := hfair.proper
    show Tells _ _ (sv.addMember r d nick).2.network
    cases hclosed : s.closed with
    | true => rw [addMember_closed hs hclosed]; exact .refl _ _
    | false =>
      rw [addMember_open hs hclosed]
      exact (Network.tells_emit ⟨_, rfl, trivial⟩).trans (shows_sync _ _)
  | play r =>
    show Tells _ _ ((sv.session r).play sv.network).2
    rcases (sv.session r).play_cases sv.network with hsame | hsync
    · rw [hsame]; exact .refl _ _
    · rw [hsync]; exact shows_sync _ _
  | pause r => exact shows_sync _ _
  | setTime r time => exact shows_sync _ _
  | send d e => exact Network.tells_emit ⟨e, rfl, hq⟩
  | _ => exact .refl _ _

end Server

namespace Handler

open Server

variable {sv : Server} {c : ConnectionId}

/-! ## Requests -/

/-- No handler of a request tells a failure by itself. -/
theorem makes_handle (c : ConnectionId) (request : Request) : (handle c request).Makes Call.Showing := by
  refine (mayCall_handle c request).mono fun q hq => ?_
  cases q with
  | send d e =>
    obtain ⟨-, hview⟩ := hq
    cases e with
    | newSession view => trivial
    | joinSession view => trivial
    | sync view => trivial
    | _ => cases hview
  | _ => trivial

/-- A request about a session that is not registered fails at once. -/
theorem handle_run_missing {request : Request} {id : SessionId} (hid : request.session? = some id)
    (hnone : sv.registeredRef? id = none) :
    (handle c request).run sv = (.error (.sessionNotFound id), sv) := by
  have hlookup : (ask (.lookup id)).run sv = (.error (.sessionNotFound id), sv) := by
    show (sv.lookup id, sv) = _
    rw [lookup_of_none hnone]
  have honSession : ∀ q, (onSession id q).run sv = (.error (.sessionNotFound id), sv) := by
    intro q
    rw [onSession, run_bind, hlookup]
    rfl
  cases request with
  | new videoId time nick => cases hid
  | leave => cases hid
  | join id nick =>
    cases hid
    exact join_run_missing hnone nick
  | getSync id =>
    cases hid
    rw [handle, getSync, run_bind, hlookup]
    rfl
  | play id | pause id | seek id time =>
    cases hid
    exact honSession _

/-- A request succeeds if the session that it names is registered, and if it is made from a session in
case it is to leave. -/
theorem handle_run_ok (hsound : sv.Sound) (hopen : sv.network.isOpen c = true) {request : Request}
    (hid : ∀ id, request.session? = some id → sv.registeredRef? id ≠ none)
    (hleave : request = .leave → sv.boundSession? c ≠ none) :
    ((handle c request).run sv).1 = .ok () := by
  have hg := hsound.grounded
  have hregistered : ∀ {id}, request.session? = some id → ∃ r, sv.registeredRef? id = some r :=
    fun h => Option.ne_none_iff_exists'.1 (hid _ h)
  have honSession : ∀ {id q}, request.session? = some id → ((onSession id q).run sv).1 = .ok () := by
    intro id q h
    obtain ⟨r, hr⟩ := hregistered h
    rw [onSession, run_bind, run_ask]
    simp only [Server.answer]
    rw [lookup_of_registeredRef hr]
    rfl
  cases request with
  | new videoId time nick => exact newSession_run hg videoId time nick
  | join id nick =>
    obtain ⟨r, hr⟩ := hregistered rfl
    -- a registered session is open
    obtain ⟨s, -, hsession, -, hs⟩ := hsound.session_of_registeredRef hr
    exact join_run_open hg hr (hsession ▸ hs) nick
  | getSync id =>
    obtain ⟨r, hr⟩ := hregistered rfl
    rw [handle, getSync, run_bind, run_ask]
    simp only [Server.answer]
    rw [lookup_of_registeredRef hr]
    show (sv.network.emit c (.sync (sv.session r).view)).1 = .ok ()
    rw [Network.emit, if_pos hopen]
  | play id => exact honSession rfl
  | pause id => exact honSession rfl
  | seek id time => exact honSession rfl
  | leave =>
    obtain ⟨bound, hb⟩ := Option.ne_none_iff_exists'.1 (hleave rfl)
    obtain ⟨⟨id, hok⟩, -, -⟩ := depart_run_bound (r := ⟨0, bound⟩) hg hb
    rw [handle, run_bind, hok]
    rfl

end Handler

namespace Server

open Handler

variable {sv : Server} {c : ConnectionId} {event : String} {data : Json} {reply : Event}

/-! ## Events -/

theorem Rebuffs.isRebuff (h : sv.Rebuffs c event data reply) : reply.IsRebuff := by
  cases h <;> trivial

/-- What an event that is rebuffed comes to is the rebuff. -/
theorem Rebuffs.dispatch (h : sv.Rebuffs c event data reply) :
    sv.dispatch c event data = (sv.send c reply).2 := by
  unfold Server.dispatch Handler.dispatch
  cases h with
  | undecodable h => rw [h]; rfl
  | unknown h => rw [h]; rfl
  | newData h hevent | otherData h hevent =>
    rw [h]
    unfold tellFailure Error.reply?
    simp only [hevent, if_true, if_false]
    rfl
  | session h hid hnone =>
    rw [h]
    show ((handle c _ >>= _).run sv).2 = _
    rw [run_bind, handle_run_missing hid hnone]
    rfl
  | leave h hnone =>
    rw [h]
    show ((handle c .leave >>= _).run sv).2 = _
    rw [run_bind, handle, run_bind, depart_run_unbound hnone]
    rfl

/-- An open connection is told of the rebuff, and that is all. -/
theorem Rebuffs.log (h : sv.Rebuffs c event data reply) (hopen : sv.network.isOpen c = true) :
    (sv.dispatch c event data).network.log = [⟨c, .event reply⟩] ++ sv.network.log := by
  rw [h.dispatch]
  show (sv.network.emit c reply).2.log = _
  rw [Network.emit, if_pos hopen]
  rfl

/-- The handler of a request tells of nothing but sessions. -/
theorem shows_handle (hsound : sv.Sound) (h : Settled c sv) (request : Request) :
    Tells Delivery.IsShow sv.network ((handle c request).run sv).2.network := by
  have hfair : (handle c request).Along (fun sv q => q.Fair c sv) sv :=
    (safe_handle hsound h request).along hsound (candid_handle c request) nofun
  refine (hfair.and ((makes_handle c request).along sv)).run (R := fun sv sv' =>
    Tells Delivery.IsShow sv.network sv'.network) (fun _ => .refl _ _) .trans fun sv q hq => ?_
  exact shows_answer hq.1 hq.2

/-- An event that is not rebuffed is a request that succeeds. -/
theorem Sound.succeeds (hsound : sv.Sound) (hopen : sv.network.isOpen c = true)
    (h : ∀ reply, ¬ sv.Rebuffs c event data reply) :
    ∃ request, Request.decode event data = .ok request ∧ ((handle c request).run sv).1 = .ok () := by
  cases hd : Request.decode event data with
  | error e =>
    rcases Request.error_of_decode hd with ⟨name, rfl⟩ | ⟨name, rfl⟩ | ⟨name, reason, rfl⟩
    · exact absurd (.undecodable hd) (h _)
    · exact absurd (.unknown hd) (h _)
    · by_cases hevent : event = Verb.new.name
      · exact absurd (.newData hd hevent) (h _)
      · exact absurd (.otherData hd hevent) (h _)
  | ok request =>
    refine ⟨request, rfl, handle_run_ok hsound hopen (fun id hid hnone => ?_) ?_⟩
    · exact h _ (.session hd hid hnone)
    · rintro rfl hnone
      exact h _ (.leave hd hnone)

/-- Who is meant as a member of a session is a member of one that is registered. -/
theorem Quiescent.registered_of_meant (hquiet : sv.Quiescent) {S : SessionId → Prop} {x : Delivery}
    (hx : x.Meant c S sv) : x.recipient = c ∨
      ∃ id r, S id ∧ sv.registeredRef? id = some r ∧ x.recipient ∈ (sv.session r).members := by
  refine hx.recipient.imp_right ?_
  rintro ⟨n, s, hs, hS, hmem⟩
  have hr := hquiet.sound.registeredRef_of_open hs (hquiet.sound.open_of_mem hs hmem)
  exact ⟨s.id, ⟨n, s.id⟩, hS, hr, by rw [session_eq hs]; exact hmem⟩

/-- A request that succeeds shows sessions to those whom it concerns. -/
theorem Quiescent.shows_dispatch (hquiet : sv.Quiescent) {request : Request}
    (hd : Request.decode event data = .ok request) (hok : ((handle c request).run sv).1 = .ok ()) :
    ¬ sv.Fails c event data ∧
      Tells (fun x => x.IsShow ∧ (x.recipient = c ∨ ∃ id r, sv.Concerns c (.event event data) id ∧
        sv.registeredRef? id = some r ∧ x.recipient ∈ (sv.session r).members)) sv.network
        (sv.dispatch c event data).network := by
  constructor
  · unfold Fails attempt
    rw [hd]
    show ¬ ((handle c request).run sv).1.isOk = false
    rw [hok]
    intro hfalse
    cases hfalse
  · have hshows := shows_handle hquiet.sound (hquiet.settled c) request
    rw [← dispatch_of_ok hd hok] at hshows
    have hmeant := (within_turn hquiet c (.event event data)).told
    exact (hshows.and hmeant).mono fun x hx => ⟨hx.1, hquiet.registered_of_meant hx.2⟩

/-- Whatever the inputs before: an event of an open connection is answered by a rebuff exactly if there
is a reason to, and then nothing else is told to anybody. Any other event succeeds, and its connection
and the members of the sessions that it concerns are shown sessions at most. -/
theorem dispatch_rebuffs_iff (settings : Settings) (inputs : List Input) (c : ConnectionId)
    (event : String) (data : Json) (hopen : ((start settings).takeAll inputs).network.isOpen c = true) :
    let sv := (start settings).takeAll inputs
    ∃ told, (sv.dispatch c event data).network.log = told ++ sv.network.log ∧
      ((∃ x ∈ told, ∃ e : Event, x.content = .event e ∧ e.IsRebuff) ↔
        ∃ reply, sv.Rebuffs c event data reply) ∧
      (∀ reply, sv.Rebuffs c event data reply → told = [⟨c, .event reply⟩]) ∧
      ((∀ reply, ¬ sv.Rebuffs c event data reply) → ¬ sv.Fails c event data ∧
        ∀ x ∈ told, x.IsShow ∧ (x.recipient = c ∨ ∃ id r, sv.Concerns c (.event event data) id ∧
          sv.registeredRef? id = some r ∧ x.recipient ∈ (sv.session r).members)) := by
  intro sv
  have hquiet : sv.Quiescent := (quiescent_start settings).takeAll inputs
  by_cases hrebuffed : ∃ reply, sv.Rebuffs c event data reply
  · obtain ⟨reply, h⟩ := hrebuffed
    refine ⟨[⟨c, .event reply⟩], h.log hopen, ?_, fun reply' h' => ?_, fun hnone => absurd h (hnone reply)⟩
    · exact ⟨fun _ => ⟨reply, h⟩, fun _ => ⟨_, List.mem_singleton_self _, reply, rfl, h.isRebuff⟩⟩
    · exact List.append_cancel_right ((h.log hopen).symm.trans (h'.log hopen))
  · rw [not_exists] at hrebuffed
    obtain ⟨request, hd, hok⟩ := hquiet.sound.succeeds hopen hrebuffed
    obtain ⟨hsucceeds, told, htold, hall⟩ := hquiet.shows_dispatch hd hok
    refine ⟨told, htold, ⟨?_, ?_⟩, fun reply h => absurd h (hrebuffed reply), fun _ => ⟨hsucceeds, hall⟩⟩
    · -- what is told shows a session, and no rebuff does
      rintro ⟨x, hx, e, he, hrebuff⟩
      obtain ⟨⟨e', he', hshow⟩, -⟩ := hall x hx
      rw [he] at he'
      cases he'
      cases e <;> first | exact hshow.elim | exact hrebuff.elim
    · rintro ⟨reply, h⟩
      exact absurd h (hrebuffed reply)

/-- Bob names a session that there is not, and gets the name back with the white space around it. -/
theorem unknown_session_is_rebuffed :
    let bob : ConnectionId := ⟨"bob"⟩
    let nowhere : Json := .object [("session_id", .string " nowhere ")]
    let sv := (start {}).takeAll [.dispatch ⟨"alice"⟩ "flixy new" (.object [("video_id", .natural 1)])]
    (sv.dispatch bob "flixy join" nowhere).network.log =
      ⟨bob, .event (.invalidSessionId " nowhere ")⟩ :: sv.network.log := by
  intro bob nowhere sv
  have hopen : sv.network.isOpen bob = true := by decide
  have hdecode : Request.decode "flixy join" nowhere = .ok (.join ⟨" nowhere "⟩ "") := rfl
  have hnone : sv.registeredRef? ⟨" nowhere "⟩ = none := by decide
  have hrebuffed : sv.Rebuffs bob "flixy join" nowhere (.invalidSessionId " nowhere ") :=
    .session hdecode rfl hnone
  obtain ⟨told, htold, -, honly, -⟩ := dispatch_rebuffs_iff {}
    [.dispatch ⟨"alice"⟩ "flixy new" (.object [("video_id", .natural 1)])] bob "flixy join" nowhere hopen
  rw [honly _ hrebuffed] at htold
  exact htold

end Server

end WatchParty
