/-
The kinds of calls that the handlers of requests make. A handler makes calls of a kind only if each of
its calls is of the kind, whatever those before it are answered. Most calls are plain: they neither
send anything by themselves nor move a session. `Request.MayCall` says which calls the handler of a
request may make at all.
-/
import WatchParty.Proofs.Handler.Requests

namespace WatchParty

/-- The call neither sets a session to a position nor sends an event to a connection. -/
def Call.Plain : Call → Prop
  | .setTime .. => False
  | .send .. => False
  | _ => True

namespace Handler

variable {α β : Type} {K L : Call → Prop}

/-- Every call of the handler is of the kind, whatever the calls before it are answered. -/
def Makes (K : Call → Prop) : Handler α → Prop
  | .done _ => True
  | .call q next => K q ∧ ∀ answer, (next answer).Makes K

theorem makes_ask {q : Call} (hq : K q) : (ask q).Makes K := ⟨hq, fun _ => trivial⟩

theorem Makes.mono {h : Handler α} (hh : h.Makes K) (hKL : ∀ q, K q → L q) : h.Makes L := by
  induction h with
  | done a => trivial
  | call q next ih => exact ⟨hKL q hh.1, fun answer => ih answer (hh.2 answer)⟩

theorem Makes.bind {h : Handler α} {f : α → Handler β} (hh : h.Makes K) (hf : ∀ a, (f a).Makes K) :
    (h >>= f).Makes K := by
  change (h.andThen f).Makes K
  induction h with
  | done a => exact hf a
  | call q next ih => exact ⟨hh.1, fun answer => ih answer (hh.2 answer)⟩

/-! ## Requests -/

theorem makes_depart_of {c : ConnectionId} (hunbind : K (.unbind c)) (hdestroy : ∀ id, K (.destroyIfEmpty id)) :
    (depart c).Makes K := by
  rw [depart_eq]
  refine ⟨hunbind, fun outcome => ?_⟩
  cases outcome with
  | error e => trivial
  | ok unbound =>
    by_cases hempty : unbound.leavesNobody
    · simp only [departed, hempty, if_true]
      exact ⟨hdestroy unbound.session, fun _ => trivial⟩
    · simp only [departed, hempty]
      trivial

theorem makes_enrol_of {c : ConnectionId} {r : SessionRef} {nick : String} (hadd : K (.addMember r c nick))
    (hbind : K (.bind c r.id)) : (enrol c r nick).Makes K := by
  rw [enrol_eq]
  refine ⟨hadd, fun outcome => ?_⟩
  cases outcome with
  | error e => trivial
  | ok member => exact ⟨hbind, fun _ => trivial⟩

theorem makes_join_of {c : ConnectionId} {id : SessionId} {nick : String} (hlookup : K (.lookup id))
    (hbound : K (.boundSession c)) (hdepart : (depart c).Makes K) (henrol : ∀ r, (enrol c r nick).Makes K) :
    (join c id nick).Makes K := by
  unfold join
  refine Makes.bind (makes_ask hlookup) fun outcome => ?_
  cases outcome with
  | error e => trivial
  | ok r =>
    refine Makes.bind (makes_ask hbound) fun bound => ?_
    by_cases hhere : bound = some r.id
    · simp only [hhere, ne_eq, not_true_eq_false, if_false]
      exact henrol r
    · simp only [ne_eq, hhere, not_false_eq_true, if_true]
      exact Makes.bind hdepart fun _ => henrol r

/-- Looking a session up is one call, and the other is the one that is made on the session. -/
theorem makes_onSession (id : SessionId) {q : SessionRef → Call} (hlookup : K (.lookup id))
    (hq : ∀ r, K (q r)) : (onSession id q).Makes K := by
  unfold onSession
  refine Makes.bind (makes_ask hlookup) fun outcome => ?_
  cases outcome with
  | error e => trivial
  | ok r => exact Makes.bind (makes_ask (hq r)) fun _ => trivial

theorem makes_leave_of {c : ConnectionId} (hdepart : (depart c).Makes K) : (handle c .leave).Makes K := by
  refine Makes.bind hdepart fun outcome => ?_
  cases outcome with
  | error e => trivial
  | ok id => trivial

theorem makes_depart (c : ConnectionId) : (depart c).Makes Call.Plain :=
  makes_depart_of trivial fun _ => trivial

theorem makes_enrol (c : ConnectionId) (r : SessionRef) (nick : String) :
    (enrol c r nick).Makes Call.Plain :=
  makes_enrol_of trivial trivial

theorem makes_join (c : ConnectionId) (id : SessionId) (nick : String) :
    (join c id nick).Makes Call.Plain :=
  makes_join_of trivial trivial (makes_depart c) fun r => makes_enrol c r nick

theorem makes_leave (c : ConnectionId) : (handle c .leave).Makes Call.Plain :=
  makes_leave_of (makes_depart c)

end Handler

/-! ## The calls of a request -/

/-- The nickname that a request asks for. -/
def Request.nick? : Request → Option String
  | .new _ _ nick => some nick
  | .join _ nick => some nick
  | _ => none

/-- The handler of the request may make the call for the connection. -/
def Request.MayCall (c : ConnectionId) (request : Request) : Call → Prop
  | .boundSession d => d = c
  | .unbind d => d = c
  | .create videoId time => ∃ nick, request = .new videoId time nick
  | .addMember _ d nick => d = c ∧ request.nick? = some nick
  | .bind d _ => d = c
  | .play _ => ∃ id, request = .play id
  | .pause _ => ∃ id, request = .pause id
  | .setTime _ time => ∃ id, request = .seek id time
  | .send d e => d = c ∧ e.view?.isSome = true
  | _ => True

namespace Handler

theorem mayCall_newSession (c : ConnectionId) (videoId time : UInt64) (nick : String) :
    (newSession c videoId time nick).Makes ((Request.new videoId time nick).MayCall c) := by
  unfold newSession
  refine Makes.bind (makes_depart_of rfl fun _ => trivial) fun _ => ?_
  refine Makes.bind (makes_ask ⟨nick, rfl⟩) fun r => ?_
  refine Makes.bind (makes_enrol_of ⟨rfl, rfl⟩ rfl) fun outcome => ?_
  cases outcome with
  | error e => trivial
  | ok _ => exact ⟨trivial, fun view => ⟨⟨rfl, rfl⟩, fun _ => trivial⟩⟩

theorem mayCall_getSync (c : ConnectionId) (id : SessionId) :
    (getSync c id).Makes ((Request.getSync id).MayCall c) := by
  unfold getSync
  refine Makes.bind (makes_ask trivial) fun outcome => ?_
  cases outcome with
  | error e => trivial
  | ok r => exact ⟨trivial, fun view => ⟨⟨rfl, rfl⟩, fun _ => trivial⟩⟩

/-- A handler makes no other calls than those of its request. -/
theorem mayCall_handle (c : ConnectionId) (request : Request) : (handle c request).Makes (request.MayCall c) := by
  cases request with
  | new videoId time nick => exact mayCall_newSession c videoId time nick
  | join id nick =>
    exact makes_join_of trivial rfl (makes_depart_of rfl fun _ => trivial) fun r =>
      makes_enrol_of ⟨rfl, rfl⟩ rfl
  | getSync id => exact mayCall_getSync c id
  | play id => exact makes_onSession id trivial fun _ => ⟨id, rfl⟩
  | pause id => exact makes_onSession id trivial fun _ => ⟨id, rfl⟩
  | seek id time => exact makes_onSession id trivial fun _ => ⟨id, rfl⟩
  | leave => exact makes_leave_of (makes_depart_of rfl fun _ => trivial)

end Handler

end WatchParty
