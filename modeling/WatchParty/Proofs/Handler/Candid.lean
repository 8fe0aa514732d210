/-
Which views the handlers of requests send. All of them are candid: whatever view of a session one of
them sends, it has looked at the session in the call before.
-/
import WatchParty.Proofs.Handler.Requests

namespace WatchParty

/-- The view that the answer to a call shows. -/
def Call.seen? : (q : Call) → q.Answer → Option SessionView
  | .view _, v => some v
  | _, _ => none

/-- The call sends no view but this one. -/
def Call.Repeats (seen : Option SessionView) : Call → Prop
  | .send _ e => ∀ v, e.view? = some v → seen = some v
  | _ => True

theorem Call.Repeats.of_none {q : Call} (h : q.Repeats none) (seen : Option SessionView) :
    q.Repeats seen := by
  cases q with
  | send d e => exact fun v hv => absurd (h v hv) nofun
  | _ => exact trivial

namespace Handler

variable {α β : Type}

/-- Whatever view the handler sends, the call before has shown it. -/
def Candid : Handler α → Option SessionView → Prop
  | .done _, _ => True
  | .call q next, seen => q.Repeats seen ∧ ∀ answer, (next answer).Candid (q.seen? answer)

theorem Candid.of_none {h : Handler α} (hc : h.Candid none) (seen : Option SessionView) :
    h.Candid seen := by
  cases h with
  | done a => trivial
  | call q next => exact ⟨hc.1.of_none seen, hc.2⟩

theorem Candid.bind {h : Handler α} {f : α → Handler β} {seen : Option SessionView}
    (hc : h.Candid seen) (hf : ∀ a, (f a).Candid none) : (h >>= f).Candid seen := by
  change (h.andThen f).Candid seen
  induction h generalizing seen with
  | done a => exact (hf a).of_none seen
  | call q next ih => exact ⟨hc.1, fun answer => ih answer (hc.2 answer)⟩

theorem candid_ask {q : Call} (hq : q.Repeats none) : (ask q).Candid none := ⟨hq, fun _ => trivial⟩

theorem candid_depart (c : ConnectionId) : (depart c).Candid none := by
  rw [depart_eq]
  refine ⟨trivial, fun outcome => ?_⟩
  cases outcome with
  | error e => trivial
  | ok unbound =>
    by_cases hempty : unbound.leavesNobody
    · simp only [departed, hempty, if_true]
      exact ⟨trivial, fun _ => trivial⟩
    · simp only [departed, hempty]
      trivial

theorem candid_enrol (c : ConnectionId) (r : SessionRef) (nick : String) :
    (enrol c r nick).Candid none := by
  rw [enrol_eq]
  refine ⟨trivial, fun outcome => ?_⟩
  cases outcome with
  | error e => trivial
  | ok member => exact ⟨trivial, fun _ => trivial⟩

theorem candid_newSession (c : ConnectionId) (videoId time : UInt64) (nick : String) :
    (newSession c videoId time nick).Candid none := by
  unfold newSession
  refine Candid.bind (candid_depart c) fun _ => ?_
  refine Candid.bind (candid_ask trivial) fun r => ?_
  refine Candid.bind (candid_enrol c r nick) fun outcome => ?_
  cases outcome with
  | error e => trivial
  | ok _ => exact ⟨trivial, fun view => ⟨fun v hv => hv, fun _ => trivial⟩⟩

theorem candid_join (c : ConnectionId) (id : SessionId) (nick : String) :
    (join c id nick).Candid none := by
  unfold join
  refine Candid.bind (candid_ask trivial) fun outcome => ?_
  cases outcome with
  | error e => trivial
  | ok r =>
    refine Candid.bind (candid_ask trivial) fun bound => ?_
    by_cases hhere : bound = some r.id
    · simp only [hhere, ne_eq, not_true_eq_false, if_false]
      exact candid_enrol c r nick
    · simp only [ne_eq, hhere, not_false_eq_true, if_true]
      exact Candid.bind (candid_depart c) fun _ => candid_enrol c r nick

theorem candid_getSync (c : ConnectionId) (id : SessionId) : (getSync c id).Candid none := by
  unfold getSync
  refine Candid.bind (candid_ask trivial) fun outcome => ?_
  cases outcome with
  | error e => trivial
  | ok r => exact ⟨trivial, fun view => ⟨fun v hv => hv, fun _ => trivial⟩⟩

theorem candid_onSession (id : SessionId) {q : SessionRef → Call} (hq : ∀ r, (q r).Repeats none) :
    (onSession id q).Candid none := by
  unfold onSession
  refine Candid.bind (candid_ask trivial) fun outcome => ?_
  cases outcome with
  | error e => trivial
  | ok r => exact Candid.bind (candid_ask (hq r)) fun _ => trivial

theorem candid_handle (c : ConnectionId) (request : Request) : (handle c request).Candid none := by
  cases request with
  | new videoId time nick => exact candid_newSession c videoId time nick
  | join id nick => exact candid_join c id nick
  | getSync id => exact candid_getSync c id
  | play id => exact candid_onSession id fun _ => trivial
  | pause id => exact candid_onSession id fun _ => trivial
  | seek id time => exact candid_onSession id fun _ => trivial
  | leave =>
    refine Candid.bind (candid_depart c) fun outcome => ?_
    cases outcome with
    | error e => trivial
    | ok id => trivial

/-- No failure is told by a view. -/
theorem view?_of_reply {event : String} {data : Json} {e : Error} {reply : Event}
    (h : e.reply? event data = some reply) : reply.view? = none := by
  cases e with
  | invalidData name reason =>
    unfold Error.reply? at h
    simp only at h
    split at h
    · cases h; rfl
    · cases h; rfl
  | _ => cases h <;> rfl

theorem candid_tellFailure (c : ConnectionId) (event : String) (data : Json) (e : Error) :
    (tellFailure c event data e).Candid none := by
  unfold tellFailure
  split
  · trivial
  · rename_i reply hreply
    refine Candid.bind (candid_ask fun v hv => ?_) fun _ => trivial
    rw [view?_of_reply hreply] at hv
    cases hv

theorem candid_dispatch (c : ConnectionId) (event : String) (data : Json) :
    (dispatch c event data).Candid none := by
  unfold dispatch
  split
  · exact candid_tellFailure c event data _
  · refine Candid.bind (candid_handle c _) fun outcome => ?_
    cases outcome with
    | error e => exact candid_tellFailure c _ data e
    | ok _ => trivial

theorem candid_disconnect (c : ConnectionId) : (disconnect c).Candid none :=
  Candid.bind (candid_depart c) fun _ => trivial

end Handler

end WatchParty
