/-
The handler of every request is safe and tidy, and so is the program for any event and for the end of a
connection. What is proved of a handler's end is what its connection can tell of itself then, whatever
the handlers of others did in between: it is settled, and after a join it is bound to the session, or
there was none to join.
-/
import WatchParty.Proofs.Handler.Safe
import WatchParty.Proofs.Server.Standing

namespace WatchParty

namespace Handler

open Server

variable {c : ConnectionId} {r : SessionRef} {sv : Server}

/-! ## Calls that leave a settled connection settled -/

theorem safe_done {α : Type} (h : Settled c sv) (a : α) :
    (done a).Safe c (fun _ => Settled c) sv :=
  fun _ h₁ => h.undisturbed h₁.undisturbed

theorem safe_view (h : Settled c sv) (hr : sv.Has r) :
    (ask (.view r)).Safe c (fun _ => Settled c) sv := by
  refine safe_ask (fun _ _ _ hu hs => hs.undisturbed hu) fun sv₁ h₁ => ?_
  exact ⟨h₁.undisturbed.has r hr, h.undisturbed h₁.undisturbed⟩

theorem safe_send (h : Settled c sv) (e : Event) :
    (ask (.send c e)).Safe c (fun _ => Settled c) sv := by
  refine safe_ask (fun _ _ _ hu hs => hs.undisturbed hu) fun sv₁ h₁ => ⟨rfl, ?_⟩
  have hsent : Undisturbed c sv₁ (sv₁.send c e).2 := .of_sameRoster (sameRoster_send sv₁ c e) c
  exact h.undisturbed (h₁.undisturbed.trans hsent)

/-! ## Leaving and entering -/

/-- What is left to do once a connection has been unbound. -/
def departed : Except Error Unbound → Handler (Except Error SessionId)
  | .error e => .done (.error e)
  | .ok unbound =>
    if unbound.leavesNobody then
      .call (.destroyIfEmpty unbound.session) fun _ => .done (.ok unbound.session)
    else .done (.ok unbound.session)

theorem depart_eq (c : ConnectionId) : depart c = .call (.unbind c) departed := by
  refine congrArg (Handler.call (.unbind c)) (funext fun outcome => ?_)
  cases outcome with
  | error e => rfl
  | ok unbound => rfl

/-- What is left to do once a connection has been added as a member. -/
def admitted (c : ConnectionId) (r : SessionRef) : Except Error Member → Handler (Except Error Unit)
  | .error e => .done (.error e)
  | .ok _ => .call (.bind c r.id) fun _ => .done (.ok ())

theorem enrol_eq (c : ConnectionId) (r : SessionRef) (nick : String) :
    enrol c r nick = .call (.addMember r c nick) (admitted c r) := by
  refine congrArg (Handler.call (.addMember r c nick)) (funext fun outcome => ?_)
  cases outcome with
  | error e => rfl
  | ok member => rfl

/-- After leaving, the connection is in no session. -/
theorem safe_depart (h : Settled c sv) :
    (depart c).Safe c (fun _ sv' => Apart c sv' ∧ ∀ r, sv.Has r → sv'.Has r) sv := by
  rw [depart_eq]
  intro sv₁ h₁
  have hsettled : Settled c sv₁ := h.undisturbed h₁.undisturbed
  have hhas : ∀ r, sv.Has r → (sv₁.unbind c).2.Has r := fun r hr =>
    h₁.sound.has_unbind (h₁.undisturbed.has r hr)
  have hapart : Apart c (sv₁.unbind c).2 := hsettled.apart_unbind h₁.sound
  refine ⟨rfl, ?_⟩
  -- from here on others may act, but neither fact depends on them
  have hend : ∀ {sv₂ : Server}, Undisturbed c (sv₁.unbind c).2 sv₂ →
      Apart c sv₂ ∧ ∀ r, sv.Has r → sv₂.Has r := fun hu =>
    ⟨hapart.undisturbed hu, fun r hr => hu.has r (hhas r hr)⟩
  change (departed (sv₁.unbind c).1).Safe c _ (sv₁.unbind c).2
  cases (sv₁.unbind c).1 with
  | error e => exact fun sv₂ h₂ => hend h₂.undisturbed
  | ok unbound =>
    by_cases hempty : unbound.leavesNobody
    · simp only [departed, hempty, if_true]
      intro sv₂ h₂
      refine ⟨trivial, fun sv₃ h₃ => ?_⟩
      have hdestroy : Undisturbed c sv₂ (sv₂.destroyIfEmpty unbound.session).2 :=
        .destroyIfEmpty h₂.sound unbound.session c
      exact hend ((h₂.undisturbed.trans hdestroy).trans h₃.undisturbed)
    · simp only [departed, hempty]
      exact fun sv₂ h₂ => hend h₂.undisturbed

/-- How entering a session ends: bound to it, or refused because it is closed and in no session. -/
def Entered (c : ConnectionId) (r : SessionRef) : Except Error Unit → Server → Prop
  | .ok (), sv => Confined c r sv ∧ sv.bindings[c]? = some r.id
  | .error e, sv => e = .sessionClosed r.id ∧ Apart c sv

theorem safe_enrol (h : Confined c r sv) (nick : String) :
    (enrol c r nick).Safe c (Entered c r) sv := by
  rw [enrol_eq]
  intro sv₁ h₁
  have h := h.undisturbed h₁.undisturbed
  obtain ⟨s, hs, hid⟩ := h.has
  refine ⟨⟨rfl, h.has⟩, ?_⟩
  change (admitted c r (sv₁.addMember r c nick).1).Safe c _ (sv₁.addMember r c nick).2
  cases hclosed : s.closed with
  | true =>
    rw [addMember_closed hs hclosed]
    intro sv₂ h₂
    have hapart := h.apart_of_closed h₁.sound hs hclosed
    exact ⟨by rw [hid], hapart.undisturbed h₂.undisturbed⟩
  | false =>
    obtain ⟨hadded, hseat⟩ := h.addMember hs hclosed nick
    revert hadded hseat
    rw [addMember_open hs hclosed]
    intro hadded hseat sv₂ h₂
    have hadded := hadded.undisturbed h₂.undisturbed
    rw [← h₂.undisturbed.seat] at hseat
    obtain ⟨t, ht, htid⟩ := hadded.has
    refine ⟨⟨rfl, r.number, t, ht, htid, mem_of_seat?_isSome ht hseat⟩, fun sv₃ h₃ => ?_⟩
    have hbound : sv₃.bindings[c]? = some r.id := by
      rw [h₃.undisturbed.binding]
      exact Std.ExtTreeMap.getElem?_insert_self
    have hconfined : Confined c r (sv₂.bind c r.id).2 :=
      ⟨hadded.has, .inr Std.ExtTreeMap.getElem?_insert_self, hadded.seat⟩
    exact ⟨hconfined.undisturbed h₃.undisturbed, hbound⟩

theorem Entered.settled {outcome : Except Error Unit} (h : Entered c r outcome sv) :
    Settled c sv := by
  cases outcome with
  | error e => exact h.2.settled
  | ok _ => exact h.1.settled h.2

/-- How a lookup ends: with a reference, or not found and then the connection is not bound to it. -/
def Found (c : ConnectionId) (id : SessionId) : Except Error SessionRef → Server → Prop
  | .ok r, sv => Settled c sv ∧ r.id = id ∧ sv.Has r
  | .error e, sv => Settled c sv ∧ e = .sessionNotFound id ∧ sv.bindings[c]? ≠ some id

theorem Found.undisturbed {id : SessionId} {outcome : Except Error SessionRef} {sv' : Server}
    (hu : Undisturbed c sv sv') (h : Found c id outcome sv) : Found c id outcome sv' := by
  cases outcome with
  | error e => exact ⟨h.1.undisturbed hu, h.2.1, by rw [hu.binding]; exact h.2.2⟩
  | ok r => exact ⟨h.1.undisturbed hu, h.2.1, hu.has r h.2.2⟩

theorem safe_lookup (h : Settled c sv) (id : SessionId) :
    (ask (.lookup id)).Safe c (Found c id) sv := by
  refine safe_ask (fun _ _ _ => Found.undisturbed) fun sv₁ h₁ => ⟨trivial, ?_⟩
  have hsettled := h.undisturbed h₁.undisturbed
  change Found c id (sv₁.lookup id) sv₁
  unfold lookup registeredRef?
  cases hreg : sv₁.registered[id]? with
  | some n =>
    obtain ⟨s, hs, hid, -⟩ := (h₁.sound.registered id n).1 hreg
    exact ⟨hsettled, rfl, s, hs, hid⟩
  | none =>
    refine ⟨hsettled, rfl, fun hbound => ?_⟩
    -- a session that somebody is bound to is registered
    obtain ⟨n, s, hs, hid, hc⟩ := h₁.sound.bound c id hbound
    have hn := h₁.sound.registered_of_open hs (h₁.sound.open_of_mem hs hc)
    rw [hid, hreg] at hn
    cases hn

/-! ## Requests -/

/-- The connection is bound to the session if its join has succeeded. If not, it is not bound to it,
and there was no open session of this name to join. -/
def Joined (c : ConnectionId) (id : SessionId) : Except Error Unit → Server → Prop
  | .ok (), sv => sv.bindings[c]? = some id
  | .error e, sv =>
    (e = .sessionNotFound id ∨ e = .sessionClosed id) ∧ sv.bindings[c]? ≠ some id

/-- How a request ends: the connection is settled, and has joined if it asked to. -/
def Ended (c : ConnectionId) (request : Request) (outcome : Except Error Unit) (sv : Server) : Prop :=
  Settled c sv ∧ ∀ id nick, request = .join id nick → Joined c id outcome sv

theorem safe_newSession (hsound : sv.Sound) (h : Settled c sv) (videoId time : UInt64)
    (nick : String) : (newSession c videoId time nick).Safe c (fun _ => Settled c) sv := by
  unfold newSession
  refine (safe_depart h).bind hsound fun _ sv₁ hsound₁ ⟨hapart₁, _⟩ => ?_
  have hcreate : (ask (.create videoId time)).Safe c (fun r sv' => Apart c sv' ∧ sv'.Has r) sv₁ := by
    refine safe_ask (fun r _ _ hu hr => ⟨hr.1.undisturbed hu, hu.has r hr.2⟩) fun sv₂ h₂ => ?_
    have hapart₂ := hapart₁.undisturbed h₂.undisturbed
    have hcreated : Undisturbed c sv₂ (sv₂.create videoId time).2 :=
      .create h₂.sound videoId time c
    exact ⟨trivial, hapart₂.undisturbed hcreated, h₂.sound.has_create videoId time⟩
  refine hcreate.bind hsound₁ fun r sv₂ hsound₂ ⟨hapart₂, hr₂⟩ => ?_
  refine (safe_enrol (hapart₂.confined hr₂) nick).bind hsound₂ fun outcome sv₃ hsound₃ hentered => ?_
  cases outcome with
  | error e => exact safe_done hentered.settled _
  | ok _ =>
    refine (safe_view hentered.settled hentered.1.has).bind hsound₃ fun view sv₄ hsound₄ h₄ => ?_
    exact (safe_send h₄ (.newSession view)).bind hsound₄ fun _ sv₅ _ h₅ => safe_done h₅ _

theorem safe_join (hsound : sv.Sound) (h : Settled c sv) (id : SessionId) (nick : String) :
    (join c id nick).Safe c (fun outcome sv' => Settled c sv' ∧ Joined c id outcome sv') sv := by
  have hjoined : ∀ {r : SessionRef} {sv' : Server}, r.id = id → Confined c r sv' →
      (enrol c r nick).Safe c (fun outcome sv' => Settled c sv' ∧ Joined c id outcome sv') sv' := by
    intro r sv' hid hconfined
    refine (safe_enrol hconfined nick).mono fun outcome sv₁ hentered => ⟨hentered.settled, ?_⟩
    cases outcome with
    | error e =>
      refine ⟨.inr (by rw [hentered.1, hid]), ?_⟩
      rw [hentered.2.binding]
      exact nofun
    | ok _ =>
      rw [← hid]
      exact hentered.2
  unfold join
  refine (safe_lookup h id).bind hsound fun outcome sv₁ hsound₁ hfound => ?_
  cases outcome with
  | error e =>
    intro sv₂ h₂
    obtain ⟨hsettled, he, hnot⟩ := hfound.undisturbed h₂.undisturbed
    exact ⟨hsettled, .inl he, hnot⟩
  | ok r =>
    obtain ⟨hsettled₁, hid, hr₁⟩ := hfound
    have hask : (ask (.boundSession c)).Safe c
        (fun bound sv' => bound = sv'.bindings[c]? ∧ Settled c sv' ∧ sv'.Has r) sv₁ := by
      refine safe_ask (fun bound _ _ hu hb => ?_) fun sv₂ h₂ => ?_
      · exact ⟨by rw [hu.binding]; exact hb.1, hb.2.1.undisturbed hu, hu.has r hb.2.2⟩
      · exact ⟨trivial, rfl, hsettled₁.undisturbed h₂.undisturbed, h₂.undisturbed.has r hr₁⟩
    refine hask.bind hsound₁ fun bound sv₂ hsound₂ ⟨hbound, hsettled₂, hr₂⟩ => ?_
    by_cases hhere : bound = some r.id
    · simp only [hhere, ne_eq, not_true_eq_false, if_false]
      exact hjoined hid (hsettled₂.confined hsound₂ hr₂ (hbound.symm.trans hhere))
    · simp only [ne_eq, hhere, not_false_eq_true, if_true]
      refine (safe_depart hsettled₂).bind hsound₂ fun _ sv₃ _ ⟨hapart₃, hhas₃⟩ => ?_
      exact hjoined hid (hapart₃.confined (hhas₃ r hr₂))

theorem safe_getSync (hsound : sv.Sound) (h : Settled c sv) (id : SessionId) :
    (getSync c id).Safe c (fun _ => Settled c) sv := by
  unfold getSync
  refine (safe_lookup h id).bind hsound fun outcome sv₁ hsound₁ hfound => ?_
  cases outcome with
  | error e => exact safe_done hfound.1 _
  | ok r =>
    refine (safe_view hfound.1 hfound.2.2).bind hsound₁ fun view sv₂ _ h₂ => ?_
    exact safe_send h₂ (.sync view)

/-- A call on a session that was looked up is safe if it leaves the roster as it was. -/
theorem safe_onSession (hsound : sv.Sound) (h : Settled c sv) (id : SessionId) {q : SessionRef → Call}
    (hq : ∀ (r : SessionRef) (sv' : Server), sv'.Has r →
      (q r).Proper c sv' ∧ sv'.SameRoster (sv'.answer (q r)).2) :
    (onSession id q).Safe c (fun _ => Settled c) sv := by
  unfold onSession
  refine (safe_lookup h id).bind hsound fun outcome sv₁ _ hfound => ?_
  cases outcome with
  | error e => exact safe_done hfound.1 _
  | ok r =>
    intro sv₂ h₂
    obtain ⟨hsettled, -, hr⟩ := hfound.undisturbed h₂.undisturbed
    obtain ⟨hproper, hsame⟩ := hq r sv₂ hr
    refine ⟨hproper, fun sv₃ h₃ => ?_⟩
    have hown : Undisturbed c sv₂ (sv₂.answer (q r)).2 := .of_sameRoster hsame c
    exact hsettled.undisturbed (hown.trans h₃.undisturbed)

/-- A request of a settled connection is handled safely. -/
theorem safe_handle (hsound : sv.Sound) (h : Settled c sv) (request : Request) :
    (handle c request).Safe c (Ended c request) sv := by
  have hother : ∀ {request : Request} {p : Handler (Except Error Unit)},
      (∀ id nick, request ≠ .join id nick) → p.Safe c (fun _ => Settled c) sv →
      p.Safe c (Ended c request) sv := by
    intro request p hno hp
    exact hp.mono fun _ _ hs => ⟨hs, fun id nick he => absurd he (hno id nick)⟩
  cases request with
  | new videoId time nick => exact hother nofun (safe_newSession hsound h videoId time nick)
  | join id nick =>
    refine (safe_join hsound h id nick).mono fun outcome sv' hend => ⟨hend.1, ?_⟩
    intro id' nick' he
    cases he
    exact hend.2
  | getSync id => exact hother nofun (safe_getSync hsound h id)
  | play id =>
    exact hother nofun (safe_onSession hsound h id fun r sv' hr => ⟨hr, sameRoster_play hr⟩)
  | pause id =>
    exact hother nofun (safe_onSession hsound h id fun r sv' hr => ⟨hr, sameRoster_pause hr⟩)
  | seek id time =>
    exact hother nofun (safe_onSession hsound h id fun r sv' hr => ⟨hr, sameRoster_setTime hr time⟩)
  | leave =>
    refine hother nofun ?_
    refine (safe_depart h).bind hsound fun outcome sv₁ _ hapart => ?_
    cases outcome with
    | error e => exact safe_done hapart.1.settled _
    | ok id => exact safe_done hapart.1.settled _

/-! ## Events -/

theorem safe_tellFailure (hsound : sv.Sound) (h : Settled c sv) (event : String) (data : Json)
    (e : Error) : (tellFailure c event data e).Safe c (fun _ => Settled c) sv := by
  unfold tellFailure
  split
  · exact safe_done h _
  · rename_i reply _
    exact (safe_send h reply).bind hsound fun _ sv₁ _ h₁ => safe_done h₁ _

/-- Whatever event a settled connection sends is handled safely. -/
theorem safe_dispatch (hsound : sv.Sound) (h : Settled c sv) (event : String) (data : Json) :
    (dispatch c event data).Safe c (fun _ => Settled c) sv := by
  unfold dispatch
  split
  · exact safe_tellFailure hsound h event data _
  · rename_i request _
    refine (safe_handle hsound h request).bind hsound fun outcome sv₁ hsound₁ hend => ?_
    cases outcome with
    | error e => exact safe_tellFailure hsound₁ hend.1 _ data e
    | ok _ => exact safe_done hend.1 _

/-- The end of a settled connection is handled safely, and leaves it in no session. -/
theorem safe_disconnect (hsound : sv.Sound) (h : Settled c sv) :
    (disconnect c).Safe c (fun _ => Apart c) sv := by
  unfold disconnect
  refine (safe_depart h).bind hsound fun _ sv₁ _ hapart => ?_
  exact fun sv₂ h₂ => hapart.1.undisturbed h₂.undisturbed

/-! ## No handler forgets a session -/

theorem tidy_pure {α : Type} (a : α) : (pure a : Handler α).Tidy := trivial

/-- Whoever leaves nobody behind destroys the session next. -/
theorem tidy_depart (c : ConnectionId) : (depart c).Tidy := by
  rw [depart_eq]
  intro outcome
  cases outcome with
  | error e => exact ⟨fun _ hid => absurd hid fun hn => hn, trivial⟩
  | ok unbound =>
    change (∀ id, unbound.session = id ∧ unbound.leavesNobody = true →
      (departed (.ok unbound)).Owes id) ∧ (departed (.ok unbound)).Tidy
    by_cases hempty : unbound.leavesNobody
    · simp only [departed, hempty, if_true]
      exact ⟨fun id hid => hid.1, fun _ => ⟨fun _ hid => absurd hid fun hn => hn, trivial⟩⟩
    · simp only [departed, hempty]
      exact ⟨fun id hid => absurd hid.2 nofun, trivial⟩

theorem tidy_enrol (c : ConnectionId) (r : SessionRef) (nick : String) : (enrol c r nick).Tidy := by
  rw [enrol_eq]
  intro outcome
  refine ⟨fun _ hid => absurd hid fun hn => hn, ?_⟩
  cases outcome with
  | error e => exact trivial
  | ok member => exact fun _ => ⟨fun _ hid => absurd hid fun hn => hn, trivial⟩

/-- A new session gets its first member by the call after the one that made it. -/
theorem tidy_newSession (c : ConnectionId) (videoId time : UInt64) (nick : String) :
    (newSession c videoId time nick).Tidy := by
  unfold newSession
  refine (tidy_depart c).bind fun _ => ?_
  intro r
  constructor
  · intro id hid
    change Owes id (enrol c r nick >>= _)
    refine Owes.bind ?_ _
    rw [enrol_eq]
    exact hid
  · change Tidy (enrol c r nick >>= _)
    refine (tidy_enrol c r nick).bind fun outcome => ?_
    cases outcome with
    | error e => exact tidy_pure _
    | ok _ =>
      refine Tidy.bind (tidy_ask fun _ _ hid => hid) fun view => ?_
      exact Tidy.bind (tidy_ask fun _ _ hid => hid) fun _ => tidy_pure _

theorem tidy_join (c : ConnectionId) (id : SessionId) (nick : String) : (join c id nick).Tidy := by
  unfold join
  refine Tidy.bind (tidy_ask fun _ _ hid => hid) fun outcome => ?_
  cases outcome with
  | error e => exact tidy_pure _
  | ok r =>
    refine Tidy.bind (tidy_ask fun _ _ hid => hid) fun bound => ?_
    by_cases hhere : bound = some r.id
    · simp only [hhere, ne_eq, not_true_eq_false, if_false]
      exact tidy_enrol c r nick
    · simp only [ne_eq, hhere, not_false_eq_true, if_true]
      exact (tidy_depart c).bind fun _ => tidy_enrol c r nick

theorem tidy_getSync (c : ConnectionId) (id : SessionId) : (getSync c id).Tidy := by
  unfold getSync
  refine Tidy.bind (tidy_ask fun _ _ hid => hid) fun outcome => ?_
  cases outcome with
  | error e => exact tidy_pure _
  | ok r =>
    refine Tidy.bind (tidy_ask fun _ _ hid => hid) fun view => ?_
    exact tidy_ask fun _ _ hid => hid

theorem tidy_onSession (id : SessionId) {q : SessionRef → Call}
    (hq : ∀ r answer id, ¬ (q r).Strands answer id) : (onSession id q).Tidy := by
  unfold onSession
  refine Tidy.bind (tidy_ask fun _ _ hid => hid) fun outcome => ?_
  cases outcome with
  | error e => exact tidy_pure _
  | ok r => exact (tidy_ask (hq r)).bind fun _ => tidy_pure _

theorem tidy_handle (c : ConnectionId) (request : Request) : (handle c request).Tidy := by
  cases request with
  | new videoId time nick => exact tidy_newSession c videoId time nick
  | join id nick => exact tidy_join c id nick
  | getSync id => exact tidy_getSync c id
  | play id => exact tidy_onSession id fun _ _ _ hid => hid
  | pause id => exact tidy_onSession id fun _ _ _ hid => hid
  | seek id time => exact tidy_onSession id fun _ _ _ hid => hid
  | leave =>
    refine (tidy_depart c).bind fun outcome => ?_
    cases outcome with
    | error e => exact tidy_pure _
    | ok id => exact tidy_pure _

theorem tidy_tellFailure (c : ConnectionId) (event : String) (data : Json) (e : Error) :
    (tellFailure c event data e).Tidy := by
  unfold tellFailure
  split
  · exact tidy_pure _
  · exact Tidy.bind (tidy_ask fun _ _ hid => hid) fun _ => tidy_pure _

theorem tidy_dispatch (c : ConnectionId) (event : String) (data : Json) :
    (dispatch c event data).Tidy := by
  unfold dispatch
  split
  · exact tidy_tellFailure c event data _
  · refine (tidy_handle c _).bind fun outcome => ?_
    cases outcome with
    | error e => exact tidy_tellFailure c _ data e
    | ok _ => exact tidy_pure _

theorem tidy_disconnect (c : ConnectionId) : (disconnect c).Tidy :=
  (tidy_depart c).bind fun _ => tidy_pure _

/-! ## Every handler ends -/

theorem callsAtMost_depart (c : ConnectionId) : (depart c).CallsAtMost 2 := by
  rw [depart_eq]
  intro outcome
  cases outcome with
  | error e => trivial
  | ok unbound =>
    by_cases hempty : unbound.leavesNobody
    · simp only [departed, hempty, if_true]
      exact fun _ => trivial
    · simp only [departed, hempty]
      trivial

theorem callsAtMost_enrol (c : ConnectionId) (r : SessionRef) (nick : String) :
    (enrol c r nick).CallsAtMost 2 := by
  rw [enrol_eq]
  intro outcome
  cases outcome with
  | error e => trivial
  | ok member => exact fun _ => trivial

theorem callsAtMost_newSession (c : ConnectionId) (videoId time : UInt64) (nick : String) :
    (newSession c videoId time nick).CallsAtMost 7 := by
  unfold newSession
  refine CallsAtMost.bind (n := 5) (callsAtMost_depart c) fun _ => ?_
  refine CallsAtMost.bind (n := 4) (callsAtMost_ask _) fun r => ?_
  refine CallsAtMost.bind (n := 2) (callsAtMost_enrol c r nick) fun outcome => ?_
  cases outcome with
  | error e => exact callsAtMost_done 2 _
  | ok _ =>
    refine CallsAtMost.bind (n := 1) (callsAtMost_ask _) fun view => ?_
    exact CallsAtMost.bind (n := 0) (callsAtMost_ask _) fun _ => callsAtMost_done 0 _

theorem callsAtMost_join (c : ConnectionId) (id : SessionId) (nick : String) :
    (join c id nick).CallsAtMost 6 := by
  unfold join
  refine CallsAtMost.bind (n := 5) (callsAtMost_ask _) fun outcome => ?_
  cases outcome with
  | error e => exact callsAtMost_done 5 _
  | ok r =>
    refine CallsAtMost.bind (n := 4) (callsAtMost_ask _) fun bound => ?_
    by_cases hhere : bound = some r.id
    · simp only [hhere, ne_eq, not_true_eq_false, if_false]
      exact (callsAtMost_enrol c r nick).mono (by omega)
    · simp only [ne_eq, hhere, not_false_eq_true, if_true]
      exact CallsAtMost.bind (callsAtMost_depart c) fun _ => callsAtMost_enrol c r nick

theorem callsAtMost_getSync (c : ConnectionId) (id : SessionId) : (getSync c id).CallsAtMost 3 := by
  unfold getSync
  refine CallsAtMost.bind (n := 2) (callsAtMost_ask _) fun outcome => ?_
  cases outcome with
  | error e => exact callsAtMost_done 2 _
  | ok r =>
    refine CallsAtMost.bind (n := 1) (callsAtMost_ask (.view r)) fun view => ?_
    exact callsAtMost_ask (.send c (.sync view))

theorem callsAtMost_onSession (id : SessionId) (q : SessionRef → Call) :
    (onSession id q).CallsAtMost 2 := by
  unfold onSession
  refine CallsAtMost.bind (n := 1) (callsAtMost_ask _) fun outcome => ?_
  cases outcome with
  | error e => exact callsAtMost_done 1 _
  | ok r => exact CallsAtMost.bind (n := 0) (callsAtMost_ask _) fun _ => callsAtMost_done 0 _

/-- The longest request is the one for a new session, with seven calls. -/
theorem callsAtMost_handle (c : ConnectionId) (request : Request) :
    (handle c request).CallsAtMost 7 := by
  cases request with
  | new videoId time nick => exact callsAtMost_newSession c videoId time nick
  | join id nick => exact (callsAtMost_join c id nick).mono (by omega)
  | getSync id => exact (callsAtMost_getSync c id).mono (by omega)
  | play id => exact (callsAtMost_onSession id _).mono (by omega)
  | pause id => exact (callsAtMost_onSession id _).mono (by omega)
  | seek id time => exact (callsAtMost_onSession id _).mono (by omega)
  | leave =>
    refine CallsAtMost.bind (n := 5) (callsAtMost_depart c) fun outcome => ?_
    cases outcome with
    | error e => exact callsAtMost_done 5 _
    | ok id => exact callsAtMost_done 5 _

theorem callsAtMost_disconnect (c : ConnectionId) : (disconnect c).CallsAtMost 2 :=
  CallsAtMost.bind (n := 0) (callsAtMost_depart c) fun _ => callsAtMost_done 0 _

end Handler

end WatchParty
