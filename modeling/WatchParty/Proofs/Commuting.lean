/-
Turns of different connections that have nothing to do with each other. A turn involves the session that
its connection is in and the one that it names. If two turns involve no session in common, it makes no
difference which of them comes first: `turns_commute`.
-/
import WatchParty.Proofs.Isolation
import WatchParty.Proofs.Server.Coincide
import WatchParty.Proofs.Settling

namespace WatchParty

/-- The event is one that makes a session. -/
def Turn.Creates : Turn → Prop
  | .event name data =>
    ∃ videoId time nick, Request.decode name data = .ok (.new videoId time nick)
  | .quit => False

namespace Handler

/-- The program for a turn of a connection. -/
def turn (c : ConnectionId) : Turn → Handler Unit
  | .event name data => dispatch c name data
  | .quit => disconnect c

end Handler

namespace Server

/-- The session of the id is the one that the turn names, or the one that the connection is in. -/
def Involves (sv : Server) (c : ConnectionId) (turn : Turn) (id : SessionId) : Prop :=
  sv.Names id turn ∨ sv.boundSession? c = some id

theorem turn_eq (sv : Server) (c : ConnectionId) (turn : Turn) :
    sv.turn c turn = ((Handler.turn c turn).run sv).2 := by
  cases turn with
  | event name data => rfl
  | quit => rfl

end Server

namespace Handler

open Server

variable {sv : Server} {c : ConnectionId} {r : SessionRef} {id : SessionId} {S : SessionId → Prop}

/-! ## What the handlers keep inside -/

/-- Every call that the handler makes keeps inside sessions of such ids. -/
def KeepsInside {α : Type} (c : ConnectionId) (S : SessionId → Prop) (h : Handler α) (sv : Server) :
    Prop :=
  h.Along (Call.Inside c S) sv

theorem KeepsInside.bind {α β : Type} {h : Handler α} {f : α → Handler β} (hh : h.KeepsInside c S sv)
    (hf : (f (h.run sv).1).KeepsInside c S (h.run sv).2) : (h >>= f).KeepsInside c S sv :=
  Along.bind hh hf

theorem keepsInside_ask {q : Call} (hq : q.Inside c S sv) : (ask q).KeepsInside c S sv :=
  along_ask hq

theorem keepsInside_depart (hbound : ∀ bound, sv.bindings[c]? = some bound → S bound) :
    (depart c).KeepsInside c S sv :=
  along_depart ⟨rfl, hbound⟩ hbound

theorem keepsInside_enrol (hr : S r.id) (nick : String) : (enrol c r nick).KeepsInside c S sv :=
  along_enrol hr rfl

/-- A handler that begins by looking up a session of such an id goes on with one. -/
theorem keepsInside_lookup {α : Type} (hid : S id) {f : Except Error SessionRef → Handler α}
    (hmissing : (f (.error (.sessionNotFound id))).KeepsInside c S sv)
    (hfound : ∀ r, S r.id → (f (.ok r)).KeepsInside c S sv) :
    (ask (.lookup id) >>= f).KeepsInside c S sv :=
  along_lookup hid hmissing fun r hr => hfound r (by rw [id_of_registeredRef hr]; exact hid)

theorem keepsInside_join (hid : S id) (hbound : ∀ bound, sv.bindings[c]? = some bound → S bound)
    (nick : String) : (join c id nick).KeepsInside c S sv := by
  refine keepsInside_lookup hid trivial fun r hr => ?_
  refine (keepsInside_ask (q := .boundSession c) rfl).bind ?_
  split
  · exact (keepsInside_depart hbound).bind (keepsInside_enrol hr nick)
  · exact keepsInside_enrol hr nick

theorem keepsInside_getSync (hid : S id) : (getSync c id).KeepsInside c S sv := by
  refine keepsInside_lookup hid trivial fun r hr => ?_
  exact (keepsInside_ask (q := .view r) hr).bind (keepsInside_ask trivial)

theorem keepsInside_onSession (hid : S id) {q : SessionRef → Call}
    (hq : ∀ r, S r.id → (q r).Inside c S sv) : (onSession id q).KeepsInside c S sv := by
  refine keepsInside_lookup hid trivial fun r hr => ?_
  exact (keepsInside_ask (hq r hr)).bind trivial

theorem keepsInside_tellFailure (c : ConnectionId) (event : String) (data : Json) (e : Error) :
    (tellFailure c event data e).KeepsInside c S sv :=
  along_tellFailure fun _ => trivial

/-- A request that makes no session keeps inside the one that it names and the one that the connection
is in. -/
theorem keepsInside_handle {request : Request} (hnew : ∀ videoId time nick, request ≠ .new videoId time nick)
    (hnames : ∀ id, request.session? = some id → S id)
    (hbound : ∀ bound, sv.bindings[c]? = some bound → S bound) :
    (handle c request).KeepsInside c S sv := by
  cases request with
  | new videoId time nick => exact absurd rfl (hnew videoId time nick)
  | join id nick => exact keepsInside_join (hnames id rfl) hbound nick
  | getSync id => exact keepsInside_getSync (hnames id rfl)
  | play id => exact keepsInside_onSession (hnames id rfl) fun _ hr => hr
  | pause id => exact keepsInside_onSession (hnames id rfl) fun _ hr => hr
  | seek id time => exact keepsInside_onSession (hnames id rfl) fun _ hr => hr
  | leave =>
    refine (keepsInside_depart hbound).bind ?_
    split
    · trivial
    · trivial

end Handler

namespace Server

open Handler

variable {sv sv' a b a₁ a₂ a₁₂ a₂₁ : Server} {c c₁ c₂ d : ConnectionId} {t : Turn}
  {S S₁ S₂ : SessionId → Prop} {before before' : List Delivery}

/-! ## Turns -/

/-- From the first server to the second only the connection and sessions of such ids have changed, and
the deliveries. -/
structure Local (c : ConnectionId) (S : SessionId → Prop) (sv sv' : Server) : Prop where
  within : Within c S sv sv'
  steady : Steady sv sv'

theorem Quiescent.turn (hquiet : sv.Quiescent) (c : ConnectionId) (t : Turn) :
    (sv.turn c t).Quiescent := by
  cases t with
  | event name data => exact hquiet.dispatch c name data
  | quit => exact hquiet.disconnect c

/-- The turn is not for a new session, and all sessions that it involves are of such ids. -/
structure Confines (sv : Server) (c : ConnectionId) (t : Turn) (S : SessionId → Prop) : Prop where
  creates : ¬ t.Creates
  involves : ∀ id, sv.Involves c t id → S id

/-- What a turn names does not depend on the server, unless it is for a new session. -/
theorem Names.of_other (hnew : ¬ t.Creates) {id : SessionId} (h : sv'.Names id t) :
    sv.Names id t := by
  cases t with
  | quit => exact h
  | event name data =>
    obtain ⟨request, hdecode, htarget⟩ := h
    refine ⟨request, hdecode, ?_⟩
    cases request with
    | new videoId time nick => exact absurd ⟨videoId, time, nick, hdecode⟩ hnew
    | _ => exact htarget

/-- A turn involves no other sessions after something that did not concern its connection. -/
theorem Confines.of_binding (h : sv.Confines c t S) (hb : sv'.boundSession? c = sv.boundSession? c) :
    sv'.Confines c t S := by
  refine ⟨h.creates, fun id hid => h.involves id ?_⟩
  rcases hid with hnames | hbound
  · exact .inl (hnames.of_other h.creates)
  · exact .inr (hb.symm.trans hbound)

/-- The calls of a turn keep inside the sessions that it involves. -/
theorem Confines.along (h : sv.Confines c t S) (hquiet : sv.Quiescent) :
    (Handler.turn c t).Along (fun sv q => q.Fair c sv ∧ q.Inside c S sv) sv := by
  have hbound : ∀ bound, sv.bindings[c]? = some bound → S bound := fun bound hb =>
    h.involves bound (.inr hb)
  cases t with
  | quit =>
    refine (along_disconnect hquiet.sound (hquiet.settled c)).and ?_
    exact (keepsInside_depart hbound).bind trivial
  | event name data =>
    refine (along_dispatch hquiet.sound (hquiet.settled c) name data).and ?_
    unfold Handler.dispatch
    cases hd : Request.decode name data with
    | error e => exact keepsInside_tellFailure c name data e
    | ok request =>
      have hnew : ∀ videoId time nick, request ≠ .new videoId time nick := by
        rintro videoId time nick rfl
        exact h.creates ⟨videoId, time, nick, hd⟩
      refine (keepsInside_handle hnew (fun id hid => ?_) hbound).bind ?_
      · refine h.involves id (.inl ⟨request, hd, ?_⟩)
        cases request with
        | new videoId time nick => exact absurd rfl (hnew videoId time nick)
        | _ => exact hid
      · split
        · exact keepsInside_tellFailure c _ data _
        · trivial

theorem Confines.local (h : sv.Confines c t S) (hquiet : sv.Quiescent) :
    Local c S sv (sv.turn c t) := by
  have halong := h.along hquiet
  rw [turn_eq]
  refine ⟨.run (halong.mono fun _ _ hq => hq.1) (halong.mono fun _ _ hq => hq.2.touches), ?_⟩
  exact halong.run Steady.refl Steady.trans fun sv _ hq => .answer sv hq.2

theorem Coincide.turn (h : Coincide c S before before' a b) (hconfines : a.Confines c t S)
    (hquiet : a.Quiescent) : Coincide c S before before' (a.turn c t) (b.turn c t) := by
  rw [turn_eq, turn_eq]
  exact (h.run (hconfines.along hquiet)).2

/-- To another connection, as far as other sessions go, nothing has changed. -/
theorem Local.coincide (h : Local c S sv sv') (hcd : c ≠ d) (hapart : ∀ id, S₂ id → ¬ S id) :
    Coincide d S₂ sv.network.log sv'.network.log sv sv' where
  sessions n s hs := h.within.sessions n s (hapart s.id hs)
  registered id hid := h.within.registered id (hapart id hid)
  binding := (h.within.others d hcd).binding
  network := ⟨h.steady.refusing, [], rfl, rfl⟩

/-! ## Clocks -/

/-- Where all sessions were settled, only those that a step has changed are to settle after it. -/
theorem Local.settle (h : Local c S sv sv') (hsettled : sv.settle = sv) : Local c S sv sv'.settle := by
  refine ⟨⟨fun n s hs => ?_, h.within.registered, fun d hcd => ?_, h.within.told⟩, ?_⟩
  · have hstays : ∀ t : Session, sv.sessions[n]? = some t → t.settle sv'.now = t := fun t ht => by
      rw [h.steady.now]
      exact session_of_settled hsettled t (List.mem_of_getElem? ht)
    rw [getElem?_settle_eq_some]
    constructor
    · rintro ⟨t, ht, rfl⟩
      have hbefore := (h.within.sessions n t hs).1 ht
      rw [hstays t hbefore]
      exact hbefore
    · intro hbefore
      exact ⟨s, (h.within.sessions n s hs).2 hbefore, hstays s hbefore⟩
  · exact (h.within.others d hcd).trans (.of_sameRoster (sameRoster_settle sv') d)
  · exact ⟨h.steady.settings, h.steady.issued, h.steady.accepted, h.steady.now, h.steady.refusing⟩

theorem Coincide.settle (h : Coincide c S before before' a b) (hnow : b.now = a.now) :
    Coincide c S before before' a.settle b.settle := by
  refine ⟨fun n s hs => ?_, h.registered, h.binding, h.network⟩
  rw [getElem?_settle_eq_some, getElem?_settle_eq_some, hnow]
  constructor
  · rintro ⟨t, ht, rfl⟩
    exact ⟨t, (h.sessions n t hs).1 ht, rfl⟩
  · rintro ⟨t, ht, rfl⟩
    exact ⟨t, (h.sessions n t hs).2 ht, rfl⟩

/-! ## Steps beside others -/

/-- A step of the connection on the one server, and the same step on the other. -/
structure Beside (c : ConnectionId) (S : SessionId → Prop) (sv sv' other other' : Server) : Prop where
  alone : Local c S sv sv'
  after : Local c S other other'
  same : Coincide c S sv.network.log other.network.log sv' other'

variable {other other' : Server}

theorem Confines.beside (h : sv.Confines c t S) (hquiet : sv.Quiescent) (hother : other.Quiescent)
    (hsame : Coincide c S sv.network.log other.network.log sv other) :
    Beside c S sv (sv.turn c t) other (other.turn c t) :=
  ⟨h.local hquiet, (h.of_binding hsame.binding).local hother, hsame.turn h hquiet⟩

theorem Beside.settle (h : Beside c S sv sv' other other') (hnow : other.now = sv.now)
    (hsv : sv.settle = sv) (hother : other.settle = other) :
    Beside c S sv sv'.settle other other'.settle := by
  refine ⟨h.alone.settle hsv, h.after.settle hother, h.same.settle ?_⟩
  rw [h.after.steady.now, h.alone.steady.now, hnow]

/-- What the step has told is the same in both cases, and is meant for its connection and for members of
its sessions. -/
theorem Beside.told (h : Beside c S sv sv' other other') :
    ∃ told : List Delivery, sv'.network.log = told ++ sv.network.log ∧
      other'.network.log = told ++ other.network.log ∧ ∀ x ∈ told, x.Meant c S sv := by
  obtain ⟨told, hfirst, hlater⟩ := h.same.network.told
  obtain ⟨meant, hlog, hmeant⟩ := h.alone.within.told
  obtain rfl := List.append_cancel_right (hlog.symm.trans hfirst)
  exact ⟨_, hfirst, hlater, hmeant⟩

theorem heard_of_told {net net' : Network} {told : List Delivery} (h : net'.log = told ++ net.log)
    (d : ConnectionId) : net'.heard d =
      (told.filter fun x => x.recipient = d).map Delivery.content ++ net.heard d := by
  unfold Network.heard
  rw [h, List.filter_append, List.map_append]

/-! ## Two steps in either order -/

/-- The servers are the same, and everyone has heard the same in both, be it that deliveries to
different connections have come in another order. -/
structure Matches (a b : Server) : Prop where
  state : a = { b with network := a.network }
  refusing : a.network.refusing = b.network.refusing
  heard : ∀ d, a.network.heard d = b.network.heard d

/-- Nobody is in sessions of both kinds, or is the one connection and in a session of the other kind. -/
theorem Quiescent.apart (hquiet : sv.Quiescent) (hapart : ∀ id, S₁ id → ¬ S₂ id) (hne : c₁ ≠ c₂)
    (hbound₁ : ∀ id, sv.boundSession? c₁ = some id → S₁ id)
    (hbound₂ : ∀ id, sv.boundSession? c₂ = some id → S₂ id) {x y : Delivery}
    (hx : x.Meant c₁ S₁ sv) (hy : y.Meant c₂ S₂ sv) : x.recipient ≠ y.recipient := by
  intro hsame
  have hmember : ∀ {d n} {s : Session}, sv.sessions[n]? = some s → d ∈ s.members →
      sv.boundSession? d = some s.id := fun hs hmem => hquiet.settled _ _ _ hs hmem
  rcases hx.recipient with hc₁ | ⟨n, s, hs, hS₁, hmem⟩
  · rcases hy.recipient with hc₂ | ⟨m, u, hu, hS₂, hmem⟩
    · exact hne (hc₁.symm.trans (hsame.trans hc₂))
    · rw [← hsame, hc₁] at hmem
      exact hapart u.id (hbound₁ u.id (hmember hu hmem)) hS₂
  · have hbound := hmember hs hmem
    rcases hy.recipient with hc₂ | ⟨m, u, hu, hS₂, hmem⟩
    · rw [hsame, hc₂] at hbound
      exact hapart s.id hS₁ (hbound₂ s.id hbound)
    · rw [hsame] at hbound
      have hid := Option.some.inj ((hmember hu hmem).symm.trans hbound)
      exact hapart s.id hS₁ (hid ▸ hS₂)

section Cross

variable (h₁ : Beside c₁ S₁ sv a₁ a₂ a₂₁) (h₂ : Beside c₂ S₂ sv a₂ a₁ a₁₂)
include h₁ h₂

/-- The sessions that the one step has to do with are as it has left them, whichever came first. -/
theorem Beside.getElem?_sessions {n : Nat} {s : Session} (hS₁ : S₁ s.id) (hS₂ : ¬ S₂ s.id) :
    a₁₂.sessions[n]? = some s ↔ a₂₁.sessions[n]? = some s :=
  (h₂.after.within.sessions n s hS₂).trans (h₁.same.sessions n s hS₁).symm

theorem Beside.getElem?_registered {id : SessionId} (hS₁ : S₁ id) (hS₂ : ¬ S₂ id) :
    a₁₂.registered[id]? = a₂₁.registered[id]? :=
  (h₂.after.within.registered id hS₂).trans (h₁.same.registered id hS₁).symm

theorem Beside.getElem?_bindings (hne : c₂ ≠ c₁) : a₁₂.bindings[c₁]? = a₂₁.bindings[c₁]? :=
  (h₂.after.within.others c₁ hne).binding.trans h₁.same.binding.symm

end Cross

section Apart

variable (h₁ : Beside c₁ S₁ sv a₁ a₂ a₂₁) (h₂ : Beside c₂ S₂ sv a₂ a₁ a₁₂)
  (hapart : ∀ id, S₁ id → ¬ S₂ id) (hne : c₁ ≠ c₂)

-- each of the four goes by whom it concerns: the one step, the other one, or neither

include h₁ h₂ hapart in
theorem Beside.sessions_eq : a₁₂.sessions = a₂₁.sessions := by
  refine List.ext_getElem? fun n => Option.ext fun s => ?_
  by_cases hS₁ : S₁ s.id
  · exact h₁.getElem?_sessions h₂ hS₁ (hapart s.id hS₁)
  · by_cases hS₂ : S₂ s.id
    · exact (h₂.getElem?_sessions h₁ hS₂ hS₁).symm
    · calc a₁₂.sessions[n]? = some s
        ↔ a₁.sessions[n]? = some s := h₂.after.within.sessions n s hS₂
      _ ↔ sv.sessions[n]? = some s := h₁.alone.within.sessions n s hS₁
      _ ↔ a₂.sessions[n]? = some s := (h₂.alone.within.sessions n s hS₂).symm
      _ ↔ a₂₁.sessions[n]? = some s := (h₁.after.within.sessions n s hS₁).symm

include h₁ h₂ hapart in
theorem Beside.registered_eq : a₁₂.registered = a₂₁.registered := by
  refine Std.ExtTreeMap.ext_getElem? fun id => ?_
  by_cases hS₁ : S₁ id
  · exact h₁.getElem?_registered h₂ hS₁ (hapart id hS₁)
  · by_cases hS₂ : S₂ id
    · exact (h₂.getElem?_registered h₁ hS₂ hS₁).symm
    · calc a₁₂.registered[id]?
        = a₁.registered[id]? := h₂.after.within.registered id hS₂
      _ = sv.registered[id]? := h₁.alone.within.registered id hS₁
      _ = a₂.registered[id]? := (h₂.alone.within.registered id hS₂).symm
      _ = a₂₁.registered[id]? := (h₁.after.within.registered id hS₁).symm

include h₁ h₂ hne in
theorem Beside.bindings_eq : a₁₂.bindings = a₂₁.bindings := by
  refine Std.ExtTreeMap.ext_getElem? fun d => ?_
  by_cases hd₁ : c₁ = d
  · exact hd₁ ▸ h₁.getElem?_bindings h₂ (Ne.symm hne)
  · by_cases hd₂ : c₂ = d
    · exact hd₂ ▸ (h₂.getElem?_bindings h₁ hne).symm
    · calc a₁₂.bindings[d]?
        = a₁.bindings[d]? := (h₂.after.within.others d hd₂).binding
      _ = sv.bindings[d]? := (h₁.alone.within.others d hd₁).binding
      _ = a₂.bindings[d]? := (h₂.alone.within.others d hd₂).binding.symm
      _ = a₂₁.bindings[d]? := (h₁.after.within.others d hd₁).binding.symm

variable (hquiet : sv.Quiescent) (hbound₁ : ∀ id, sv.boundSession? c₁ = some id → S₁ id)
  (hbound₂ : ∀ id, sv.boundSession? c₂ = some id → S₂ id)

include h₁ h₂ hapart hne hquiet hbound₁ hbound₂

theorem Beside.heard_eq (d : ConnectionId) : a₁₂.network.heard d = a₂₁.network.heard d := by
  obtain ⟨told₁, hfirst₁, hlater₁, hmeant₁⟩ := h₁.told
  obtain ⟨told₂, hfirst₂, hlater₂, hmeant₂⟩ := h₂.told
  -- who hears of the one step hears nothing of the other, so that their order does not show
  rw [heard_of_told hlater₂, heard_of_told hfirst₁, heard_of_told hlater₁, heard_of_told hfirst₂]
  by_cases htold : ∃ x ∈ told₁, x.recipient = d
  · obtain ⟨x, hx, rfl⟩ := htold
    have hnone : told₂.filter (fun y => y.recipient = x.recipient) = [] := by
      rw [List.filter_eq_nil_iff]
      intro y hy
      have hother := hquiet.apart hapart hne hbound₁ hbound₂ (hmeant₁ x hx) (hmeant₂ y hy)
      simpa using Ne.symm hother
    rw [hnone, List.map_nil, List.nil_append, List.nil_append]
  · have hnone : told₁.filter (fun x => x.recipient = d) = [] := by
      rw [List.filter_eq_nil_iff]
      intro x hx
      simpa using fun heq => htold ⟨x, hx, heq⟩
    rw [hnone, List.map_nil, List.nil_append, List.nil_append]

/-- Two steps that have no session in common come to the same in either order. -/
theorem Beside.commute : a₁₂.Matches a₂₁ := by
  have hsteady₁₂ : Steady sv a₁₂ := h₁.alone.steady.trans h₂.after.steady
  have hsteady₂₁ : Steady sv a₂₁ := h₂.alone.steady.trans h₁.after.steady
  refine ⟨?_, ?_, h₁.heard_eq h₂ hapart hne hquiet hbound₁ hbound₂⟩
  · exact hsteady₁₂.eq_of hsteady₂₁ (h₁.sessions_eq h₂ hapart) (h₁.registered_eq h₂ hapart)
      (h₁.bindings_eq h₂ hne)
  · rw [hsteady₁₂.refusing, hsteady₂₁.refusing]

end Apart

/-! ## Turns in either order -/

/-- Whatever the inputs before: if two connections have a turn each, neither of them for a new session,
and the turns involve no session in common, either may come first. The server is the same in the end,
and everyone has heard the same. So it is if all clocks settle after each of the turns, as long as they
were settled before. -/
theorem turns_commute (settings : Settings) (inputs : List Input) (c₁ c₂ : ConnectionId) (t₁ t₂ : Turn)
    (hne : c₁ ≠ c₂) (hnew₁ : ¬ t₁.Creates) (hnew₂ : ¬ t₂.Creates)
    (hapart : ∀ id, ((start settings).takeAll inputs).Involves c₁ t₁ id →
      ¬ ((start settings).takeAll inputs).Involves c₂ t₂ id) :
    let sv := (start settings).takeAll inputs
    Matches ((sv.turn c₁ t₁).turn c₂ t₂) ((sv.turn c₂ t₂).turn c₁ t₁) ∧
    (sv.settle = sv →
      Matches ((sv.turn c₁ t₁).settle.turn c₂ t₂).settle ((sv.turn c₂ t₂).settle.turn c₁ t₁).settle) := by
  intro sv
  have hquiet : sv.Quiescent := (quiescent_start settings).takeAll inputs
  have hconfines₁ : sv.Confines c₁ t₁ (sv.Involves c₁ t₁) := ⟨hnew₁, fun _ h => h⟩
  have hconfines₂ : sv.Confines c₂ t₂ (sv.Involves c₂ t₂) := ⟨hnew₂, fun _ h => h⟩
  have hapart' : ∀ id, sv.Involves c₂ t₂ id → ¬ sv.Involves c₁ t₁ id := fun id h₂ h₁ => hapart id h₁ h₂
  have hbound₁ : ∀ id, sv.boundSession? c₁ = some id → sv.Involves c₁ t₁ id := fun _ => .inr
  have hbound₂ : ∀ id, sv.boundSession? c₂ = some id → sv.Involves c₂ t₂ id := fun _ => .inr
  have hlocal₁ := hconfines₁.local hquiet
  have hlocal₂ := hconfines₂.local hquiet
  have hquiet₁ := hquiet.turn c₁ t₁
  have hquiet₂ := hquiet.turn c₂ t₂
  constructor
  · have h₁ := hconfines₁.beside hquiet hquiet₂ (hlocal₂.coincide (Ne.symm hne) hapart)
    have h₂ := hconfines₂.beside hquiet hquiet₁ (hlocal₁.coincide hne hapart')
    exact h₁.commute h₂ hapart hne hquiet hbound₁ hbound₂
  · intro hsettled
    -- a turn and what settles after it are one step, which is as local as the turn
    have hlocal₁ := hlocal₁.settle hsettled
    have hlocal₂ := hlocal₂.settle hsettled
    have hquiet₁ := hquiet₁.sameRoster (sameRoster_settle _)
    have hquiet₂ := hquiet₂.sameRoster (sameRoster_settle _)
    have h₁ := hconfines₁.beside hquiet hquiet₂ (hlocal₂.coincide (Ne.symm hne) hapart)
    have h₂ := hconfines₂.beside hquiet hquiet₁ (hlocal₁.coincide hne hapart')
    have h₁ := h₁.settle hlocal₂.steady.now hsettled (settle_again _)
    have h₂ := h₂.settle hlocal₁.steady.now hsettled (settle_again _)
    exact h₁.commute h₂ hapart hne hquiet hbound₁ hbound₂

/-- Alice ends her connection, and her session with it, while Bob plays the video in his, where Carol is
too. -/
theorem alice_quits_beside_bob :
    let alice : ConnectionId := ⟨"alice"⟩
    let bob : ConnectionId := ⟨"bob"⟩
    let bobs : Json := .object [("session_id", .string (SessionId.generated 2).text)]
    let play : Turn := .event "flixy play" bobs
    let sv := (start {}).takeAll [.dispatch alice "flixy new" (.object [("video_id", .natural 1)]),
      .dispatch bob "flixy new" (.object [("video_id", .natural 2)]), .dispatch ⟨"carol"⟩ "flixy join" bobs,
      .around .settle]
    Matches ((sv.turn alice .quit).turn bob play) ((sv.turn bob play).turn alice .quit) ∧
      Matches ((sv.turn alice .quit).settle.turn bob play).settle
        ((sv.turn bob play).settle.turn alice .quit).settle ∧
      (sv.turn alice .quit).registeredRef? (.generated 1) = none ∧
      ((sv.turn bob play).network.heard ⟨"carol"⟩).length =
        (sv.network.heard ⟨"carol"⟩).length + 1 := by
  intro alice bob bobs play sv
  have hplay : Request.decode "flixy play" bobs = .ok (.play (.generated 2)) := rfl
  have halice : sv.boundSession? alice = some (.generated 1) := by decide
  have hbob : sv.boundSession? bob = some (.generated 2) := by decide
  have hnew : ¬ play.Creates := by
    rintro ⟨videoId, time, nick, hdecode⟩
    cases hplay.symm.trans hdecode
  have hapart : ∀ id, sv.Involves alice .quit id → ¬ sv.Involves bob play id := by
    rintro id (hnames | hbound) hbobs
    · exact hnames
    · obtain rfl := Option.some.inj (halice.symm.trans hbound)
      rcases hbobs with ⟨request, hdecode, htarget⟩ | hbound
      · cases hplay.symm.trans hdecode
        exact absurd htarget (by decide)
      · exact absurd (hbob.symm.trans hbound) (by decide)
  have hended : (sv.turn alice .quit).registeredRef? (.generated 1) = none := by decide
  have htold : ((sv.turn bob play).network.heard ⟨"carol"⟩).length =
      (sv.network.heard ⟨"carol"⟩).length + 1 := by decide
  obtain ⟨hsame, hsettled⟩ := turns_commute {} _ alice bob .quit play (by decide) id hnew hapart
  exact ⟨hsame, hsettled (settle_again _), hended, htold⟩

end Server

end WatchParty
