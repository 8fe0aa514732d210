/-
What a call tells the clients. An event that a call delivers is for the connection that makes the call
or for a member of a session that the call touches, and if it shows a session then as the call has left
it: `Server.tells_answer`.
-/
import WatchParty.Proofs.Server.Calls

namespace WatchParty

/-- The view of a session that is shown to whom this is delivered. -/
def Content.view? : Content → Option SessionView
  | .event e => e.view?
  | _ => none

/-! ## What is delivered -/

namespace Network

variable {P Q : Delivery → Prop} {net net₁ net₂ net₃ : Network}

/-- What was delivered from the first network to the second is all of the kind. -/
def Tells (P : Delivery → Prop) (net net' : Network) : Prop :=
  ∃ told : List Delivery, net'.log = told ++ net.log ∧ ∀ x ∈ told, P x

theorem Tells.refl (P : Delivery → Prop) (net : Network) : Tells P net net := ⟨[], rfl, nofun⟩

theorem Tells.trans (h : Tells P net₁ net₂) (k : Tells P net₂ net₃) : Tells P net₁ net₃ := by
  obtain ⟨first, hfirst, hP⟩ := h
  obtain ⟨rest, hrest, hP'⟩ := k
  refine ⟨rest ++ first, by rw [hrest, hfirst, List.append_assoc], fun x hx => ?_⟩
  exact (List.mem_append.1 hx).elim (hP' x) (hP x)

theorem Tells.mono (h : Tells P net₁ net₂) (hPQ : ∀ x, P x → Q x) : Tells Q net₁ net₂ := by
  obtain ⟨told, htold, hP⟩ := h
  exact ⟨told, htold, fun x hx => hPQ x (hP x hx)⟩

theorem tells_deliver {c : ConnectionId} {content : Content} (h : P ⟨c, content⟩) :
    Tells P net (net.deliver c content) :=
  ⟨[⟨c, content⟩], rfl, fun _ hx => List.mem_singleton.1 hx ▸ h⟩

theorem tells_emit {c : ConnectionId} {e : Event} (h : P ⟨c, .event e⟩) :
    Tells P net (net.emit c e).2 := by
  unfold emit
  split
  · exact tells_deliver h
  · exact .refl P net

theorem tells_emitAll {cs : List ConnectionId} {e : Event} (h : ∀ c ∈ cs, P ⟨c, .event e⟩) :
    Tells P net (net.emitAll cs e) := by
  unfold emitAll
  induction cs generalizing net with
  | nil => exact .refl P net
  | cons c rest ih =>
    have hfirst : Tells P net (net.emit c e).2 := tells_emit (h c List.mem_cons_self)
    exact hfirst.trans (ih fun d hd => h d (List.mem_cons_of_mem c hd))

end Network

open Network (Tells)

/-! ## Whom a call concerns -/

/-- The call may change the session of the id, or tell its members something. -/
def Call.Touches (sv : Server) : Call → SessionId → Prop
  | .unbind c, id => sv.bindings[c]? = some id
  | .destroyIfEmpty id', id => id' = id
  | .create .., id => .generated (sv.issued + 1) = id
  | .addMember r _ _, id => r.id = id
  | .play r, id => r.id = id
  | .pause r, id => r.id = id
  | .setTime r _, id => r.id = id
  | _, _ => False

/-- The view shows a session of the server as it is. -/
def Server.Shows (sv : Server) (v : SessionView) : Prop :=
  ∃ (n : Nat) (s : Session), sv.sessions[n]? = some s ∧ v = s.view

/-- If the call sends a view, then of a session as it is. -/
def Call.Truthful (sv : Server) : Call → Prop
  | .send _ e => ∀ v, e.view? = some v → sv.Shows v
  | _ => True

/-- The delivery is for the connection or for a member of a session of such an id, and a view is one of
a session as it is. -/
structure Delivery.Due (c : ConnectionId) (S : SessionId → Prop) (sv : Server) (x : Delivery) : Prop where
  recipient : x.recipient = c ∨
    ∃ (n : Nat) (s : Session), sv.sessions[n]? = some s ∧ S s.id ∧ x.recipient ∈ s.members
  view : ∀ v, x.content.view? = some v → sv.Shows v

namespace Server

variable {sv : Server} {c : ConnectionId} {S : SessionId → Prop}

/-! ## What calls tell -/

/-- When all members of a session are told where it is, this is due once the session has its place. -/
theorem tells_sync {n : Nat} {t : Session} (hn : sv.sessions[n]? = some t) (ht : t.Orderly)
    (hS : S t.id) (net : Network) : Tells (Delivery.Due c S sv) net (t.sync net) := by
  refine Network.tells_emitAll fun d hd => ⟨.inr ⟨n, t, hn, hS, (ht.isSeated.mem_audience d).1 hd⟩, ?_⟩
  intro v hv
  cases hv
  exact ⟨n, t, hn, rfl⟩

theorem tells_unbind (h : sv.Sound) (d : ConnectionId) :
    Tells (Delivery.Due c (Call.Touches sv (.unbind d)) (sv.unbind d).2) sv.network
      (sv.unbind d).2.network := by
  cases hd : sv.bindings[d]? with
  | none => rw [unbind_unbound hd]; exact .refl _ _
  | some id =>
    obtain ⟨n, s, m, hs, hid, -, -, heq⟩ := h.unbind_bound hd
    rw [heq]
    by_cases hempty : (s.without d).members.isEmpty
    · simp only [hempty, if_true]
      exact .refl _ _
    · simp only [hempty]
      refine tells_sync (n := n) ?_ ((h.orderly n s hs).without d) ?_ _
      · rw [getElem?_set_of_some hs, if_pos rfl]
      · exact hd.trans (congrArg some hid.symm)

/-- Destroying a session tells nobody, and neither does making one. -/
theorem network_destroyIfEmpty (h : sv.Sound) (id : SessionId) :
    (sv.destroyIfEmpty id).2.network = sv.network := by
  rcases h.destroyIfEmpty_cases id with ⟨heq, -⟩ | ⟨n, s, -, -, -, -, heq⟩
  · rw [heq]
  · rw [heq]

theorem network_create (h : sv.Sound) (videoId time : UInt64) :
    (sv.create videoId time).2.network = sv.network := by
  rw [h.create_eq]

/-- Who is added is told first, and then everyone. -/
theorem tells_addMember (h : sv.Sound) {r : SessionRef} (hr : sv.Has r) (nick : String) :
    Tells (Delivery.Due c (Call.Touches sv (.addMember r c nick)) (sv.addMember r c nick).2) sv.network
      (sv.addMember r c nick).2.network := by
  obtain ⟨s, hs, hid⟩ := hr
  cases hclosed : s.closed with
  | true => rw [addMember_closed hs hclosed]; exact .refl _ _
  | false =>
    rw [addMember_open hs hclosed]
    have hplace : (sv.sessions.set r.number (s.withMember c nick))[r.number]? =
        some (s.withMember c nick) := by
      rw [getElem?_set_of_some hs, if_pos rfl]
    have hshown : ∀ v, (Content.event (.joinSession (s.withMember c nick).view)).view? = some v →
        ∃ (n : Nat) (t : Session),
          (sv.sessions.set r.number (s.withMember c nick))[n]? = some t ∧ v = t.view := by
      intro v hv
      cases hv
      exact ⟨r.number, _, hplace, rfl⟩
    refine Tells.trans (Network.tells_emit ⟨.inl rfl, hshown⟩) ?_
    exact tells_sync hplace ((h.orderly _ s hs).withMember hclosed c nick) hid.symm _

/-- An operation on playback either does nothing or tells the members where it has left the session. -/
theorem tells_onSession (h : sv.Sound) {r : SessionRef} (hr : sv.Has r) (hS : S r.id)
    {f : Session → Network → Unit × Session × Network}
    (hroster : ∀ (s : Session) net, s.SameRoster (f s net).2.1)
    (hsync : ∀ s net, (f s net).2 = (s, net) ∨ (f s net).2.2 = (f s net).2.1.sync net) :
    Tells (Delivery.Due c S (sv.onSession r f).2) sv.network (sv.onSession r f).2.network := by
  obtain ⟨s, hs, hid⟩ := hr
  have hst := hroster s sv.network
  rw [onSession_eq hs]
  rcases hsync s sv.network with hsame | hnet
  · rw [hsame]
    exact .refl _ _
  · rw [hnet]
    refine tells_sync (n := r.number) ?_ (hst.orderly (h.orderly _ s hs)) ?_ _
    · rw [getElem?_set_of_some hs, if_pos rfl]
    · rw [hst.id, hid]
      exact hS

/-- What a proper and truthful call delivers is due once the call has been made. -/
theorem tells_answer (h : sv.Sound) {q : Call} (hq : q.Proper c sv) (htrue : q.Truthful sv) :
    Tells (Delivery.Due c (q.Touches sv) (sv.answer q).2) sv.network (sv.answer q).2.network := by
  cases q with
  | unbind d => exact tells_unbind h d
  | destroyIfEmpty id =>
    change Tells _ _ (sv.destroyIfEmpty id).2.network
    rw [network_destroyIfEmpty h]
    exact .refl _ _
  | create videoId time =>
    change Tells _ _ (sv.create videoId time).2.network
    rw [network_create h]
    exact .refl _ _
  | addMember r d nick =>
    obtain ⟨rfl, hr⟩ := hq
    exact tells_addMember h hr nick
  | play r =>
    exact tells_onSession (f := fun s net => ((), s.play net)) h hq rfl Session.sameRoster_play
      Session.play_cases
  | pause r =>
    exact tells_onSession (f := fun s net => ((), s.pause net)) h hq rfl Session.sameRoster_pause
      fun _ _ => .inr rfl
  | setTime r time =>
    exact tells_onSession (f := fun s net => ((), s.setTime time net)) h hq rfl
      (fun s net => s.sameRoster_setTime time net) fun _ _ => .inr rfl
  | send d e => exact Network.tells_emit ⟨.inl hq, htrue⟩
  | _ => exact .refl _ _

end Server

end WatchParty
