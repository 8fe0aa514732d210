/-
What a handler goes by. `Server.Coincide` says of two servers that they are the same to a connection, as
far as sessions of certain ids go. A handler of the connection that keeps inside these sessions finds the
same on both, does the same to both and delivers the same: `Coincide.run`.
-/
import WatchParty.Proofs.Handler.Heedless
import WatchParty.Proofs.Server.Consistent
import WatchParty.Proofs.Server.Within

namespace WatchParty

/-! ## Networks -/

namespace Network

variable {before before' : List Delivery} {a b : Network}

/-- The same connections refuse, and what has been delivered since the one record in the one network is
what has been delivered since the other record in the other. -/
structure SameSince (before before' : List Delivery) (a b : Network) : Prop where
  refusing : b.refusing = a.refusing
  told : ∃ told, a.log = told ++ before ∧ b.log = told ++ before'

theorem SameSince.isOpen (h : SameSince before before' a b) (c : ConnectionId) :
    b.isOpen c = a.isOpen c := by
  unfold Network.isOpen
  rw [h.refusing]

theorem SameSince.deliver (h : SameSince before before' a b) (c : ConnectionId) (content : Content) :
    SameSince before before' (a.deliver c content) (b.deliver c content) := by
  obtain ⟨told, ha, hb⟩ := h.told
  refine ⟨h.refusing, ⟨c, content⟩ :: told, ?_, ?_⟩
  · exact congrArg (⟨c, content⟩ :: ·) ha
  · exact congrArg (⟨c, content⟩ :: ·) hb

theorem SameSince.emit (h : SameSince before before' a b) (c : ConnectionId) (e : Event) :
    SameSince before before' (a.emit c e).2 (b.emit c e).2 := by
  unfold Network.emit
  rw [h.isOpen c]
  split
  · exact h.deliver c _
  · exact h

def sameSince (before before' : List Delivery) : Likeness :=
  ⟨SameSince before before', SameSince.emit, SameSince.deliver⟩

theorem refusing_emit (net : Network) (c : ConnectionId) (e : Event) :
    (net.emit c e).2.refusing = net.refusing := by
  unfold Network.emit
  split
  · rfl
  · rfl

/-- In both networks these connections refuse. -/
def refusal (refusing : Std.ExtTreeMap ConnectionId Unit) : Likeness where
  Holds a b := a.refusing = refusing ∧ b.refusing = refusing
  emit h c e := ⟨(refusing_emit _ c e).trans h.1, (refusing_emit _ c e).trans h.2⟩
  deliver h _ _ := h

end Network

namespace Server

variable {α : Type} {c : ConnectionId} {S : SessionId → Prop} {before before' : List Delivery}
  {a b : Server} {r : SessionRef} {id : SessionId}

/-- The servers have the same sessions of such ids, registered alike, and the connection is bound alike.
The same has been delivered in both since the records. -/
structure Coincide (c : ConnectionId) (S : SessionId → Prop) (before before' : List Delivery)
    (a b : Server) : Prop where
  sessions : ∀ (n : Nat) (s : Session), S s.id → (b.sessions[n]? = some s ↔ a.sessions[n]? = some s)
  registered : ∀ id : SessionId, S id → b.registered[id]? = a.registered[id]?
  binding : b.bindings[c]? = a.bindings[c]?
  network : a.network.SameSince before before' b.network

theorem Coincide.registeredRef? (h : Coincide c S before before' a b) (hid : S id) :
    b.registeredRef? id = a.registeredRef? id := by
  unfold Server.registeredRef?
  rw [h.registered id hid]

theorem Coincide.session (h : Coincide c S before before' a b) (hr : a.Has r) (hS : S r.id) :
    ∃ s : Session, a.sessions[r.number]? = some s ∧ b.sessions[r.number]? = some s ∧ s.id = r.id := by
  obtain ⟨s, hs, hid⟩ := hr
  exact ⟨s, hs, (h.sessions r.number s (hid ▸ hS)).2 hs, hid⟩

/-! ## Calls -/

/-- The same session may take another's place in both. -/
theorem getElem?_set_congr {l l' : List Session} (h : ∀ (n : Nat) (s : Session), S s.id →
      (l'[n]? = some s ↔ l[n]? = some s)) {n : Nat} {s : Session} (hs : l[n]? = some s)
    (hs' : l'[n]? = some s) (t : Session) (m : Nat) (u : Session) (hu : S u.id) :
    (l'.set n t)[m]? = some u ↔ (l.set n t)[m]? = some u := by
  rw [getElem?_set_of_some hs, getElem?_set_of_some hs']
  split
  · rfl
  · exact h m u hu

theorem Coincide.onSession (h : Coincide c S before before' a b) (hr : a.Has r) (hS : S r.id)
    {f : Session → Network → α × Session × Network}
    (hf : ∀ s m n, Network.SameSince before before' m n →
      Session.Agree (Network.sameSince before before') (f s m) (f s n)) :
    (a.onSession r f).1 = (b.onSession r f).1 ∧
      Coincide c S before before' (a.onSession r f).2 (b.onSession r f).2 := by
  obtain ⟨s, hs, hs', -⟩ := h.session hr hS
  have hagree := hf s _ _ h.network
  rw [onSession_eq hs, onSession_eq hs', ← hagree.session]
  exact ⟨hagree.answer, getElem?_set_congr h.sessions hs hs' _, h.registered, h.binding, hagree.network⟩

theorem Coincide.unbind (h : Coincide c S before before' a b) (hsound : a.Sound)
    (hbound : ∀ bound, a.bindings[c]? = some bound → S bound) :
    (a.unbind c).1 = (b.unbind c).1 ∧ Coincide c S before before' (a.unbind c).2 (b.unbind c).2 := by
  unfold Server.unbind boundSession?
  rw [h.binding]
  cases hb : a.bindings[c]? with
  | none => exact ⟨rfl, h⟩
  | some id =>
    have hid := hbound id hb
    -- the session is looked up once the binding is gone
    have hunbound : Coincide c S before before' { a with bindings := a.bindings.erase c }
        { b with bindings := b.bindings.erase c } := by
      refine ⟨h.sessions, h.registered, ?_, h.network⟩
      exact Std.ExtTreeMap.getElem?_erase_self.trans Std.ExtTreeMap.getElem?_erase_self.symm
    dsimp only
    rw [hunbound.registeredRef? hid]
    cases hr : Server.registeredRef? { a with bindings := a.bindings.erase c } id with
    | none => exact ⟨rfl, hunbound⟩
    | some r =>
      obtain ⟨s, hs, -, hsid, -⟩ := hsound.session_of_registeredRef (r := r) hr
      have hrid := id_of_registeredRef hr
      obtain ⟨hanswer, hleft⟩ := hunbound.onSession ⟨s, hs, hsid.trans hrid.symm⟩ (hrid ▸ hid)
        fun s m n hnet => Session.agree_removeMember (L := Network.sameSince before before') hnet s c
      have hunbound := congrArg (fun removed => Unbound.mk id removed.1 removed.2) hanswer
      exact ⟨congrArg Except.ok hunbound, hleft⟩

theorem Coincide.destroyIfEmpty (h : Coincide c S before before' a b) (hsound : a.Sound) (hid : S id) :
    (a.destroyIfEmpty id).1 = (b.destroyIfEmpty id).1 ∧
      Coincide c S before before' (a.destroyIfEmpty id).2 (b.destroyIfEmpty id).2 := by
  cases hr : a.registeredRef? id with
  | none =>
    rw [destroyIfEmpty_of_none hr, destroyIfEmpty_of_none ((h.registeredRef? hid).trans hr)]
    exact ⟨rfl, h⟩
  | some r =>
    have hrid := id_of_registeredRef hr
    obtain ⟨s, hs, -, hsid, -⟩ := hsound.session_of_registeredRef hr
    have hs' := (h.sessions r.number s (hsid ▸ hid)).2 hs
    rw [destroyIfEmpty_of_some hr hs, destroyIfEmpty_of_some ((h.registeredRef? hid).trans hr) hs']
    split
    · refine ⟨rfl, ?_, fun id' hid' => ?_, h.binding, h.network⟩
      · unfold retire
        rw [session_eq hs, session_eq hs']
        exact getElem?_set_congr h.sessions hs hs' _
      · unfold retire
        simp only [Std.ExtTreeMap.getElem?_erase, h.registered id' hid']
    · exact ⟨rfl, h⟩

end Server

/-- The call goes by the connection and by sessions of such ids only, and changes nothing else. It makes
no session. -/
def Call.Inside (c : ConnectionId) (S : SessionId → Prop) (sv : Server) : Call → Prop
  | .lookup id => S id
  | .boundSession d => d = c
  | .unbind d => d = c ∧ ∀ bound, sv.bindings[c]? = some bound → S bound
  | .destroyIfEmpty id => S id
  | .create .. => False
  | .addMember r .. => S r.id
  | .bind d _ => d = c
  | .play r => S r.id
  | .pause r => S r.id
  | .setTime r _ => S r.id
  | .view r => S r.id
  | .send .. => True

/-- A call touches only what it keeps inside. -/
theorem Call.Inside.touches {c : ConnectionId} {S : SessionId → Prop} {sv : Server} {q : Call}
    (hq : q.Inside c S sv) : ∀ id, q.Touches sv id → S id := by
  intro id hid
  cases q with
  | unbind d => exact hq.2 id (hq.1 ▸ hid)
  | destroyIfEmpty id' => exact hid ▸ hq
  | create videoId time => exact hq.elim
  | addMember r d nick => exact hid ▸ hq
  | play r => exact hid ▸ hq
  | pause r => exact hid ▸ hq
  | setTime r time => exact hid ▸ hq
  | _ => exact hid.elim

namespace Server

variable {α : Type} {c : ConnectionId} {S : SessionId → Prop} {before before' : List Delivery}
  {a b : Server}

/-- A proper call is answered alike on both, and does the same to both. -/
theorem Coincide.answer (h : Coincide c S before before' a b) (hsound : a.Sound) {q : Call}
    (hq : q.Proper c a) (hin : q.Inside c S a) : (a.answer q).1 = (b.answer q).1 ∧
      Coincide c S before before' (a.answer q).2 (b.answer q).2 := by
  cases q with
  | lookup id =>
    refine ⟨?_, h⟩
    simp only [Server.answer, lookup, h.registeredRef? hin]
  | boundSession d =>
    rw [show d = c from hin]
    exact ⟨h.binding.symm, h⟩
  | unbind d =>
    obtain ⟨rfl, hbound⟩ := hin
    exact h.unbind hsound hbound
  | destroyIfEmpty id => exact h.destroyIfEmpty hsound hin
  | create videoId time => exact hin.elim
  | addMember r d nick =>
    exact h.onSession hq.2 hin fun s _ _ hnet =>
      Session.agree_addMember (L := Network.sameSince before before') hnet s d nick
  | bind d id =>
    rw [show d = c from hin]
    refine ⟨h.binding.symm, h.sessions, h.registered, ?_, h.network⟩
    exact Std.ExtTreeMap.getElem?_insert_self.trans Std.ExtTreeMap.getElem?_insert_self.symm
  | play r =>
    exact ⟨rfl, (h.onSession hq hin fun s _ _ hnet =>
      Session.agree_play (L := Network.sameSince before before') hnet s).2⟩
  | pause r =>
    exact ⟨rfl, (h.onSession hq hin fun s _ _ hnet =>
      Session.agree_pause (L := Network.sameSince before before') hnet s).2⟩
  | setTime r time =>
    exact ⟨rfl, (h.onSession hq hin fun s _ _ hnet =>
      Session.agree_setTime (L := Network.sameSince before before') hnet s time).2⟩
  | view r =>
    obtain ⟨s, hs, hs', -⟩ := h.session hq hin
    refine ⟨?_, h⟩
    simp only [Server.answer, session_eq hs, session_eq hs']
  | send d e =>
    have hemit := h.network.emit d e
    refine ⟨?_, h.sessions, h.registered, h.binding, hemit⟩
    change (a.network.emit d e).1 = (b.network.emit d e).1
    unfold Network.emit
    rw [h.network.isOpen d]
    split
    · rfl
    · rfl

/-- A handler that keeps inside has the same result on both, and does the same to both. -/
theorem Coincide.run (h : Coincide c S before before' a b) {p : Handler α}
    (hp : p.Along (fun sv q => q.Fair c sv ∧ q.Inside c S sv) a) :
    (p.run a).1 = (p.run b).1 ∧ Coincide c S before before' (p.run a).2 (p.run b).2 := by
  induction p generalizing a b with
  | done result => exact ⟨rfl, h⟩
  | call q next ih =>
    obtain ⟨⟨hfair, hin⟩, hrest⟩ := hp
    obtain ⟨hanswer, hafter⟩ := h.answer hfair.sound hfair.proper hin
    change ((next (a.answer q).1).run (a.answer q).2).1 = ((next (b.answer q).1).run (b.answer q).2).1 ∧
      Coincide c S before before' ((next (a.answer q).1).run (a.answer q).2).2
        ((next (b.answer q).1).run (b.answer q).2).2
    rw [← hanswer]
    exact ih _ hafter hrest

/-! ## What stays -/

/-- All but the sessions, their registrations, the bindings and the deliveries is as it was. -/
structure Steady (sv sv' : Server) : Prop where
  settings : sv'.settings = sv.settings
  issued : sv'.issued = sv.issued
  accepted : sv'.accepted = sv.accepted
  now : sv'.now = sv.now
  refusing : sv'.network.refusing = sv.network.refusing

variable {sv sv₁ sv₂ sv₃ : Server}

theorem Steady.refl (sv : Server) : Steady sv sv := ⟨rfl, rfl, rfl, rfl, rfl⟩

theorem Steady.trans (h : Steady sv₁ sv₂) (k : Steady sv₂ sv₃) : Steady sv₁ sv₃ where
  settings := k.settings.trans h.settings
  issued := k.issued.trans h.issued
  accepted := k.accepted.trans h.accepted
  now := k.now.trans h.now
  refusing := k.refusing.trans h.refusing

/-- Servers that are steady can differ in these respects only. -/
theorem Steady.eq_of (h : Steady sv sv₁) (k : Steady sv sv₂)
    (hsessions : sv₁.sessions = sv₂.sessions) (hregistered : sv₁.registered = sv₂.registered)
    (hbindings : sv₁.bindings = sv₂.bindings) : sv₁ = { sv₂ with network := sv₁.network } := by
  cases sv₁
  cases sv₂
  obtain ⟨rfl, rfl, rfl, rfl, -⟩ := h
  obtain ⟨rfl, rfl, rfl, rfl, -⟩ := k
  cases hsessions
  cases hregistered
  cases hbindings
  rfl

/-- Nothing that a handler calls makes a connection refuse. -/
theorem refusing_answer (sv : Server) (q : Call) :
    (sv.answer q).2.network.refusing = sv.network.refusing := by
  have hself : sv.Like (Network.refusal sv.network.refusing) sv := ⟨sv.network, rfl, rfl, rfl⟩
  exact (hself.answer q).1.network.1

theorem Steady.answer (sv : Server) {q : Call} (hq : q.Inside c S sv) : Steady sv (sv.answer q).2 := by
  have hrefusing := refusing_answer sv q
  -- who refuses cannot be read off the record, as what is told goes through the network
  suffices hrest : ∃ sessions registered bindings network,
      (sv.answer q).2 = { sv with sessions, registered, bindings, network } by
    obtain ⟨sessions, registered, bindings, network, heq⟩ := hrest
    rw [heq] at hrefusing ⊢
    exact ⟨rfl, rfl, rfl, rfl, hrefusing⟩
  cases q with
  | unbind d =>
    simp only [Server.answer, Server.unbind]
    split
    · exact ⟨_, _, _, _, rfl⟩
    · split
      · exact ⟨_, _, _, _, rfl⟩
      · exact ⟨_, _, _, _, rfl⟩
  | destroyIfEmpty id =>
    simp only [Server.answer, Server.destroyIfEmpty]
    split
    · exact ⟨_, _, _, _, rfl⟩
    · split
      · exact ⟨_, _, _, _, rfl⟩
      · exact ⟨_, _, _, _, rfl⟩
  | create videoId time => exact hq.elim
  | _ => exact ⟨_, _, _, _, rfl⟩

end Server

end WatchParty
