/-
What a join comes to. The connection leaves the session that it is in, unless it is the one to join:
`Server.vacate` is the server then. And it enters the session to join: `Server.enter`. From both
together, `join_moves` says what becomes of either session and what everyone hears of it.
-/
import WatchParty.Proofs.Broadcast
import WatchParty.Proofs.Isolation
import WatchParty.Proofs.Movement

namespace WatchParty

namespace Server

/-! ## Definitions -/

/-- The server once the connection has left the session. Those who remain are told; if there are none,
the session is not registered any more and shut down. -/
def vacate (sv : Server) (c : ConnectionId) (r : SessionRef) : Server :=
  let s := (sv.session r).without c
  if s.members.isEmpty then
    { sv with
      sessions := sv.sessions.set r.number s.shutdown
      registered := sv.registered.erase r.id
      bindings := sv.bindings.erase c }
  else
    { sv with
      sessions := sv.sessions.set r.number s
      bindings := sv.bindings.erase c
      network := s.sync sv.network }

/-- The server once the connection has entered the session. It is told first, and then everyone is. -/
def enter (sv : Server) (c : ConnectionId) (r : SessionRef) (nick : String) : Server :=
  let s := (sv.session r).withMember c nick
  { sv with
    sessions := sv.sessions.set r.number s
    bindings := sv.bindings.insert c r.id
    network := s.sync (sv.network.emit c (.joinSession s.view)).2 }

/-- From the first server to the second the connection has left the session. If others remain, the
session is as it was but for the member, and each of them that is open has heard once how it is now. If
there are none, the session is not registered any more and shut down. -/
structure Vacates (c : ConnectionId) (r : SessionRef) (sv sv' : Server) : Prop where
  gone : c ∉ (sv'.session r).members
  others : (∃ d ∈ (sv.session r).members, d ≠ c) →
    sv'.registeredRef? r.id = some r ∧ sv'.session r = (sv.session r).without c
  alone : (∀ d ∈ (sv.session r).members, d = c) →
    sv'.registeredRef? r.id = none ∧ sv'.session r = ((sv.session r).without c).shutdown
  heard : ∀ d ∈ (sv.session r).members, d ≠ c → sv.network.isOpen d = true →
    sv'.network.heard d = .event (.sync (sv'.session r).view) :: sv.network.heard d

/-- From the first server to the second the connection has become a member of the session, or goes by
another nickname there, and the session is as it was in all other respects. If the connection is open,
it has heard once that it joined and then once how the session is, and every other open member has heard
the latter once. -/
structure Enters (c : ConnectionId) (r : SessionRef) (nickname : String) (sv sv' : Server) : Prop where
  bound : sv'.boundSession? c = some r.id
  registered : sv'.registeredRef? r.id = some r
  session : sv'.session r =
    { sv.session r with members := (sv.session r).members.insert c ⟨c, nickname, r.id⟩ }
  newcomer : sv.network.isOpen c = true → sv'.network.heard c =
    .event (.sync (sv'.session r).view) :: .event (.joinSession (sv'.session r).view) :: sv.network.heard c
  members : ∀ d ∈ (sv.session r).members, d ≠ c → sv.network.isOpen d = true →
    sv'.network.heard d = .event (.sync (sv'.session r).view) :: sv.network.heard d

variable {sv sv' left : Server} {c d : ConnectionId} {r other : SessionRef} {s : Session} {nick : String}

/-! ## Leaving -/

theorem vacate_of_empty (hsession : sv.session r = s) (hempty : (s.without c).members.isEmpty = true) :
    sv.vacate c r = { sv with
      sessions := sv.sessions.set r.number (s.without c).shutdown
      registered := sv.registered.erase r.id
      bindings := sv.bindings.erase c } := by
  unfold vacate
  rw [hsession]
  exact if_pos hempty

theorem vacate_of_inhabited (hsession : sv.session r = s) (hleft : (s.without c).members.isEmpty = false) :
    sv.vacate c r = { sv with
      sessions := sv.sessions.set r.number (s.without c)
      bindings := sv.bindings.erase c
      network := (s.without c).sync sv.network } := by
  unfold vacate
  rw [hsession]
  exact if_neg (by simp [hleft])

theorem isOpen_vacate (sv : Server) (c : ConnectionId) (r : SessionRef) (d : ConnectionId) :
    (sv.vacate c r).network.isOpen d = sv.network.isOpen d := by
  unfold vacate
  simp only
  split
  · rfl
  · exact Session.isOpen_sync _ _ d

/-- Who is not left behind in the session hears nothing. -/
theorem heard_vacate_other (hs : (sv.session r).Orderly) (hd : d = c ∨ d ∉ (sv.session r).members) :
    (sv.vacate c r).network.heard d = sv.network.heard d := by
  unfold vacate
  simp only
  split
  · rfl
  · refine Session.heard_broadcast_other (hs.without c).isSeated (fun hmem => ?_) _
    obtain ⟨hne, hmem⟩ := Session.mem_without.1 hmem
    exact hd.elim hne fun hnot => hnot hmem

theorem heard_vacate_closed (hclosed : sv.network.isOpen d = false) :
    (sv.vacate c r).network.heard d = sv.network.heard d := by
  unfold vacate
  simp only
  split
  · rfl
  · exact Session.heard_broadcast_closed hclosed _ _

theorem getElem?_vacate_other {n : Nat} (hn : r.number ≠ n) :
    (sv.vacate c r).sessions[n]? = sv.sessions[n]? := by
  unfold vacate
  simp only
  split
  · exact List.getElem?_set_ne hn
  · exact List.getElem?_set_ne hn

theorem registeredRef?_vacate_other {id : SessionId} (hid : r.id ≠ id) :
    (sv.vacate c r).registeredRef? id = sv.registeredRef? id := by
  unfold registeredRef? vacate
  simp only
  split
  · rw [Std.ExtTreeMap.getElem?_erase, if_neg (mt Std.LawfulEqCmp.compare_eq_iff_eq.1 hid)]
  · rfl

/-- Sessions that are registered under different ids are different ones. -/
theorem Sound.number_ne (hsound : sv.Sound) {id id' : SessionId} (hr : sv.registeredRef? id = some r)
    (hother : sv.registeredRef? id' = some other) (hne : id ≠ id') : r.number ≠ other.number := by
  obtain ⟨s, hs, -, hid, -⟩ := hsound.session_of_registeredRef hr
  obtain ⟨t, ht, -, hid', -⟩ := hsound.session_of_registeredRef hother
  intro hnumber
  rw [hnumber, ht] at hs
  cases hs
  exact hne (hid.symm.trans hid')

theorem session_set (hs : sv.sessions[r.number]? = some s) (t : Session) :
    { sv with sessions := sv.sessions.set r.number t }.session r = t :=
  session_eq (by rw [getElem?_set_of_some hs, if_pos rfl])

theorem session_enter (hs : sv.sessions[r.number]? = some s) (c : ConnectionId) (nick : String) :
    (sv.enter c r nick).session r = s.withMember c nick := by
  unfold enter
  rw [session_eq hs]
  exact session_set hs _

/-- What leaving comes to, for a session that is registered. -/
theorem Sound.vacates (hsound : sv.Sound) (hr : sv.registeredRef? r.id = some r) (c : ConnectionId) :
    Vacates c r sv (sv.vacate c r) := by
  obtain ⟨s, hs, hsession, -, -⟩ := hsound.session_of_registeredRef hr
  have horderly := (hsound.orderly _ s hs).without c
  have hgone : c ∉ (s.without c).members := fun hmem => (Session.mem_without.1 hmem).1 rfl
  cases hempty : (s.without c).members.isEmpty with
  | true =>
    have hvacate := vacate_of_empty hsession hempty
    have hafter : (sv.vacate c r).session r = (s.without c).shutdown := by
      rw [hvacate]
      exact session_set hs _
    have hnobody : ∀ d ∈ (sv.session r).members, d ≠ c → False := by
      intro d hd hne
      rw [hsession] at hd
      have hnone := Std.ExtTreeMap.eq_empty_iff_forall_not_mem.1 (Std.ExtTreeMap.isEmpty_iff.1 hempty)
      exact hnone d (Session.mem_without.2 ⟨hne, hd⟩)
    refine ⟨?_, ?_, fun _ => ⟨?_, ?_⟩, fun d hd hne => (hnobody d hd hne).elim⟩
    · rw [hafter]
      exact hgone
    · rintro ⟨d, hd, hne⟩
      exact (hnobody d hd hne).elim
    · rw [hvacate]
      unfold registeredRef?
      rw [Std.ExtTreeMap.getElem?_erase_self]
      rfl
    · rw [hafter, hsession]
  | false =>
    have hvacate := vacate_of_inhabited hsession hempty
    have hafter : (sv.vacate c r).session r = s.without c := by
      rw [hvacate]
      exact session_set hs _
    refine ⟨by rw [hafter]; exact hgone, fun _ => ⟨?_, ?_⟩, fun halone => ?_, fun d hd hne hopen => ?_⟩
    · rw [hvacate]
      exact hr
    · rw [hafter, hsession]
    · refine absurd ?_ (Std.ExtTreeMap.isEmpty_eq_false_iff.1 hempty)
      refine Std.ExtTreeMap.eq_empty_iff_forall_not_mem.2 fun d hd => ?_
      obtain ⟨hne, hmem⟩ := Session.mem_without.1 hd
      exact hne (halone d (hsession ▸ hmem))
    · rw [hafter, hvacate]
      rw [hsession] at hd
      exact Session.heard_broadcast_member horderly.isSeated (Session.mem_without.2 ⟨hne, hd⟩) hopen _

/-! ## Entering -/

theorem getElem?_enter_other {n : Nat} (hn : r.number ≠ n) :
    (sv.enter c r nick).sessions[n]? = sv.sessions[n]? :=
  List.getElem?_set_ne hn

theorem heard_enter_closed (hclosed : sv.network.isOpen d = false) :
    (sv.enter c r nick).network.heard d = sv.network.heard d := by
  have hstays : ∀ e, (sv.network.emit c e).2.isOpen d = false := fun e => by
    rw [Network.isOpen_emit, hclosed]
  refine (Session.heard_broadcast_closed (hstays _) _ _).trans ?_
  by_cases hcd : c = d
  · rw [hcd, Network.heard_emit_closed hclosed]
  · exact Network.heard_emit_other hcd _ _

section Registered

variable (hs : sv.sessions[r.number]? = some s) (hopen : s.closed = false) (horderly : s.Orderly)
include hs hopen horderly

/-- Who is neither new nor in the session hears nothing. -/
theorem heard_enter_other (hdc : d ≠ c) (hd : d ∉ s.members) (nick : String) :
    (sv.enter c r nick).network.heard d = sv.network.heard d := by
  have hnot : d ∉ (s.withMember c nick).members := fun hmem =>
    (Session.mem_withMember.1 hmem).elim hdc hd
  unfold enter
  rw [session_eq hs]
  refine (Session.heard_broadcast_other (horderly.withMember hopen c nick).isSeated hnot _).trans ?_
  exact Network.heard_emit_other (Ne.symm hdc) _ _

/-- What entering comes to, for a session that is registered. -/
theorem enters (hr : sv.registeredRef? r.id = some r) (hid : s.id = r.id) (c : ConnectionId)
    (nick : String) : Enters c r (s.nicknameFor nick) sv (sv.enter c r nick) := by
  have horderly := horderly.withMember hopen c nick
  have hsession : sv.session r = s := session_eq hs
  have hafter := session_enter hs c nick
  -- everyone in the session is told after the newcomer
  have hheard : ∀ d ∈ (s.withMember c nick).members, sv.network.isOpen d = true →
      (sv.enter c r nick).network.heard d = .event (.sync (s.withMember c nick).view) ::
        (sv.network.emit c (.joinSession (s.withMember c nick).view)).2.heard d := by
    intro d hd hopen
    unfold enter
    rw [hsession]
    refine Session.heard_broadcast_member horderly.isSeated hd ?_ _
    rw [Network.isOpen_emit, hopen]
  refine ⟨Std.ExtTreeMap.getElem?_insert_self, hr, ?_, fun hopen => ?_, fun d hd hne hopen => ?_⟩
  · rw [hafter, hsession, ← hid]
    rfl
  · rw [hafter, hheard c (Session.mem_withMember.2 (.inl rfl)) hopen, Network.heard_emit_open hopen]
  · rw [hsession] at hd
    rw [hafter, hheard d (Session.mem_withMember.2 (.inr hd)) hopen, Network.heard_emit_other (Ne.symm hne)]

end Registered

end Server

namespace Handler

open Server

variable {sv : Server} {c : ConnectionId} {r : SessionRef} {id : SessionId} {s : Session}

/-! ## Joins -/

/-- Whoever is in a session leaves it. -/
theorem depart_run_vacate (hsound : sv.Sound) (hb : sv.bindings[c]? = some id)
    (hr : sv.registeredRef? id = some r) : (depart c).run sv = (.ok id, sv.vacate c r) := by
  obtain ⟨n, s, m, hs, hid, hopen, -, heq⟩ := hsound.unbind_bound hb
  have hopened := hsound.registeredRef_of_open hs hopen
  rw [hid, hr] at hopened
  cases hopened
  have hsession : sv.session ⟨n, id⟩ = s := session_eq (r := ⟨n, id⟩) hs
  have hunbound := hsound.unbind c
  rw [heq] at hunbound
  have hnobody : Unbound.leavesNobody ⟨id, some m, (s.without c).members.size⟩ =
      (s.without c).members.isEmpty := Std.ExtTreeMap.isEmpty_eq_size_beq_zero.symm
  rw [depart_run, heq]
  cases hempty : (s.without c).members.isEmpty with
  | false =>
    rw [hempty] at hnobody
    rw [vacate_of_inhabited hsession hempty]
    simp only [departed, hnobody, Bool.false_eq_true, if_false]
    rfl
  | true =>
    rw [hempty] at hnobody hunbound
    rw [vacate_of_empty hsession hempty]
    simp only [departed, hnobody, if_true]
    show (_, (Server.destroyIfEmpty _ id).2) = _
    -- the session that is destroyed for being empty is the one just left
    have hplace : (sv.sessions.set n (s.without c))[n]? = some (s.without c) := by
      rw [getElem?_set_of_some hs, if_pos rfl]
    rcases hunbound.destroyIfEmpty_cases id with ⟨-, hnot⟩ | ⟨n', t, ht, htid, -, -, hdestroy⟩
    · exact absurd ⟨n, s.without c, hplace, hid, hopen, Std.ExtTreeMap.isEmpty_iff.1 hempty⟩ hnot
    · obtain rfl := hunbound.number_unique ht hplace (htid.trans hid.symm)
      cases ht.symm.trans hplace
      simp only [if_true] at hdestroy
      rw [hdestroy, List.set_set]

theorem enrol_run_enter (hs : sv.sessions[r.number]? = some s) (hopen : s.closed = false) (nick : String) :
    (enrol c r nick).run sv = (.ok (), sv.enter c r nick) := by
  rw [enrol_eq]
  show (admitted c r (sv.addMember r c nick).1).run (sv.addMember r c nick).2 = _
  unfold enter
  rw [addMember_open hs hopen, session_eq hs]
  rfl

/-- Who is in no session enters the one to join, and so does who is in that one already. -/
theorem join_run_enter (hsound : sv.Sound) (hr : sv.registeredRef? id = some r)
    (hb : ∀ bound, sv.bindings[c]? = some bound → bound = id) (nick : String) :
    (join c id nick).run sv = (.ok (), sv.enter c r nick) := by
  obtain ⟨s, hs, -, -, hopen⟩ := hsound.session_of_registeredRef hr
  cases hbound : sv.bindings[c]? with
  | none =>
    have hne : sv.bindings[c]? ≠ some id := by
      rw [hbound]
      exact nofun
    rw [join_run_elsewhere hr hne, depart_run_unbound hbound]
    exact enrol_run_enter hs hopen nick
  | some bound =>
    rw [hb bound hbound] at hbound
    rw [join_run_here hr hbound]
    exact enrol_run_enter hs hopen nick

/-- Who is in another session leaves it first. -/
theorem join_run_move (hsound : sv.Sound) (hr : sv.registeredRef? id = some r) {bound : SessionId}
    (hb : sv.bindings[c]? = some bound) (hne : bound ≠ id) {other : SessionRef}
    (hother : sv.registeredRef? bound = some other) (nick : String) :
    (join c id nick).run sv = (.ok (), (sv.vacate c other).enter c r nick) := by
  obtain ⟨s, hs, -, -, hopen⟩ := hsound.session_of_registeredRef hr
  have helse : sv.bindings[c]? ≠ some id := by
    rw [hb]
    exact fun h => hne (Option.some.inj h)
  rw [join_run_elsewhere hr helse, depart_run_vacate hsound hb hother]
  refine enrol_run_enter ?_ hopen nick
  rw [getElem?_vacate_other (hsound.number_ne hother hr hne), hs]

end Handler

namespace Server

open Handler

variable {sv sv' left : Server} {c : ConnectionId} {r : SessionRef} {nickname : String}

/-! ## Leaving one session for another -/

/-- What is done to another session afterwards does not matter to those who were left behind. -/
theorem Vacates.before (h : Vacates c r sv left)
    (hregistered : sv'.registeredRef? r.id = left.registeredRef? r.id)
    (hsession : sv'.session r = left.session r)
    (hheard : ∀ d ∈ (sv.session r).members, d ≠ c → sv'.network.heard d = left.network.heard d) :
    Vacates c r sv sv' where
  gone := hsession ▸ h.gone
  others hd := by
    rw [hregistered, hsession]
    exact h.others hd
  alone hd := by
    rw [hregistered, hsession]
    exact h.alone hd
  heard d hd hne hopen := by
    rw [hheard d hd hne, hsession]
    exact h.heard d hd hne hopen

/-- What was done to another session before does not matter to the session that is entered. -/
theorem Enters.after (h : Enters c r nickname left sv') (hsession : left.session r = sv.session r)
    (hopen : ∀ d, left.network.isOpen d = sv.network.isOpen d)
    (hheard : ∀ d, d = c ∨ d ∈ (sv.session r).members → left.network.heard d = sv.network.heard d) :
    Enters c r nickname sv sv' where
  bound := h.bound
  registered := h.registered
  session := by
    rw [← hsession]
    exact h.session
  newcomer hc := by
    rw [← hheard c (.inl rfl)]
    exact h.newcomer ((hopen c).trans hc)
  members d hd hne hdopen := by
    rw [← hheard d (.inr hd)]
    exact h.members d (hsession ▸ hd) hne ((hopen d).trans hdopen)

/-- Who has left one session and entered another has done each as if there were nothing but it. -/
theorem Quiescent.moves (hquiet : sv.Quiescent) {id bound : SessionId} {other : SessionRef} {s : Session}
    (hr : sv.registeredRef? id = some r) (hs : sv.sessions[r.number]? = some s)
    (hother : sv.registeredRef? bound = some other) (hne : bound ≠ id) (nick : String) :
    let sv' := (sv.vacate c other).enter c r nick
    Enters c r (s.nicknameFor nick) sv sv' ∧ Vacates c other sv sv' ∧
      ∀ d, d ≠ c → d ∉ s.members → d ∉ (sv.session other).members →
        sv'.network.heard d = sv.network.heard d := by
  intro sv'
  have hsound := hquiet.sound
  obtain ⟨s', hs', hsession, hid, hopen⟩ := hsound.session_of_registeredRef hr
  cases hs.symm.trans hs'
  obtain ⟨t, ht, htsession, -, -⟩ := hsound.session_of_registeredRef hother
  have horderly := hsound.orderly _ s hs
  have hother' : (sv.session other).Orderly := htsession ▸ hsound.orderly _ t ht
  have hrid := id_of_registeredRef hr
  have hotherid := id_of_registeredRef hother
  -- nobody is in both sessions
  have hapart : ∀ d ∈ (sv.session other).members, d ∉ s.members := by
    intro d hd hd'
    have hbound := (hquiet.consistent.bound d bound).2 ⟨other, hother, hd⟩
    have hbound' := (hquiet.consistent.bound d id).2 ⟨r, hr, hsession ▸ hd'⟩
    exact hne (Option.some.inj (hbound.symm.trans hbound'))
  have hnumber := hsound.number_ne hother hr hne
  have hleft : (sv.vacate c other).sessions[r.number]? = some s :=
    (getElem?_vacate_other hnumber).trans hs
  have hregistered : (sv.vacate c other).registeredRef? r.id = some r := by
    rw [registeredRef?_vacate_other (by rw [hotherid, hrid]; exact hne), hrid, hr]
  refine ⟨?_, ?_, fun d hdc hd hdother => ?_⟩
  · have henters := enters hleft hopen horderly hregistered (hid.trans hrid.symm) c nick
    refine henters.after (by rw [session_eq hleft, hsession]) (isOpen_vacate sv c other) fun d hd => ?_
    refine heard_vacate_other hother' (hd.imp_right fun hmem hdother => ?_)
    exact hapart d hdother (hsession ▸ hmem)
  · have hvacates := hsound.vacates (hotherid ▸ hother) c
    refine hvacates.before rfl ?_ fun d hd hdc => ?_
    · exact congrArg (·.getD (.absent other.id)) (getElem?_enter_other (Ne.symm hnumber))
    · exact heard_enter_other hleft hopen horderly hdc (hapart d hd) nick
  · exact (heard_enter_other hleft hopen horderly hdc hd nick).trans
      (heard_vacate_other hother' (.inr hdother))

/-- New members without a name of their own go by the default nickname of the settings. -/
theorem defaultNick_takeAll (settings : Settings) (inputs : List Input) {n : Nat} {s : Session}
    (hs : ((start settings).takeAll inputs).sessions[n]? = some s) :
    s.defaultNick = settings.defaultNick := by
  rw [takeAll_eq_performAll] at hs
  have hevery := (every_start (fun s => s.defaultNick = settings.defaultNick) settings).performAll
    (fun _ _ _ => rfl) (fun s x h => (s.retains_after x).defaultNick.trans h) (inputs.map .input)
  exact hevery.session n s hs

/-- Whatever the inputs before: who asks to join a session that is registered is in that session then.
It has left the session that it was in, if this is another one. Nobody but the members of the two
sessions hears of it, and of these only who is open. -/
theorem join_moves (settings : Settings) (inputs : List Input) (c : ConnectionId) (event : String)
    (data : Json) (id : SessionId) (nick : String) (r : SessionRef)
    (hdecode : Request.decode event data = .ok (.join id nick))
    (hr : ((start settings).takeAll inputs).registeredRef? id = some r) :
    let sv := (start settings).takeAll inputs
    let sv' := sv.dispatch c event data
    Enters c r (if Text.trim nick = "" then settings.defaultNick else Text.trim nick) sv sv' ∧
    (∀ bound, sv.boundSession? c = some bound → bound ≠ id →
      ∃ other, sv.registeredRef? bound = some other ∧ Vacates c other sv sv') ∧
    (∀ d, sv.network.isOpen d = false → sv'.network.heard d = sv.network.heard d) ∧
    (∀ d, d ≠ c → d ∉ (sv.session r).members →
      (∀ bound other, sv.boundSession? c = some bound → bound ≠ id →
        sv.registeredRef? bound = some other → d ∉ (sv.session other).members) →
      sv'.network.heard d = sv.network.heard d) := by
  intro sv sv'
  have hquiet : sv.Quiescent := (quiescent_start settings).takeAll inputs
  have hsound := hquiet.sound
  obtain ⟨s, hs, hsession, hid, hopen⟩ := hsound.session_of_registeredRef hr
  have horderly := hsound.orderly _ s hs
  have hrid := id_of_registeredRef hr
  have hnickname : s.nicknameFor nick =
      if Text.trim nick = "" then settings.defaultNick else Text.trim nick := by
    rw [← defaultNick_takeAll settings inputs hs]
    rfl
  rw [← hnickname]
  have hdispatch : ∀ {sv₁}, (join c id nick).run sv = (.ok (), sv₁) → sv' = sv₁ := by
    intro sv₁ hjoin
    show sv.dispatch c event data = sv₁
    rw [dispatch_of_ok hdecode (congrArg Prod.fst hjoin)]
    exact congrArg Prod.snd hjoin
  by_cases helse : ∃ bound, sv.bindings[c]? = some bound ∧ bound ≠ id
  · obtain ⟨bound, hb, hne⟩ := helse
    obtain ⟨other, hother, -, -⟩ := hsound.member_of_bound hb
    rw [hdispatch (join_run_move hsound hr hb hne hother nick), hsession]
    obtain ⟨henters, hvacates, hothers⟩ := hquiet.moves (c := c) hr hs hother hne nick
    refine ⟨henters, fun bound' hb' _ => ?_, fun d hclosed => ?_, fun d hdc hd hnot => ?_⟩
    · cases hb.symm.trans hb'
      exact ⟨other, hother, hvacates⟩
    · rw [heard_enter_closed (by rw [isOpen_vacate, hclosed]), heard_vacate_closed hclosed]
    · exact hothers d hdc hd (hnot bound other hb hne hother)
  · have hhere : ∀ bound, sv.bindings[c]? = some bound → bound = id := fun bound hb =>
      Classical.byContradiction fun hne => helse ⟨bound, hb, hne⟩
    rw [hdispatch (join_run_enter hsound hr hhere nick), hsession]
    refine ⟨?_, fun bound hb hne => absurd (hhere bound hb) hne, fun d => heard_enter_closed, ?_⟩
    · exact enters hs hopen horderly (hrid ▸ hr) (hid.trans hrid.symm) c nick
    · intro d hdc hd _
      exact heard_enter_other hs hopen horderly hdc hd nick

/-- Bob leaves a session of his own for that of Alice, and goes by his name without the white space. -/
theorem bob_joins_alice :
    let bob : ConnectionId := ⟨"bob"⟩
    let join : Json :=
      .object [("nick", .string " Bob "), ("session_id", .string (SessionId.generated 1).text)]
    let sv := (start {}).takeAll [.dispatch ⟨"alice"⟩ "flixy new" (.object [("video_id", .natural 1)]),
      .dispatch bob "flixy new" (.object [("video_id", .natural 2)])]
    let sv' := sv.dispatch bob "flixy join" join
    Enters bob ⟨0, .generated 1⟩ "Bob" sv sv' ∧
      ∃ other, sv.registeredRef? (.generated 2) = some other ∧ Vacates bob other sv sv' := by
  intro bob join sv sv'
  have hdecode : Request.decode "flixy join" join = .ok (.join (.generated 1) " Bob ") := rfl
  have hr : sv.registeredRef? (.generated 1) = some ⟨0, .generated 1⟩ := by decide
  have hb : sv.boundSession? bob = some (.generated 2) := by decide
  obtain ⟨henters, hleft, -⟩ := join_moves {} _ bob "flixy join" join _ _ _ hdecode hr
  have hname : (if Text.trim " Bob " = "" then "(no nick)" else Text.trim " Bob ") = "Bob" := by decide
  exact ⟨hname ▸ henters, hleft _ hb (by decide)⟩

end Server

end WatchParty
