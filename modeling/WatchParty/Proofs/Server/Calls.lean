/-
What each call of a handler does to a sound server, as an equation for the calls that change more than
one session's playback. From these: `Sound.answer`, a proper call keeps the server sound;
`Undisturbed.answer`, it concerns no connection but the one that makes it; and `forsaken_answer`, it
leaves an open session without members only where a handler takes care of it next.
-/
import WatchParty.Proofs.Server.Sound

namespace WatchParty

namespace Server

/-- The server once the session is not registered any more and has been shut down. -/
def retire (sv : Server) (r : SessionRef) : Server :=
  { sv with
    registered := sv.registered.erase r.id
    sessions := sv.sessions.set r.number (sv.session r).shutdown }

/-! ## Calls on members -/

theorem addMember_closed {sv : Server} {r : SessionRef} {s : Session}
    (hs : sv.sessions[r.number]? = some s) (hclosed : s.closed = true) (c : ConnectionId)
    (nick : String) : sv.addMember r c nick = (.error (.sessionClosed s.id), sv) := by
  unfold addMember
  rw [onSession_eq hs, Session.addMember_closed hclosed]
  simp only [set_of_some hs]

theorem addMember_open {sv : Server} {r : SessionRef} {s : Session}
    (hs : sv.sessions[r.number]? = some s) (hopen : s.closed = false) (c : ConnectionId)
    (nick : String) :
    sv.addMember r c nick = (.ok ⟨c, s.nicknameFor nick, s.id⟩,
      { sv with
        sessions := sv.sessions.set r.number (s.withMember c nick)
        network := (s.withMember c nick).sync
          (sv.network.emit c (.joinSession (s.withMember c nick).view)).2 }) := by
  unfold addMember
  rw [onSession_eq hs, Session.addMember_open hopen]

theorem removeMember_of_some {sv : Server} {r : SessionRef} {s : Session}
    (hs : sv.sessions[r.number]? = some s) {c : ConnectionId} {m : Member}
    (hm : s.members[c]? = some m) :
    sv.removeMember r c = ((some m, (s.without c).members.size),
      { sv with
        sessions := sv.sessions.set r.number (s.without c)
        network := if (s.without c).members.isEmpty then sv.network
          else (s.without c).sync sv.network }) := by
  unfold removeMember
  rw [onSession_eq hs, Session.removeMember_of_some hm]

theorem unbind_unbound {sv : Server} {c : ConnectionId} (hc : sv.bindings[c]? = none) :
    sv.unbind c = (.error (.memberNotFound c), sv) := by
  simp [unbind, boundSession?, hc]

/-- A bound connection is taken out of the session it is bound to. -/
theorem Sound.unbind_bound {sv : Server} (h : sv.Sound) {c : ConnectionId} {id : SessionId}
    (hc : sv.bindings[c]? = some id) :
    ∃ (n : Nat) (s : Session) (m : Member), sv.sessions[n]? = some s ∧ s.id = id ∧
      s.closed = false ∧ s.members[c]? = some m ∧
      sv.unbind c = (.ok ⟨id, some m, (s.without c).members.size⟩,
        { sv with
          sessions := sv.sessions.set n (s.without c)
          bindings := sv.bindings.erase c
          network := if (s.without c).members.isEmpty then sv.network
            else (s.without c).sync sv.network }) := by
  obtain ⟨n, s, hs, hid, hmem⟩ := h.bound c id hc
  obtain ⟨m, hm⟩ := Option.isSome_iff_exists.1 (Std.ExtTreeMap.mem_iff_isSome_getElem?.1 hmem)
  have hopen := h.open_of_mem hs hmem
  have hreg : sv.registered[id]? = some n := by rw [← hid]; exact h.registered_of_open hs hopen
  refine ⟨n, s, m, hs, hid, hopen, hm, ?_⟩
  simp only [unbind, boundSession?, hc, registeredRef?, hreg, Option.map_some]
  have left := @removeMember_of_some { sv with bindings := sv.bindings.erase c } ⟨n, id⟩ s hs c m hm
  rw [left]

/-! ## Calls on the registry -/

theorem closeIfEmpty_eq {sv : Server} {r : SessionRef} {s : Session}
    (hs : sv.sessions[r.number]? = some s) : sv.closeIfEmpty r = (s.closeIfEmpty.1,
      { sv with sessions := sv.sessions.set r.number s.closeIfEmpty.2 }) := by
  unfold closeIfEmpty
  rw [onSession_eq hs]

theorem registered_insert (sv : Server) (r : SessionRef) :
    (sv.insert r).registered = sv.registered.insert r.id r.number := by
  unfold insert
  cases sv.registeredRef? r.id with
  | none => rfl
  | some d => rfl

theorem destroyIfEmpty_of_none {sv : Server} {id : SessionId} (hr : sv.registeredRef? id = none) :
    sv.destroyIfEmpty id = (false, sv) := by
  unfold destroyIfEmpty
  rw [hr]

/-- A registered session is taken out if it is empty, and also if it is closed. -/
theorem destroyIfEmpty_of_some {sv : Server} {id : SessionId} {r : SessionRef} {s : Session}
    (hr : sv.registeredRef? id = some r) (hs : sv.sessions[r.number]? = some s) :
    sv.destroyIfEmpty id =
      if s.closed || s.members.isEmpty then (true, sv.retire r) else (false, sv) := by
  have hid := id_of_registeredRef hr
  unfold destroyIfEmpty
  rw [hr]
  simp only [closeIfEmpty_eq hs, s.closeIfEmpty_closed]
  split
  · -- what is shut down is the session as it has just been closed
    have hplace : (sv.sessions.set r.number s.closeIfEmpty.2)[r.number]? = some s.closeIfEmpty.2 := by
      rw [getElem?_set_of_some hs, if_pos rfl]
    unfold retire shutdown modify
    rw [session_eq hs, session_eq (by exact hplace), s.shutdown_closeIfEmpty, List.set_set, hid]
  · rename_i hstays
    rw [← s.closeIfEmpty_closed] at hstays
    rw [Session.closeIfEmpty_of_open hstays, set_of_some hs]

/-- Only an open session that nobody is in is destroyed, and it is shut down at once. -/
theorem Sound.destroyIfEmpty_cases {sv : Server} (h : sv.Sound) (id : SessionId) :
    (sv.destroyIfEmpty id = (false, sv) ∧ ¬ sv.Forsaken id) ∨
    ∃ (n : Nat) (s : Session), sv.sessions[n]? = some s ∧ s.id = id ∧ s.closed = false ∧
      s.members = ∅ ∧
      sv.destroyIfEmpty id = (true,
        { sv with registered := sv.registered.erase id, sessions := sv.sessions.set n s.shutdown }) := by
  cases hreg : sv.registered[id]? with
  | none =>
    refine .inl ⟨destroyIfEmpty_of_none (by rw [registeredRef?, hreg]; rfl), ?_⟩
    rintro ⟨n, s, hs, rfl, hopen, -⟩
    rw [h.registered_of_open hs hopen] at hreg
    cases hreg
  | some n =>
    obtain ⟨s, hs, hid, hopen⟩ := (h.registered id n).1 hreg
    have hr : sv.registeredRef? id = some ⟨n, id⟩ := by rw [registeredRef?, hreg]; rfl
    have hdestroy := destroyIfEmpty_of_some hr hs
    rw [hopen, Bool.false_or] at hdestroy
    by_cases hempty : s.members = ∅
    · refine .inr ⟨n, s, hs, hid, hopen, hempty, ?_⟩
      rw [hdestroy, if_pos (Std.ExtTreeMap.isEmpty_iff.2 hempty)]
      unfold retire
      rw [session_eq (r := ⟨n, id⟩) hs]
    · refine .inl ⟨?_, ?_⟩
      · rw [hdestroy, if_neg (mt Std.ExtTreeMap.isEmpty_iff.1 hempty)]
      · rintro ⟨m, t, ht, htid, -, hmt⟩
        have := h.number_unique hs ht (hid.trans htid.symm)
        subst this
        rw [hs] at ht
        cases ht
        exact hempty hmt

/-- A session that is made takes no other's place. -/
theorem Sound.create_eq {sv : Server} (h : sv.Sound) (videoId time : UInt64) :
    sv.create videoId time = (⟨sv.sessions.length, .generated (sv.issued + 1)⟩,
      { sv with
        issued := sv.issued + 1
        sessions := sv.sessions ++ [Session.new sv.settings (.generated (sv.issued + 1)) videoId time]
        registered := sv.registered.insert (.generated (sv.issued + 1)) sv.sessions.length }) := by
  simp only [create, newSession, insert, registeredRef?, h.fresh, Option.map_none]

/-! ## Calls on playback -/

/-- A session may be replaced by one of the same roster. -/
theorem sameRoster_set {sv : Server} {n : Nat} {s t : Session} (hs : sv.sessions[n]? = some s)
    (hst : s.SameRoster t) (network : Network) :
    sv.SameRoster { sv with sessions := sv.sessions.set n t, network } where
  registered := rfl
  bindings := rfl
  issued := rfl
  length := List.length_set
  sessions m u hu := by
    simp only [getElem?_set_of_some hs]
    by_cases hnm : n = m
    · subst hnm
      rw [hs] at hu
      cases hu
      exact ⟨t, by simp, hst⟩
    · exact ⟨u, by simp [hnm, hu], .refl u⟩

theorem sameRoster_onSession {α : Type} {sv : Server} {r : SessionRef} (hr : sv.Has r)
    {f : Session → Network → α × Session × Network} (hf : ∀ (s : Session) net, s.SameRoster (f s net).2.1) :
    sv.SameRoster (sv.onSession r f).2 := by
  obtain ⟨s, hs, -⟩ := hr
  rw [onSession_eq hs]
  exact sameRoster_set hs (hf s _) _

theorem sameRoster_play {sv : Server} {r : SessionRef} (hr : sv.Has r) : sv.SameRoster (sv.play r) :=
  sameRoster_onSession hr Session.sameRoster_play

theorem sameRoster_pause {sv : Server} {r : SessionRef} (hr : sv.Has r) : sv.SameRoster (sv.pause r) :=
  sameRoster_onSession hr Session.sameRoster_pause

theorem sameRoster_setTime {sv : Server} {r : SessionRef} (hr : sv.Has r) (time : UInt64) :
    sv.SameRoster (sv.setTime r time) :=
  sameRoster_onSession hr fun s net => s.sameRoster_setTime time net

theorem sameRoster_send (sv : Server) (c : ConnectionId) (e : Event) : sv.SameRoster (sv.send c e).2 :=
  ⟨rfl, rfl, rfl, rfl, fun _ s h => ⟨s, h, .refl s⟩⟩

end Server

/-! ## Proper calls -/

/-- What a handler of the connection may call: it adds, binds and takes out nobody else, and it refers
only to sessions that there are. -/
def Call.Proper (c : ConnectionId) (sv : Server) : Call → Prop
  | .unbind d => d = c
  | .addMember r d _ => d = c ∧ sv.Has r
  | .bind d id => d = c ∧ ∃ (n : Nat) (s : Session), sv.sessions[n]? = some s ∧ s.id = id ∧ c ∈ s.members
  | .play r => sv.Has r
  | .pause r => sv.Has r
  | .setTime r _ => sv.Has r
  | .view r => sv.Has r
  | .send d _ => d = c
  | .lookup _ => True
  | .boundSession _ => True
  | .destroyIfEmpty _ => True
  | .create .. => True

/-- The call may have left an open session without members, as its answer tells: the last member was
taken out, or the session is new. -/
def Call.Strands : (q : Call) → q.Answer → SessionId → Prop
  | .unbind _, .ok u, id => u.session = id ∧ u.leavesNobody = true
  | .create .., r, id => r.id = id
  | _, _, _ => False

/-- After the call the session is either not open or not empty. -/
def Call.Tends : Call → SessionId → Prop
  | .destroyIfEmpty id, id' => id = id'
  | .addMember r _ _, id => r.id = id
  | _, _ => False

namespace Server

/-! ## A proper call keeps the server sound -/

theorem Sound.unbind {sv : Server} (h : sv.Sound) (c : ConnectionId) : (sv.unbind c).2.Sound := by
  cases hc : sv.bindings[c]? with
  | none => rw [unbind_unbound hc]; exact h
  | some id =>
    obtain ⟨n, s, m, hs, hid, hopen, hm, heq⟩ := h.unbind_bound hc
    rw [heq]
    refine h.replace (t := s.without c) hs rfl rfl ((h.orderly n s hs).without c) fun d id' hd => ?_
    rw [Std.ExtTreeMap.getElem?_erase] at hd
    split at hd
    · cases hd
    · rename_i hcd
      refine ⟨hd, fun _ hmem => ?_⟩
      exact Std.ExtTreeMap.mem_erase.2 ⟨hcd, hmem⟩

theorem Sound.destroyIfEmpty {sv : Server} (h : sv.Sound) (id : SessionId) :
    (sv.destroyIfEmpty id).2.Sound := by
  rcases h.destroyIfEmpty_cases id with ⟨heq, -⟩ | ⟨n, s, hs, rfl, hopen, hempty, heq⟩
  · rw [heq]; exact h
  · rw [heq]
    constructor
    · intro m u hu
      simp only [getElem?_set_of_some hs] at hu
      split at hu
      · cases hu; exact Session.orderly_shutdown hempty
      · exact h.orderly m u hu
    · intro m u hu
      simp only [getElem?_set_of_some hs] at hu
      split at hu
      · rename_i hnm
        cases hu
        rw [← hnm]
        exact h.named n s hs
      · exact h.named m u hu
    · rw [List.length_set]; exact h.issued
    · intro id' m
      simp only [Std.ExtTreeMap.getElem?_erase, getElem?_set_of_some hs]
      split
      · -- nothing is open under the id any more
        rename_i hid
        cases Std.LawfulEqCmp.compare_eq_iff_eq.1 hid
        constructor
        · intro hn; cases hn
        · rintro ⟨u, hu, huid, huopen⟩
          split at hu
          · cases hu; cases huopen
          · rename_i hnm
            exact absurd (h.number_unique hs hu huid.symm) hnm
      · rename_i hid
        rw [h.registered id' m]
        split
        · rename_i hnm
          subst hnm
          constructor
          · rintro ⟨u, hu, huid, -⟩
            rw [hs] at hu
            cases hu
            exact absurd (Std.LawfulEqCmp.compare_eq_iff_eq.2 huid) hid
          · rintro ⟨u, hu, -, huopen⟩
            cases hu; cases huopen
        · rfl
    · intro c id' hc
      obtain ⟨m, u, hu, huid, hmem⟩ := h.bound c id' hc
      refine ⟨m, u, ?_, huid, hmem⟩
      simp only [getElem?_set_of_some hs]
      split
      · rename_i hnm
        rw [← hnm, hs] at hu
        cases hu
        rw [hempty] at hmem
        exact absurd hmem Std.ExtTreeMap.not_mem_empty
      · exact hu

theorem Sound.create {sv : Server} (h : sv.Sound) (videoId time : UInt64) :
    (sv.create videoId time).2.Sound := by
  rw [h.create_eq]
  constructor
  · intro n s hs
    rcases getElem?_concat_eq_some.1 hs with hs | ⟨-, rfl⟩
    · exact h.orderly n s hs
    · exact Session.orderly_new ..
  · intro n s hs
    rcases getElem?_concat_eq_some.1 hs with hs | ⟨rfl, rfl⟩
    · exact h.named n s hs
    · rw [← h.issued]; rfl
  · simp only [List.length_append, List.length_singleton, h.issued]
  · intro id n
    simp only [Std.ExtTreeMap.getElem?_insert, getElem?_concat_eq_some]
    split
    · rename_i hid
      cases Std.LawfulEqCmp.compare_eq_iff_eq.1 hid
      constructor
      · rintro hn
        cases hn
        exact ⟨_, .inr ⟨rfl, rfl⟩, rfl, rfl⟩
      · rintro ⟨s, hs | ⟨rfl, -⟩, hsid, hopen⟩
        · have := (h.registered s.id n).2 ⟨s, hs, rfl, hopen⟩
          rw [hsid, h.fresh] at this
          cases this
        · rfl
    · rename_i hid
      rw [h.registered id n]
      constructor
      · rintro ⟨s, hs, hsid, hopen⟩
        exact ⟨s, .inl hs, hsid, hopen⟩
      · rintro ⟨s, hs | ⟨-, rfl⟩, hsid, hopen⟩
        · exact ⟨s, hs, hsid, hopen⟩
        · exact absurd (Std.LawfulEqCmp.compare_eq_iff_eq.2 hsid) hid
  · intro c id hc
    obtain ⟨n, s, hs, hid, hmem⟩ := h.bound c id hc
    exact ⟨n, s, getElem?_concat_eq_some.2 (.inl hs), hid, hmem⟩

theorem Sound.addMember {sv : Server} (h : sv.Sound) {r : SessionRef} (hr : sv.Has r)
    (c : ConnectionId) (nick : String) : (sv.addMember r c nick).2.Sound := by
  obtain ⟨s, hs, -⟩ := hr
  cases hopen : s.closed with
  | true => rw [addMember_closed hs hopen]; exact h
  | false =>
    rw [addMember_open hs hopen]
    refine h.replace (t := s.withMember c nick) hs rfl rfl
      ((h.orderly _ s hs).withMember hopen c nick) fun d id hd => ?_
    exact ⟨hd, fun _ hmem => Std.ExtTreeMap.mem_insert.2 (.inr hmem)⟩

theorem Sound.bind {sv : Server} (h : sv.Sound) {c : ConnectionId} {n : Nat} {s : Session}
    (hs : sv.sessions[n]? = some s) (hc : c ∈ s.members) : (sv.bind c s.id).2.Sound where
  orderly := h.orderly
  named := h.named
  issued := h.issued
  registered := h.registered
  bound d id hd := by
    simp only [Server.bind, Std.ExtTreeMap.getElem?_insert] at hd
    split at hd
    · rename_i hcd
      cases Std.LawfulEqCmp.compare_eq_iff_eq.1 hcd
      cases hd
      exact ⟨n, s, hs, rfl, hc⟩
    · exact h.bound d id hd

theorem Sound.answer {sv : Server} (h : sv.Sound) {c : ConnectionId} {q : Call}
    (hq : q.Proper c sv) : (sv.answer q).2.Sound := by
  cases q with
  | lookup id => exact h
  | boundSession d => exact h
  | unbind d => exact h.unbind d
  | destroyIfEmpty id => exact h.destroyIfEmpty id
  | create videoId time => exact h.create videoId time
  | addMember r d nick => exact h.addMember hq.2 d nick
  | bind d id =>
    obtain ⟨rfl, n, s, hs, rfl, hc⟩ := hq
    exact h.bind hs hc
  | play r => exact h.sameRoster (sameRoster_play hq)
  | pause r => exact h.sameRoster (sameRoster_pause hq)
  | setTime r time => exact h.sameRoster (sameRoster_setTime hq time)
  | view r => exact h
  | send d e => exact h.sameRoster (sameRoster_send sv d e)

/-! ## A proper call concerns no other connection -/

theorem Undisturbed.unbind {sv : Server} (h : sv.Sound) {c d : ConnectionId} (hcd : c ≠ d) :
    Undisturbed d sv (sv.unbind c).2 := by
  have hne : compare c d ≠ .eq := fun he => hcd (Std.LawfulEqCmp.compare_eq_iff_eq.1 he)
  cases hc : sv.bindings[c]? with
  | none => rw [unbind_unbound hc]; exact .refl d sv
  | some id =>
    obtain ⟨n, s, m, hs, -, -, -, heq⟩ := h.unbind_bound hc
    rw [heq]
    refine .replace (t := s.without c) hs rfl ?_ ?_
    · simp only [Session.without, Std.ExtTreeMap.getElem?_erase, hne, if_false]
    · simp only [Std.ExtTreeMap.getElem?_erase, hne, if_false]

theorem Undisturbed.destroyIfEmpty {sv : Server} (h : sv.Sound) (id : SessionId) (d : ConnectionId) :
    Undisturbed d sv (sv.destroyIfEmpty id).2 := by
  rcases h.destroyIfEmpty_cases id with ⟨heq, -⟩ | ⟨n, s, hs, -, -, -, heq⟩
  · rw [heq]; exact .refl d sv
  · rw [heq]; exact .replace (t := s.shutdown) hs rfl rfl rfl

theorem Undisturbed.create {sv : Server} (h : sv.Sound) (videoId time : UInt64) (d : ConnectionId) :
    Undisturbed d sv (sv.create videoId time).2 := by
  rw [h.create_eq]
  refine ⟨?_, rfl, fun n => ?_⟩
  · rintro r ⟨s, hs, hid⟩
    exact ⟨s, getElem?_concat_eq_some.2 (.inl hs), hid⟩
  · ext m
    simp only [seat?_eq_some, getElem?_concat_eq_some]
    constructor
    · rintro ⟨s, hs | ⟨-, rfl⟩, hm⟩
      · exact ⟨s, hs, hm⟩
      · simp [Session.new] at hm
    · rintro ⟨s, hs, hm⟩
      exact ⟨s, .inl hs, hm⟩

theorem Undisturbed.addMember {sv : Server} {r : SessionRef} (hr : sv.Has r) {c d : ConnectionId}
    (hcd : c ≠ d) (nick : String) : Undisturbed d sv (sv.addMember r c nick).2 := by
  have hne : compare c d ≠ .eq := fun he => hcd (Std.LawfulEqCmp.compare_eq_iff_eq.1 he)
  obtain ⟨s, hs, -⟩ := hr
  cases hopen : s.closed with
  | true => rw [addMember_closed hs hopen]; exact .refl d sv
  | false =>
    rw [addMember_open hs hopen]
    refine .replace (t := s.withMember c nick) hs rfl ?_ rfl
    simp only [Session.withMember, Std.ExtTreeMap.getElem?_insert, hne, if_false]

theorem Undisturbed.bind (sv : Server) {c d : ConnectionId} (hcd : c ≠ d) (id : SessionId) :
    Undisturbed d sv (sv.bind c id).2 := by
  have hne : compare c d ≠ .eq := fun he => hcd (Std.LawfulEqCmp.compare_eq_iff_eq.1 he)
  refine ⟨fun _ h => h, ?_, fun _ => rfl⟩
  simp only [Server.bind, Std.ExtTreeMap.getElem?_insert, hne, if_false]

theorem Undisturbed.answer {sv : Server} (h : sv.Sound) {c d : ConnectionId} (hcd : c ≠ d) {q : Call}
    (hq : q.Proper c sv) : Undisturbed d sv (sv.answer q).2 := by
  cases q with
  | lookup id => exact .refl d sv
  | boundSession e => exact .refl d sv
  | unbind e => cases hq; exact .unbind h hcd
  | destroyIfEmpty id => exact .destroyIfEmpty h id d
  | create videoId time => exact .create h videoId time d
  | addMember r e nick =>
    obtain ⟨rfl, hr⟩ := hq
    exact .addMember hr hcd nick
  | bind e id =>
    obtain ⟨rfl, -⟩ := hq
    exact .bind sv hcd id
  | play r => exact .of_sameRoster (sameRoster_play hq) d
  | pause r => exact .of_sameRoster (sameRoster_pause hq) d
  | setTime r time => exact .of_sameRoster (sameRoster_setTime hq time) d
  | view r => exact .refl d sv
  | send e event => exact .of_sameRoster (sameRoster_send sv e event) d

/-! ## Where a call leaves an open session empty -/

theorem SameRoster.forsaken {sv sv' : Server} (h : sv.SameRoster sv') {id : SessionId}
    (hf : sv'.Forsaken id) : sv.Forsaken id := by
  obtain ⟨n, t, ht, hid, hopen, hempty⟩ := hf
  obtain ⟨s, hs, hst⟩ := h.back ht
  exact ⟨n, s, hs, by rw [← hst.id, hid], by rw [← hst.closed, hopen], by rw [← hst.members, hempty]⟩

theorem forsaken_replace {sv : Server} {n : Nat} {s t : Session} (hs : sv.sessions[n]? = some s)
    {registered : Std.ExtTreeMap SessionId Nat} {bindings : Std.ExtTreeMap ConnectionId SessionId}
    {network : Network} {id : SessionId}
    (hf : { sv with sessions := sv.sessions.set n t, registered, bindings, network }.Forsaken id) :
    (t.id = id ∧ t.closed = false ∧ t.members = ∅) ∨
      ∃ m u, m ≠ n ∧ sv.sessions[m]? = some u ∧ u.id = id ∧ u.closed = false ∧ u.members = ∅ := by
  obtain ⟨m, u, hu, hid, hopen, hempty⟩ := hf
  simp only [getElem?_set_of_some hs] at hu
  split at hu
  · cases hu
    exact .inl ⟨hid, hopen, hempty⟩
  · rename_i hnm
    exact .inr ⟨m, u, Ne.symm hnm, hu, hid, hopen, hempty⟩

/-- After a proper call an open session without members is one that the call left so, or it was one
before and the call did not tend it. -/
theorem Sound.forsaken_answer {sv : Server} (h : sv.Sound) {c : ConnectionId} {q : Call}
    (hq : q.Proper c sv) {id : SessionId} (hf : (sv.answer q).2.Forsaken id) :
    q.Strands (sv.answer q).1 id ∨ (sv.Forsaken id ∧ ¬ q.Tends id) := by
  cases q with
  | lookup id => exact .inr ⟨hf, fun hn => hn⟩
  | boundSession e => exact .inr ⟨hf, fun hn => hn⟩
  | unbind e =>
    change (sv.unbind e).2.Forsaken id at hf
    change Call.Strands (.unbind e) (sv.unbind e).1 id ∨ _
    cases hc : sv.bindings[e]? with
    | none =>
      rw [unbind_unbound hc] at hf
      exact .inr ⟨hf, fun hn => hn⟩
    | some id₀ =>
      obtain ⟨n, s, m, hs, hid, -, -, heq⟩ := h.unbind_bound hc
      rw [heq] at hf ⊢
      rcases forsaken_replace hs hf with ⟨hid', -, hempty⟩ | ⟨m, u, -, hu⟩
      · refine .inl ⟨hid.symm.trans hid', ?_⟩
        simp [Unbound.leavesNobody, hempty]
      · exact .inr ⟨⟨m, u, hu⟩, fun hn => hn⟩
  | destroyIfEmpty id' =>
    refine .inr ?_
    change (sv.destroyIfEmpty id').2.Forsaken id at hf
    rcases h.destroyIfEmpty_cases id' with ⟨heq, hnot⟩ | ⟨n, s, hs, hid, -, -, heq⟩
    · rw [heq] at hf
      exact ⟨hf, fun hn => hnot (by rw [show id' = id from hn]; exact hf)⟩
    · rw [heq] at hf
      rcases forsaken_replace hs hf with ⟨-, hopen, -⟩ | ⟨m, u, hmn, hu, huid, hrest⟩
      · cases hopen
      · refine ⟨⟨m, u, hu, huid, hrest⟩, fun hn => hmn (h.number_unique hu hs ?_)⟩
        rw [huid, hid]
        exact hn.symm
  | create videoId time =>
    change (sv.create videoId time).2.Forsaken id at hf
    change Call.Strands (.create videoId time) (sv.create videoId time).1 id ∨ _
    rw [h.create_eq] at hf ⊢
    obtain ⟨n, s, hs, hid, hopen, hempty⟩ := hf
    rcases getElem?_concat_eq_some.1 hs with hs | ⟨-, rfl⟩
    · exact .inr ⟨⟨n, s, hs, hid, hopen, hempty⟩, fun hn => hn⟩
    · exact .inl hid
  | addMember r e nick =>
    obtain ⟨s, hs, hid⟩ := hq.2
    refine .inr ?_
    change (sv.addMember r e nick).2.Forsaken id at hf
    cases hopen : s.closed with
    | true =>
      rw [addMember_closed hs hopen] at hf
      refine ⟨hf, fun hn => ?_⟩
      obtain ⟨n, u, hu, huid, huopen, -⟩ := hf
      have := h.number_unique hs hu (hid.trans (Eq.trans hn huid.symm))
      subst this
      rw [hs] at hu
      cases hu
      rw [hopen] at huopen
      cases huopen
    | false =>
      rw [addMember_open hs hopen] at hf
      rcases forsaken_replace hs hf with ⟨-, -, hempty⟩ | ⟨m, u, hmn, hu, huid, hrest⟩
      · simp [Session.withMember] at hempty
      · refine ⟨⟨m, u, hu, huid, hrest⟩, fun hn => hmn (h.number_unique hu hs ?_)⟩
        rw [huid, hid]
        exact Eq.symm hn
  | bind e id' => exact .inr ⟨hf, fun hn => hn⟩
  | play r => exact .inr ⟨(sameRoster_play hq).forsaken hf, fun hn => hn⟩
  | pause r => exact .inr ⟨(sameRoster_pause hq).forsaken hf, fun hn => hn⟩
  | setTime r time => exact .inr ⟨(sameRoster_setTime hq time).forsaken hf, fun hn => hn⟩
  | view r => exact .inr ⟨hf, fun hn => hn⟩
  | send e event => exact .inr ⟨(sameRoster_send sv e event).forsaken hf, fun hn => hn⟩

end Server

end WatchParty
