/-
Moving from one session to another. Who is in a session leaves it on the way to another, be that one
that there is or a new one. `move_eq_leave_then_enter` says that it makes no difference to anyone if the
connection leaves of its own accord first, and then asks for the other session.
-/
import WatchParty.Proofs.Joining
import WatchParty.Proofs.Settling

namespace WatchParty

namespace Server

variable {sv a b : Server} {c : ConnectionId} {r other : SessionRef}

/-! ## Leaving and entering -/

/-- The server once the connection has entered a session that is new, and has been told so. -/
def enterNew (sv : Server) (c : ConnectionId) (r : SessionRef) (nick : String) : Server :=
  let entered := sv.enter c r nick
  { entered with network := (entered.network.emit c (.newSession (entered.session r).view)).2 }

theorem vacate_eq (sv : Server) (c : ConnectionId) (r : SessionRef) :
    ∃ sessions registered network,
      sv.vacate c r = { sv with sessions, registered, network, bindings := sv.bindings.erase c } := by
  unfold vacate
  simp only
  split
  · exact ⟨_, _, _, rfl⟩
  · exact ⟨_, _, _, rfl⟩

theorem getElem?_bindings_vacate (sv : Server) (c : ConnectionId) (r : SessionRef) :
    (sv.vacate c r).bindings[c]? = none := by
  obtain ⟨_, _, _, heq⟩ := sv.vacate_eq c r
  rw [heq]
  exact Std.ExtTreeMap.getElem?_erase_self

theorem issued_vacate (sv : Server) (c : ConnectionId) (r : SessionRef) :
    (sv.vacate c r).issued = sv.issued := by
  obtain ⟨_, _, _, heq⟩ := sv.vacate_eq c r
  rw [heq]

theorem now_vacate (sv : Server) (c : ConnectionId) (r : SessionRef) : (sv.vacate c r).now = sv.now := by
  obtain ⟨_, _, _, heq⟩ := sv.vacate_eq c r
  rw [heq]

theorem boundSession?_enter (sv : Server) (c : ConnectionId) (r : SessionRef) (nick : String) :
    (sv.enter c r nick).boundSession? c = some r.id :=
  Std.ExtTreeMap.getElem?_insert_self

/-! ## Clocks on the way -/

/-- Servers that differ in their sessions only settle alike if these do. -/
theorem settle_congr (h : a = { b with sessions := a.sessions })
    (hsessions : a.settle.sessions = b.settle.sessions) : a.settle = b.settle := by
  have heq : a.settle = { b with sessions := a.settle.sessions } := by
    rw [h]
    rfl
  rw [heq, hsessions]
  rfl

/-- Servers that settle alike do so after a connection has entered a session that is the same in both. -/
theorem settle_enter_congr (h : a.settle = b.settle) (hr : a.session r = b.session r) (nick : String) :
    (a.enter c r nick).settle = (b.enter c r nick).settle := by
  -- clocks settle in the sessions, so the servers are the same but for these
  obtain ⟨sessions, rfl⟩ : ∃ sessions, a = { b with sessions } :=
    ⟨a.sessions, congrArg (fun sv : Server => { sv with sessions := a.sessions }) h⟩
  have hsessions : sessions.map (fun s : Session => s.settle b.now) =
      b.sessions.map fun s => s.settle b.now := congrArg Server.sessions h
  apply settle_congr
  · unfold enter
    rw [hr]
  · unfold enter settle
    simp only [List.map_set]
    rw [hsessions, hr]

theorem settle_enterNew_congr (h : a.settle = b.settle) {s : Session}
    (hs : a.sessions[r.number]? = some s) (hs' : b.sessions[r.number]? = some s) (nick : String) :
    (a.enterNew c r nick).settle = (b.enterNew c r nick).settle := by
  have hentered := settle_enter_congr h ((session_eq hs).trans (session_eq hs').symm) nick (c := c)
  unfold enterNew
  dsimp only
  rw [session_enter hs c nick, session_enter hs' c nick]
  exact congrArg (fun sv : Server => { sv with
    network := (sv.network.emit c (.newSession (s.withMember c nick).view)).2 }) hentered

/-- A new session is the same whether the others settle before it is made or not. -/
theorem Sound.create_settle (hsound : sv.Sound) (videoId time : UInt64) :
    (sv.settle.create videoId time).1 = (sv.create videoId time).1 ∧
      (sv.settle.create videoId time).2.settle = (sv.create videoId time).2.settle ∧
      ∃ s : Session, (sv.create videoId time).2.sessions[(sv.create videoId time).1.number]? = some s ∧
        (sv.settle.create videoId time).2.sessions[(sv.create videoId time).1.number]? = some s := by
  have hlength : sv.settle.sessions.length = sv.sessions.length := List.length_map _
  have hagain : sv.settle.sessions.map (fun s : Session => s.settle sv.now) = sv.settle.sessions :=
    congrArg Server.sessions sv.settle_again
  rw [(hsound.sameRoster (sameRoster_settle sv)).create_eq, hsound.create_eq, hlength]
  refine ⟨rfl, settle_congr rfl ?_, _, getElem?_concat_eq_some.2 (.inr ⟨rfl, rfl⟩),
    getElem?_concat_eq_some.2 (.inr ⟨hlength.symm, rfl⟩)⟩
  show (sv.settle.sessions ++ [_]).map (fun s : Session => s.settle sv.now) =
    (sv.sessions ++ [_]).map fun s : Session => s.settle sv.now
  rw [List.map_append, List.map_append, hagain]
  rfl

/-- A session that was settled is so after the connection has left another. -/
theorem session_settle_vacate (hsettled : sv.settle = sv) {s : Session} (hs : sv.sessions[r.number]? = some s)
    (hne : other.number ≠ r.number) :
    (sv.vacate c other).settle.session r = (sv.vacate c other).session r := by
  have hleft : (sv.vacate c other).sessions[r.number]? = some s := by
    rw [getElem?_vacate_other hne, hs]
  have hsession := session_of_settled hsettled s (List.mem_of_getElem? hs)
  rw [session_eq hleft]
  refine session_eq (getElem?_settle_eq_some.2 ⟨s, hleft, ?_⟩)
  rw [now_vacate, hsession]

end Server

namespace Handler

open Server

variable {sv : Server} {c : ConnectionId} {bound : SessionId} {other : SessionRef}

/-- Who is in no session enters the new one. -/
theorem newSession_run_enterNew (hsound : sv.Sound) (hfree : sv.bindings[c]? = none)
    (videoId time : UInt64) (nick : String) : (newSession c videoId time nick).run sv =
      (.ok (), (sv.create videoId time).2.enterNew c (sv.create videoId time).1 nick) := by
  have hcreated : ∃ s : Session, (sv.create videoId time).2.sessions[
      (sv.create videoId time).1.number]? = some s ∧ s.closed = false := by
    rw [hsound.create_eq]
    exact ⟨_, getElem?_concat_eq_some.2 (.inr ⟨rfl, rfl⟩), rfl⟩
  obtain ⟨s, hs, hopen⟩ := hcreated
  unfold newSession
  rw [run_bind, depart_run_unbound hfree, run_bind, run_ask]
  simp only [Server.answer]
  rw [run_bind, enrol_run_enter hs hopen]
  rfl

/-- A new session comes to the same once the session that it would have been left for is left. -/
theorem newSession_run_vacate (hsound : sv.Sound) (hb : sv.bindings[c]? = some bound)
    (hother : sv.registeredRef? bound = some other) (videoId time : UInt64) (nick : String) :
    (newSession c videoId time nick).run sv =
      (newSession c videoId time nick).run (sv.vacate c other) := by
  unfold newSession
  rw [run_bind, depart_run_vacate hsound hb hother, run_bind (depart c) _ (sv.vacate c other),
    depart_run_unbound (getElem?_bindings_vacate sv c other)]

theorem leave_run_vacate (hsound : sv.Sound) (hb : sv.bindings[c]? = some bound)
    (hother : sv.registeredRef? bound = some other) :
    (handle c .leave).run sv = (.ok (), sv.vacate c other) := by
  unfold handle
  rw [run_bind, depart_run_vacate hsound hb hother]
  rfl

end Handler

namespace Server

open Handler

variable {sv left target : Server} {c : ConnectionId} {event : String} {data : Json}
  {request : Request} {id bound : SessionId} {r other : SessionRef}

/-! ## Moving -/

/-- The event brings the connection from the one server to the session of the id, and from the other one,
where it has left before, to the same server. If all sessions were settled, those that have to may also
settle in between. -/
structure MovesAlike (c : ConnectionId) (event : String) (data : Json) (id : SessionId)
    (sv left : Server) : Prop where
  same : sv.dispatch c event data = left.dispatch c event data
  settled : sv.settle = sv →
    (left.settle.dispatch c event data).settle = (sv.dispatch c event data).settle
  bound : (sv.dispatch c event data).boundSession? c = some id

theorem MovesAlike.of_run (hdecode : Request.decode event data = .ok request)
    (hsv : (handle c request).run sv = (.ok (), target))
    (hleft : (handle c request).run left = (.ok (), target))
    (hsettle : sv.settle = sv →
      ∃ later, (handle c request).run left.settle = (.ok (), later) ∧ later.settle = target.settle)
    (hbound : target.boundSession? c = some id) : MovesAlike c event data id sv left := by
  have htarget : sv.dispatch c event data = target := by
    rw [dispatch_of_ok hdecode (congrArg Prod.fst hsv), hsv]
  refine ⟨?_, fun hsettled => ?_, ?_⟩
  · rw [htarget, dispatch_of_ok hdecode (congrArg Prod.fst hleft), hleft]
  · obtain ⟨later, hrun, hlater⟩ := hsettle hsettled
    rw [htarget, dispatch_of_ok hdecode (congrArg Prod.fst hrun), hrun, hlater]
  · rw [htarget, hbound]

section

variable (hsound : sv.Sound) (hleft : (sv.vacate c other).Sound) (hb : sv.bindings[c]? = some bound)
  (hother : sv.registeredRef? bound = some other)
include hsound hleft hb hother

theorem movesAlike_join {nick : String} (hdecode : Request.decode event data = .ok (.join id nick))
    (hr : sv.registeredRef? id = some r) (hne : id ≠ bound) :
    MovesAlike c event data id sv (sv.vacate c other) := by
  have hfree : ∀ bound, (sv.vacate c other).bindings[c]? = some bound → bound = id := by
    rw [getElem?_bindings_vacate]
    exact nofun
  have hr' : (sv.vacate c other).registeredRef? id = some r := by
    rw [registeredRef?_vacate_other (by rw [id_of_registeredRef hother]; exact Ne.symm hne), hr]
  refine .of_run hdecode (join_run_move hsound hr hb (Ne.symm hne) hother nick)
    (join_run_enter hleft hr' hfree nick) (fun hsettled => ?_) ?_
  · obtain ⟨s, hs, -⟩ := hsound.session_of_registeredRef hr
    have hsession := session_settle_vacate hsettled hs (hsound.number_ne hother hr (Ne.symm hne)) (c := c)
    exact ⟨_, join_run_enter (hleft.sameRoster (sameRoster_settle _)) hr' hfree nick,
      settle_enter_congr (settle_again _) hsession nick⟩
  · rw [boundSession?_enter, id_of_registeredRef hr]

theorem movesAlike_new {videoId time : UInt64} {nick : String}
    (hdecode : Request.decode event data = .ok (.new videoId time nick)) :
    MovesAlike c event data (.generated (sv.issued + 1)) sv (sv.vacate c other) := by
  have hfree := getElem?_bindings_vacate sv c other
  have hrun := newSession_run_enterNew hleft hfree videoId time nick
  refine .of_run hdecode ((newSession_run_vacate hsound hb hother videoId time nick).trans hrun) hrun
    (fun _ => ?_) ?_
  · obtain ⟨hsame, hsettle, s, hs, hs'⟩ := hleft.create_settle videoId time
    refine ⟨_, newSession_run_enterNew (hleft.sameRoster (sameRoster_settle _)) hfree videoId time nick, ?_⟩
    rw [hsame]
    exact settle_enterNew_congr hsettle hs' hs nick
  · show ((Server.create _ _ _).2.enter c _ nick).boundSession? c = _
    rw [boundSession?_enter, hleft.create_eq, issued_vacate]

end

/-- Whatever the inputs before: who is in a session and asks to join another that is registered, or
for a new one, may as well leave first. The server is the same in the end, with all that it has delivered to
anyone, and the connection is in the session that it asked for. -/
theorem move_eq_leave_then_enter (settings : Settings) (inputs : List Input) (c : ConnectionId)
    (bound : SessionId) (leave : String) (nothing : Json)
    (hb : ((start settings).takeAll inputs).boundSession? c = some bound)
    (hleave : Request.decode leave nothing = .ok .leave) :
    let sv := (start settings).takeAll inputs
    let left := sv.dispatch c leave nothing
    left.boundSession? c = none ∧
    (∀ event data id r nick, Request.decode event data = .ok (.join id nick) →
      sv.registeredRef? id = some r → id ≠ bound → MovesAlike c event data id sv left) ∧
    (∀ event data videoId time nick, Request.decode event data = .ok (.new videoId time nick) →
      MovesAlike c event data (.generated (sv.issued + 1)) sv left) := by
  intro sv left
  have hquiet : sv.Quiescent := (quiescent_start settings).takeAll inputs
  have hsound := hquiet.sound
  obtain ⟨other, hother, -, -⟩ := hsound.member_of_bound hb
  -- from here on it does not matter how the connection was asked to leave
  have hrun := leave_run_vacate hsound hb hother
  have hvacate : left = sv.vacate c other := by
    show sv.dispatch c leave nothing = _
    rw [dispatch_of_ok hleave (congrArg Prod.fst hrun), hrun]
  have hleft : left.Sound := (hquiet.dispatch c leave nothing).sound
  rw [hvacate] at hleft ⊢
  refine ⟨getElem?_bindings_vacate sv c other, ?_, ?_⟩
  · intro event data id r nick hdecode hr hne
    exact movesAlike_join hsound hleft hb hother hdecode hr hne
  · intro event data videoId time nick hdecode
    exact movesAlike_new hsound hleft hb hother hdecode

/-- Alice, who is alone in her session, goes to that of Bob or to a new one. Her old session ends at that,
whether she leaves it first or not. -/
theorem alice_leaves_then_enters :
    let alice : ConnectionId := ⟨"alice"⟩
    let video : Json := .object [("video_id", .natural 3)]
    let bobs : Json :=
      .object [("nick", .string "Alice"), ("session_id", .string (SessionId.generated 2).text)]
    let sv := (start {}).takeAll [.dispatch alice "flixy new" (.object [("video_id", .natural 1)]),
      .dispatch ⟨"bob"⟩ "flixy new" (.object [("video_id", .natural 2)]), .around .settle]
    let left := sv.dispatch alice "flixy leave" .null
    MovesAlike alice "flixy join" bobs (.generated 2) sv left ∧
      MovesAlike alice "flixy new" video (.generated 3) sv left ∧
      (left.settle.dispatch alice "flixy new" video).settle = (sv.dispatch alice "flixy new" video).settle ∧
      (sv.dispatch alice "flixy join" bobs).registeredRef? (.generated 1) = none := by
  intro alice video bobs sv left
  have hb : sv.boundSession? alice = some (.generated 1) := by decide
  have hr : sv.registeredRef? (.generated 2) = some ⟨1, .generated 2⟩ := by decide
  have hjoin : Request.decode "flixy join" bobs = .ok (.join (.generated 2) "Alice") := rfl
  have hnew : Request.decode "flixy new" video = .ok (.new 3 0 "") := rfl
  have hissued : sv.issued = 2 := by decide
  have hgone : (sv.dispatch alice "flixy join" bobs).registeredRef? (.generated 1) = none := by decide
  obtain ⟨-, hjoins, hnews⟩ := move_eq_leave_then_enter {} _ alice _ "flixy leave" .null hb rfl
  have hmove : MovesAlike alice "flixy new" video (.generated (sv.issued + 1)) sv left :=
    hnews _ _ _ _ _ hnew
  rw [hissued] at hmove
  exact ⟨hjoins _ _ _ _ _ hjoin hr (by decide), hmove, hmove.settled (settle_again _), hgone⟩

end Server

end WatchParty
