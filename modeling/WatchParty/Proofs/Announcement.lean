/-
Who is told of what is done to a session, and what. Every member stands under its own connection,
whatever was done to a server (`seated_performAll`), so an event for the members is emitted once to each
of their connections, and the order in which they come makes no difference. Where an operation on a
session tells its members, all that it does is to change the session first and to tell them afterwards:
`operate_of_broadcasts`.
-/
import WatchParty.Proofs.Broadcast
import WatchParty.Proofs.Movement

namespace WatchParty

/-- The operation tells those who are members of the session once it is done. -/
def SessionOperation.Broadcasts (s : Session) : SessionOperation → Prop
  | .play => s.closed = false
  | .pause => True
  | .sync => True
  | .setTime _ => True
  | .sendToAll _ => True
  | .removeMember c => c ∈ s.members ∧ ∃ d ∈ s.members, d ≠ c
  | _ => False

/-- What the members are told by an operation that leaves the session as given: where it is, unless the
operation was to tell them something else. -/
def SessionOperation.notice (s : Session) : SessionOperation → Event
  | .sendToAll e => e
  | _ => .sync s.view

/-- One network comes from another by an event for the members of a session. Each of them that is open
hears it once, nobody else hears of it, and this would be so in whatever order it had been emitted to
them. -/
structure Announces (e : Event) (s : Session) (net net' : Network) : Prop where
  member : ∀ c ∈ s.members, net.isOpen c = true → net'.heard c = .event e :: net.heard c
  closed : ∀ c, net.isOpen c = false → net'.heard c = net.heard c
  other : ∀ c, c ∉ s.members → net'.heard c = net.heard c
  isOpen : ∀ c, net'.isOpen c = net.isOpen c
  order : ∀ cs : List ConnectionId, cs.Perm s.members.keys → ∀ c,
    (net.emitAll cs e).heard c = net'.heard c ∧ (net.emitAll cs e).isOpen c = net'.isOpen c

/-- A view shows the session as it is, with one entry for each member: its nickname, under its
connection. -/
structure SessionView.Portrays (v : SessionView) (s : Session) : Prop where
  id : v.id = s.id
  status : v.status = ⟨s.videoId, s.time, s.paused⟩
  keys : v.members.keys = s.members.keys
  entry : ∀ (c : ConnectionId) (m : Member), s.members[c]? = some m →
    m.connection = c ∧ v.members[c]? = some ⟨m.nickname⟩
  json : v.toJson = .object [
    ("members", .object (s.members.toList.map fun (c, m) => (c.text, .object [("nick", .string m.nickname)]))),
    ("paused", .bool s.paused), ("session_id", .string s.id.text), ("time", .natural s.time),
    ("video_id", .natural s.videoId)]

namespace Session

variable {s : Session} {net : Network}

/-! ## Members under their own connection -/

theorem Seated.after (h : s.Seated) (x : Change) : (s.after x).Seated := by
  cases x with
  | play =>
    cases hclosed : s.closed with
    | true => rw [after_play_closed hclosed]; exact h
    | false => rw [after_play_open hclosed]; exact h
  | enter c nick =>
    cases hclosed : s.closed with
    | true => rw [after_enter_closed hclosed]; exact h
    | false => rw [after_enter_open hclosed]; exact h.withMember c nick
  | leave c => rw [after_leave]; exact h.without c
  | closeIfEmpty => rw [after_closeIfEmpty]; exact h
  | _ => exact h

/-! ## Telling the members -/

theorem Seated.announces (h : s.Seated) (e : Event) (net : Network) :
    Announces e s net (s.broadcast e net) where
  member c hc hopen := heard_broadcast_member h hc hopen e
  closed c hclosed := heard_broadcast_closed hclosed s e
  other c hc := heard_broadcast_other h hc e
  isOpen c := Network.isOpen_emitAll net c _ e
  order cs hperm c := by
    have hdistinct : cs.Nodup := hperm.symm.nodup Std.ExtTreeMap.nodup_keys
    unfold broadcast
    rw [h.audience_eq, Network.isOpen_emitAll, Network.isOpen_emitAll]
    exact ⟨Network.heard_emitAll_perm hperm hdistinct net e c, rfl⟩

theorem Seated.portrays (h : s.Seated) : s.view.Portrays s where
  id := rfl
  status := rfl
  keys := Std.ExtTreeMap.keys_map
  entry c m hm := by
    refine ⟨(h c m hm).1, ?_⟩
    unfold view
    rw [Std.ExtTreeMap.getElem?_map, hm]
    rfl
  json := by
    have hmembers : SessionView.membersJson s.view.members =
        .object (s.members.toList.map fun (c, m) => (c.text, .object [("nick", .string m.nickname)])) := by
      unfold SessionView.membersJson view
      rw [Std.ExtTreeMap.toList_map, List.map_map]
      rfl
    unfold SessionView.toJson
    rw [hmembers]
    rfl

end Session

namespace Server

variable {sv : Server} {r : SessionRef} {s : Session} {o : SessionOperation}

theorem seated_performAll (settings : Settings) (operations : List Operation) {n : Nat}
    (hs : ((start settings).performAll operations).sessions[n]? = some s) : s.Seated := by
  have hevery := (every_start Session.Seated settings).performAll (Session.seated_new settings)
    (fun _ x h => h.after x) operations
  exact hevery.session n s hs

/-! ## Operations that tell the members -/

/-- The session is changed first, and then its members are told; nothing else is different. -/
theorem operate_of_broadcasts (hs : sv.sessions[r.number]? = some s) (ho : o.Broadcasts s) :
    ∃ t : Session, (s.Seated → t.Seated) ∧
      sv.operate r o = { sv with
        sessions := sv.sessions.set r.number t
        network := t.broadcast (o.notice t) sv.network } := by
  cases o with
  | play =>
    have hopen : s.closed = false := ho
    refine ⟨{ s with paused := false, clock := s.clock.resume }, fun h => h, ?_⟩
    show (sv.onSession r _).2 = _
    rw [onSession_eq hs]
    unfold Session.play
    rw [hopen]
    rfl
  | pause =>
    refine ⟨{ s with paused := true, clock := s.clock.stop }, fun h => h, ?_⟩
    show (sv.onSession r _).2 = _
    rw [onSession_eq hs]
    rfl
  | setTime time =>
    refine ⟨{ s with time }, fun h => h, ?_⟩
    show (sv.onSession r _).2 = _
    rw [onSession_eq hs]
    rfl
  | sync =>
    refine ⟨s, fun h => h, ?_⟩
    rw [set_of_some hs]
    show { sv with network := (sv.session r).sync sv.network } = _
    rw [session_eq hs]
    rfl
  | sendToAll e =>
    refine ⟨s, fun h => h, ?_⟩
    rw [set_of_some hs]
    show { sv with network := (sv.session r).broadcast e sv.network } = _
    rw [session_eq hs]
    rfl
  | removeMember c =>
    obtain ⟨hc, d, hd, hdc⟩ := ho
    obtain ⟨m, hm⟩ := Option.isSome_iff_exists.1 (Std.ExtTreeMap.mem_iff_isSome_getElem?.1 hc)
    have hremain : ¬ (s.without c).members.isEmpty = true := by
      intro hempty
      have hd' : d ∈ (s.without c).members := Session.mem_without.2 ⟨hdc, hd⟩
      rw [Std.ExtTreeMap.isEmpty_iff.1 hempty] at hd'
      exact Std.ExtTreeMap.not_mem_empty hd'
    refine ⟨s.without c, fun h => h.without c, ?_⟩
    show (sv.removeMember r c).2 = _
    rw [removeMember_of_some hs hm, if_neg hremain]
    rfl
  | insert => exact ho.elim
  | addMember c nick => exact ho.elim
  | closeIfEmpty => exact ho.elim
  | shutdown => exact ho.elim
  | drop => exact ho.elim

/-- Whatever was done to the server before: an operation on a session that tells its members leaves a
session of which each open member hears exactly one event more, and nobody else hears anything, in
whatever order they are told. The event is the one that the operation was to send, or else it shows the
session as it is then, with all its members. -/
theorem open_members_told_once (settings : Settings) (operations : List Operation) (n : Nat) (s : Session)
    (o : SessionOperation)
    (hs : ((start settings).performAll operations).sessions[n]? = some s) (ho : o.Broadcasts s) :
    let sv := (start settings).performAll operations
    let sv' := sv.perform (.onSession n o)
    ∃ t : Session, sv'.sessions[n]? = some t ∧ Announces (o.notice t) t sv.network sv'.network ∧
      t.view.Portrays t := by
  intro sv sv'
  obtain ⟨t, hseated, hoperate⟩ := operate_of_broadcasts (r := ⟨n, s.id⟩) hs ho
  have ht : t.Seated := hseated (seated_performAll settings operations hs)
  have hsv' : sv' = { sv with
      sessions := sv.sessions.set n t, network := t.broadcast (o.notice t) sv.network } :=
    (perform_onSession hs o).trans hoperate
  refine ⟨t, ?_, ?_, ht.portrays⟩
  · rw [hsv']
    exact (getElem?_set_of_some hs t n).trans (if_pos rfl)
  · rw [hsv']
    exact ht.announces _ _

/-- Alice and Bob are in a session, and Bob's connection has closed. When the session is played, Alice hears
of it once, and Bob does not. -/
theorem alice_told_once :
    let alice : ConnectionId := ⟨"alice"⟩
    let bob : ConnectionId := ⟨"bob"⟩
    let sv := (start {}).performAll [.create 1 0, .onSession 0 (.addMember alice "Alice"),
      .onSession 0 (.addMember bob "Bob"), .input (.around (.close bob))]
    let sv' := sv.perform (.onSession 0 .play)
    ∃ s t : Session, sv.sessions[0]? = some s ∧ SessionOperation.play.Broadcasts s ∧
      sv'.sessions[0]? = some t ∧
      sv'.network.heard alice = .event (.sync t.view) :: sv.network.heard alice ∧
      sv'.network.heard bob = sv.network.heard bob := by
  intro alice bob sv sv'
  have hs : sv.sessions[0]? = some (sv.session ⟨0, .generated 1⟩) := rfl
  have hopen : (sv.session ⟨0, .generated 1⟩).closed = false := by decide
  obtain ⟨t, ht, hannounces, -⟩ := open_members_told_once {} _ 0 _ .play hs hopen
  have hmember : alice ∈ t.members := by
    cases ht
    decide
  exact ⟨_, t, hs, hopen, ht, hannounces.member alice hmember (by decide),
    hannounces.closed bob (by decide)⟩

end Server

end WatchParty
