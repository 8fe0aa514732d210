/-
What the operations on a single session keep of its name, its members and its end. `Orderly` is what
every session that a server made by itself is at all times: each member stands under its own
connection and carries the id of the session, and the session is closed only once nobody is left in
it, and then its clock has ended too. `SameRoster` is what the operations on playback and the ticks
of the clock leave as it was.
-/
import WatchParty.Session

namespace WatchParty.Session

/-- Every member stands under its own connection and carries the session's id. -/
def Seated (s : Session) : Prop :=
  ∀ (c : ConnectionId) (m : Member), s.members[c]? = some m → m.connection = c ∧ m.session = s.id

/-- Every member stands under its own connection and carries the session's id; a closed session is
empty, paused and without a clock. -/
structure Orderly (s : Session) : Prop where
  seated : ∀ (c : ConnectionId) (m : Member), s.members[c]? = some m → m.connection = c ∧ m.session = s.id
  shut : s.closed = true → s.members = ∅ ∧ s.paused = true ∧ s.clock.cancelled = true

/-- The second session has the id and the members of the first, and is closed or shut down if the
first is. -/
structure SameRoster (s t : Session) : Prop where
  id : t.id = s.id
  members : t.members = s.members
  closed : t.closed = s.closed
  paused : s.closed = true → s.paused = true → t.paused = true
  cancelled : s.clock.cancelled = true → t.clock.cancelled = true

theorem SameRoster.refl (s : Session) : s.SameRoster s :=
  ⟨rfl, rfl, rfl, fun _ h => h, fun h => h⟩

theorem SameRoster.orderly {s t : Session} (h : s.SameRoster t) (hs : s.Orderly) : t.Orderly := by
  refine ⟨fun c m hm => ?_, fun hclosed => ?_⟩
  · rw [h.members] at hm
    rw [h.id]
    exact hs.seated c m hm
  · rw [h.closed] at hclosed
    obtain ⟨hmembers, hpaused, hcancelled⟩ := hs.shut hclosed
    exact ⟨by rw [h.members, hmembers], h.paused hclosed hpaused, h.cancelled hcancelled⟩

/-! ## Positions -/

/-- The last position that there is. -/
def lastPosition : Nat := 2 ^ 64 - 1

theorem toNat_advance (s : Session) (ticks : Nat) :
    (s.advance ticks).toNat = min lastPosition (s.time.toNat + ticks * s.clock.period) := by
  have hsize : UInt64.size = 2 ^ 64 := rfl
  unfold advance
  rw [UInt64.toNat_ofNat_of_lt' (by omega)]
  rfl

theorem time_le_lastPosition (s : Session) : s.time.toNat ≤ lastPosition := by
  have hlt : s.time.toNat < 2 ^ 64 := s.time.toNat_lt
  unfold lastPosition
  omega

theorem advance_zero (s : Session) : s.advance 0 = s.time := by
  have hlast := s.time_le_lastPosition
  apply UInt64.toNat_inj.1
  rw [toNat_advance, Nat.zero_mul, Nat.add_zero, Nat.min_eq_right hlast]

/-- Playback moves forward only. -/
theorem le_advance (s : Session) (ticks : Nat) : s.time ≤ s.advance ticks := by
  have hlast := s.time_le_lastPosition
  rw [UInt64.le_iff_toNat_le, toNat_advance]
  omega

theorem time_le_settle (s : Session) (now : Nat) : s.time ≤ (s.settle now).time := by
  unfold Session.settle
  simp only
  split
  · exact UInt64.le_refl _
  · exact s.le_advance _

/-! ## Playback and time -/

theorem sameRoster_play (s : Session) (net : Network) : s.SameRoster (s.play net).1 := by
  unfold play
  split
  · exact .refl s
  · rename_i hopen
    exact ⟨rfl, rfl, rfl, fun h => absurd h hopen, fun h => h⟩

/-- Playing does nothing, or everyone is told in the end. -/
theorem play_cases (s : Session) (net : Network) :
    s.play net = (s, net) ∨ (s.play net).2 = (s.play net).1.sync net := by
  unfold play
  split
  · exact .inl rfl
  · exact .inr rfl

theorem sameRoster_pause (s : Session) (net : Network) : s.SameRoster (s.pause net).1 :=
  ⟨rfl, rfl, rfl, fun _ _ => rfl, fun h => h⟩

theorem sameRoster_setTime (s : Session) (time : UInt64) (net : Network) :
    s.SameRoster (s.setTime time net).1 :=
  ⟨rfl, rfl, rfl, fun _ h => h, fun h => h⟩

theorem sameRoster_settle (s : Session) (now : Nat) : s.SameRoster (s.settle now) :=
  ⟨rfl, rfl, rfl, fun _ h => h, fun h => h⟩

/-! ## Members -/

theorem seated_new (settings : Settings) (id : SessionId) (videoId time : UInt64) :
    (new settings id videoId time).Seated :=
  fun c m h => by simp [new] at h

theorem orderly_new (settings : Settings) (id : SessionId) (videoId time : UInt64) :
    (new settings id videoId time).Orderly :=
  ⟨seated_new settings id videoId time, fun h => by simp [new] at h⟩

/-- The session with a member more, or with another nickname for one. -/
def withMember (s : Session) (c : ConnectionId) (nick : String) : Session :=
  { s with members := s.members.insert c ⟨c, s.nicknameFor nick, s.id⟩ }

/-- The session without a member. -/
def without (s : Session) (c : ConnectionId) : Session :=
  { s with members := s.members.erase c }

theorem mem_withMember {s : Session} {c d : ConnectionId} {nick : String} :
    d ∈ (s.withMember c nick).members ↔ d = c ∨ d ∈ s.members := by
  unfold withMember
  rw [Std.ExtTreeMap.mem_insert, Std.LawfulEqCmp.compare_eq_iff_eq, eq_comm]

theorem mem_without {s : Session} {c d : ConnectionId} :
    d ∈ (s.without c).members ↔ d ≠ c ∧ d ∈ s.members := by
  unfold without
  rw [Std.ExtTreeMap.mem_erase, ne_eq, Std.LawfulEqCmp.compare_eq_iff_eq, eq_comm]

theorem addMember_closed {s : Session} (h : s.closed = true) (c : ConnectionId) (nick : String)
    (net : Network) : s.addMember c nick net = (.error (.sessionClosed s.id), s, net) := by
  simp [addMember, h]

theorem addMember_open {s : Session} (h : s.closed = false) (c : ConnectionId) (nick : String)
    (net : Network) : s.addMember c nick net = (.ok ⟨c, s.nicknameFor nick, s.id⟩, s.withMember c nick,
      (s.withMember c nick).sync (net.emit c (.joinSession (s.withMember c nick).view)).2) := by
  unfold addMember
  rw [if_neg (by simp [h])]
  rfl

theorem removeMember_of_some {s : Session} {c : ConnectionId} {m : Member}
    (h : s.members[c]? = some m) (net : Network) :
    s.removeMember c net = ((some m, (s.without c).members.size), s.without c,
      if (s.without c).members.isEmpty then net else (s.without c).sync net) := by
  simp only [removeMember, h]
  rfl

theorem Seated.withMember {s : Session} (h : s.Seated) (c : ConnectionId) (nick : String) :
    (s.withMember c nick).Seated := by
  intro d m hm
  simp only [Session.withMember, Std.ExtTreeMap.getElem?_insert] at hm
  split at hm
  · rename_i hcd
    cases Std.LawfulEqCmp.compare_eq_iff_eq.1 hcd
    cases hm
    exact ⟨rfl, rfl⟩
  · exact h d m hm

theorem Seated.without {s : Session} (h : s.Seated) (c : ConnectionId) : (s.without c).Seated := by
  intro d m hm
  simp only [Session.without, Std.ExtTreeMap.getElem?_erase] at hm
  split at hm
  · cases hm
  · exact h d m hm

theorem Orderly.isSeated {s : Session} (h : s.Orderly) : s.Seated := h.seated

/-- An open session stays orderly when a member is added. -/
theorem Orderly.withMember {s : Session} (h : s.Orderly) (hopen : s.closed = false)
    (c : ConnectionId) (nick : String) : (s.withMember c nick).Orderly := by
  refine ⟨h.isSeated.withMember c nick, fun hclosed => ?_⟩
  simp only [Session.withMember, hopen, Bool.false_eq_true] at hclosed

/-- A session stays orderly when a member leaves. -/
theorem Orderly.without {s : Session} (h : s.Orderly) (c : ConnectionId) :
    (s.without c).Orderly := by
  refine ⟨h.isSeated.without c, fun hclosed => ?_⟩
  obtain ⟨hmembers, hpaused, hcancelled⟩ := h.shut hclosed
  exact ⟨by simp [Session.without, hmembers], hpaused, hcancelled⟩

/-- A session is closed after it was to be closed for having no members if it has none, and also if it was
closed before, whoever its members are. -/
theorem closeIfEmpty_closed (s : Session) : s.closeIfEmpty.1 = (s.closed || s.members.isEmpty) := by
  unfold closeIfEmpty
  split
  · rename_i hempty
    simp [hempty]
  · rename_i hmembers
    simp [hmembers]

/-- A session that is still open has not changed when it was to be closed if empty. -/
theorem closeIfEmpty_of_open {s : Session} (h : ¬ s.closeIfEmpty.1 = true) : s.closeIfEmpty.2 = s := by
  unfold closeIfEmpty at h ⊢
  split at h
  · exact absurd rfl h
  · rename_i hmembers
    simp only [hmembers, Bool.false_eq_true, if_false]

theorem shutdown_closeIfEmpty (s : Session) : s.closeIfEmpty.2.shutdown = s.shutdown := by
  unfold closeIfEmpty
  split
  · rfl
  · rfl

/-- An empty session may be shut down. -/
theorem orderly_shutdown {s : Session} (h : s.members = ∅) : s.shutdown.Orderly :=
  ⟨fun c m hm => by simp [shutdown, h] at hm, fun _ => ⟨h, rfl, rfl⟩⟩

/-- Whom an event for all members is emitted to: each member's connection, which is its key. -/
theorem Seated.mem_audience {s : Session} (h : s.Seated) (c : ConnectionId) :
    c ∈ s.audience ↔ c ∈ s.members := by
  simp only [audience, List.mem_map, Prod.exists, Std.ExtTreeMap.mem_toList_iff_getElem?_eq_some]
  constructor
  · rintro ⟨d, m, hm, rfl⟩
    rw [(h d m hm).1, Std.ExtTreeMap.mem_iff_isSome_getElem?, hm]
    rfl
  · intro hc
    obtain ⟨m, hm⟩ := Option.isSome_iff_exists.1 (Std.ExtTreeMap.mem_iff_isSome_getElem?.1 hc)
    exact ⟨c, m, hm, (h c m hm).1⟩

end WatchParty.Session
