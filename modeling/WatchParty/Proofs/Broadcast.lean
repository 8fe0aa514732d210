/-
What is heard of an event for all members of a session. It is emitted to each member once, so every
member that is open hears it once more, whatever the order in which they come, and nobody else hears of
it.
-/
import WatchParty.Proofs.Server.Alike

namespace WatchParty

namespace Network

variable {net : Network} {d : ConnectionId} {cs : List ConnectionId}

/-! ## Events for many -/

theorem heard_emitAll_of_not_mem (hd : d ∉ cs) (e : Event) : (net.emitAll cs e).heard d = net.heard d := by
  unfold emitAll
  induction cs generalizing net with
  | nil => rfl
  | cons c rest ih =>
    have hne : c ≠ d := fun h => hd (h ▸ List.mem_cons_self)
    rw [List.foldl_cons, ih fun h => hd (List.mem_cons_of_mem c h)]
    exact heard_emit_other hne net e

theorem heard_emitAll_closed (hclosed : net.isOpen d = false) (cs : List ConnectionId) (e : Event) :
    (net.emitAll cs e).heard d = net.heard d := by
  unfold emitAll
  induction cs generalizing net with
  | nil => rfl
  | cons c rest ih =>
    have hstays : (net.emit c e).2.isOpen d = false := by rw [isOpen_emit, hclosed]
    rw [List.foldl_cons, ih hstays]
    by_cases hcd : c = d
    · rw [hcd, heard_emit_closed hclosed]
    · exact heard_emit_other hcd net e

/-- Each of those to whom an event is emitted hears it once, as none is among them twice. -/
theorem heard_emitAll_of_mem (hdistinct : cs.Nodup) (hopen : net.isOpen d = true) (hd : d ∈ cs)
    (e : Event) : (net.emitAll cs e).heard d = .event e :: net.heard d := by
  induction cs generalizing net with
  | nil => exact absurd hd List.not_mem_nil
  | cons c rest ih =>
    obtain ⟨hc, hrest⟩ := List.nodup_cons.1 hdistinct
    show ((net.emit c e).2.emitAll rest e).heard d = _
    rcases List.mem_cons.1 hd with rfl | hd
    · rw [heard_emitAll_of_not_mem hc, heard_emit_open hopen]
    · have hne : c ≠ d := fun h => hc (h ▸ hd)
      rw [ih hrest (by rw [isOpen_emit, hopen]) hd, heard_emit_other hne]

/-- In whatever order an event is emitted to them, everyone hears the same. -/
theorem heard_emitAll_perm {ds : List ConnectionId} (hperm : cs.Perm ds) (hdistinct : cs.Nodup)
    (net : Network) (e : Event) (d : ConnectionId) :
    (net.emitAll cs e).heard d = (net.emitAll ds e).heard d := by
  by_cases hd : d ∈ cs
  · cases hopen : net.isOpen d with
    | false => rw [heard_emitAll_closed hopen, heard_emitAll_closed hopen]
    | true =>
      rw [heard_emitAll_of_mem hdistinct hopen hd]
      rw [heard_emitAll_of_mem (hperm.nodup hdistinct) hopen (hperm.mem_iff.1 hd)]
  · rw [heard_emitAll_of_not_mem hd, heard_emitAll_of_not_mem (mt hperm.mem_iff.2 hd)]

end Network

namespace Session

variable {s : Session} {net : Network} {d : ConnectionId}

/-! ## Events for the members -/

/-- An event for all members is emitted to the connections under which they stand. -/
theorem Seated.audience_eq (h : s.Seated) : s.audience = s.members.keys := by
  unfold audience
  rw [← Std.ExtTreeMap.map_fst_toList_eq_keys]
  refine List.map_congr_left ?_
  rintro ⟨c, m⟩ hm
  exact (h c m (Std.ExtTreeMap.mem_toList_iff_getElem?_eq_some.1 hm)).1

theorem heard_broadcast_member (h : s.Seated) (hd : d ∈ s.members) (hopen : net.isOpen d = true)
    (e : Event) : (s.broadcast e net).heard d = .event e :: net.heard d := by
  refine Network.heard_emitAll_of_mem ?_ hopen ((h.mem_audience d).2 hd) e
  rw [h.audience_eq]
  exact Std.ExtTreeMap.nodup_keys

theorem heard_broadcast_other (h : s.Seated) (hd : d ∉ s.members) (e : Event) :
    (s.broadcast e net).heard d = net.heard d :=
  Network.heard_emitAll_of_not_mem (mt (h.mem_audience d).1 hd) e

theorem heard_broadcast_closed (hclosed : net.isOpen d = false) (s : Session) (e : Event) :
    (s.broadcast e net).heard d = net.heard d :=
  Network.heard_emitAll_closed hclosed _ e

end Session

end WatchParty
