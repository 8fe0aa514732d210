/-
What clients know of their sessions. While a connection stays open, the last view that it has received
of a session it is a member of shows the session's video, whether it is paused and who is in it as they
are, and its position as it was at some time before; while the session is paused it shows all of it.
-/
import Mathlib.Data.List.Infix
import WatchParty.Proofs.Handler.Along
import WatchParty.Proofs.Network
import WatchParty.Proofs.Quiescence

namespace WatchParty

/-! ## Views of a session -/

namespace Session

variable {s : Session} {v : SessionView}

/-- The view shows the session as it is, but for the position, which may have moved on while the
session plays. -/
structure ShownBy (s : Session) (v : SessionView) : Prop where
  videoId : v.status.videoId = s.videoId
  paused : v.status.paused = s.paused
  members : v.members = s.view.members
  time : v.status.time ≤ s.time
  still : s.paused = true → v = s.view

theorem shownBy_view (s : Session) : s.ShownBy s.view :=
  ⟨rfl, rfl, rfl, UInt64.le_refl _, fun _ => rfl⟩

/-- The ticks of a clock keep what a view shows. -/
theorem ShownBy.settle (h : s.ShownBy v) (now : Nat) : (s.settle now).ShownBy v where
  videoId := h.videoId
  paused := h.paused
  members := h.members
  time := UInt64.le_trans h.time (s.time_le_settle now)
  still hpaused := by
    have hp : s.paused = true := hpaused
    rw [h.still hp]
    unfold Session.settle view status
    simp [hp]

end Session

/-! ## What a connection has been told -/

namespace Server

/-- The connection is open, and the last view that it has received of each session it is a member of
shows that session. -/
structure Informed (c : ConnectionId) (sv : Server) : Prop where
  isOpen : sv.network.isOpen c = true
  shown : ∀ (n : Nat) (s : Session), sv.sessions[n]? = some s → c ∈ s.members →
    ∃ v, sv.network.lastView? c s.id = some v ∧ s.ShownBy v

variable {c : ConnectionId} {sv : Server}

theorem informed_start (settings : Settings) (c : ConnectionId) : Informed c (start settings) where
  isOpen := by simp [start, Network.empty, Network.isOpen]
  shown n s hs := by simp [start] at hs

/-- A session may be replaced by one of its id that the connection knows, if it is a member. -/
theorem Informed.replace (h : Informed c sv) (hsound : sv.Sound) {n : Nat} {s t : Session}
    (hs : sv.sessions[n]? = some s) (hid : t.id = s.id)
    {registered : Std.ExtTreeMap SessionId Nat} {bindings : Std.ExtTreeMap ConnectionId SessionId}
    {network : Network} (hopen : network.isOpen c = true)
    (hself : c ∈ t.members → ∃ v, network.lastView? c t.id = some v ∧ t.ShownBy v)
    (hother : ∀ id, t.id ≠ id → network.lastView? c id = sv.network.lastView? c id) :
    Informed c { sv with sessions := sv.sessions.set n t, registered, bindings, network } := by
  refine ⟨hopen, fun m u hu hc => ?_⟩
  simp only [getElem?_set_of_some hs] at hu
  split at hu
  · cases hu
    exact hself hc
  · rename_i hnm
    have hne : t.id ≠ u.id := fun h => hnm (hsound.number_unique hs hu (hid.symm.trans h))
    obtain ⟨v, hv, hshown⟩ := h.shown m u hu hc
    exact ⟨v, (hother u.id hne).trans hv, hshown⟩

/-- A session may be replaced by one of its id of which all members are told. -/
theorem Informed.replace_sync (h : Informed c sv) (hsound : sv.Sound) {n : Nat} {s t : Session}
    (hs : sv.sessions[n]? = some s) (hid : t.id = s.id) (ht : t.Orderly)
    {registered : Std.ExtTreeMap SessionId Nat} {bindings : Std.ExtTreeMap ConnectionId SessionId}
    {network : Network} (hopen : network.isOpen c = true)
    (hother : ∀ id, t.id ≠ id → network.lastView? c id = sv.network.lastView? c id) :
    Informed c { sv with
      sessions := sv.sessions.set n t, registered, bindings, network := t.sync network } := by
  refine h.replace hsound hs hid ?_ (fun hc => ?_) fun id hne => ?_
  · rw [Session.isOpen_sync]
    exact hopen
  · exact ⟨t.view, Session.lastView?_sync ht hopen hc, t.shownBy_view⟩
  · rw [Session.lastView?_sync_of_ne hne]
    exact hother id hne

/-- A connection stays informed while no session changes and it receives no view. -/
theorem Informed.network (h : Informed c sv) {network : Network} (hopen : network.isOpen c = true)
    (hlast : ∀ id, network.lastView? c id = sv.network.lastView? c id) :
    Informed c { sv with network } := by
  refine ⟨hopen, fun n s hs hc => ?_⟩
  obtain ⟨v, hv, hshown⟩ := h.shown n s hs hc
  exact ⟨v, (hlast s.id).trans hv, hshown⟩

/-! ## Calls -/

theorem Informed.unbind (h : Informed c sv) (hsound : sv.Sound) (d : ConnectionId) :
    Informed c (sv.unbind d).2 := by
  cases hd : sv.bindings[d]? with
  | none => rw [unbind_unbound hd]; exact h
  | some id =>
    obtain ⟨n, s, m, hs, -, -, -, heq⟩ := hsound.unbind_bound hd
    have ht : (s.without d).Orderly := (hsound.orderly n s hs).without d
    rw [heq]
    by_cases hempty : (s.without d).members.isEmpty
    · simp only [hempty, if_true]
      refine h.replace (t := s.without d) hsound hs rfl h.isOpen (fun hc => ?_) fun _ _ => rfl
      rw [Std.ExtTreeMap.isEmpty_iff.1 hempty] at hc
      exact absurd hc Std.ExtTreeMap.not_mem_empty
    · simp only [hempty]
      exact h.replace_sync (t := s.without d) hsound hs rfl ht h.isOpen fun _ _ => rfl

theorem Informed.destroyIfEmpty (h : Informed c sv) (hsound : sv.Sound) (id : SessionId) :
    Informed c (sv.destroyIfEmpty id).2 := by
  rcases hsound.destroyIfEmpty_cases id with ⟨heq, -⟩ | ⟨n, s, hs, -, -, hempty, heq⟩
  · rw [heq]; exact h
  · rw [heq]
    refine h.replace (t := s.shutdown) hsound hs rfl h.isOpen (fun hc => ?_) fun _ _ => rfl
    change c ∈ s.members at hc
    rw [hempty] at hc
    exact absurd hc Std.ExtTreeMap.not_mem_empty

theorem Informed.create (h : Informed c sv) (hsound : sv.Sound) (videoId time : UInt64) :
    Informed c (sv.create videoId time).2 := by
  rw [hsound.create_eq]
  refine ⟨h.isOpen, fun n s hs hc => ?_⟩
  rcases getElem?_concat_eq_some.1 hs with hs | ⟨-, rfl⟩
  · exact h.shown n s hs hc
  · simp [Session.new] at hc

theorem Informed.addMember (h : Informed c sv) (hsound : sv.Sound) {r : SessionRef} (hr : sv.Has r)
    (d : ConnectionId) (nick : String) : Informed c (sv.addMember r d nick).2 := by
  obtain ⟨s, hs, -⟩ := hr
  cases hclosed : s.closed with
  | true => rw [addMember_closed hs hclosed]; exact h
  | false =>
    have ht : (s.withMember d nick).Orderly := (hsound.orderly _ s hs).withMember hclosed d nick
    rw [addMember_open hs hclosed]
    refine h.replace_sync (t := s.withMember d nick) hsound hs rfl ht ?_ fun id hne => ?_
    · rw [Network.isOpen_emit]
      exact h.isOpen
    · refine Network.lastView?_emit_of_ne fun v hv => ?_
      cases hv
      exact hne

/-- An operation on playback keeps the connection informed if it tells all members in the end. -/
theorem Informed.onSession_sync (h : Informed c sv) (hsound : sv.Sound) {r : SessionRef}
    (hr : sv.Has r) {f : Session → Network → Unit × Session × Network}
    (hroster : ∀ (s : Session) net, s.SameRoster (f s net).2.1)
    (hsync : ∀ s net, (f s net).2 = (s, net) ∨ (f s net).2.2 = (f s net).2.1.sync net) :
    Informed c (sv.onSession r f).2 := by
  obtain ⟨s, hs, -⟩ := hr
  have hst := hroster s sv.network
  rw [onSession_eq hs]
  rcases hsync s sv.network with hsame | hnet
  · rw [hsame]
    simp only [set_of_some hs]
    exact h
  · rw [hnet]
    exact h.replace_sync hsound hs hst.id (hst.orderly (hsound.orderly _ s hs)) h.isOpen
      fun _ _ => rfl

theorem Informed.play (h : Informed c sv) (hsound : sv.Sound) {r : SessionRef} (hr : sv.Has r) :
    Informed c (sv.play r) :=
  h.onSession_sync hsound hr Session.sameRoster_play Session.play_cases

theorem Informed.pause (h : Informed c sv) (hsound : sv.Sound) {r : SessionRef} (hr : sv.Has r) :
    Informed c (sv.pause r) :=
  h.onSession_sync hsound hr Session.sameRoster_pause fun _ _ => .inr rfl

theorem Informed.setTime (h : Informed c sv) (hsound : sv.Sound) {r : SessionRef} (hr : sv.Has r)
    (time : UInt64) : Informed c (sv.setTime r time) :=
  h.onSession_sync hsound hr (fun s net => s.sameRoster_setTime time net) fun _ _ => .inr rfl

/-- What is sent may show a session only as it is. -/
theorem Informed.send (h : Informed c sv) (hsound : sv.Sound) (d : ConnectionId) {e : Event}
    (he : ∀ v, e.view? = some v → sv.Shows v) : Informed c (sv.send d e).2 := by
  change Informed c { sv with network := (sv.network.emit d e).2 }
  have hopen : (sv.network.emit d e).2.isOpen c = true := by
    rw [Network.isOpen_emit]
    exact h.isOpen
  refine ⟨hopen, fun n s hs hc => ?_⟩
  obtain ⟨v, hv, hshown⟩ := h.shown n s hs hc
  by_cases hdc : d = c
  · by_cases hshows : ∃ w, e.view? = some w ∧ w.id = s.id
    · obtain ⟨w, hw, hwid⟩ := hshows
      obtain ⟨m, t, ht, rfl⟩ := he w hw
      -- the ids tell which session it is that the event shows
      have hmn := hsound.number_unique ht hs hwid
      rw [hmn, hs] at ht
      cases ht
      refine ⟨s.view, ?_, s.shownBy_view⟩
      rw [hdc]
      exact Network.lastView?_emit_self (v := s.view) h.isOpen hw
    · refine ⟨v, ?_, hshown⟩
      rw [← hv]
      exact Network.lastView?_emit_of_ne fun w hw hid => hshows ⟨w, hw, hid⟩
  · refine ⟨v, ?_, hshown⟩
    rw [← hv]
    exact Network.lastView?_emit_other hdc

/-- A fair call keeps an open connection informed. -/
theorem Informed.answer (h : Informed c sv) {d : ConnectionId} {q : Call} (hq : q.Fair d sv) :
    Informed c (sv.answer q).2 := by
  obtain ⟨hsound, hproper, htruthful⟩ := hq
  cases q with
  | lookup id => exact h
  | boundSession e => exact h
  | unbind e => exact h.unbind hsound e
  | destroyIfEmpty id => exact h.destroyIfEmpty hsound id
  | create videoId time => exact h.create hsound videoId time
  | addMember r e nick => exact h.addMember hsound hproper.2 e nick
  | bind e id => exact ⟨h.isOpen, h.shown⟩
  | play r => exact h.play hsound hproper
  | pause r => exact h.pause hsound hproper
  | setTime r time => exact h.setTime hsound hproper time
  | view r => exact h
  | send e event => exact h.send hsound e htruthful

/-! ## Handlers -/

/-- A handler of which all calls are fair keeps an open connection informed. -/
theorem Informed.run {α : Type} (h : Informed c sv) {d : ConnectionId} {p : Handler α}
    (hp : p.Along (fun sv q => q.Fair d sv) sv) : Informed c (p.run sv).2 :=
  hp.run (R := fun sv sv' => Informed c sv → Informed c sv') (fun _ h => h)
    (fun hfirst hrest h => hrest (hfirst h)) (fun _ _ hq h => h.answer hq) h

theorem Informed.dispatch (h : Informed c sv) (hquiet : sv.Quiescent) (d : ConnectionId)
    (event : String) (data : Json) : Informed c (sv.dispatch d event data) :=
  h.run (along_dispatch hquiet.sound (hquiet.settled d) event data)

theorem Informed.disconnect (h : Informed c sv) (hquiet : sv.Quiescent) (d : ConnectionId) :
    Informed c (sv.disconnect d) :=
  h.run (along_disconnect hquiet.sound (hquiet.settled d))

/-! ## Inputs -/

theorem Informed.settle (h : Informed c sv) : Informed c sv.settle := by
  refine ⟨h.isOpen, fun n t ht hc => ?_⟩
  unfold Server.settle at ht
  rw [List.getElem?_map] at ht
  obtain ⟨s, hs, rfl⟩ := Option.map_eq_some_iff.1 ht
  obtain ⟨v, hv, hshown⟩ := h.shown n s hs hc
  exact ⟨v, hv, hshown.settle sv.now⟩

/-- An occurrence keeps the connection informed unless it closes it. -/
theorem Informed.undergo (h : Informed c sv) (o : Occurrence)
    (hopen : (sv.undergo o).network.isOpen c = true) : Informed c (sv.undergo o) := by
  cases o with
  | close d => exact h.network hopen fun _ => rfl
  | reopen d => exact h.network hopen fun _ => rfl
  | accept => exact ⟨h.isOpen, h.shown⟩
  | settle => exact h.settle
  | elapse ms =>
    have hlater : Informed c { sv with now := sv.now + ms } := ⟨h.isOpen, h.shown⟩
    exact hlater.settle

theorem Informed.hangUp (h : Informed c sv) (hquiet : sv.Quiescent) (d : ConnectionId)
    (hopen : (sv.hangUp d).network.isOpen c = true) : Informed c (sv.hangUp d) :=
  (h.disconnect hquiet d).network hopen fun _ => rfl

theorem Informed.receive (h : Informed c sv) (hquiet : sv.Quiescent) (d : ConnectionId) (f : Frame)
    (hopen : (sv.receive d f).network.isOpen c = true) : Informed c (sv.receive d f) := by
  unfold Server.receive at hopen ⊢
  split at hopen
  · rename_i hlast
    rw [if_pos hlast]
    have hhung : Informed c (sv.hangUp d) := h.hangUp hquiet d hopen
    exact hhung.network hopen fun id => Network.lastView?_deliver _ c d id .hangUp
  · rename_i hlast
    rw [if_neg hlast]
    cases f with
    | text text =>
      change Informed c (sv.receiveText d text)
      unfold receiveText
      split
      · exact h.dispatch hquiet d _ _
      · exact h.send hquiet.sound d nofun
    | ping text => exact h.network h.isOpen fun id => Network.lastView?_deliver _ c d id (.pong text)
    | _ => exact h

/-- A connection that is still open after an input is still informed. -/
theorem Informed.take (h : Informed c sv) (hquiet : sv.Quiescent) (i : Input)
    (hopen : (sv.take i).network.isOpen c = true) : Informed c (sv.take i) := by
  cases i with
  | dispatch d event data => exact h.dispatch hquiet d event data
  | disconnect d => exact h.disconnect hquiet d
  | receive d f => exact h.receive hquiet d f hopen
  | hangUp d => exact h.hangUp hquiet d hopen
  | around o => exact h.undergo o hopen

/-- The connection is open at the start, after every input, and in the end. -/
def StaysOpen (sv : Server) (c : ConnectionId) (inputs : List Input) : Prop :=
  ∀ earlier, earlier <+: inputs → (sv.takeAll earlier).network.isOpen c = true

theorem StaysOpen.tail {i : Input} {rest : List Input} (h : sv.StaysOpen c (i :: rest)) :
    (sv.take i).StaysOpen c rest :=
  fun earlier hearlier => h (i :: earlier) (List.cons_prefix_cons.2 ⟨rfl, hearlier⟩)

theorem Informed.takeAll (h : Informed c sv) (hquiet : sv.Quiescent) {inputs : List Input}
    (hopen : sv.StaysOpen c inputs) : Informed c (sv.takeAll inputs) := by
  induction inputs generalizing sv with
  | nil => exact h
  | cons i rest ih =>
    have hnext := hopen [i] (List.cons_prefix_cons.2 ⟨rfl, List.nil_prefix⟩)
    exact ih (h.take hquiet i hnext) (hquiet.take i) hopen.tail

/-- Whatever the inputs: the last view that a connection, if it has stayed open, has received of a
registered session it is a member of shows its video, whether it is paused, and its members as they
are, and no later position than its own; and all of the session while that is paused. -/
theorem views_converge (settings : Settings) (inputs : List Input) (c : ConnectionId)
    (hopen : (start settings).StaysOpen c inputs) :
    let sv := (start settings).takeAll inputs
    ∀ id r, sv.registeredRef? id = some r → c ∈ (sv.session r).members →
      ∃ v, sv.network.lastView? c id = some v ∧
        v.status.videoId = (sv.session r).videoId ∧ v.status.paused = (sv.session r).paused ∧
        v.members = ((sv.session r).members.map fun _ m => m.view) ∧
        v.status.time ≤ (sv.session r).time ∧
        ((sv.session r).paused = true → v = (sv.session r).view) := by
  intro sv id r hr hc
  have hquiet : sv.Quiescent := (quiescent_start settings).takeAll inputs
  have hstart : Informed c (start settings) := informed_start settings c
  have h : Informed c sv := hstart.takeAll (quiescent_start settings) hopen
  obtain ⟨s, hs, hsession, rfl, -⟩ := hquiet.sound.session_of_registeredRef hr
  rw [hsession] at hc ⊢
  obtain ⟨v, hv, hshown⟩ := h.shown r.number s hs hc
  exact ⟨v, hv, hshown.videoId, hshown.paused, hshown.members, hshown.time, hshown.still⟩

theorem view_of_playing_session :
    let alice : ConnectionId := ⟨"alice"⟩
    let bob : ConnectionId := ⟨"bob"⟩
    let named : Json := .object [("session_id", .string (SessionId.generated 1).text)]
    let inputs : List Input := [.dispatch alice "flixy new" (.object [("video_id", .natural 1)]),
      .dispatch bob "flixy join" named, .around .settle, .dispatch alice "flixy play" named,
      .around .settle, .around (.elapse 5)]
    let sv := (start {}).takeAll inputs
    (start {}).StaysOpen bob inputs ∧ sv.registeredRef? (.generated 1) = some ⟨0, .generated 1⟩ ∧
      bob ∈ (sv.session ⟨0, .generated 1⟩).members ∧ (sv.session ⟨0, .generated 1⟩).time = 5 ∧
      ∃ v, sv.network.lastView? bob (.generated 1) = some v ∧ v.status.paused = false ∧
        v.status.time ≤ 5 := by
  intro alice bob named inputs sv
  have hopen : (start {}).StaysOpen bob inputs := by
    have hall : ∀ earlier ∈ inputs.inits, ((start {}).takeAll earlier).network.isOpen bob = true := by
      decide
    exact fun earlier hearlier => hall earlier ((List.mem_inits earlier inputs).2 hearlier)
  have hr : sv.registeredRef? (.generated 1) = some ⟨0, .generated 1⟩ := by decide
  have hc : bob ∈ (sv.session ⟨0, .generated 1⟩).members := by decide
  have hplaying : (sv.session ⟨0, .generated 1⟩).paused = false := by decide
  have htime : (sv.session ⟨0, .generated 1⟩).time = 5 := by decide
  obtain ⟨v, hv, -, hpaused, -, hle, -⟩ := views_converge {} inputs bob hopen _ _ hr hc
  exact ⟨hopen, hr, hc, htime, v, hv, hpaused.trans hplaying, htime ▸ hle⟩

end Server

end WatchParty
