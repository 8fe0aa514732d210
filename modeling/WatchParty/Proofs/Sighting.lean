/-
What is seen of where a session is. A connection that is shown the session now and then, and whoever
reads its position before and after, see it in the order in which it was there: what is seen later is
never less while nobody moves the session, and is the same while it is paused.
-/
import WatchParty.Proofs.Handler.Along
import WatchParty.Proofs.Network
import WatchParty.Proofs.Position
import WatchParty.Proofs.Quiescence

namespace WatchParty

open Network (Tells)

/-- The position of a session of the given id that a delivery shows to the connection. -/
def Delivery.positionFor? (c : ConnectionId) (id : SessionId) (x : Delivery) : Option UInt64 :=
  (x.viewFor? c id).map (·.status.time)

theorem Delivery.viewFor?_eq_some {c : ConnectionId} {id : SessionId} {x : Delivery} {v : SessionView}
    (h : x.viewFor? c id = some v) : x.content.view? = some v ∧ v.id = id := by
  obtain ⟨d, content⟩ := x
  cases content with
  | event e =>
    simp only [viewFor?] at h
    split at h
    · obtain ⟨hv, hid⟩ := Option.filter_eq_some_iff.1 h
      exact ⟨hv, of_decide_eq_true hid⟩
    · cases h
  | _ => cases h

/-- The call does not set the position of the session of the number. -/
def Call.Spares (n : Nat) : Call → Prop
  | .setTime r _ => r.number ≠ n
  | _ => True

theorem Call.Moveless.spares {q : Call} (hq : q.Moveless) (n : Nat) : q.Spares n := by
  cases q with
  | setTime r time => exact absurd hq fun h => h
  | _ => trivial

namespace Server

open Session (Change)

variable {sv sv' sv₁ sv₂ sv₃ : Server} {n : Nat} {c : ConnectionId} {id : SessionId}

/-! ## Sessions that are left where they are -/

/-- The view is of a session that is there, and shows the position of the one of the number if it is
that one. -/
def Places (n : Nat) (sv : Server) (v : SessionView) : Prop :=
  ∃ (m : Nat) (t : Session), sv.sessions[m]? = some t ∧ v.id = t.id ∧ (m = n → v.status.time = t.time)

/-- The session of the number is left where it is, and every view that is delivered meanwhile, if it is
one of that session, shows it there. -/
structure InPlace (n : Nat) (sv sv' : Server) : Prop where
  evolves : sv.Evolves (fun m x => m = n → ¬ x.Moves) sv'
  told : Tells (fun x => ∀ v, x.content.view? = some v → sv'.Places n v) sv.network sv'.network

/-- The session of a number has changed, but it is where it was if it is the one that is left there. -/
theorem InPlace.session (h : sv.InPlace n sv') {m : Nat} {s : Session} (hs : sv.sessions[m]? = some s) :
    ∃ t : Session, sv'.sessions[m]? = some t ∧ t.id = s.id ∧ (m = n → t.time = s.time) := by
  obtain ⟨changes, hchanges, ht⟩ := h.evolves.session hs
  exact ⟨_, ht, s.id_afterAll changes, fun hm => Session.time_afterAll fun x hx => hchanges x hx hm⟩

theorem Places.inPlace {v : SessionView} (hv : sv.Places n v) (h : sv.InPlace n sv') : sv'.Places n v := by
  obtain ⟨m, s, hs, hid, htime⟩ := hv
  obtain ⟨t, ht, hst, hleft⟩ := h.session hs
  exact ⟨m, t, ht, hid.trans hst.symm, fun hm => (htime hm).trans (hleft hm).symm⟩

theorem InPlace.refl (sv : Server) : sv.InPlace n sv := ⟨.refl sv, .refl _ _⟩

theorem InPlace.trans (h : sv₁.InPlace n sv₂) (k : sv₂.InPlace n sv₃) : sv₁.InPlace n sv₃ :=
  ⟨h.evolves.trans k.evolves, (h.told.mono fun _ hx v hv => (hx v hv).inPlace k).trans k.told⟩

/-- What touches no session may tell whatever shows none. -/
theorem InPlace.of_sessions (hnow : sv'.now = sv.now) (hsettings : sv'.settings = sv.settings)
    (hsessions : sv'.sessions = sv.sessions)
    (htold : Tells (fun x => x.content.view? = none) sv.network sv'.network) : sv.InPlace n sv' := by
  refine ⟨.of_sessions hnow hsettings hsessions, htold.mono fun x hx v hv => ?_⟩
  rw [hx] at hv
  cases hv

/-- A fair call that does not set its position leaves the session where it is. -/
theorem inPlace_answer {q : Call} (hfair : q.Fair c sv) (hspares : q.Spares n) :
    sv.InPlace n (sv.answer q).2 where
  evolves := by
    have hstill : ∀ {sv'}, sv.EvolvesStill sv' → sv.Evolves (fun m x => m = n → ¬ x.Moves) sv' :=
      fun h => h.mono fun _ _ hx _ => hx.not_moves
    cases q with
    | setTime r time => exact evolves_setTime fun hr => absurd hr hspares
    | _ => exact hstill (Call.Moveless.still (by trivial) sv)
  told := by
    refine (tells_answer hfair.sound hfair.proper hfair.truthful).mono fun x hx v hv => ?_
    obtain ⟨m, t, ht, rfl⟩ := hx.view v hv
    exact ⟨m, t, ht, rfl, fun _ => rfl⟩

/-! ## Handlers -/

theorem inPlace_run {α : Type} {p : Handler α} (hfair : p.Along (fun sv q => q.Fair c sv) sv)
    (hspares : p.Along (fun _ q => q.Spares n) sv) : sv.InPlace n (p.run sv).2 :=
  (hfair.and hspares).run InPlace.refl InPlace.trans fun _ _ hq => inPlace_answer hq.1 hq.2

theorem spares_of_moveless {α : Type} {p : Handler α} (hp : p.Makes Call.Moveless) (n : Nat)
    (sv : Server) : p.Along (fun _ q => q.Spares n) sv :=
  (hp.along sv).mono fun _ _ hq => hq.spares n

/-- A seek sets the position of the session that is registered under the id, and of no other. -/
theorem spares_seek {time : UInt64} (hn : sv.registered[id]? ≠ some n) :
    (Handler.handle c (.seek id time)).Along (fun _ q => q.Spares n) sv := by
  refine Handler.Along.bind (Handler.along_ask trivial) ?_
  rw [Handler.run_ask]
  simp only [answer, lookup, registeredRef?]
  cases hm : sv.registered[id]? with
  | none => trivial
  | some m => exact ⟨fun hmn : m = n => hn (hmn ▸ hm), trivial⟩

/-- An event that does not seek the session sets its position nowhere. -/
theorem spares_dispatch {event : String} {data : Json}
    (h : ∀ time, ¬ sv.Seeks n time event data) :
    (Handler.dispatch c event data).Along (fun _ q => q.Spares n) sv := by
  unfold Handler.dispatch
  split
  · exact spares_of_moveless (Handler.moveless_tellFailure c event data _) n sv
  · rename_i request hdecode
    refine Handler.Along.bind ?_ ?_
    · by_cases hseek : ∃ id time, request = .seek id time
      · obtain ⟨id, time, rfl⟩ := hseek
        exact spares_seek fun hn => h time ⟨id, hdecode, hn⟩
      · have hmoveless := Handler.moveless_handle c fun id time heq => hseek ⟨id, time, heq⟩
        exact spares_of_moveless hmoveless n sv
    · split
      · exact spares_of_moveless (Handler.moveless_tellFailure c _ data _) n _
      · trivial

theorem inPlace_dispatch (hquiet : sv.Quiescent) {event : String} {data : Json}
    (h : ∀ time, ¬ sv.Seeks n time event data) : sv.InPlace n (sv.dispatch c event data) :=
  inPlace_run (along_dispatch hquiet.sound (hquiet.settled c) event data) (spares_dispatch h)

theorem inPlace_disconnect (hquiet : sv.Quiescent) : sv.InPlace n (sv.disconnect c) :=
  inPlace_run (along_disconnect hquiet.sound (hquiet.settled c))
    (spares_of_moveless (Handler.moveless_disconnect c) n sv)

/-! ## Inputs -/

theorem inPlace_hangUp (hquiet : sv.Quiescent) : sv.InPlace n (sv.hangUp c) :=
  (inPlace_disconnect hquiet).trans (.of_sessions rfl rfl rfl ⟨[], rfl, nofun⟩)

theorem inPlace_receive (hquiet : sv.Quiescent) {f : Frame}
    (h : ∀ time, ¬ sv.MovesTo n time (.input (.receive c f))) : sv.InPlace n (sv.receive c f) := by
  unfold Server.receive
  split
  · exact (inPlace_hangUp hquiet).trans (.of_sessions rfl rfl rfl (Network.tells_deliver rfl))
  · cases f with
    | text text =>
      change sv.InPlace n (sv.receiveText c text)
      unfold receiveText
      cases hparse : Envelope.parse? text with
      | none => exact .of_sessions rfl rfl rfl (Network.tells_emit rfl)
      | some envelope =>
        exact inPlace_dispatch hquiet fun time hseeks => h time ⟨envelope, hparse, hseeks⟩
    | ping text => exact .of_sessions rfl rfl rfl (Network.tells_deliver rfl)
    | _ => exact .refl sv

/-- An input in which no time passes leaves the session where it is, unless it sets its position. -/
theorem inPlace_take (hquiet : sv.Quiescent) {i : Input} (hi : (Operation.input i).elapses? = none)
    (h : ∀ time, ¬ sv.MovesTo n time (.input i)) : sv.InPlace n (sv.take i) := by
  cases i with
  | dispatch c event data => exact inPlace_dispatch hquiet h
  | disconnect c => exact inPlace_disconnect hquiet
  | receive c f => exact inPlace_receive hquiet h
  | hangUp c => exact inPlace_hangUp hquiet
  | around occurrence =>
    cases occurrence with
    | settle => cases hi
    | elapse ms => cases hi
    | _ => exact .of_sessions rfl rfl rfl ⟨[], rfl, nofun⟩

/-! ## What is seen -/

/-- Where the session of the number is, if there is one. -/
def position? (sv : Server) (n : Nat) : Option UInt64 := sv.sessions[n]?.map (·.time)

/-- What is seen of a session from one state of the server to the next, in order: where it is at first,
each position of a session of the id that is shown to the connection among what is told meanwhile, and
where it is in the end. -/
def sightings (c : ConnectionId) (n : Nat) (id : SessionId) (sv sv' : Server) (told : List Delivery) :
    List UInt64 :=
  (sv.position? n).toList ++ told.reverse.filterMap (Delivery.positionFor? c id) ++
    (sv'.position? n).toList

/-- Among all sessions that there are, the id is that of the session of the number. -/
def Bears (n : Nat) (id : SessionId) (sv : Server) : Prop :=
  ∀ (m : Nat) (s : Session), sv.sessions[m]? = some s → s.id = id → m = n

theorem Sound.bears (h : sv.Sound) {s : Session} (hs : sv.sessions[n]? = some s) : sv.Bears n s.id :=
  fun _ _ ht hid => h.number_unique ht hs hid

/-- Sessions keep their ids. -/
theorem Bears.earlier {inputs : List Input} (h : (sv.takeAll inputs).Bears n id) : sv.Bears n id := by
  intro m s hs hid
  have hhas : sv.Has ⟨m, s.id⟩ := ⟨s, hs, rfl⟩
  rw [takeAll_eq_performAll] at h
  obtain ⟨t, ht, hst⟩ := hhas.performAll (inputs.map .input)
  exact h m t ht (hst.trans hid)

/-- What is seen of the session is in the order, and nothing is seen of it unless it is there in the
end. -/
def Recounts (ρ : UInt64 → UInt64 → Prop) (c : ConnectionId) (n : Nat) (id : SessionId)
    (sv sv' : Server) : Prop :=
  ∃ told, sv'.network.log = told ++ sv.network.log ∧ (sightings c n id sv sv' told).Pairwise ρ ∧
    (sv'.position? n = none → sightings c n id sv sv' told = [])

section Order

variable {ρ : UInt64 → UInt64 → Prop} (hrefl : ∀ x, ρ x x)
variable (htrans : ∀ x y z, ρ x y → ρ y z → ρ x z)

include htrans in
/-- Two lists of which one ends as the other begins are in order when they are joined there. -/
theorem pairwise_join {l mid r : List UInt64} (hl : (l ++ mid).Pairwise ρ) (hr : (mid ++ r).Pairwise ρ)
    (hmid : mid = [] → l = []) : (l ++ r).Pairwise ρ := by
  obtain ⟨hleft, -, hbefore⟩ := List.pairwise_append.1 hl
  obtain ⟨-, hright, hafter⟩ := List.pairwise_append.1 hr
  refine List.pairwise_append.2 ⟨hleft, hright, fun x hx y hy => ?_⟩
  obtain ⟨z, hz⟩ := List.exists_mem_of_ne_nil mid fun hnil => by simp [hmid hnil] at hx
  exact htrans x z y (hbefore x hx z hz) (hafter z hz y hy)

include htrans in
theorem Recounts.trans (h : Recounts ρ c n id sv₁ sv₂) (k : Recounts ρ c n id sv₂ sv₃) :
    Recounts ρ c n id sv₁ sv₃ := by
  obtain ⟨first, hfirst, hl, hnone⟩ := h
  obtain ⟨rest, hrest, hr, hnone'⟩ := k
  have hjoin : sightings c n id sv₁ sv₃ (rest ++ first) =
      ((sv₁.position? n).toList ++ first.reverse.filterMap (Delivery.positionFor? c id)) ++
        (rest.reverse.filterMap (Delivery.positionFor? c id) ++ (sv₃.position? n).toList) := by
    simp only [sightings, List.reverse_append, List.filterMap_append, List.append_assoc]
  have hmid : (sv₂.position? n).toList = [] →
      (sv₁.position? n).toList ++ first.reverse.filterMap (Delivery.positionFor? c id) = [] :=
    fun hnil => (List.append_eq_nil_iff.1 (hnone (Option.toList_eq_nil_iff.1 hnil))).1
  refine ⟨rest ++ first, by rw [hrest, hfirst, List.append_assoc], ?_, fun hgone => ?_⟩
  · rw [hjoin]
    unfold sightings at hr
    rw [List.append_assoc] at hr
    exact pairwise_join htrans hl hr hmid
  · have hlater := hnone' hgone
    unfold sightings at hlater
    rw [List.append_assoc, List.append_eq_nil_iff] at hlater
    rw [hjoin, hmid hlater.1, hlater.2]
    rfl

/-- All that is seen of a session that is left where it is is where it is. -/
theorem InPlace.mem_sightings (h : sv.InPlace n sv') (hbears : sv'.Bears n id) {told : List Delivery}
    (htold : ∀ x ∈ told, ∀ v, x.content.view? = some v → sv'.Places n v) {time : UInt64}
    (htime : time ∈ sightings c n id sv sv' told) : sv'.position? n = some time := by
  unfold sightings at htime
  rcases List.mem_append.1 htime with htime | htime
  · rcases List.mem_append.1 htime with htime | htime
    · obtain ⟨s, hs, rfl⟩ := Option.map_eq_some_iff.1 (Option.mem_toList.1 htime)
      obtain ⟨t, ht, -, hleft⟩ := h.session hs
      unfold position?
      rw [ht, Option.map_some, hleft rfl]
    · obtain ⟨x, hx, hposition⟩ := List.mem_filterMap.1 htime
      obtain ⟨v, hview, rfl⟩ := Option.map_eq_some_iff.1 hposition
      obtain ⟨hv, hid⟩ := Delivery.viewFor?_eq_some hview
      obtain ⟨m, t, ht, hvt, hplace⟩ := htold x (List.mem_reverse.1 hx) v hv
      have hmn : m = n := hbears m t ht (hvt.symm.trans hid)
      rw [hplace hmn]
      unfold position?
      rw [← hmn, ht, Option.map_some]
  · exact Option.mem_toList.1 htime

include hrefl in
theorem InPlace.recounts (h : sv.InPlace n sv') (hbears : sv'.Bears n id) : Recounts ρ c n id sv sv' := by
  obtain ⟨told, hlog, htold⟩ := h.told
  refine ⟨told, hlog, ?_, fun hgone => ?_⟩
  · refine List.pairwise_of_forall_mem_list fun x hx y hy => ?_
    have hxy : some x = some y :=
      (h.mem_sightings hbears htold hx).symm.trans (h.mem_sightings hbears htold hy)
    rw [Option.some.inj hxy]
    exact hrefl y
  · refine List.eq_nil_iff_forall_not_mem.2 fun x hx => ?_
    have hsome := h.mem_sightings hbears htold hx
    rw [hgone] at hsome
    cases hsome

/-- While time passes nothing is told. -/
theorem recounts_elapse {ms : Nat}
    (hrises : ∀ s : Session, sv.sessions[n]? = some s → ρ s.time (s.settle (sv.now + ms)).time) :
    Recounts ρ c n id sv (sv.elapse ms) := by
  have hposition : (sv.elapse ms).position? n =
      sv.sessions[n]?.map fun s => (s.settle (sv.now + ms)).time := by
    unfold position?
    rw [getElem?_elapse, Option.map_map]
    rfl
  refine ⟨[], rfl, ?_⟩
  unfold sightings
  rw [hposition]
  unfold position?
  cases hs : sv.sessions[n]? with
  | none => exact ⟨.nil, fun _ => rfl⟩
  | some s =>
    refine ⟨List.pairwise_pair.2 (hrises s hs), fun hgone => ?_⟩
    cases hgone

include hrefl in
theorem recounts_take (hquiet : sv.Quiescent) {i : Input} (hbears : (sv.take i).Bears n id)
    (hunmoved : ∀ time, ¬ sv.MovesTo n time (.input i))
    (hrises : ∀ (s : Session) now, sv.sessions[n]? = some s → ρ s.time (s.settle now).time) :
    Recounts ρ c n id sv (sv.take i) := by
  rcases sv.perform_cases (.input i) with ⟨ms, -, heq⟩ | ⟨hnone, -⟩
  · change sv.take i = sv.elapse ms at heq
    rw [heq]
    exact recounts_elapse fun s hs => hrises s _ hs
  · exact (inPlace_take hquiet hnone hunmoved).recounts hrefl hbears

include hrefl htrans in
/-- What is seen of a session while no input sets its position is in any order that its position keeps to
when its clock settles. -/
theorem recounts_takeAll (hquiet : sv.Quiescent) {inputs : List Input}
    (hbears : (sv.takeAll inputs).Bears n id) (hunmoved : sv.Unmoved n (inputs.map .input))
    (hrises : ∀ earlier, earlier <+: inputs.map .input → ∀ (s : Session) now,
      (sv.performAll earlier).sessions[n]? = some s → ρ s.time (s.settle now).time) :
    Recounts ρ c n id sv (sv.takeAll inputs) := by
  induction inputs generalizing sv with
  | nil => exact (InPlace.refl sv).recounts hrefl hbears
  | cons i rest ih =>
    have hend : ((sv.take i).takeAll rest).Bears n id := hbears
    have hfirst : Recounts ρ c n id sv (sv.take i) :=
      recounts_take hrefl hquiet hend.earlier hunmoved.head (hrises [] List.nil_prefix)
    have hlater : Recounts ρ c n id (sv.take i) ((sv.take i).takeAll rest) :=
      ih (hquiet.take i) hend hunmoved.tail fun earlier hearlier =>
        hrises (.input i :: earlier) (List.cons_prefix_cons.2 ⟨rfl, hearlier⟩)
    exact hfirst.trans htrans hlater

end Order

/-! ## Every run -/

/-- Whatever has been done to a server before, take any stretch in which nothing sets the position of the
session of a number. What is read of its position in the end is what was read at first and a period for
each tick of its clock that found it playing, up to the last position that there is. So it is never less,
and it is the same if the session is paused all along. Over a stretch of inputs, each connection is shown
positions of it that lie between the two, in that order. And once its position is set, the session is
there until the next such tick, whether it plays or not, and it goes on playing if it did. -/
theorem position_never_falls (settings : Settings) (n : Nat) :
    (∀ earlier stretch : List Operation,
      let sv := (start settings).performAll earlier
      let sv' := sv.performAll stretch
      sv.Unmoved n stretch → ∀ x y, sv.Reads n x → sv'.Reads n y →
        x ≤ y ∧ (sv.PausedThroughout n stretch → x = y) ∧
          y.toNat = min Session.lastPosition
            (x.toNat + sv.total (playedTicks n) stretch * max settings.tickMs.toNat 1)) ∧
    (∀ (earlier stretch : List Input) (c : ConnectionId) (s : Session),
      let sv := (start settings).takeAll earlier
      let sv' := sv.takeAll stretch
      sv.Unmoved n (stretch.map .input) → sv'.sessions[n]? = some s →
        ∃ told, sv'.network.log = told ++ sv.network.log ∧
          (sightings c n s.id sv sv' told).Pairwise (· ≤ ·) ∧
          (sv.PausedThroughout n (stretch.map .input) →
            (sightings c n s.id sv sv' told).Pairwise (· = ·))) ∧
    (∀ (earlier : List Operation) (o : Operation) (time : UInt64) (s : Session),
      let sv := (start settings).performAll earlier
      let sv' := sv.perform o
      sv.MovesTo n time o → sv.sessions[n]? = some s →
        (∃ t : Session, sv'.sessions[n]? = some t ∧ t.paused = s.paused) ∧
          ∀ later, sv'.Unmoved n later → sv'.total (playedTicks n) later = 0 →
            ∀ x, (sv'.performAll later).Reads n x → x = time) := by
  refine ⟨?_, ?_, ?_⟩
  · intro earlier stretch sv sv' hunmoved x y hx hy
    have hgrounded : sv.Grounded := (grounded_start settings).performAll earlier
    obtain ⟨s, hs, hy⟩ := hgrounded.reads_performAll hunmoved hx hy
    rw [period_performAll settings earlier hs] at hy
    have hlast : x.toNat ≤ Session.lastPosition := by
      obtain ⟨t, -, rfl⟩ := hgrounded.reads hx
      exact t.time_le_lastPosition
    refine ⟨?_, fun hpaused => ?_, hy⟩
    · rw [UInt64.le_iff_toNat_le]
      omega
    · rw [hpaused.total_eq_zero, Nat.zero_mul, Nat.add_zero, Nat.min_eq_right hlast] at hy
      exact UInt64.toNat_inj.1 hy.symm
  · intro earlier stretch c s sv sv' hunmoved hs
    have hquiet : sv.Quiescent := (quiescent_start settings).takeAll earlier
    have hbears : sv'.Bears n s.id := (hquiet.takeAll stretch).sound.bears hs
    -- one order for both: what is later is never less, and the same in a stretch that is paused
    have hrecounts : Recounts (fun x y => x ≤ y ∧ (sv.PausedThroughout n (stretch.map .input) → x = y))
        c n s.id sv sv' := by
      refine recounts_takeAll (fun x => ⟨UInt64.le_refl x, fun _ => rfl⟩) (fun x y z hxy hyz => ?_) hquiet
        hbears hunmoved fun before hbefore t now ht => ⟨t.time_le_settle now, fun hpaused => ?_⟩
      · exact ⟨UInt64.le_trans hxy.1 hyz.1, fun hpaused => (hxy.2 hpaused).trans (hyz.2 hpaused)⟩
      · have hfrozen := hpaused before hbefore t ht
        exact (Session.time_settle_of_frozen (by simp [hfrozen]) now).symm
    obtain ⟨told, hlog, hordered, -⟩ := hrecounts
    exact ⟨told, hlog, hordered.imp fun h => h.1, fun hpaused => hordered.imp fun h => h.2 hpaused⟩
  · intro earlier o time s sv sv' hmoves hs
    have hgrounded : sv'.Grounded := ((grounded_start settings).performAll earlier).perform o
    obtain ⟨t, ht, rfl, hpaused⟩ := hmoves.perform hs
    refine ⟨⟨t, ht, hpaused⟩, fun later hlater hticks x hx => ?_⟩
    obtain ⟨u, -, hu⟩ := hgrounded.reads_performAll hlater (.time ht) hx
    rw [hticks, Nat.zero_mul, Nat.add_zero, Nat.min_eq_right t.time_le_lastPosition] at hu
    exact UInt64.toNat_inj.1 hu

/-- It is enough that none of the operations could set the position. -/
theorem unmoved_of_forall {stretch : List Operation}
    (h : ∀ o ∈ stretch, ∀ sv time, ¬ MovesTo sv n time o) : sv.Unmoved n stretch :=
  fun _ o ho => h o (ho.subset (List.mem_append_right _ (List.mem_singleton_self o))) _

/-- A period of three milliseconds, two of which end in seven. A session that is set to another position
while it plays is there for another millisecond. -/
theorem position_of_watched_session :
    let alice : ConnectionId := ⟨"alice"⟩
    let bob : ConnectionId := ⟨"bob"⟩
    let named : Json := .object [("session_id", .string (SessionId.generated 1).text)]
    let before : List Input := [.dispatch alice "flixy new" (.object [("video_id", .natural 1)]),
      .around .settle, .dispatch alice "flixy play" named, .around .settle]
    let stretch : List Input := [.around (.elapse 7), .dispatch bob "flixy join" named]
    let sv := (start { tickMs := 3 }).takeAll before
    let sv' := sv.takeAll stretch
    let moved := sv'.perform (.onSession 0 (.setTime 100))
    let later := moved.perform (.input (.around (.elapse 1)))
    sv.Unmoved 0 (stretch.map .input) ∧ sv.Reads 0 0 ∧ sv'.Reads 0 6 ∧
      sv.total (playedTicks 0) (stretch.map .input) = 2 ∧ (0 : UInt64) ≤ 6 ∧
      (∃ told, sv'.network.log = told ++ sv.network.log ∧
        (sightings bob 0 (.generated 1) sv sv' told).Pairwise (· ≤ ·)) ∧
      (∃ t : Session, moved.sessions[0]? = some t ∧ t.paused = false) ∧ later.Reads 0 100 := by
  intro alice bob named before stretch sv sv' moved later
  have hjoin : Request.decode "flixy join" named = .ok (.join (.generated 1) "") := rfl
  have hunmoved : sv.Unmoved 0 (stretch.map .input) := by
    refine unmoved_of_forall fun o ho sv time hmoves => ?_
    rcases List.mem_cons.1 ho with rfl | ho
    · exact hmoves
    · rw [List.mem_singleton.1 ho] at hmoves
      obtain ⟨id, hdecode, -⟩ := hmoves
      rw [hjoin] at hdecode
      cases hdecode
  have hpassed : moved.Unmoved 0 [.input (.around (.elapse 1))] := by
    refine unmoved_of_forall fun o ho sv time hmoves => ?_
    rw [List.mem_singleton.1 ho] at hmoves
    exact hmoves
  have hbefore : sv.position? 0 = some 0 := by decide
  have hafter : sv'.sessions[0]?.map (fun s => (s.id, s.paused, s.time)) =
      some (.generated 1, false, 6) := by decide
  have hlater : later.position? 0 = some 100 := by decide
  have hplayed : sv.total (playedTicks 0) (stretch.map .input) = 2 := by decide
  have hticks : moved.total (playedTicks 0) [.input (.around (.elapse 1))] = 0 := by decide
  obtain ⟨s, hs, hstime⟩ := Option.map_eq_some_iff.1 hbefore
  obtain ⟨t, ht, hseen⟩ := Option.map_eq_some_iff.1 hafter
  obtain ⟨u, hu, -⟩ := Option.map_eq_some_iff.1 hlater
  obtain ⟨hid, hpaused, htime⟩ : t.id = .generated 1 ∧ t.paused = false ∧ t.time = 6 := by
    simpa using hseen
  have hfirst : sv.Reads 0 0 := hstime ▸ .time hs
  have hlast : sv'.Reads 0 6 := htime ▸ .time ht
  obtain ⟨hread, hshown, hset⟩ := position_never_falls { tickMs := 3 } 0
  obtain ⟨hle, -, -⟩ := hread (before.map .input) (stretch.map .input) hunmoved 0 6 hfirst hlast
  obtain ⟨told, hlog, hordered, -⟩ := hshown before stretch bob t hunmoved ht
  have hrun : (start { tickMs := 3 }).performAll ((before ++ stretch).map .input) = sv' := by
    rw [← takeAll_eq_performAll, takeAll_append]
  have hset' := hset ((before ++ stretch).map .input) (.onSession 0 (.setTime 100)) 100 t
  rw [hrun] at hset'
  obtain ⟨⟨v, hv, hplays⟩, hstays⟩ := hset' ⟨rfl, rfl⟩ ht
  have hend : later.Reads 0 u.time := .time hu
  rw [hstays _ hpassed hticks u.time hend] at hend
  rw [hid] at hordered
  exact ⟨hunmoved, hfirst, hlast, hplayed, hle, ⟨told, hlog, hordered⟩, ⟨v, hv, hplays.trans hpaused⟩,
    hend⟩

end Server

end WatchParty
