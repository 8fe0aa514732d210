/-
What becomes of a session whose id another one is registered under. It is shut down as if it had been
destroyed, but what is unbound are its members and not those who are bound to its id.
`Supersedes.boundAsMembers` and `Grounded.supersedes` say when this makes no difference; while a server
takes inputs only, it never does.

The session that is registered may be the one that was registered before. It displaces itself then and is
shut down (`session_insert_self`); otherwise it stays as it was (`installs_of_ne`).
-/
import WatchParty.Proofs.Quiescence
import WatchParty.Proofs.Rejection
import WatchParty.Proofs.Server.Evolution

namespace WatchParty

namespace Session

theorem shutdown_shutdown (s : Session) : s.shutdown.shutdown = s.shutdown := rfl

theorem ne_shutdown_of_open {s : Session} (hopen : s.closed = false) : s ≠ s.shutdown := by
  intro h
  rw [h] at hopen
  cases hopen

end Session

namespace Server

/-- The server once a session is registered in the place of another one of its id, which is shut down,
and only those bindings are left that are to be kept. -/
def supplant (sv : Server) (r d : SessionRef) (kept : ConnectionId → SessionId → Bool) : Server :=
  { sv with
    registered := sv.registered.insert r.id r.number
    bindings := sv.bindings.filter kept
    sessions := sv.sessions.set d.number (sv.session d).shutdown }

/-- Of all who are bound, the members of the session are the ones bound to its id. -/
def BoundAsMembers (sv : Server) (d : SessionRef) : Prop :=
  ∀ c id, sv.boundSession? c = some id → (c ∈ (sv.session d).members ↔ id = d.id)

/-- To register a session displaces the one registered under its id as if that had been destroyed before:
it is shut down, nobody stays bound to the id, and whoever is bound to another one remains so. -/
structure Supersedes (sv : Server) (r d : SessionRef) : Prop where
  agrees : sv.insert r = (sv.destroy r.id).2.insert r
  registered : (sv.insert r).registeredRef? r.id = some r
  shutDown : (sv.insert r).session d = (sv.session d).shutdown
  unbound : ∀ c, (sv.insert r).boundSession? c ≠ some r.id
  others : ∀ c id, id ≠ r.id → ((sv.insert r).boundSession? c = some id ↔ sv.boundSession? c = some id)

/-- A session that is registered is found under its id as it was, and the only session that this may change
is another one that was registered there. -/
structure Installs (sv : Server) (r : SessionRef) : Prop where
  registered : (sv.insert r).registeredRef? r.id = some r
  unchanged : (sv.insert r).session r = sv.session r
  others : ∀ n, (sv.insert r).sessions[n]? ≠ sv.sessions[n]? →
    n ≠ r.number ∧ sv.registered[r.id]? = some n

variable {sv : Server} {r d : SessionRef}

/-! ## One session in the place of another -/

theorem boundSession?_supplant (kept : ConnectionId → SessionId → Bool) (c : ConnectionId) :
    (sv.supplant r d kept).boundSession? c = (sv.boundSession? c).filter (kept c) :=
  Std.ExtTreeMap.getElem?_filter'

/-- It matters only which of the bindings that there are will be kept. -/
theorem supplant_congr {kept kept' : ConnectionId → SessionId → Bool}
    (h : ∀ c id, sv.boundSession? c = some id → kept c id = kept' c id) :
    sv.supplant r d kept = sv.supplant r d kept' := by
  have hbindings : sv.bindings.filter kept = sv.bindings.filter kept' := by
    refine Std.ExtTreeMap.ext_getElem? fun c => Option.ext fun id => ?_
    rw [Std.ExtTreeMap.getElem?_filter', Std.ExtTreeMap.getElem?_filter']
    rw [Option.filter_eq_some_iff, Option.filter_eq_some_iff]
    exact and_congr_right fun hc => by rw [h c id hc]
  unfold supplant
  rw [hbindings]

theorem session_supplant (hd : sv.Has d) (kept : ConnectionId → SessionId → Bool) :
    (sv.supplant r d kept).session d = (sv.session d).shutdown := by
  obtain ⟨s, hs, -⟩ := hd
  refine session_eq ?_
  unfold supplant
  exact (getElem?_set_of_some hs _ _).trans (if_pos rfl)

/-! ## Registering a session -/

theorem insert_of_none (hd : sv.registeredRef? r.id = none) :
    sv.insert r = { sv with registered := sv.registered.insert r.id r.number } := by
  unfold insert
  rw [hd]

/-- A session that is displaced takes along the bindings of its members. -/
theorem insert_of_some (hd : sv.registeredRef? r.id = some d) :
    sv.insert r = sv.supplant r d fun c _ => !(sv.session d).members.contains c := by
  unfold insert
  rw [hd]
  rfl

/-- A session that is destroyed first takes along the bindings to its id. -/
theorem destroy_insert_of_some (hd : sv.registeredRef? r.id = some d) :
    (sv.destroy r.id).2.insert r = sv.supplant r d fun _ bound => bound != r.id := by
  have hgone : (sv.destroy r.id).2.registeredRef? r.id = none := by
    unfold destroy
    rw [hd]
    show (sv.registered.erase r.id)[r.id]?.map _ = none
    rw [Std.ExtTreeMap.getElem?_erase_self]
    rfl
  have hback : (sv.registered.erase r.id).insert r.id r.number = sv.registered.insert r.id r.number := by
    refine Std.ExtTreeMap.ext_getElem? fun id => ?_
    rw [Std.ExtTreeMap.getElem?_insert, Std.ExtTreeMap.getElem?_insert, Std.ExtTreeMap.getElem?_erase]
    split
    · rfl
    · rfl
  rw [insert_of_none hgone]
  unfold destroy
  rw [hd]
  unfold supplant
  rw [← hback]
  rfl

theorem registeredRef?_insert (sv : Server) (r : SessionRef) :
    (sv.insert r).registeredRef? r.id = some r := by
  rw [registeredRef?_eq_some, registered_insert, Std.ExtTreeMap.getElem?_insert_self]
  exact ⟨rfl, rfl⟩

theorem getElem?_insert_of_ne {n : Nat} (hn : sv.registered[r.id]? ≠ some n) :
    (sv.insert r).sessions[n]? = sv.sessions[n]? := by
  cases hd : sv.registeredRef? r.id with
  | none => rw [insert_of_none hd]
  | some d =>
    rw [insert_of_some hd]
    refine List.getElem?_set_ne ?_
    rintro rfl
    exact hn (registeredRef?_eq_some.1 hd).1

/-! ## Displacing a session -/

theorem Supersedes.boundAsMembers (h : sv.Supersedes r d) (hd : sv.registeredRef? r.id = some d) :
    sv.BoundAsMembers d := by
  intro c id hc
  have hkept : (sv.insert r).boundSession? c = some id ↔ c ∉ (sv.session d).members := by
    rw [insert_of_some hd, boundSession?_supplant, Option.filter_eq_some_iff,
      ← Std.ExtTreeMap.contains_iff_mem, Bool.not_eq_true, Bool.not_eq_true']
    exact and_iff_right hc
  rw [id_of_registeredRef hd]
  constructor
  · intro hmember
    refine Classical.byContradiction fun hne => ?_
    exact hkept.1 ((h.others c id hne).2 hc) hmember
  · rintro rfl
    exact Classical.byContradiction fun hmember => h.unbound c (hkept.2 hmember)

theorem Grounded.supersedes (hg : sv.Grounded) (hd : sv.registeredRef? r.id = some d)
    (hbound : sv.BoundAsMembers d) : sv.Supersedes r d := by
  have hagrees : sv.insert r = (sv.destroy r.id).2.insert r := by
    rw [insert_of_some hd, destroy_insert_of_some hd]
    refine supplant_congr fun c id hc => ?_
    have hsame : (sv.session d).members.contains c = (id == r.id) := by
      rw [Bool.eq_iff_iff, Std.ExtTreeMap.contains_iff_mem, beq_iff_eq, hbound c id hc,
        id_of_registeredRef hd]
    exact congrArg (!·) hsame
  -- so what is left are the bindings to other ids
  have hleft : ∀ c id, (sv.insert r).boundSession? c = some id ↔
      sv.boundSession? c = some id ∧ id ≠ r.id := by
    intro c id
    rw [hagrees, destroy_insert_of_some hd, boundSession?_supplant, Option.filter_eq_some_iff, bne_iff_ne]
  refine ⟨hagrees, sv.registeredRef?_insert r, ?_, fun c hc => ?_, fun c id hne => ?_⟩
  · rw [insert_of_some hd, session_supplant (hg.has_of_registeredRef hd)]
  · exact ((hleft c r.id).1 hc).2 rfl
  · rw [hleft]
    exact and_iff_left hne

/-- Whatever was done to the server before: to register a session displaces the one registered under its id
as if that had been destroyed before, exactly if its members are the ones who are bound to the id, among all
who are bound to any. In any case the bindings are all that may differ: the members lose theirs, whatever
they are bound to, and nobody else does. -/
theorem displaces_as_destroyed_iff (settings : Settings) (operations : List Operation) (r d : SessionRef)
    (hd : ((start settings).performAll operations).registeredRef? r.id = some d) :
    let sv := (start settings).performAll operations
    (sv.Supersedes r d ↔ sv.BoundAsMembers d) ∧
    sv.insert r = { (sv.destroy r.id).2.insert r with
      bindings := sv.bindings.filter fun c _ => !(sv.session d).members.contains c } := by
  intro sv
  have hg : sv.Grounded := (grounded_start settings).performAll operations
  refine ⟨⟨fun h => h.boundAsMembers hd, hg.supersedes hd⟩, ?_⟩
  rw [insert_of_some hd, destroy_insert_of_some hd]
  rfl

/-- Alice is bound to the session that she is a member of, and so it may be displaced. -/
theorem session_of_alice_superseded :
    let alice : ConnectionId := ⟨"alice"⟩
    let id : SessionId := ⟨"x-1"⟩
    let sv := (start {}).performAll [.newSession id 1 0, .onSession 0 .insert,
      .onSession 0 (.addMember alice "Alice"), .bind alice id, .newSession id 2 0]
    sv.registeredRef? id = some ⟨0, id⟩ ∧ sv.Supersedes ⟨1, id⟩ ⟨0, id⟩ := by
  intro alice id sv
  have hd : sv.registeredRef? id = some ⟨0, id⟩ := by decide
  have hmember : alice ∈ (sv.session ⟨0, id⟩).members := by decide
  refine ⟨hd, (displaces_as_destroyed_iff {} _ ⟨1, id⟩ ⟨0, id⟩ hd).1.2 fun c bound hc => ?_⟩
  have hbindings : sv.boundSession? c = if compare alice c = .eq then some id else none :=
    Std.ExtTreeMap.getElem?_insert
  rw [hbindings] at hc
  split at hc
  · rename_i hself
    cases Std.LawfulEqCmp.compare_eq_iff_eq.1 hself
    cases hc
    exact iff_of_true hmember rfl
  · cases hc

/-- Bob is bound to a session that he is not a member of, and Carol is a member of it but bound to another.
When it is displaced, Bob stays bound to its id, and Carol is bound to nothing any more. -/
theorem session_of_carol_not_superseded :
    let bob : ConnectionId := ⟨"bob"⟩
    let carol : ConnectionId := ⟨"carol"⟩
    let id : SessionId := ⟨"x-1"⟩
    let other : SessionId := ⟨"y-1"⟩
    let sv := (start {}).performAll [.newSession id 1 0, .onSession 0 .insert,
      .onSession 0 (.addMember carol "Carol"), .bind carol other, .bind bob id, .newSession id 2 0]
    sv.registeredRef? id = some ⟨0, id⟩ ∧ sv.Has ⟨1, id⟩ ∧
      (sv.insert ⟨1, id⟩).boundSession? bob = some id ∧
      sv.boundSession? carol = some other ∧ (sv.insert ⟨1, id⟩).boundSession? carol = none ∧
      ¬ sv.Supersedes ⟨1, id⟩ ⟨0, id⟩ := by
  intro bob carol id other sv
  have hd : sv.registeredRef? id = some ⟨0, id⟩ := by decide
  have hleft : ∀ c, (sv.insert ⟨1, id⟩).boundSession? c =
      (sv.boundSession? c).filter fun _ => !(sv.session ⟨0, id⟩).members.contains c := by
    intro c
    rw [insert_of_some (r := ⟨1, id⟩) hd, boundSession?_supplant]
  have hbob : (sv.insert ⟨1, id⟩).boundSession? bob = some id := by
    rw [hleft]
    decide
  have hcarol : (sv.insert ⟨1, id⟩).boundSession? carol = none := by
    rw [hleft]
    decide
  exact ⟨hd, ⟨_, rfl, rfl⟩, hbob, by decide, hcarol, fun hsupersedes => hsupersedes.unbound bob hbob⟩

/-- While a server takes inputs only, a session that is displaced might as well be destroyed before. -/
theorem takeAll_supersedes (settings : Settings) (inputs : List Input) {r d : SessionRef}
    (hd : ((start settings).takeAll inputs).registeredRef? r.id = some d) :
    ((start settings).takeAll inputs).Supersedes r d := by
  have hquiescent := (quiescent_start settings).takeAll inputs
  have hbound := hquiescent.consistent.bound
  refine hquiescent.sound.grounded.supersedes hd fun c id hc => ?_
  rw [id_of_registeredRef hd]
  constructor
  · intro hmember
    have hself := (hbound c r.id).2 ⟨d, hd, hmember⟩
    exact Option.some.inj (hc.symm.trans hself)
  · rintro rfl
    obtain ⟨d', hd', hmember⟩ := (hbound c r.id).1 hc
    cases hd.symm.trans hd'
    exact hmember

/-! ## Registering an open session -/

theorem session_insert_of_ne (hne : sv.registeredRef? r.id ≠ some r) :
    (sv.insert r).session r = sv.session r := by
  have hn : sv.registered[r.id]? ≠ some r.number := fun hn => hne (registeredRef?_eq_some.2 ⟨hn, rfl⟩)
  unfold session
  rw [getElem?_insert_of_ne hn]

/-- A session that is registered already displaces itself. -/
theorem session_insert_self (hr : sv.Has r) (hself : sv.registeredRef? r.id = some r) :
    (sv.insert r).session r = (sv.session r).shutdown := by
  rw [insert_of_some hself, session_supplant hr]

theorem installs_of_ne (hne : sv.registeredRef? r.id ≠ some r) : sv.Installs r where
  registered := sv.registeredRef?_insert r
  unchanged := session_insert_of_ne hne
  others n hn := by
    have hregistered : sv.registered[r.id]? = some n :=
      Classical.byContradiction fun h => hn (getElem?_insert_of_ne h)
    refine ⟨?_, hregistered⟩
    rintro rfl
    exact hne (registeredRef?_eq_some.2 ⟨hregistered, rfl⟩)

theorem supplant_self_self (kept : ConnectionId → SessionId → Bool) (hr : sv.Has r) :
    (sv.supplant r r kept).supplant r r kept = sv.supplant r r kept := by
  have hregistered : (sv.registered.insert r.id r.number).insert r.id r.number =
      sv.registered.insert r.id r.number := by
    refine Std.ExtTreeMap.ext_getElem? fun id => ?_
    rw [Std.ExtTreeMap.getElem?_insert, Std.ExtTreeMap.getElem?_insert]
    split
    · rfl
    · rfl
  have hbindings : (sv.bindings.filter kept).filter kept = sv.bindings.filter kept := by
    refine Std.ExtTreeMap.ext_getElem? fun c => ?_
    rw [Std.ExtTreeMap.getElem?_filter', Std.ExtTreeMap.getElem?_filter', Option.filter_filter]
    simp only [Bool.and_self]
  have hsession := session_supplant (r := r) hr kept
  unfold supplant at hsession ⊢
  rw [hsession, Session.shutdown_shutdown, hregistered, hbindings, List.set_set]

/-- To register an open session once more than once comes to the same only if it was registered before. -/
theorem insert_insert_iff (hr : sv.Has r) (hopen : (sv.session r).closed = false) :
    (sv.insert r).insert r = sv.insert r ↔ sv.registeredRef? r.id = some r := by
  have hagain := sv.registeredRef?_insert r
  constructor
  · intro hsame
    refine Classical.byContradiction fun hne => ?_
    -- the session is open after the first time, and the second time it displaces itself
    have hshut := session_insert_self ((still_insert sv r).has hr) hagain
    rw [hsame, session_insert_of_ne hne] at hshut
    exact Session.ne_shutdown_of_open hopen hshut
  · intro hself
    rw [insert_of_some hagain, session_insert_self hr hself, insert_of_some hself]
    exact supplant_self_self _ hr

/-- Whatever the state of the server: to register an open session does nothing to it, unless it is registered
under its id already; then it is shut down. To register it twice is the same as once in this case only. -/
theorem insert_installs_iff (sv : Server) (r : SessionRef) (hr : sv.Has r)
    (hopen : (sv.session r).closed = false) :
    (sv.Installs r ↔ sv.registeredRef? r.id ≠ some r) ∧
    (sv.registeredRef? r.id = some r → (sv.insert r).session r = (sv.session r).shutdown) ∧
    ((sv.insert r).insert r = sv.insert r ↔ sv.registeredRef? r.id = some r) := by
  refine ⟨⟨fun hinstalls hself => ?_, installs_of_ne⟩, session_insert_self hr, insert_insert_iff hr hopen⟩
  have hshut := session_insert_self hr hself
  rw [hinstalls.unchanged] at hshut
  exact Session.ne_shutdown_of_open hopen hshut

/-- A session that has just been made stays as it is when it is registered, but not when this is done again. -/
theorem made_session_installed :
    let r : SessionRef := ⟨0, ⟨"x-1"⟩⟩
    let sv := (start {}).performAll [.newSession r.id 1 0]
    sv.Has r ∧ (sv.session r).closed = false ∧ sv.Installs r ∧ (sv.insert r).insert r ≠ sv.insert r := by
  intro r sv
  have hr : sv.Has r := ⟨_, rfl, rfl⟩
  have hopen : (sv.session r).closed = false := by decide
  have hne : sv.registeredRef? r.id ≠ some r := by decide
  obtain ⟨hinstalls, -, hagain⟩ := insert_installs_iff sv r hr hopen
  exact ⟨hr, hopen, hinstalls.2 hne, mt hagain.1 hne⟩

/-- A session is registered from the start and plays. When it is registered again, it is shut down. -/
theorem registered_session_displaces_itself :
    let r : SessionRef := ⟨0, .generated 1⟩
    let sv := (start {}).performAll [.create 1 0, .onSession 0 .play]
    sv.Has r ∧ (sv.session r).closed = false ∧ (sv.session r).paused = false ∧
      ((sv.insert r).session r).closed = true ∧ ((sv.insert r).session r).paused = true ∧
      ¬ sv.Installs r := by
  intro r sv
  have hopen : (sv.session r).closed = false := by decide
  have hclosed : ((sv.insert r).session r).closed = true := by decide
  refine ⟨⟨_, rfl, rfl⟩, hopen, by decide, hclosed, by decide, fun hinstalls => ?_⟩
  rw [hinstalls.unchanged, hopen] at hclosed
  cases hclosed

end Server

end WatchParty
