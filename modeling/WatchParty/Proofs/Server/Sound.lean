/-
What holds of a server between any two calls of its handlers. `Server.Sound` says that every session
the server ever made is orderly and named by its place, that the registered ones are exactly the open
ones, and that whoever is bound to a session is a member of it. The converse, that a member is bound,
holds of a connection only while it has no handler in progress: `Server.Settled`.

A call leaves the bindings and the memberships of all connections but its own alone, which is
`Server.Undisturbed`.
-/
import WatchParty.Handler
import WatchParty.Proofs.Ids
import WatchParty.Proofs.Session

namespace WatchParty.Server

/-! ## Definitions -/

/-- The reference is to a session of the server. -/
def Has (sv : Server) (r : SessionRef) : Prop :=
  ∃ s : Session, sv.sessions[r.number]? = some s ∧ s.id = r.id

/-- The connection is a member of a session of that number, and this is the member. -/
def seat? (sv : Server) (number : Nat) (c : ConnectionId) : Option Member :=
  sv.sessions[number]?.bind (·.members[c]?)

/-- The registry, the bindings and the sessions agree, as far as no handler in progress disturbs it. -/
structure Sound (sv : Server) : Prop where
  orderly : ∀ (n : Nat) (s : Session), sv.sessions[n]? = some s → s.Orderly
  named : ∀ (n : Nat) (s : Session), sv.sessions[n]? = some s → s.id = .generated (n + 1)
  issued : sv.issued = sv.sessions.length
  registered : ∀ (id : SessionId) (n : Nat), sv.registered[id]? = some n ↔
    ∃ s : Session, sv.sessions[n]? = some s ∧ s.id = id ∧ s.closed = false
  bound : ∀ (c : ConnectionId) (id : SessionId), sv.bindings[c]? = some id →
    ∃ (n : Nat) (s : Session), sv.sessions[n]? = some s ∧ s.id = id ∧ c ∈ s.members

/-- The connection is bound to every session it is a member of. -/
def Settled (c : ConnectionId) (sv : Server) : Prop :=
  ∀ (n : Nat) (s : Session), sv.sessions[n]? = some s → c ∈ s.members → sv.bindings[c]? = some s.id

/-- A session with this id is open, and nobody is in it. -/
def Forsaken (sv : Server) (id : SessionId) : Prop :=
  ∃ (n : Nat) (s : Session), sv.sessions[n]? = some s ∧ s.id = id ∧ s.closed = false ∧ s.members = ∅

/-- Nothing changed that concerns the connection: sessions stay, and so do its binding and its
memberships. -/
structure Undisturbed (c : ConnectionId) (sv sv' : Server) : Prop where
  has : ∀ r, sv.Has r → sv'.Has r
  binding : sv'.bindings[c]? = sv.bindings[c]?
  seat : ∀ n, sv'.seat? n c = sv.seat? n c

/-- Sessions keep their members, and registrations and bindings stay. -/
structure SameRoster (sv sv' : Server) : Prop where
  registered : sv'.registered = sv.registered
  bindings : sv'.bindings = sv.bindings
  issued : sv'.issued = sv.issued
  length : sv'.sessions.length = sv.sessions.length
  sessions : ∀ (n : Nat) (s : Session), sv.sessions[n]? = some s → ∃ t, sv'.sessions[n]? = some t ∧ s.SameRoster t

/-! ## Sessions by number -/

theorem session_eq {sv : Server} {r : SessionRef} {s : Session}
    (h : sv.sessions[r.number]? = some s) : sv.session r = s := by
  simp [session, h]

theorem getElem?_set_of_some {l : List Session} {n : Nat} {s : Session} (h : l[n]? = some s)
    (t : Session) (m : Nat) : (l.set n t)[m]? = if n = m then some t else l[m]? := by
  have hn : n < l.length := (List.getElem?_eq_some_iff.1 h).1
  rw [List.getElem?_set]
  simp [hn]

theorem getElem?_concat_eq_some {l : List Session} {s t : Session} {n : Nat} :
    (l ++ [s])[n]? = some t ↔ l[n]? = some t ∨ n = l.length ∧ s = t := by
  rcases Nat.lt_trichotomy n l.length with h | h | h
  · rw [List.getElem?_append_left h]
    exact ⟨.inl, fun k => k.elim (fun k => k) fun k => absurd k.1 (by omega)⟩
  · subst h
    simp
  · rw [List.getElem?_eq_none (by simp; omega), List.getElem?_eq_none (by omega)]
    simp; omega

theorem set_of_some {l : List Session} {n : Nat} {s : Session} (h : l[n]? = some s) :
    l.set n s = l := by
  obtain ⟨hn, rfl⟩ := List.getElem?_eq_some_iff.1 h
  exact List.set_getElem_self hn

theorem onSession_eq {α : Type} {sv : Server} {r : SessionRef} {s : Session}
    (h : sv.sessions[r.number]? = some s) (f : Session → Network → α × Session × Network) :
    sv.onSession r f = ((f s sv.network).1,
      { sv with
        sessions := sv.sessions.set r.number (f s sv.network).2.1
        network := (f s sv.network).2.2 }) := by
  unfold onSession
  rw [session_eq h]

theorem getElem?_onSession {α : Type} {sv : Server} {n : Nat} {s : Session} {id : SessionId}
    (hs : sv.sessions[n]? = some s) (f : Session → Network → α × Session × Network) :
    (sv.onSession ⟨n, id⟩ f).2.sessions[n]? = some (f s sv.network).2.1 := by
  rw [onSession_eq (r := ⟨n, id⟩) hs]
  exact (getElem?_set_of_some hs _ n).trans (if_pos rfl)

theorem registeredRef?_eq_some {sv : Server} {id : SessionId} {r : SessionRef} :
    sv.registeredRef? id = some r ↔ sv.registered[id]? = some r.number ∧ r.id = id := by
  unfold registeredRef?
  rw [Option.map_eq_some_iff]
  constructor
  · rintro ⟨n, hn, rfl⟩
    exact ⟨hn, rfl⟩
  · rintro ⟨hn, rfl⟩
    exact ⟨r.number, hn, rfl⟩

theorem id_of_registeredRef {sv : Server} {id : SessionId} {r : SessionRef}
    (hr : sv.registeredRef? id = some r) : r.id = id :=
  (registeredRef?_eq_some.1 hr).2

/-- A snapshot shows what is registered. -/
theorem mem_snapshot {sv : Server} {entry : SessionId × SessionView} (h : entry ∈ sv.snapshot) :
    ∃ r, sv.registeredRef? entry.1 = some r ∧ entry.2 = (sv.session r).view := by
  unfold snapshot at h
  obtain ⟨⟨id, n⟩, hmem, rfl⟩ := List.mem_map.1 h
  have hn := Std.ExtTreeMap.mem_toList_iff_getElem?_eq_some.1 hmem
  exact ⟨⟨n, id⟩, registeredRef?_eq_some.2 ⟨hn, rfl⟩, rfl⟩

theorem seat?_eq_some {sv : Server} {n : Nat} {c : ConnectionId} {m : Member} :
    sv.seat? n c = some m ↔ ∃ s : Session, sv.sessions[n]? = some s ∧ s.members[c]? = some m := by
  unfold seat?
  exact Option.bind_eq_some_iff

/-- Ids tell the sessions of a sound server apart. -/
theorem Sound.number_unique {sv : Server} (h : sv.Sound) {m n : Nat} {s t : Session}
    (hs : sv.sessions[m]? = some s) (ht : sv.sessions[n]? = some t) (hid : s.id = t.id) : m = n := by
  rw [h.named m s hs, h.named n t ht] at hid
  have := SessionId.generated_injective hid
  omega

theorem Sound.registered_of_open {sv : Server} (h : sv.Sound) {n : Nat} {s : Session}
    (hs : sv.sessions[n]? = some s) (hopen : s.closed = false) : sv.registered[s.id]? = some n :=
  (h.registered s.id n).2 ⟨s, hs, rfl, hopen⟩

/-- A session with members is open. -/
theorem Sound.open_of_mem {sv : Server} (h : sv.Sound) {n : Nat} {s : Session}
    (hs : sv.sessions[n]? = some s) {c : ConnectionId} (hc : c ∈ s.members) : s.closed = false := by
  cases hclosed : s.closed with
  | false => rfl
  | true =>
    rw [((h.orderly n s hs).shut hclosed).1] at hc
    exact absurd hc Std.ExtTreeMap.not_mem_empty

/-- The next id that is generated is not registered. -/
theorem Sound.fresh {sv : Server} (h : sv.Sound) : sv.registered[SessionId.generated (sv.issued + 1)]? = none := by
  cases hn : sv.registered[SessionId.generated (sv.issued + 1)]? with
  | none => rfl
  | some n =>
    obtain ⟨s, hs, hid, -⟩ := (h.registered _ n).1 hn
    have hlt : n < sv.sessions.length := (List.getElem?_eq_some_iff.1 hs).1
    rw [h.named n s hs] at hid
    have := SessionId.generated_injective hid
    have := h.issued
    omega

/-! ## What keeps a server sound -/

theorem sound_start (settings : Settings) : (start settings).Sound where
  orderly n s h := by simp [start] at h
  named n s h := by simp [start] at h
  issued := rfl
  registered id n := by simp [start]
  bound c id h := by simp [start] at h

/-- Each session after the change comes from one before. -/
theorem SameRoster.back {sv sv' : Server} (h : sv.SameRoster sv') {n : Nat} {t : Session}
    (ht : sv'.sessions[n]? = some t) : ∃ s, sv.sessions[n]? = some s ∧ s.SameRoster t := by
  have hn : n < sv'.sessions.length := (List.getElem?_eq_some_iff.1 ht).1
  rw [h.length] at hn
  obtain ⟨t', ht', hst⟩ := h.sessions n _ (List.getElem?_eq_getElem hn)
  rw [ht] at ht'
  cases ht'
  exact ⟨_, List.getElem?_eq_getElem hn, hst⟩

theorem Sound.sameRoster {sv sv' : Server} (h : sv.Sound) (hs : sv.SameRoster sv') : sv'.Sound where
  orderly n t ht := by
    obtain ⟨s, hn, hst⟩ := hs.back ht
    exact hst.orderly (h.orderly n s hn)
  named n t ht := by
    obtain ⟨s, hn, hst⟩ := hs.back ht
    rw [hst.id, h.named n s hn]
  issued := by rw [hs.issued, h.issued, hs.length]
  registered id n := by
    rw [hs.registered, h.registered id n]
    constructor
    · rintro ⟨s, hn, hid, hopen⟩
      obtain ⟨t, ht, hst⟩ := hs.sessions n s hn
      exact ⟨t, ht, by rw [hst.id, hid], by rw [hst.closed, hopen]⟩
    · rintro ⟨t, ht, hid, hopen⟩
      obtain ⟨s, hn, hst⟩ := hs.back ht
      exact ⟨s, hn, by rw [← hst.id, hid], by rw [← hst.closed, hopen]⟩
  bound c id hc := by
    rw [hs.bindings] at hc
    obtain ⟨n, s, hn, hid, hmem⟩ := h.bound c id hc
    obtain ⟨t, ht, hst⟩ := hs.sessions n s hn
    exact ⟨n, t, ht, by rw [hst.id, hid], by rw [hst.members]; exact hmem⟩

/-- A session may be replaced by an orderly one of its id, as open as it was, that keeps those who stay
bound to it. -/
theorem Sound.replace {sv : Server} (h : sv.Sound) {n : Nat} {s t : Session}
    (hs : sv.sessions[n]? = some s) (hid : t.id = s.id) (hclosed : t.closed = s.closed)
    (ht : t.Orderly) {bindings : Std.ExtTreeMap ConnectionId SessionId} {network : Network}
    (hbound : ∀ (c : ConnectionId) (id : SessionId), bindings[c]? = some id →
      sv.bindings[c]? = some id ∧ (id = s.id → c ∈ s.members → c ∈ t.members)) :
    { sv with sessions := sv.sessions.set n t, bindings, network }.Sound where
  orderly m u hu := by
    simp only [getElem?_set_of_some hs] at hu
    split at hu
    · cases hu; exact ht
    · exact h.orderly m u hu
  named m u hu := by
    simp only [getElem?_set_of_some hs] at hu
    split at hu
    · rename_i hnm
      cases hu
      rw [hid, ← hnm, h.named n s hs]
    · exact h.named m u hu
  issued := by rw [List.length_set]; exact h.issued
  registered id m := by
    simp only [getElem?_set_of_some hs]
    rw [h.registered id m]
    split
    · rename_i hnm
      subst hnm
      simp [hs, hid, hclosed]
    · rfl
  bound c id hc := by
    simp only [getElem?_set_of_some hs]
    obtain ⟨hc, hkeep⟩ := hbound c id hc
    obtain ⟨m, u, hu, huid, hmem⟩ := h.bound c id hc
    by_cases hnm : n = m
    · subst hnm
      rw [hs] at hu
      cases hu
      exact ⟨n, t, by simp, hid.trans huid, hkeep huid.symm hmem⟩
    · exact ⟨m, u, by simp [hnm, hu], huid, hmem⟩

/-! ## What leaves a connection alone -/

theorem Undisturbed.refl (c : ConnectionId) (sv : Server) : Undisturbed c sv sv :=
  ⟨fun _ h => h, rfl, fun _ => rfl⟩

theorem Undisturbed.trans {c : ConnectionId} {sv₁ sv₂ sv₃ : Server} (h : Undisturbed c sv₁ sv₂)
    (k : Undisturbed c sv₂ sv₃) : Undisturbed c sv₁ sv₃ :=
  ⟨fun r hr => k.has r (h.has r hr), k.binding.trans h.binding,
    fun n => (k.seat n).trans (h.seat n)⟩

theorem Undisturbed.of_sameRoster {sv sv' : Server} (h : sv.SameRoster sv') (c : ConnectionId) :
    Undisturbed c sv sv' where
  has := by
    rintro r ⟨s, hs, hid⟩
    obtain ⟨t, ht, hst⟩ := h.sessions _ s hs
    exact ⟨t, ht, by rw [hst.id, hid]⟩
  binding := by rw [h.bindings]
  seat n := by
    ext m
    rw [seat?_eq_some, seat?_eq_some]
    constructor
    · rintro ⟨t, ht, hm⟩
      obtain ⟨s, hs, hst⟩ := h.back ht
      exact ⟨s, hs, by rw [← hst.members]; exact hm⟩
    · rintro ⟨s, hs, hm⟩
      obtain ⟨t, ht, hst⟩ := h.sessions n s hs
      exact ⟨t, ht, by rw [hst.members]; exact hm⟩

/-- A session may be replaced by one of its id, and every reference stays good. -/
theorem Has.replace {sv : Server} {r : SessionRef} (hr : sv.Has r) {n : Nat} {s t : Session}
    (hs : sv.sessions[n]? = some s) (hid : t.id = s.id)
    {registered : Std.ExtTreeMap SessionId Nat} {bindings : Std.ExtTreeMap ConnectionId SessionId}
    {network : Network} :
    { sv with sessions := sv.sessions.set n t, registered, bindings, network }.Has r := by
  obtain ⟨u, hu, huid⟩ := hr
  unfold Has
  simp only [getElem?_set_of_some hs]
  by_cases hnm : n = r.number
  · subst hnm
    rw [hs] at hu
    cases hu
    exact ⟨t, by simp, hid.trans huid⟩
  · exact ⟨u, by simp [hnm, hu], huid⟩

/-- A session may be replaced by one of its id in which the connection is what it was. -/
theorem Undisturbed.replace {sv : Server} {n : Nat} {s t : Session} (hs : sv.sessions[n]? = some s)
    (hid : t.id = s.id) {c : ConnectionId} (hmem : t.members[c]? = s.members[c]?)
    {registered : Std.ExtTreeMap SessionId Nat} {bindings : Std.ExtTreeMap ConnectionId SessionId}
    {network : Network} (hbind : bindings[c]? = sv.bindings[c]?) :
    Undisturbed c sv { sv with sessions := sv.sessions.set n t, registered, bindings, network } where
  has _ hr := hr.replace hs hid
  binding := hbind
  seat m := by
    unfold seat?
    simp only [getElem?_set_of_some hs]
    split
    · rename_i hnm
      subst hnm
      simp [hs, hmem]
    · rfl

/-- What a connection is bound to and a member of does not depend on the calls of others. -/
theorem Settled.undisturbed {c : ConnectionId} {sv sv' : Server} (h : Settled c sv)
    (hs : Undisturbed c sv sv') : Settled c sv' := by
  intro n t ht hc
  obtain ⟨m, hm⟩ := Option.isSome_iff_exists.1 (Std.ExtTreeMap.mem_iff_isSome_getElem?.1 hc)
  have hseat : sv'.seat? n c = some m := seat?_eq_some.2 ⟨t, ht, hm⟩
  rw [hs.seat] at hseat
  obtain ⟨s, hs', hm'⟩ := seat?_eq_some.1 hseat
  obtain ⟨t', ht', hid⟩ := hs.has ⟨n, s.id⟩ ⟨s, hs', rfl⟩
  rw [ht] at ht'
  cases ht'
  rw [hs.binding, hid]
  exact h n s hs' (Std.ExtTreeMap.mem_iff_isSome_getElem?.2 (by rw [hm']; rfl))

end WatchParty.Server
