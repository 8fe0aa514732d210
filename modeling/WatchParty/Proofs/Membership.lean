/-
What a server's registry, bindings and sessions have to do with one another after any sequence of
inputs. The server is quiescent then, so what is bound is a member and what is a member is bound; that
the two are equally many follows because each binding is one member of one registered session.
-/
import Mathlib
import WatchParty.Proofs.Quiescence

namespace WatchParty.Server

variable {sv : Server}

/-! ## Members and bindings -/

/-- The connections of all members of registered sessions, session by session. -/
def memberConnections (sv : Server) : List ConnectionId :=
  sv.registered.toList.flatMap fun (id, number) => (sv.session ⟨number, id⟩).members.keys

theorem mem_memberConnections {c : ConnectionId} : c ∈ sv.memberConnections ↔
    ∃ id r, sv.registeredRef? id = some r ∧ c ∈ (sv.session r).members := by
  unfold memberConnections registeredRef?
  simp only [List.mem_flatMap, Prod.exists, Std.ExtTreeMap.mem_toList_iff_getElem?_eq_some,
    Std.ExtTreeMap.mem_keys, Option.map_eq_some_iff]
  constructor
  · rintro ⟨id, n, hn, hc⟩
    exact ⟨id, ⟨n, id⟩, ⟨n, hn, rfl⟩, hc⟩
  · rintro ⟨id, r, ⟨n, hn, rfl⟩, hc⟩
    exact ⟨id, n, hn, hc⟩

/-- A connection is a member of one registered session only: the one it is bound to. -/
theorem Consistent.id_unique (h : sv.Consistent) {c : ConnectionId} {id id' : SessionId}
    {r r' : SessionRef} (hr : sv.registeredRef? id = some r) (hr' : sv.registeredRef? id' = some r')
    (hc : c ∈ (sv.session r).members) (hc' : c ∈ (sv.session r').members) : id = id' := by
  have hbound := (h.bound c id).2 ⟨r, hr, hc⟩
  have hbound' := (h.bound c id').2 ⟨r', hr', hc'⟩
  rw [hbound] at hbound'
  exact Option.some.inj hbound'

theorem Consistent.nodup_memberConnections (h : sv.Consistent) : sv.memberConnections.Nodup := by
  unfold memberConnections
  rw [List.nodup_flatMap]
  refine ⟨fun _ _ => Std.ExtTreeMap.nodup_keys, ?_⟩
  refine Std.ExtTreeMap.distinct_keys_toList.imp_of_mem ?_
  rintro ⟨id, n⟩ ⟨id', n'⟩ hn hn' hne c hc hc'
  rw [Std.ExtTreeMap.mem_toList_iff_getElem?_eq_some] at hn hn'
  have hr : sv.registeredRef? id = some ⟨n, id⟩ := by simp [registeredRef?, hn]
  have hr' : sv.registeredRef? id' = some ⟨n', id'⟩ := by simp [registeredRef?, hn']
  have hid : id = id' :=
    h.id_unique hr hr' (Std.ExtTreeMap.mem_keys.1 hc) (Std.ExtTreeMap.mem_keys.1 hc')
  exact hne (Std.LawfulEqCmp.compare_eq_iff_eq.2 hid)

/-- The connections that are bound are those of the members, each once. -/
theorem Consistent.bindings_perm (h : sv.Consistent) :
    sv.bindings.keys.Perm sv.memberConnections := by
  refine (List.perm_ext_iff_of_nodup Std.ExtTreeMap.nodup_keys h.nodup_memberConnections).2 fun c => ?_
  rw [Std.ExtTreeMap.mem_keys, Std.ExtTreeMap.mem_iff_isSome_getElem?, Option.isSome_iff_exists,
    mem_memberConnections]
  exact exists_congr fun id => h.bound c id

/-- The number of bindings is the number of members of all registered sessions. -/
theorem Consistent.memberCount_eq_sum (h : sv.Consistent) :
    sv.memberCount =
      (sv.registered.toList.map fun (id, number) => (sv.session ⟨number, id⟩).members.size).sum := by
  have hlength := h.bindings_perm.length_eq
  unfold memberConnections at hlength
  rw [Std.ExtTreeMap.length_keys, List.length_flatMap] at hlength
  simp only [Std.ExtTreeMap.length_keys] at hlength
  exact hlength

/-! ## Every sequence of inputs -/

/-- After any inputs a connection is bound to a session exactly if it is a member of the one registered
under that id, so it is a member of one registered session at most. A registered session has the id it
is registered under, is open and has members, each under its own connection and with the session's id;
and there are as many bindings as members of registered sessions. -/
theorem takeAll_agrees (settings : Settings) (inputs : List Input) :
    let sv := (start settings).takeAll inputs
    (∀ c id, sv.boundSession? c = some id ↔
      ∃ r, sv.registeredRef? id = some r ∧ c ∈ (sv.session r).members) ∧
    (∀ c id id' r r', sv.registeredRef? id = some r → sv.registeredRef? id' = some r' →
      c ∈ (sv.session r).members → c ∈ (sv.session r').members → id = id' ∧ r = r') ∧
    (∀ id r, sv.registeredRef? id = some r → (sv.session r).id = id ∧
      (sv.session r).closed = false ∧ (sv.session r).members ≠ ∅) ∧
    (∀ id r (c : ConnectionId) m, sv.registeredRef? id = some r → (sv.session r).members[c]? = some m →
      m.connection = c ∧ m.session = id) ∧
    sv.memberCount =
      (sv.registered.toList.map fun (id, number) => (sv.session ⟨number, id⟩).members.size).sum := by
  intro sv
  have hquiet : sv.Quiescent := (quiescent_start settings).takeAll inputs
  have h : sv.Consistent := hquiet.consistent
  refine ⟨h.bound, fun c id id' r r' hr hr' hc hc' => ?_, h.kept, fun id r c m hr hm => ?_,
    h.memberCount_eq_sum⟩
  · have hid := h.id_unique hr hr' hc hc'
    subst hid
    rw [hr] at hr'
    exact ⟨rfl, Option.some.inj hr'⟩
  · obtain ⟨s, hs, hsession, hid, -⟩ := hquiet.sound.session_of_registeredRef hr
    rw [hsession] at hm
    rw [← hid]
    exact (hquiet.sound.orderly r.number s hs).seated c m hm

end WatchParty.Server
