/-
A connection that is gone leaves no trace. From its end on, or from the moment it leaves its session, a
connection is in no session, is told nothing, and is named in no view that anybody gets to see, until it
sends something itself.
-/
import WatchParty.Http
import WatchParty.Proofs.Quiescence
import WatchParty.Proofs.Rejection
import WatchParty.Proofs.Server.Within

namespace WatchParty

/-- The views of sessions that a page shows. -/
def Http.Content.views : Http.Content → List SessionView
  | .sessions views => views.map (·.2)
  | .session view => [view]
  | _ => []

/-- The delivery is not for the connection, and no view that it shows names the connection. -/
def Delivery.Ignores (c : ConnectionId) (x : Delivery) : Prop :=
  x.recipient ≠ c ∧ ∀ v, x.content.view? = some v → c ∉ v.members

namespace Input

/-- With this input the connection leaves its session, or is at its end. -/
def Withdraws (c : ConnectionId) : Input → Prop
  | .dispatch d event data => d = c ∧ Request.decode event data = .ok .leave
  | .disconnect d => d = c
  | .receive d f => d = c ∧ (f.isLast = true ∨ ∃ text envelope, f = .text text ∧
      Envelope.parse? text = some envelope ∧ Request.decode envelope.event envelope.data = .ok .leave)
  | .hangUp d => d = c
  | .around _ => False

/-- The connection sends an event or a frame. -/
def Speaks (c : ConnectionId) : Input → Prop
  | .dispatch d _ _ => d = c
  | .receive d _ => d = c
  | _ => False

end Input

namespace Server

open Handler

variable {sv sv' : Server} {c d : ConnectionId}

/-! ## Inputs of one connection -/

/-- What a connection sends disturbs no other, and is told to itself and to members of sessions. -/
theorem Quiescent.within_dispatch (h : sv.Quiescent) (c : ConnectionId) (event : String) (data : Json) :
    Within c (fun _ => True) sv (sv.dispatch c event data) :=
  have hfair := along_dispatch h.sound (h.settled c) event data
  .run hfair (hfair.mono fun _ _ _ _ _ => trivial)

theorem Quiescent.within_disconnect (h : sv.Quiescent) (c : ConnectionId) :
    Within c (fun _ => True) sv (sv.disconnect c) :=
  have hfair := along_disconnect h.sound (h.settled c)
  .run hfair (hfair.mono fun _ _ _ _ _ => trivial)

/-- Only the network changes, and only the connection is told something that shows no session. -/
theorem within_network {network : Network}
    (htold : Network.Tells (fun x => x.recipient = c ∧ x.content.view? = none) sv.network network) :
    Within c (fun _ => True) sv { sv with network } := by
  refine ⟨fun _ _ h => absurd trivial h, fun _ h => absurd trivial h, fun d _ => ?_, ?_⟩
  · exact .of_sameRoster (sameRoster_network sv network) d
  · refine htold.mono fun x hx => ⟨.inl hx.1, fun v hv => ?_⟩
    rw [hx.2] at hv
    cases hv

theorem Quiescent.within_hangUp (h : sv.Quiescent) (c : ConnectionId) :
    Within c (fun _ => True) sv (sv.hangUp c) :=
  (h.within_disconnect c).trans (within_network (.refl _ _))

theorem Quiescent.within_receive (h : sv.Quiescent) (c : ConnectionId) (f : Frame) :
    Within c (fun _ => True) sv (sv.receive c f) := by
  unfold Server.receive
  split
  · exact (h.within_hangUp c).trans (within_network (Network.tells_deliver ⟨rfl, rfl⟩))
  · split
    · unfold Server.receiveText
      split
      · exact h.within_dispatch c _ _
      · exact within_network (Network.tells_emit ⟨rfl, rfl⟩)
    · exact within_network (Network.tells_deliver ⟨rfl, rfl⟩)
    · exact .refl c _ sv

/-! ## Leaving -/

theorem Apart.network (h : Apart c sv) (network : Network) : Apart c { sv with network } :=
  ⟨h.binding, h.seat⟩

theorem Quiescent.apart_depart (h : sv.Quiescent) (c : ConnectionId) :
    Apart c ((depart c).run sv).2 :=
  ((safe_depart (h.settled c)).run h.sound).1.1

theorem Quiescent.apart_leave (h : sv.Quiescent) {event : String} {data : Json}
    (hd : Request.decode event data = .ok .leave) : Apart c (sv.dispatch c event data) := by
  unfold Server.dispatch Handler.dispatch
  rw [hd]
  simp only [handle, run_bind]
  have hapart := h.apart_depart c
  generalize (depart c).run sv = departed at hapart ⊢
  obtain ⟨outcome, left⟩ := departed
  cases outcome with
  | ok id => exact hapart
  | error e =>
    obtain ⟨told, -, heq⟩ := tellFailure_run c Request.leave.verb.name data e left
    simp only [run_pure, heq]
    exact hapart.network _

theorem Quiescent.apart_disconnect (h : sv.Quiescent) (c : ConnectionId) :
    Apart c (sv.disconnect c) := by
  unfold Server.disconnect Handler.disconnect
  rw [run_bind]
  exact h.apart_depart c

/-- Whoever withdraws is in no session. -/
theorem Quiescent.apart_take (h : sv.Quiescent) {i : Input} (hi : i.Withdraws c) :
    Apart c (sv.take i) := by
  cases i with
  | dispatch d event data =>
    obtain ⟨rfl, hd⟩ := hi
    exact h.apart_leave hd
  | disconnect d =>
    cases hi
    exact h.apart_disconnect c
  | hangUp d =>
    cases hi
    exact (h.apart_disconnect c).network _
  | receive d f =>
    obtain ⟨rfl, hf⟩ := hi
    change Apart d (sv.receive d f)
    rcases hf with hlast | ⟨text, envelope, rfl, hparse, hd⟩
    · unfold Server.receive
      rw [if_pos hlast]
      exact ((h.apart_disconnect d).network _).network _
    · rw [receive_text hparse]
      exact h.apart_leave hd
  | around o => exact absurd hi fun hn => hn

/-! ## What others do -/

/-- What another connection does leaves it apart and says nothing of it. -/
theorem Apart.within (h : Apart c sv) (hdc : d ≠ c) (hw : Within d (fun _ => True) sv sv') :
    Apart c sv' ∧ Network.Tells (Delivery.Ignores c) sv.network sv'.network := by
  have hnowhere : ∀ (n : Nat) (s : Session), sv.sessions[n]? = some s → c ∉ s.members := by
    intro n s hs hmem
    have hseat := seat?_isSome_of_mem hs hmem
    rw [h.seat n] at hseat
    cases hseat
  refine ⟨h.undisturbed (hw.others c hdc), hw.told.mono fun x hx => ⟨fun hself => ?_, fun v hv hc => ?_⟩⟩
  · rcases hx.recipient with hd | ⟨n, s, hs, -, hmem⟩
    · exact hdc (hd.symm.trans hself)
    · exact hnowhere n s hs (hself ▸ hmem)
  · rcases hx.named v hv c hc with hd | ⟨n, s, hs, hmem⟩
    · exact hdc hd.symm
    · exact hnowhere n s hs hmem

/-- The end of a connection that is in no session changes nothing. -/
theorem Apart.disconnect (h : Apart c sv) : sv.disconnect c = sv := by
  unfold Server.disconnect Handler.disconnect
  rw [run_bind, depart_run_unbound h.binding]
  rfl

theorem log_undergo (sv : Server) (o : Occurrence) : (sv.undergo o).network.log = sv.network.log := by
  cases o <;> rfl

/-- An input with which the connection does not speak leaves it apart and says nothing of it. -/
theorem Apart.take (h : Apart c sv) (hquiet : sv.Quiescent) {i : Input} (hi : ¬ i.Speaks c) :
    Apart c (sv.take i) ∧ Network.Tells (Delivery.Ignores c) sv.network (sv.take i).network := by
  cases i with
  | dispatch d event data => exact h.within hi (hquiet.within_dispatch d event data)
  | receive d f => exact h.within hi (hquiet.within_receive d f)
  | disconnect d =>
    by_cases hdc : d = c
    · rw [hdc]
      change Apart c (sv.disconnect c) ∧ Network.Tells _ _ (sv.disconnect c).network
      rw [h.disconnect]
      exact ⟨h, .refl _ _⟩
    · exact h.within hdc (hquiet.within_disconnect d)
  | hangUp d =>
    by_cases hdc : d = c
    · rw [hdc]
      change Apart c (sv.hangUp c) ∧ Network.Tells _ _ (sv.hangUp c).network
      unfold hangUp
      rw [h.disconnect]
      exact ⟨h.network _, .refl _ _⟩
    · exact h.within hdc (hquiet.within_hangUp d)
  | around o =>
    refine ⟨h.undisturbed (.of_sameRoster (sameRoster_undergo sv o) c), [], ?_, nofun⟩
    exact log_undergo sv o

theorem Apart.takeAll (h : Apart c sv) (hquiet : sv.Quiescent) {inputs : List Input}
    (hinputs : ∀ i ∈ inputs, ¬ i.Speaks c) :
    Apart c (sv.takeAll inputs) ∧
      Network.Tells (Delivery.Ignores c) sv.network (sv.takeAll inputs).network := by
  induction inputs generalizing sv with
  | nil => exact ⟨h, .refl _ _⟩
  | cons i rest ih =>
    obtain ⟨hnext, htold⟩ := h.take hquiet (hinputs i List.mem_cons_self)
    obtain ⟨hend, hlater⟩ := ih hnext (hquiet.take i) fun j hj => hinputs j (List.mem_cons_of_mem i hj)
    exact ⟨hend, htold.trans hlater⟩

/-! ## Pages -/

/-- A page shows registered sessions only. -/
theorem views_page {timestamp : UInt64} {path : List Char} {route : Http.Route} {v : SessionView}
    (h : v ∈ (Http.page sv timestamp path route).content.views) :
    ∃ id r, sv.registeredRef? id = some r ∧ v = (sv.session r).view := by
  cases route with
  | index => exact absurd h List.not_mem_nil
  | socket => exact absurd h List.not_mem_nil
  | status =>
    obtain ⟨entry, hentry, rfl⟩ := List.mem_map.1 h
    obtain ⟨r, hr, hview⟩ := mem_snapshot hentry
    exact ⟨entry.1, r, hr, hview⟩
  | session segment =>
    simp only [Http.page, Http.sessionPage] at h
    split at h
    · exact absurd h List.not_mem_nil
    · rename_i id _
      split at h
      · rename_i r hlookup
        refine ⟨⟨id⟩, r, ?_, List.mem_singleton.1 h⟩
        unfold lookup at hlookup
        split at hlookup
        · rename_i hr
          cases hlookup
          exact hr
        · cases hlookup
      · exact absurd h List.not_mem_nil

/-- The answer to any request shows registered sessions only. -/
theorem views_respond {timestamp : UInt64} {request : Http.Request} {v : SessionView}
    (h : v ∈ (Http.respond sv timestamp request).content.views) :
    ∃ id r, sv.registeredRef? id = some r ∧ v = (sv.session r).view := by
  unfold Http.respond at h
  simp only at h
  split at h
  · exact absurd h List.not_mem_nil
  · split at h
    · exact views_page h
    · split at h
      · unfold Http.head at h
        split at h
        · exact absurd h List.not_mem_nil
        · exact views_page h
      · exact absurd h List.not_mem_nil

/-- Once a connection has withdrawn, and until it sends an event or a frame again, whatever all others
do: it is bound to no session and a member of none that is registered; nothing is delivered to it; and
no view that anybody is told, that a snapshot holds or that a page shows has it among the members. -/
theorem withdrawn_leaves_no_trace (settings : Settings) (before after : List Input) (i : Input)
    (c : ConnectionId) (hi : i.Withdraws c) (hafter : ∀ j ∈ after, ¬ j.Speaks c) :
    let gone := (start settings).takeAll (before ++ [i])
    let sv := gone.takeAll after
    sv.boundSession? c = none ∧
    (∀ id r, sv.registeredRef? id = some r → c ∉ (sv.session r).members) ∧
    (∃ told, sv.network.log = told ++ gone.network.log ∧ ∀ x ∈ told, x.recipient ≠ c ∧
      ∀ v, x.content.view? = some v → c ∉ v.members) ∧
    (∀ entry ∈ sv.snapshot, c ∉ entry.2.members) ∧
    ∀ timestamp request, ∀ v ∈ (Http.respond sv timestamp request).content.views, c ∉ v.members := by
  intro gone sv
  have hbefore : ((start settings).takeAll before).Quiescent :=
    (quiescent_start settings).takeAll before
  have hgone : gone.Quiescent := (quiescent_start settings).takeAll (before ++ [i])
  have hapart : Apart c gone := by
    change Apart c ((start settings).takeAll (before ++ [i]))
    rw [takeAll_concat]
    exact hbefore.apart_take hi
  obtain ⟨hend, htold⟩ := hapart.takeAll hgone hafter
  have hquiet : sv.Quiescent := hgone.takeAll after
  have hmembers : ∀ id r, sv.registeredRef? id = some r → c ∉ (sv.session r).members := by
    intro id r hr hc
    have hbound := (hquiet.consistent.bound c id).2 ⟨r, hr, hc⟩
    exact absurd (hend.binding.symm.trans hbound) nofun
  have hview : ∀ id r, sv.registeredRef? id = some r → c ∉ (sv.session r).view.members := by
    intro id r hr hc
    exact hmembers id r hr (Std.ExtTreeMap.mem_map.1 hc)
  refine ⟨hend.binding, hmembers, htold, fun entry hentry => ?_, fun timestamp request v hv => ?_⟩
  · obtain ⟨r, hr, heq⟩ := mem_snapshot hentry
    rw [heq]
    exact hview entry.1 r hr
  · obtain ⟨id, r, hr, rfl⟩ := views_respond hv
    exact hview id r hr

/-- Bob has left the session that alice goes on watching. -/
theorem trace_of_former_member :
    let alice : ConnectionId := ⟨"alice"⟩
    let bob : ConnectionId := ⟨"bob"⟩
    let named : Json := .object [("session_id", .string (SessionId.generated 1).text)]
    let before : List Input := [.dispatch alice "flixy new" (.object [("video_id", .natural 1)]),
      .dispatch bob "flixy join" named]
    let after : List Input := [.dispatch alice "flixy play" named, .around (.elapse 5), .hangUp bob]
    let gone := (start {}).takeAll (before ++ [.dispatch bob "flixy leave" .null])
    ((start {}).takeAll before).boundSession? bob = some (.generated 1) ∧
      (gone.takeAll after).boundSession? alice = some (.generated 1) ∧
      (gone.takeAll after).boundSession? bob = none ∧
      ∃ told, (gone.takeAll after).network.log = told ++ gone.network.log ∧
        ∀ x ∈ told, x.recipient ≠ bob ∧ ∀ v, x.content.view? = some v → bob ∉ v.members := by
  intro alice bob named before after gone
  have hi : (Input.dispatch bob "flixy leave" .null).Withdraws bob := ⟨rfl, rfl⟩
  have hafter : ∀ j ∈ after, ¬ j.Speaks bob := by
    intro j hj
    simp only [after, List.mem_cons, List.not_mem_nil, or_false] at hj
    rcases hj with rfl | rfl | rfl
    · exact (by decide : alice ≠ bob)
    · exact fun hn => hn
    · exact fun hn => hn
  obtain ⟨hbound, -, htold, -⟩ := withdrawn_leaves_no_trace {} before after _ bob hi hafter
  exact ⟨by decide, by decide, hbound, htold⟩

end Server

end WatchParty
