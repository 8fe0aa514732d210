/-
What scripts are to the server. If every step of a script reaches the server from outside, which goes
for events and ends of connections, one at a time or in a batch, for websocket clients, for requests for
pages, and for time, then the script is a sequence of inputs, and the server is consistent after each of
them. Any script at all is a sequence of operations.
-/
import WatchParty.Proofs.Movement
import WatchParty.Proofs.Quiescence
import WatchParty.Scenario.Run

namespace WatchParty.Scenario

/-- The input that an action of a plain connection is. -/
def Action.input? : Action → Option Input
  | .dispatch c event data => some (.dispatch c event data)
  | .disconnect c => some (.disconnect c)
  | .close c => some (.around (.close c))
  | .reopen c => some (.around (.reopen c))
  | _ => none

/-- The step reaches the server from outside. -/
def Step.Outer : Step → Prop
  | .single a => ∃ i, a.input? = some i
  | .batch actions => ∀ a ∈ actions, ∃ i, a.input? = some i
  | _ => True

namespace Run

/-- The state of a script after one step and the next, each at its time of the day. -/
def stepAll (run : Run) (steps : List (UInt64 × Step)) : Run :=
  steps.foldl (fun run (timestamp, s) => (run.step timestamp s).2) run

variable {run : Run}

theorem act_of_input? {a : Action} {i : Input} (h : a.input? = some i) :
    (run.act a).2.server = run.server.take i := by
  cases a with
  | dispatch c event data => cases h; rfl
  | disconnect c => cases h; rfl
  | close c => cases h; rfl
  | reopen c => cases h; rfl
  | _ => cases h

theorem actAll_takeAll {actions : List Action} (h : ∀ a ∈ actions, ∃ i, a.input? = some i) :
    ∃ inputs, (run.actAll actions).2.server = run.server.takeAll inputs := by
  induction actions generalizing run with
  | nil => exact ⟨[], rfl⟩
  | cons a rest ih =>
    obtain ⟨i, hi⟩ := h a List.mem_cons_self
    obtain ⟨inputs, hrest⟩ := @ih (run.act a).2 fun b hb => h b (List.mem_cons_of_mem a hb)
    refine ⟨i :: inputs, ?_⟩
    rw [Server.takeAll_cons, ← act_of_input? hi]
    exact hrest

theorem connect_takeAll (run : Run) (name : Name) :
    ∃ inputs, (run.connect name).server = run.server.takeAll inputs := by
  unfold connect
  cases run.clients.find? name with
  | none => exact ⟨[.around .accept], rfl⟩
  | some c => exact ⟨[.hangUp c, .around .accept], rfl⟩

/-- What a step from outside does to the server before it settles is what some inputs do. -/
theorem stepUnsettled_takeAll (run : Run) {s : Step} (h : s.Outer) (timestamp : UInt64) :
    ∃ inputs, (run.stepUnsettled timestamp s).2.server = run.server.takeAll inputs := by
  cases s with
  | single a =>
    obtain ⟨i, hi⟩ := h
    exact ⟨[i], act_of_input? hi⟩
  | batch actions => exact actAll_takeAll h
  | tick ms => exact ⟨[.around (.elapse ms)], rfl⟩
  | http r => exact ⟨[], rfl⟩
  | connect name => exact connect_takeAll run name
  | frame name f =>
    simp only [stepUnsettled]
    cases run.clients.find? name with
    | none => exact ⟨[], rfl⟩
    | some c =>
      refine ⟨[.receive c f], ?_⟩
      simp only
      split
      · rfl
      · rfl
  | cut name =>
    simp only [stepUnsettled]
    cases run.clients.find? name with
    | none => exact ⟨[], rfl⟩
    | some c => exact ⟨[.hangUp c], rfl⟩

theorem step_takeAll (run : Run) {s : Step} (h : s.Outer) (timestamp : UInt64) :
    ∃ inputs, (run.step timestamp s).2.server = run.server.takeAll inputs := by
  obtain ⟨inputs, hunsettled⟩ := run.stepUnsettled_takeAll h timestamp
  refine ⟨inputs ++ [.around .settle], ?_⟩
  rw [Server.takeAll_concat, ← hunsettled]
  rfl

/-- To the server a script of steps from outside is a sequence of inputs. -/
theorem stepAll_takeAll (run : Run) {steps : List (UInt64 × Step)} (h : ∀ p ∈ steps, p.2.Outer) :
    ∃ inputs, (run.stepAll steps).server = run.server.takeAll inputs := by
  induction steps generalizing run with
  | nil => exact ⟨[], rfl⟩
  | cons p rest ih =>
    obtain ⟨first, hfirst⟩ := run.step_takeAll (h p List.mem_cons_self) p.1
    obtain ⟨later, hlater⟩ := ih (run.step p.1 p.2).2 fun q hq => h q (List.mem_cons_of_mem p hq)
    refine ⟨first ++ later, ?_⟩
    rw [Server.takeAll_append, ← hfirst]
    exact hlater

/-- After every script of steps from outside the server is consistent. -/
theorem stepAll_consistent (settings : Settings) {steps : List (UInt64 × Step)}
    (h : ∀ p ∈ steps, p.2.Outer) : ((start settings).stepAll steps).server.Consistent := by
  obtain ⟨inputs, hinputs⟩ := stepAll_takeAll (start settings) h
  have hquiet := (Server.quiescent_start settings).takeAll inputs
  rw [hinputs]
  exact hquiet.consistent

/-! ## Scripts of any steps -/

/-- What is registered is there, and so is every session that the script keeps. -/
structure Holds (run : Run) : Prop where
  grounded : run.server.Grounded
  kept : ∀ (name : Name) (r : SessionRef), run.sessions[name]? = some r → run.server.Has r

/-- Some operations lead from the server of one run to that of the other, which has every session that is
kept then. -/
structure Leads (run run' : Run) : Prop where
  operations : ∃ operations, run'.server = run.server.performAll operations
  kept : ∀ (name : Name) (r : SessionRef), run'.sessions[name]? = some r → run'.server.Has r

variable {run' run'' : Run}

theorem holds_start (settings : Settings) : (start settings).Holds :=
  ⟨Server.grounded_start settings, fun name r hr => by simp [start] at hr⟩

theorem Leads.holds (h : run.Holds) (k : run.Leads run') : run'.Holds := by
  obtain ⟨operations, hserver⟩ := k.operations
  refine ⟨?_, k.kept⟩
  rw [hserver]
  exact h.grounded.performAll operations

theorem Leads.trans (h : run.Leads run') (k : run'.Leads run'') : run.Leads run'' := by
  obtain ⟨first, hfirst⟩ := h.operations
  obtain ⟨later, hlater⟩ := k.operations
  refine ⟨⟨first ++ later, ?_⟩, k.kept⟩
  rw [hlater, hfirst]
  exact List.foldl_append.symm

/-- The script keeps no session that it did not keep before. -/
theorem Holds.leads (h : run.Holds) (operations : List Operation)
    (hserver : run'.server = run.server.performAll operations)
    (hkept : ∀ (name : Name) (r : SessionRef), run'.sessions[name]? = some r → run.sessions[name]? = some r) :
    run.Leads run' := by
  refine ⟨⟨operations, hserver⟩, fun name r hr => ?_⟩
  rw [hserver]
  exact (h.kept name r (hkept name r hr)).performAll operations

theorem Holds.leads_self (h : run.Holds) : run.Leads run := h.leads [] rfl fun _ _ hr => hr

theorem Holds.leads_forget (h : run.Holds) (name : Name) : run.Leads (run.forget name).2 := by
  unfold forget
  cases hr : run.sessions[name]? with
  | none => exact h.leads_self
  | some r =>
    have herased : ∀ (other : Name) (ref : SessionRef), (run.sessions.erase name)[other]? = some ref →
        run.sessions[other]? = some ref := fun other ref href => by
      rw [Std.ExtTreeMap.getElem?_erase] at href
      split at href
      · cases href
      · exact href
    dsimp only
    split
    · exact h.leads [] rfl herased
    · refine h.leads [.onSession r.number .drop] ?_ herased
      exact (Server.perform_onSession_of_has (h.kept name r hr) .drop).symm

/-- A session that is there may be kept. -/
theorem Holds.leads_keep (h : run.Holds) (name : Name) {r : SessionRef} (hr : run.server.Has r) :
    run.Leads (run.keep name r) := by
  have hforgotten := h.leads_forget name
  obtain ⟨operations, hserver⟩ := hforgotten.operations
  refine ⟨⟨operations, hserver⟩, fun other ref href => ?_⟩
  -- what was kept under the name before may end on this occasion, but no session goes away
  simp only [keep, Std.ExtTreeMap.getElem?_insert] at href
  split at href
  · cases href
    change (run.forget name).2.server.Has r
    rw [hserver]
    exact hr.performAll operations
  · exact hforgotten.kept other ref href

/-- What is done with a session that is kept is done with one that is there. -/
theorem Holds.leads_withSession (h : run.Holds) (name : Name) {f : SessionRef → Reply × Server}
    (hf : ∀ r, run.server.Has r → ∃ operations, (f r).2 = run.server.performAll operations) :
    run.Leads (run.withSession name f).2 := by
  unfold withSession
  cases hr : run.sessions[name]? with
  | none => exact h.leads_self
  | some r =>
    obtain ⟨operations, hserver⟩ := hf r (h.kept name r hr)
    exact h.leads operations hserver fun _ _ hkept => hkept

/-- The operation on a session that is kept. -/
theorem Holds.leads_operate (h : run.Holds) (name : Name) {f : SessionRef → Reply × Server}
    (o : SessionOperation) (hf : ∀ r, (f r).2 = run.server.operate r o) :
    run.Leads (run.withSession name f).2 :=
  h.leads_withSession name fun r hr => ⟨[.onSession r.number o],
    (hf r).trans (Server.perform_onSession_of_has hr o).symm⟩

/-- To look at a session that is kept does nothing to the server. -/
theorem Holds.leads_look (h : run.Holds) (name : Name) {f : SessionRef → Reply × Server}
    (hf : ∀ r, (f r).2 = run.server) : run.Leads (run.withSession name f).2 :=
  h.leads_withSession name fun r _ => ⟨[], hf r⟩

/-- What is done with a member that is kept is to send an event to its connection. -/
theorem Holds.leads_withMember (h : run.Holds) (name : Name) (e : Event) :
    run.Leads (run.withMember name fun m => m.send e).2 := by
  unfold withMember
  cases run.members[name]? with
  | none => exact h.leads_self
  | some m => exact h.leads [.send m.connection e] rfl fun _ _ hr => hr

theorem Holds.leads_lookMember (h : run.Holds) (name : Name) (f : Member → Reply) :
    run.Leads (run.lookMember name f).2 := by
  unfold lookMember
  split
  · exact h.leads_self
  · exact h.leads_self

theorem Holds.leads_withClock (h : run.Holds) (name : Name) (f : Clock → Clock) :
    run.Leads (run.withClock name f).2 := by
  unfold withClock
  split
  · exact h.leads_self
  · exact h.leads [] rfl fun _ _ hr => hr

theorem Holds.leads_act (h : run.Holds) (a : Action) : run.Leads (run.act a).2 := by
  cases a with
  | dispatch c event data => exact h.leads [.input (.dispatch c event data)] rfl fun _ _ hr => hr
  | disconnect c => exact h.leads [.input (.disconnect c)] rfl fun _ _ hr => hr
  | close c => exact h.leads [.input (.around (.close c))] rfl fun _ _ hr => hr
  | reopen c => exact h.leads [.input (.around (.reopen c))] rfl fun _ _ hr => hr
  | create name videoId time =>
    have hmade : run.Leads { run with server := (run.server.create videoId time).2 } :=
      h.leads [.create videoId time] rfl fun _ _ hr => hr
    exact hmade.trans ((hmade.holds h).leads_keep name (run.server.has_create videoId time))
  | lookup name id =>
    simp only [act, Server.lookup, Server.registeredRef?]
    cases hn : run.server.registered[id]? with
    | none => exact h.leads_self
    | some n => exact h.leads_keep name (h.grounded id n hn)
  | insert name => exact h.leads_operate name .insert fun _ => rfl
  | destroy id => exact h.leads [.destroy id] rfl fun _ _ hr => hr
  | destroyIfEmpty id => exact h.leads [.destroyIfEmpty id] rfl fun _ _ hr => hr
  | bind c id => exact h.leads [.bind c id] rfl fun _ _ hr => hr
  | unbind c => exact h.leads [.unbind c] rfl fun _ _ hr => hr
  | newSession name id videoId time =>
    have hmade : run.Leads { run with server := (run.server.newSession id videoId time).2 } :=
      h.leads [.newSession id videoId time] rfl fun _ _ hr => hr
    exact hmade.trans ((hmade.holds h).leads_keep name (run.server.has_newSession id videoId time))
  | play name => exact h.leads_operate name .play fun _ => rfl
  | pause name => exact h.leads_operate name .pause fun _ => rfl
  | sync name => exact h.leads_operate name .sync fun _ => rfl
  | shutdown name => exact h.leads_operate name .shutdown fun _ => rfl
  | setTime name time => exact h.leads_operate name (.setTime time) fun _ => rfl
  | sendToAll name e => exact h.leads_operate name (.sendToAll e) fun _ => rfl
  | addMember name c nick keep =>
    simp only [act]
    cases hr : run.sessions[name]? with
    | none => exact h.leads_self
    | some r =>
      have hadded := Server.perform_onSession_of_has (h.kept name r hr) (.addMember c nick)
      dsimp only
      split
      · exact h.leads [.onSession r.number (.addMember c nick)] hadded.symm fun _ _ hkept => hkept
      · exact h.leads [.onSession r.number (.addMember c nick)] hadded.symm fun _ _ hkept => hkept
  | removeMember name c => exact h.leads_operate name (.removeMember c) fun _ => rfl
  | closeIfEmpty name => exact h.leads_operate name .closeIfEmpty fun _ => rfl
  | view name => exact h.leads_look name fun _ => rfl
  | status name => exact h.leads_look name fun _ => rfl
  | inspect name => exact h.leads_look name fun _ => rfl
  | describe name => exact h.leads_look name fun _ => rfl
  | drop name => exact h.leads_forget name
  | syncMember name view => exact h.leads_withMember name (.sync view)
  | sendMember name e => exact h.leads_withMember name e
  | inspectMember name => exact h.leads_lookMember name _
  | describeMember name => exact h.leads_lookMember name _
  | newClock name period => exact h.leads [] rfl fun _ _ hr => hr
  | resumeClock name => exact h.leads_withClock name _
  | stopClock name => exact h.leads_withClock name _
  | cancelClock name => exact h.leads_withClock name _
  | inspectClock name => exact h.leads_withClock name _
  | dropClock name =>
    simp only [act]
    split
    · exact h.leads_self
    · exact h.leads [] rfl fun _ _ hr => hr

theorem Holds.leads_actAll (h : run.Holds) (actions : List Action) :
    run.Leads (run.actAll actions).2 := by
  induction actions generalizing run with
  | nil => exact h.leads_self
  | cons a rest ih =>
    have hfirst := h.leads_act a
    exact hfirst.trans (ih (hfirst.holds h))

/-- Inputs are operations, and leave what is kept alone. -/
theorem Holds.leads_inputs (h : run.Holds)
    (hserver : ∃ inputs, run'.server = run.server.takeAll inputs) (hkept : run'.sessions = run.sessions) :
    run.Leads run' := by
  obtain ⟨inputs, hserver⟩ := hserver
  refine h.leads (inputs.map .input) ?_ fun name r hr => hkept ▸ hr
  rw [hserver]
  exact run.server.takeAll_eq_performAll inputs

theorem Holds.leads_stepUnsettled (h : run.Holds) (timestamp : UInt64) (s : Step) :
    run.Leads (run.stepUnsettled timestamp s).2 := by
  have houter := fun hs : s.Outer => run.stepUnsettled_takeAll hs timestamp
  cases s with
  | single a => exact h.leads_act a
  | batch actions => exact h.leads_actAll actions
  | tick ms => exact h.leads_inputs (houter trivial) rfl
  | http r => exact h.leads_self
  | connect name => exact h.leads_inputs (houter trivial) rfl
  | frame name f =>
    refine h.leads_inputs (houter trivial) ?_
    simp only [stepUnsettled]
    split
    · dsimp only
      split
      · rfl
      · rfl
    · rfl
  | cut name =>
    refine h.leads_inputs (houter trivial) ?_
    simp only [stepUnsettled]
    split
    · rfl
    · rfl

theorem Holds.leads_step (h : run.Holds) (timestamp : UInt64) (s : Step) :
    run.Leads (run.step timestamp s).2 := by
  have hunsettled := h.leads_stepUnsettled timestamp s
  exact hunsettled.trans ((hunsettled.holds h).leads_inputs ⟨[.around .settle], rfl⟩ rfl)

/-- To the server any script is a sequence of operations. -/
theorem stepAll_performAll (settings : Settings) (steps : List (UInt64 × Step)) :
    ∃ operations, ((start settings).stepAll steps).server = (Server.start settings).performAll operations := by
  have hleads : ∀ {run : Run}, run.Holds → run.Leads (run.stepAll steps) := by
    induction steps with
    | nil => exact fun h => h.leads_self
    | cons p rest ih =>
      intro run h
      have hfirst := h.leads_step p.1 p.2
      exact hfirst.trans (ih (hfirst.holds h))
  exact (hleads (holds_start settings)).operations

end Run

end WatchParty.Scenario
