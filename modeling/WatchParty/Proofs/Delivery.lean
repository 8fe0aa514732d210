/-
That a delivery fails is noticed by nobody but the connection that refuses it. Two runs that differ
only in when which connections refuse take a server to the same sessions, with their clocks and members,
the same registered ids and the same bindings; and a connection that refuses in neither of them is
told the same in both.

Only a handler could make a difference, since it learns whether what it sends is taken. All handlers are
heedless, though.
-/
import Mathlib.Data.List.Infix
import WatchParty.Proofs.Handler.Heedless
import WatchParty.Proofs.Server.Operation

namespace WatchParty

/-! ## Operations -/

/-- The operation only makes a connection refuse from now on, or not any more. -/
def Operation.isDoor : Operation → Bool
  | .input (.around (.close _)) => true
  | .input (.around (.reopen _)) => true
  | _ => false

namespace Server

variable {L : Network.Likeness} {W : ConnectionId → Prop} {a b : Server}

/-- The doors of other connections do not matter. -/
theorem Alike.door (h : a.Alike W b) {o : Operation} (ho : o.isDoor = true)
    (hopen : ∀ c, W c → (a.perform o).network.isOpen c = true) : (a.perform o).Alike W b := by
  cases o with
  | input i =>
    cases i with
    | around occurrence =>
      cases occurrence with
      | close c => exact h.of_log rfl hopen
      | reopen c => exact h.of_log rfl hopen
      | _ => cases ho
    | _ => cases ho
  | _ => cases ho

/-- A connection that comes to its end is none of those that stay open. -/
theorem Alike.hangUp (h : a.Alike W b) (c : ConnectionId)
    (ha : ∀ d, W d → (a.hangUp c).network.isOpen d = true)
    (hb : ∀ d, W d → (b.hangUp c).network.isOpen d = true) : (a.hangUp c).Alike W (b.hangUp c) := by
  have hleft : (a.disconnect c).Alike W (b.disconnect c) := (h.like.run (Handler.heedless_disconnect c)).server
  have hfirst : (a.hangUp c).Alike W (b.disconnect c) := hleft.of_log rfl ha
  have hsecond : (b.hangUp c).Alike W (a.hangUp c) := hfirst.symm.of_log rfl hb
  exact hsecond.symm

theorem Alike.receive (h : a.Alike W b) (c : ConnectionId) (f : Frame)
    (ha : ∀ d, W d → (a.receive c f).network.isOpen d = true)
    (hb : ∀ d, W d → (b.receive c f).network.isOpen d = true) : (a.receive c f).Alike W (b.receive c f) := by
  unfold Server.receive at ha hb ⊢
  split
  · rename_i hlast
    rw [if_pos hlast] at ha hb
    exact (h.hangUp c ha hb).like.deliver c .hangUp
  · cases f with
    | text text => exact h.like.receiveText c text
    | ping text => exact h.like.deliver c (.pong text)
    | _ => exact h

theorem Like.operate (h : a.Like L b) (r : SessionRef) (o : SessionOperation) :
    (a.operate r o).Like L (b.operate r o) := by
  cases o with
  | insert => exact h.insert r
  | play => exact h.play r
  | pause => exact h.pause r
  | sync => exact h.sync r
  | setTime time => exact h.setTime r time
  | sendToAll e => exact h.sendToAll r e
  | addMember c nick => exact (h.addMember r c nick).server
  | removeMember c => exact (h.removeMember r c).server
  | closeIfEmpty => exact (h.closeIfEmpty r).server
  | shutdown => exact h.modify r _
  | drop => exact h.modify r fun s => { s with clock := s.clock.cancel }

/-- What is done to both of two servers leaves them alike, as long as the connections in question stay
open. -/
theorem Alike.perform (h : a.Alike W b) (o : Operation)
    (ha : ∀ c, W c → (a.perform o).network.isOpen c = true)
    (hb : ∀ c, W c → (b.perform o).network.isOpen c = true) : (a.perform o).Alike W (b.perform o) := by
  cases o with
  | input i =>
    cases i with
    | dispatch c event data => exact (h.like.run (Handler.heedless_dispatch c event data)).server
    | disconnect c => exact (h.like.run (Handler.heedless_disconnect c)).server
    | receive c f => exact h.receive c f ha hb
    | hangUp c => exact h.hangUp c ha hb
    | around occurrence =>
      cases occurrence with
      | close c => exact ((h.door rfl ha).symm.door rfl hb).symm
      | reopen c => exact ((h.door rfl ha).symm.door rfl hb).symm
      | accept => exact h.like.silent (fun sv => sv.accept.2) fun _ _ => rfl
      | settle => exact h.like.silent (·.settle) fun _ _ => rfl
      | elapse ms => exact h.like.silent (·.elapse ms) fun _ _ => rfl
  | create videoId time => exact (h.like.create videoId time).server
  | newSession id videoId time =>
    exact h.like.silent (fun sv => (sv.newSession id videoId time).2) fun _ _ => rfl
  | destroy id => exact h.like.destroy id
  | destroyIfEmpty id => exact (h.like.destroyIfEmpty id).server
  | bind c id => exact h.like.silent (fun sv => (sv.bind c id).2) fun _ _ => rfl
  | unbind c => exact (h.like.unbind c).server
  | send c e => exact h.like.send c e
  | onSession n o =>
    have hsame : b.sessions = a.sessions := by
      obtain ⟨net, rfl, -⟩ := h
      rfl
    simp only [Server.perform, hsame]
    split
    · exact h.like.operate _ o
    · exact h

/-! ## Runs -/

/-- The connection is open at the start, after every operation, and in the end. -/
def OpenThroughout (sv : Server) (c : ConnectionId) (operations : List Operation) : Prop :=
  ∀ earlier, earlier <+: operations → (sv.performAll earlier).network.isOpen c = true

theorem OpenThroughout.head {sv : Server} {c : ConnectionId} {o : Operation} {rest : List Operation}
    (h : sv.OpenThroughout c (o :: rest)) : (sv.perform o).network.isOpen c = true :=
  h [o] (List.cons_prefix_cons.2 ⟨rfl, List.nil_prefix⟩)

theorem OpenThroughout.tail {sv : Server} {c : ConnectionId} {o : Operation} {rest : List Operation}
    (h : sv.OpenThroughout c (o :: rest)) : (sv.perform o).OpenThroughout c rest :=
  fun earlier hearlier => h (o :: earlier) (List.cons_prefix_cons.2 ⟨rfl, hearlier⟩)

/-- What is done in a run, doors aside. -/
def deeds (operations : List Operation) : List Operation := operations.filter fun o => !o.isDoor

/-- Two runs in which the same is done, with doors in either of them in between. -/
inductive SameDeeds : List Operation → List Operation → Prop
  | nil : SameDeeds [] []
  | left {x : Operation} {xs ys : List Operation} (hx : x.isDoor = true) (h : SameDeeds xs ys) :
    SameDeeds (x :: xs) ys
  | right {y : Operation} {xs ys : List Operation} (hy : y.isDoor = true) (h : SameDeeds xs ys) :
    SameDeeds xs (y :: ys)
  | both {o : Operation} {xs ys : List Operation} (h : SameDeeds xs ys) : SameDeeds (o :: xs) (o :: ys)

theorem deeds_cons_door {o : Operation} (ho : o.isDoor = true) (rest : List Operation) :
    deeds (o :: rest) = deeds rest := by
  simp [deeds, ho]

theorem deeds_cons {o : Operation} (ho : o.isDoor = false) (rest : List Operation) :
    deeds (o :: rest) = o :: deeds rest := by
  simp [deeds, ho]

theorem SameDeeds.of_eq {xs ys : List Operation} (h : deeds xs = deeds ys) : SameDeeds xs ys := by
  induction xs generalizing ys with
  | nil =>
    induction ys with
    | nil => exact .nil
    | cons y later ih =>
      cases hy : y.isDoor with
      | true => exact .right hy (ih (h.trans (deeds_cons_door hy later)))
      | false =>
        rw [deeds_cons hy] at h
        cases h
  | cons x rest ih =>
    cases hx : x.isDoor with
    | true => exact .left hx (ih ((deeds_cons_door hx rest).symm.trans h))
    | false =>
      induction ys with
      | nil =>
        rw [deeds_cons hx] at h
        cases h
      | cons y later ihy =>
        cases hy : y.isDoor with
        | true => exact .right hy (ihy (h.trans (deeds_cons_door hy later)))
        | false =>
          -- a deed comes next in both runs, so it is the same
          rw [deeds_cons hx, deeds_cons hy] at h
          obtain ⟨rfl, hrest⟩ := List.cons.inj h
          exact .both (ih hrest)

theorem Alike.performAll (h : a.Alike W b) {xs ys : List Operation} (hsame : SameDeeds xs ys)
    (ha : ∀ c, W c → a.OpenThroughout c xs) (hb : ∀ c, W c → b.OpenThroughout c ys) :
    (a.performAll xs).Alike W (b.performAll ys) := by
  induction hsame generalizing a b with
  | nil => exact h
  | left hx _ ih =>
    have hdoor := h.door hx fun c hc => (ha c hc).head
    exact ih hdoor (fun c hc => (ha c hc).tail) hb
  | right hy _ ih =>
    have hdoor := h.symm.door hy fun c hc => (hb c hc).head
    exact ih hdoor.symm ha fun c hc => (hb c hc).tail
  | @both o _ _ _ ih =>
    have hstep := h.perform o (fun c hc => (ha c hc).head) fun c hc => (hb c hc).head
    exact ih hstep (fun c hc => (ha c hc).tail) fun c hc => (hb c hc).tail

/-- Take two runs in which the same is done to a server, while different connections refuse at different
times. They come to the same sessions, each with its clock and its members, the same registered ids and
the same bindings, and nothing else that the server keeps for itself differs. Every connection that is
open throughout both runs has heard the same in both. -/
theorem refusals_go_unnoticed (sv : Server) {xs ys : List Operation} (hsame : deeds xs = deeds ys) :
    let a := sv.performAll xs
    let b := sv.performAll ys
    a.sessions = b.sessions ∧ a.registered = b.registered ∧ a.bindings = b.bindings ∧
      a.issued = b.issued ∧ a.accepted = b.accepted ∧ a.settings = b.settings ∧ a.now = b.now ∧
      ∀ c, sv.OpenThroughout c xs → sv.OpenThroughout c ys → a.network.heard c = b.network.heard c := by
  intro a b
  -- the connections in question are those that stay open in both runs
  let W : ConnectionId → Prop := fun c => sv.OpenThroughout c xs ∧ sv.OpenThroughout c ys
  have hstart : sv.Alike W sv := by
    refine ⟨sv.network, rfl, fun c hc => ?_, fun c _ => rfl⟩
    exact ⟨hc.1 [] List.nil_prefix, hc.2 [] List.nil_prefix⟩
  have halike : a.Alike W b :=
    hstart.performAll (.of_eq hsame) (fun _ hc => hc.1) fun _ hc => hc.2
  have hheard : ∀ c, sv.OpenThroughout c xs → sv.OpenThroughout c ys →
      a.network.heard c = b.network.heard c := fun c hx hy => halike.network.heard c ⟨hx, hy⟩
  obtain ⟨net, hb, -⟩ := halike
  refine ⟨?_, ?_, ?_, ?_, ?_, ?_, ?_, hheard⟩ <;> rw [hb]

/-- Bob refuses while the session is played and while he asks where it is. Alice does not notice. -/
theorem refusal_of_other_member :
    let alice : ConnectionId := ⟨"alice"⟩
    let bob : ConnectionId := ⟨"bob"⟩
    let named : Json := .object [("session_id", .string (SessionId.generated 1).text)]
    let before : List Operation := [.create 1 0, .onSession 0 (.addMember alice ""),
      .onSession 0 (.addMember bob "")]
    let after : List Operation := [.onSession 0 .play, .input (.dispatch bob "flixy get sync" named)]
    let xs := before ++ .input (.around (.close bob)) :: after ++ [.input (.around (.reopen bob))]
    let ys := before ++ after
    let a := (start {}).performAll xs
    let b := (start {}).performAll ys
    deeds xs = deeds ys ∧ (start {}).OpenThroughout alice xs ∧ (start {}).OpenThroughout alice ys ∧
      (a.network.heard bob).length = 2 ∧ (b.network.heard bob).length = 4 ∧
      a.sessions = b.sessions ∧ a.bindings = b.bindings ∧ a.network.heard alice = b.network.heard alice := by
  intro alice bob named before after xs ys a b
  have hx : (start {}).OpenThroughout alice xs := by
    have hall : ∀ earlier ∈ xs.inits, ((start {}).performAll earlier).network.isOpen alice = true := by
      decide
    exact fun earlier hearlier => hall earlier ((List.mem_inits earlier xs).2 hearlier)
  have hy : (start {}).OpenThroughout alice ys := by
    have hall : ∀ earlier ∈ ys.inits, ((start {}).performAll earlier).network.isOpen alice = true := by
      decide
    exact fun earlier hearlier => hall earlier ((List.mem_inits earlier ys).2 hearlier)
  have hsame : deeds xs = deeds ys := rfl
  have hrefused : (a.network.heard bob).length = 2 := by decide
  have htaken : (b.network.heard bob).length = 4 := by decide
  obtain ⟨hsessions, -, hbindings, -, -, -, -, hheard⟩ := refusals_go_unnoticed (start {}) hsame
  exact ⟨hsame, hx, hy, hrefused, htaken, hsessions, hbindings, hheard alice hx hy⟩

end Server

end WatchParty
