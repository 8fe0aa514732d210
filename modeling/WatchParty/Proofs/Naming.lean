/-
The nicknames of members. A member is called what it asked to be called, without the white space around it,
or by the default of the configuration if nothing is left of that. So nobody is nameless as long as the
default is a name, which no configuration has to see to: `nicknames_proper_iff`.
-/
import WatchParty.Config.Reader
import WatchParty.Proofs.Absence
import WatchParty.Proofs.Movement

namespace WatchParty

open Network (Tells)

/-! ## White space around a text -/

namespace Text

/-- There is more in the text than white space. -/
def Proper (s : String) : Prop := ∃ c ∈ s.toList, isBlank c = false

/-- The second text is the first without the white space at both ends. -/
structure Trimmed (text nick : String) : Prop where
  around : ∃ before after, text.toList = before ++ nick.toList ++ after ∧
    ∀ c ∈ before ++ after, isBlank c = true
  first : ∀ c ∈ nick.toList.head?, isBlank c = false
  last : ∀ c ∈ nick.toList.getLast?, isBlank c = false

theorem isBlank_of_mem_head?_dropWhile (cs : List Char) :
    ∀ c ∈ (cs.dropWhile isBlank).head?, isBlank c = false := by
  intro c hc
  have hnot := List.head?_dropWhile_not isBlank cs
  rw [Option.mem_def.1 hc] at hnot
  exact hnot

theorem trimmed_trim (text : String) : Trimmed text (trim text) := by
  let start := text.toList.takeWhile isBlank
  let rest := text.toList.dropWhile isBlank
  let kept := rest.reverse.dropWhile isBlank
  let stop := rest.reverse.takeWhile isBlank
  have htrim : (trim text).toList = kept.reverse := String.toList_ofList
  have hrest : kept.reverse ++ stop.reverse = rest := by
    rw [← List.reverse_append, List.takeWhile_append_dropWhile, List.reverse_reverse]
  refine ⟨⟨start, stop.reverse, ?_, ?_⟩, ?_, ?_⟩
  · rw [htrim, List.append_assoc, hrest]
    exact List.takeWhile_append_dropWhile.symm
  · intro c hc
    rcases List.mem_append.1 hc with hc | hc
    · exact List.all_eq_true.1 List.all_takeWhile c hc
    · exact List.all_eq_true.1 List.all_takeWhile c (List.mem_reverse.1 hc)
  · -- what is kept begins as the rest does, which has no white space at the front
    intro c hc
    rw [htrim] at hc
    apply isBlank_of_mem_head?_dropWhile text.toList
    change c ∈ rest.head?
    rw [← hrest, List.head?_append, Option.mem_def.1 hc]
    rfl
  · intro c hc
    rw [htrim, List.getLast?_reverse] at hc
    exact isBlank_of_mem_head?_dropWhile rest.reverse c hc

/-- What is left of a text is proper if anything is left. -/
theorem Trimmed.proper {text nick : String} (h : Trimmed text nick) (hne : nick ≠ "") : Proper nick := by
  cases hcs : nick.toList with
  | nil => exact absurd (String.toList_inj.1 hcs) hne
  | cons c cs =>
    have hfirst := h.first c (by rw [hcs]; rfl)
    exact ⟨c, by simp [hcs], hfirst⟩

theorem not_proper_empty : ¬ Proper "" := by
  rintro ⟨c, hc, -⟩
  exact absurd hc List.not_mem_nil

end Text

/-! ## Sessions and views -/

/-- All nicknames in the view are such as their members may have. -/
def SessionView.Named (P : ConnectionId → String → Prop) (v : SessionView) : Prop :=
  ∀ (c : ConnectionId) (m : MemberView), v.members[c]? = some m → P c m.nick

namespace Session

variable {P : ConnectionId → String → Prop} {s : Session}

/-- All nicknames are such as their members may have. The default is one that everybody may have, unless the
session is closed to further members. -/
structure Named (P : ConnectionId → String → Prop) (s : Session) : Prop where
  default : s.closed = false → ∀ c, P c s.defaultNick
  members : ∀ (c : ConnectionId) (m : Member), s.members[c]? = some m → P c m.nickname

/-- If anything is left of the text without the white space around it, it is a nickname that the connection
may have. -/
def Gives (P : ConnectionId → String → Prop) (c : ConnectionId) (text : String) : Prop :=
  Text.trim text ≠ "" → P c (Text.trim text)

theorem named_new {settings : Settings} (h : ∀ c, P c settings.defaultNick) (id : SessionId)
    (videoId time : UInt64) : (new settings id videoId time).Named P :=
  ⟨fun _ => h, fun c m hm => by simp [new] at hm⟩

theorem named_absent (id : SessionId) : (absent id).Named P :=
  ⟨nofun, fun c m hm => by simp [absent] at hm⟩

theorem Named.view (h : s.Named P) : s.view.Named P := by
  intro c m hm
  change (s.members.map fun _ m => m.view)[c]? = some m at hm
  rw [Std.ExtTreeMap.getElem?_map, Option.map_eq_some_iff] at hm
  obtain ⟨member, hmember, rfl⟩ := hm
  exact h.members c member hmember

theorem Named.nicknameFor (h : s.Named P) (hopen : s.closed = false) {c : ConnectionId} {text : String}
    (htext : Gives P c text) : P c (s.nicknameFor text) := by
  unfold Session.nicknameFor
  dsimp only
  split
  · exact h.default hopen c
  · rename_i hleft
    exact htext hleft

theorem Named.withMember (h : s.Named P) (hopen : s.closed = false) {c : ConnectionId} {text : String}
    (htext : Gives P c text) : (s.withMember c text).Named P := by
  refine ⟨h.default, fun d m hm => ?_⟩
  simp only [Session.withMember, Std.ExtTreeMap.getElem?_insert] at hm
  split at hm
  · rename_i hcd
    cases Std.LawfulEqCmp.compare_eq_iff_eq.1 hcd
    cases hm
    exact h.nicknameFor hopen htext
  · exact h.members d m hm

theorem Named.without (h : s.Named P) (c : ConnectionId) : (s.without c).Named P := by
  refine ⟨h.default, fun d m hm => ?_⟩
  simp only [Session.without, Std.ExtTreeMap.getElem?_erase] at hm
  split at hm
  · cases hm
  · exact h.members d m hm

/-- Whatever happens to a session, it names its members as it did, but for one who enters. -/
theorem Named.after (h : s.Named P) {x : Change} (hx : ∀ c text, x = .enter c text → Gives P c text) :
    (s.after x).Named P := by
  cases x with
  | play =>
    cases hclosed : s.closed with
    | true => rw [after_play_closed hclosed]; exact h
    | false => rw [after_play_open hclosed]; exact ⟨h.default, h.members⟩
  | enter c text =>
    cases hclosed : s.closed with
    | true => rw [after_enter_closed hclosed]; exact h
    | false =>
      rw [after_enter_open hclosed]
      exact h.withMember hclosed (hx c text rfl)
  | leave c => rw [after_leave]; exact h.without c
  | closeIfEmpty =>
    rw [after_closeIfEmpty]
    refine ⟨fun hclosed => h.default ?_, h.members⟩
    simp only [Bool.or_eq_false_iff] at hclosed
    exact hclosed.1
  | shutdown => exact ⟨nofun, h.members⟩
  | _ => exact ⟨h.default, h.members⟩

end Session

/-! ## What operations name -/

/-- If the call adds a connection, it may be under the text. -/
def Call.Enters (G : ConnectionId → String → Prop) : Call → Prop
  | .addMember _ c text => G c text
  | _ => True

/-- The event asks for the text as a nickname. -/
def SaysNick (event : String) (data : Json) (text : String) : Prop :=
  ∃ request, Request.decode event data = .ok request ∧ request.nick? = some text

/-- The operation asks for the text as a nickname of the connection. -/
def Operation.Says (c : ConnectionId) (text : String) : Operation → Prop
  | .input (.dispatch d event data) => d = c ∧ SaysNick event data text
  | .input (.receive d (.text frame)) => d = c ∧
    ∃ envelope, Envelope.parse? frame = some envelope ∧ SaysNick envelope.event envelope.data text
  | .onSession _ (.addMember d asked) => d = c ∧ asked = text
  | _ => False

/-- The operation is given an event to send, and the view stands in it. -/
def Operation.Hands (v : SessionView) : Operation → Prop
  | .send _ e => e.view? = some v
  | .onSession _ (.sendToAll e) => e.view? = some v
  | _ => False

namespace Handler

variable {G : ConnectionId → String → Prop}

theorem enters_tellFailure (c : ConnectionId) (event : String) (data : Json) (e : Error) :
    (tellFailure c event data e).Makes (Call.Enters G) := by
  unfold tellFailure
  split
  · trivial
  · exact Makes.bind (makes_ask trivial) fun _ => trivial

/-- An event adds nobody but its connection, under the nickname that it asks for. -/
theorem enters_dispatch {c : ConnectionId} {event : String} {data : Json}
    (hG : ∀ text, SaysNick event data text → G c text) : (dispatch c event data).Makes (Call.Enters G) := by
  unfold dispatch
  cases hd : Request.decode event data with
  | error e => exact enters_tellFailure c event data e
  | ok request =>
    have hhandle : (handle c request).Makes (Call.Enters G) := by
      refine (mayCall_handle c request).mono fun q hq => ?_
      cases q with
      | addMember r d text =>
        obtain ⟨rfl, htext⟩ := hq
        exact hG text ⟨request, hd, htext⟩
      | _ => trivial
    refine Makes.bind hhandle fun outcome => ?_
    cases outcome with
    | error e => exact enters_tellFailure c _ data e
    | ok _ => trivial

theorem enters_disconnect (c : ConnectionId) : (disconnect c).Makes (Call.Enters G) :=
  Makes.bind (makes_depart_of trivial fun _ => trivial) fun _ => trivial

end Handler

/-! ## Servers -/

/-- A view that stands in what is delivered names members as it should, or was handed in. -/
def Delivery.Named (P : ConnectionId → String → Prop) (H : SessionView → Prop) (d : Delivery) : Prop :=
  ∀ v, d.content.view? = some v → v.Named P ∨ H v

namespace Server

open Session (Gives)

/-- All sessions name their members as they should, and so do the views that were delivered, except for those
that were handed in. -/
structure Named (P : ConnectionId → String → Prop) (H : SessionView → Prop) (sv : Server) : Prop where
  default : ∀ c, P c sv.settings.defaultNick
  sessions : ∀ (n : Nat) (s : Session), sv.sessions[n]? = some s → s.Named P
  delivered : ∀ d ∈ sv.network.log, d.Named P H

variable {P : ConnectionId → String → Prop} {H : SessionView → Prop} {sv sv' : Server} {r : SessionRef}

theorem named_start {settings : Settings} (h : ∀ c, P c settings.defaultNick) : (start settings).Named P H :=
  ⟨h, fun n s hs => by simp [start] at hs, fun d hd => by simp [start, Network.empty] at hd⟩

/-- A session that is not there has no members, and gets none. -/
theorem Named.session (h : sv.Named P H) (r : SessionRef) : (sv.session r).Named P := by
  unfold Server.session
  cases hs : sv.sessions[r.number]? with
  | none => exact Session.named_absent r.id
  | some s => exact h.sessions r.number s hs

theorem Named.tells (h : sv.Named P H) (hsettings : sv'.settings = sv.settings)
    (hsessions : sv'.sessions = sv.sessions) (htells : Tells (Delivery.Named P H) sv.network sv'.network) :
    sv'.Named P H := by
  obtain ⟨told, hlog, htold⟩ := htells
  refine ⟨by rw [hsettings]; exact h.default, fun n s hs => ?_, fun d hd => ?_⟩
  · rw [hsessions] at hs
    exact h.sessions n s hs
  · rw [hlog] at hd
    rcases List.mem_append.1 hd with hd | hd
    · exact htold d hd
    · exact h.delivered d hd

/-- Nothing that matters here has changed. -/
theorem Named.same (h : sv.Named P H) (hsettings : sv'.settings = sv.settings)
    (hsessions : sv'.sessions = sv.sessions) (hlog : sv'.network.log = sv.network.log) : sv'.Named P H :=
  h.tells hsettings hsessions ⟨[], hlog, nofun⟩

theorem tells_named_sync {s : Session} (h : s.Named P) (net : Network) :
    Tells (Delivery.Named P H) net (s.sync net) := by
  refine Network.tells_emitAll fun c hc v hv => ?_
  cases hv
  exact .inl h.view

/-- An operation on a session that keeps it named, and tells of nothing but of what becomes of it. -/
theorem Named.onSession (h : sv.Named P H) {α : Type} {f : Session → Network → α × Session × Network}
    (hf : ∀ s net, s.Named P → (f s net).2.1.Named P ∧
      Tells (Delivery.Named P H) net (f s net).2.2) : (sv.onSession r f).2.Named P H := by
  obtain ⟨hnamed, htells⟩ := hf _ sv.network (h.session r)
  have hset : { sv with sessions := sv.sessions.set r.number (f (sv.session r) sv.network).2.1 }.Named P H := by
    refine ⟨h.default, fun n t ht => ?_, h.delivered⟩
    simp only [List.getElem?_set] at ht
    split at ht
    · split at ht
      · cases ht
        exact hnamed
      · cases ht
    · exact h.sessions n t ht
  exact hset.tells rfl rfl htells

theorem Named.syncs (h : sv.Named P H) {α : Type} {f : Session → Network → α × Session × Network}
    (hf : ∀ s net, s.Named P → (f s net).2.1.Named P)
    (hsync : ∀ s net, (f s net).2.2 = net ∨ (f s net).2.2 = (f s net).2.1.sync net) :
    (sv.onSession r f).2.Named P H := by
  refine h.onSession fun s net hs => ⟨hf s net hs, ?_⟩
  rcases hsync s net with hnone | hall
  · rw [hnone]
    exact .refl _ net
  · rw [hall]
    exact tells_named_sync (hf s net hs) net

theorem Named.modify (h : sv.Named P H) {f : Session → Session} (hf : ∀ s, s.Named P → (f s).Named P) :
    (sv.modify r f).Named P H :=
  h.syncs (f := fun s net => ((), f s, net)) (fun s _ => hf s) fun _ _ => .inl rfl

theorem Named.play (h : sv.Named P H) (r : SessionRef) : (sv.play r).Named P H := by
  refine h.syncs (fun s net hs => ?_) fun s net => ?_
  · rw [s.after_play net]
    exact hs.after nofun
  · rcases s.play_cases net with hsame | hsync
    · exact .inl (congrArg Prod.snd hsame)
    · exact .inr hsync

theorem Named.pause (h : sv.Named P H) (r : SessionRef) : (sv.pause r).Named P H :=
  h.syncs (fun _ _ hs => hs.after (x := .pause) nofun) fun _ _ => .inr rfl

theorem Named.setTime (h : sv.Named P H) (r : SessionRef) (time : UInt64) : (sv.setTime r time).Named P H :=
  h.syncs (fun _ _ hs => hs.after (x := .moveTo time) nofun) fun _ _ => .inr rfl

/-- Who is added is told the session first, with its new member. -/
theorem Named.addMember (h : sv.Named P H) (r : SessionRef) {c : ConnectionId} {text : String}
    (htext : Gives P c text) : (sv.addMember r c text).2.Named P H := by
  refine h.onSession fun s net hs => ?_
  cases hclosed : s.closed with
  | true =>
    rw [Session.addMember_closed hclosed]
    exact ⟨hs, .refl _ net⟩
  | false =>
    have hjoined := hs.withMember hclosed htext
    rw [Session.addMember_open hclosed]
    refine ⟨hjoined, Tells.trans (Network.tells_emit fun v hv => ?_) (tells_named_sync hjoined _)⟩
    cases hv
    exact .inl hjoined.view

theorem Named.removeMember (h : sv.Named P H) (r : SessionRef) (c : ConnectionId) :
    (sv.removeMember r c).2.Named P H := by
  refine h.syncs (fun s net hs => ?_) fun s net => ?_
  · rw [s.removeMember_session c net]
    exact hs.without c
  · cases hm : s.members[c]? with
    | none =>
      unfold Session.removeMember
      rw [hm]
      exact .inl rfl
    | some m =>
      rw [Session.removeMember_of_some hm]
      dsimp only
      split
      · exact .inl rfl
      · exact .inr rfl

theorem Named.closeIfEmpty (h : sv.Named P H) (r : SessionRef) : (sv.closeIfEmpty r).2.Named P H :=
  h.syncs (fun _ _ hs => hs.after (x := .closeIfEmpty) nofun) fun _ _ => .inl rfl

theorem Named.shutdown (h : sv.Named P H) (r : SessionRef) : (sv.shutdown r).Named P H :=
  h.modify fun _ hs => hs.after (x := .shutdown) nofun

theorem Named.elapse (h : sv.Named P H) (ms : Nat) : (sv.elapse ms).Named P H := by
  refine ⟨h.default, fun n t ht => ?_, h.delivered⟩
  rw [getElem?_elapse] at ht
  obtain ⟨s, hs, rfl⟩ := Option.map_eq_some_iff.1 ht
  exact (h.sessions n s hs).after (x := .settle _) nofun

theorem Named.newSession (h : sv.Named P H) (id : SessionId) (videoId time : UInt64) :
    (sv.newSession id videoId time).2.Named P H := by
  refine ⟨h.default, fun n t ht => ?_, h.delivered⟩
  rcases getElem?_concat_eq_some.1 ht with ht | ⟨-, rfl⟩
  · exact h.sessions n t ht
  · exact Session.named_new h.default id videoId time

theorem Named.insert (h : sv.Named P H) (r : SessionRef) : (sv.insert r).Named P H := by
  unfold Server.insert
  cases sv.registeredRef? r.id with
  | none => exact h.same rfl rfl rfl
  | some displaced =>
    refine Named.shutdown ?_ displaced
    exact h.same rfl rfl rfl

theorem Named.create (h : sv.Named P H) (videoId time : UInt64) : (sv.create videoId time).2.Named P H := by
  have hissued : { sv with issued := sv.issued + 1 }.Named P H := h.same rfl rfl rfl
  exact (hissued.newSession _ videoId time).insert _

theorem Named.destroy (h : sv.Named P H) (id : SessionId) : (sv.destroy id).2.Named P H := by
  unfold Server.destroy
  cases sv.registeredRef? id with
  | none => exact h
  | some r =>
    refine Named.shutdown ?_ r
    exact h.same rfl rfl rfl

theorem Named.destroyIfEmpty (h : sv.Named P H) (id : SessionId) : (sv.destroyIfEmpty id).2.Named P H := by
  unfold Server.destroyIfEmpty
  cases sv.registeredRef? id with
  | none => exact h
  | some r =>
    have hclosed := h.closeIfEmpty r
    dsimp only
    split
    · refine Named.shutdown ?_ r
      exact hclosed.same rfl rfl rfl
    · exact hclosed

theorem Named.unbind (h : sv.Named P H) (c : ConnectionId) : (sv.unbind c).2.Named P H := by
  unfold Server.unbind
  cases sv.boundSession? c with
  | none => exact h
  | some id =>
    have hunbound : { sv with bindings := sv.bindings.erase c }.Named P H := h.same rfl rfl rfl
    dsimp only
    split
    · exact hunbound
    · exact hunbound.removeMember _ c

theorem Named.send (h : sv.Named P H) (c : ConnectionId) {e : Event}
    (he : ∀ v, e.view? = some v → v.Named P ∨ H v) : (sv.send c e).2.Named P H :=
  h.tells rfl rfl (Network.tells_emit he)

/-! ## Handlers -/

theorem Named.answer (h : sv.Named P H) {q : Call} (hq : q.Enters (Gives P))
    (hsend : ∀ c e, q = .send c e → ∀ v, e.view? = some v → v.Named P ∨ H v) :
    (sv.answer q).2.Named P H := by
  cases q with
  | lookup id => exact h
  | boundSession c => exact h
  | unbind c => exact h.unbind c
  | destroyIfEmpty id => exact h.destroyIfEmpty id
  | create videoId time => exact h.create videoId time
  | addMember r c text => exact h.addMember r hq
  | bind c id => exact h.same rfl rfl rfl
  | play r => exact h.play r
  | pause r => exact h.pause r
  | setTime r time => exact h.setTime r time
  | view r => exact h
  | send c e => exact h.send c (hsend c e rfl)

/-- A handler that sends no views but those it has just looked at. -/
theorem Named.run (h : sv.Named P H) {α : Type} {p : Handler α} {seen : Option SessionView}
    (henters : p.Makes (Call.Enters (Gives P))) (hcandid : p.Candid seen)
    (hseen : ∀ v, seen = some v → v.Named P) : (p.run sv).2.Named P H := by
  induction p generalizing sv seen with
  | done a => exact h
  | call q next ih =>
    have hanswer : (sv.answer q).2.Named P H := by
      refine h.answer henters.1 ?_
      rintro c e rfl v hv
      exact .inl (hseen v (hcandid.1 v hv))
    refine ih (sv.answer q).1 hanswer (henters.2 _) (hcandid.2 _) fun v hv => ?_
    cases q with
    | view r =>
      cases hv
      exact (h.session r).view
    | _ => cases hv

theorem Named.dispatch (h : sv.Named P H) {c : ConnectionId} {event : String} {data : Json}
    (htext : ∀ text, SaysNick event data text → Gives P c text) : (sv.dispatch c event data).Named P H :=
  h.run (Handler.enters_dispatch htext) (Handler.candid_dispatch c event data) nofun

theorem Named.hangUp (h : sv.Named P H) (c : ConnectionId) : (sv.hangUp c).Named P H := by
  have hleft : (sv.disconnect c).Named P H :=
    h.run (Handler.enters_disconnect c) (Handler.candid_disconnect c) nofun
  exact hleft.same rfl rfl rfl

/-! ## Every operation -/

theorem Named.deliver (h : sv.Named P H) (c : ConnectionId) {content : Content} (hview : content.view? = none) :
    (sv.deliver c content).Named P H := by
  refine h.tells rfl rfl (Network.tells_deliver fun v hv => ?_)
  rw [hview] at hv
  cases hv

theorem Named.receive (h : sv.Named P H) {c : ConnectionId} {f : Frame}
    (htext : ∀ d text, (Operation.input (.receive c f)).Says d text → Gives P d text) :
    (sv.receive c f).Named P H := by
  unfold Server.receive
  split
  · exact (h.hangUp c).deliver c rfl
  · cases f with
    | text frame =>
      change (sv.receiveText c frame).Named P H
      unfold receiveText
      cases hparse : Envelope.parse? frame with
      | none => exact h.send c nofun
      | some envelope => exact h.dispatch fun text hsays => htext c text ⟨rfl, envelope, hparse, hsays⟩
    | ping s => exact h.deliver c rfl
    | _ => exact h

theorem Named.take (h : sv.Named P H) {i : Input}
    (htext : ∀ c text, (Operation.input i).Says c text → Gives P c text) : (sv.take i).Named P H := by
  cases i with
  | dispatch c event data => exact h.dispatch fun text hsays => htext c text ⟨rfl, hsays⟩
  | disconnect c => exact h.run (Handler.enters_disconnect c) (Handler.candid_disconnect c) nofun
  | receive c f => exact h.receive htext
  | hangUp c => exact h.hangUp c
  | around o =>
    cases o with
    | settle => exact h.elapse 0
    | elapse ms => exact h.elapse ms
    | _ => exact h.same rfl rfl rfl

theorem Named.operate (h : sv.Named P H) (r : SessionRef) {o : SessionOperation}
    (htext : ∀ c text, (Operation.onSession r.number o).Says c text → Gives P c text)
    (hhands : ∀ v, (Operation.onSession r.number o).Hands v → H v) : (sv.operate r o).Named P H := by
  cases o with
  | insert => exact h.insert r
  | play => exact h.play r
  | pause => exact h.pause r
  | sync => exact h.tells rfl rfl (tells_named_sync (h.session r) sv.network)
  | setTime time => exact h.setTime r time
  | sendToAll e => exact h.tells rfl rfl (Network.tells_emitAll fun _ _ v hv => .inr (hhands v hv))
  | addMember c text => exact h.addMember r (htext c text ⟨rfl, rfl⟩)
  | removeMember c => exact h.removeMember r c
  | closeIfEmpty => exact h.closeIfEmpty r
  | shutdown => exact h.shutdown r
  | drop => exact h.modify fun _ hs => hs.after (x := .endClock) nofun

theorem Named.perform (h : sv.Named P H) {o : Operation} (htext : ∀ c text, o.Says c text → Gives P c text)
    (hhands : ∀ v, o.Hands v → H v) : (sv.perform o).Named P H := by
  cases o with
  | input i => exact h.take htext
  | create videoId time => exact h.create videoId time
  | newSession id videoId time => exact h.newSession id videoId time
  | destroy id => exact h.destroy id
  | destroyIfEmpty id => exact h.destroyIfEmpty id
  | bind c id => exact h.same rfl rfl rfl
  | unbind c => exact h.unbind c
  | send c e => exact h.send c fun v hv => .inr (hhands v hv)
  | onSession n o =>
    simp only [Server.perform]
    split
    · rename_i s hs
      exact h.operate ⟨n, s.id⟩ htext hhands
    · exact h

theorem Named.performAll (h : sv.Named P H) {operations : List Operation}
    (htext : ∀ o ∈ operations, ∀ c text, o.Says c text → Gives P c text)
    (hhands : ∀ o ∈ operations, ∀ v, o.Hands v → H v) : (sv.performAll operations).Named P H := by
  induction operations generalizing sv with
  | nil => exact h
  | cons o rest ih =>
    have hfirst := h.perform (htext o List.mem_cons_self) (hhands o List.mem_cons_self)
    exact ih hfirst (fun p hp => htext p (List.mem_cons_of_mem o hp)) fun p hp =>
      hhands p (List.mem_cons_of_mem o hp)

/-! ## Every run -/

/-- The nickname of a connection is known: it is that of a member, or stands in a view that was delivered,
unless this was handed in, or in one that a page shows. -/
inductive Knows (H : SessionView → Prop) (sv : Server) (c : ConnectionId) : String → Prop
  | member {s : Session} {m : Member} : s ∈ sv.sessions → s.members[c]? = some m → Knows H sv c m.nickname
  | delivered {d : Delivery} {v : SessionView} {m : MemberView} : d ∈ sv.network.log →
    d.content.view? = some v → ¬ H v → v.members[c]? = some m → Knows H sv c m.nick
  | served {timestamp : UInt64} {request : Http.Request} {v : SessionView} {m : MemberView} :
    v ∈ (Http.respond sv timestamp request).content.views → v.members[c]? = some m → Knows H sv c m.nick

theorem Named.knows (h : sv.Named P H) {c : ConnectionId} {nick : String} (hknows : sv.Knows H c nick) :
    P c nick := by
  cases hknows with
  | member hs hm =>
    obtain ⟨n, hn⟩ := List.mem_iff_getElem?.1 hs
    exact (h.sessions n _ hn).members c _ hm
  | delivered hd hv hhanded hm =>
    rcases h.delivered _ hd _ hv with hnamed | hhands
    · exact hnamed c _ hm
    · exact absurd hhands hhanded
  | served hv hm =>
    obtain ⟨id, r, -, rfl⟩ := views_respond hv
    exact (h.session r).view c _ hm

/-- The operations hand the view in. -/
def HandedIn (operations : List Operation) (v : SessionView) : Prop := ∃ o ∈ operations, o.Hands v

/-- Some text was asked for as the nickname of the connection, and this is what is left of it. -/
def AskedFor (operations : List Operation) (c : ConnectionId) (nick : String) : Prop :=
  ∃ o ∈ operations, ∃ text, o.Says c text ∧ Text.Trimmed text nick

/-- Everybody has the default nickname, or a proper one that was asked for. -/
theorem nickname_cases {settings : Settings} {operations : List Operation} {c : ConnectionId} {nick : String}
    (h : ((start settings).performAll operations).Knows (HandedIn operations) c nick) :
    nick = settings.defaultNick ∨ Text.Proper nick ∧ AskedFor operations c nick := by
  have hstart : (start settings).Named
      (fun c nick => nick = settings.defaultNick ∨ Text.Proper nick ∧ AskedFor operations c nick)
      (HandedIn operations) := named_start fun _ => .inl rfl
  refine (hstart.performAll (fun o ho c text hsays hleft => ?_) fun o ho v hv => ⟨o, ho, hv⟩).knows h
  have htrimmed := Text.trimmed_trim text
  exact .inr ⟨htrimmed.proper hleft, o, ho, text, hsays, htrimmed⟩

/-- Whoever is added without a name has the default one. -/
theorem knows_default (settings : Settings) (c : ConnectionId) :
    let operations : List Operation := [.newSession ⟨"s"⟩ 1 0, .onSession 0 (.addMember c "")]
    ((start settings).performAll operations).Knows (HandedIn operations) c settings.defaultNick := by
  intro operations
  let s := (Session.new settings ⟨"s"⟩ 1 0).withMember c ""
  have hs : ((start settings).performAll operations).sessions = [s] := by
    rfl
  have hm : s.members[c]? = some ⟨c, settings.defaultNick, ⟨"s"⟩⟩ := by
    exact Std.ExtTreeMap.getElem?_insert_self
  exact .member (by rw [hs]; exact List.mem_singleton_self s) hm

/-- Nobody is ever nameless, exactly if the default nickname is proper: in every run every member has a
nickname that is not just white space, and so has everyone in the views that are delivered or served, except
for views that were handed in. Whatever the default is, nobody has another nickname than the default or
what is left of a text that was asked for. -/
theorem nicknames_proper_iff (settings : Settings) :
    ((∀ operations c nick, ((start settings).performAll operations).Knows (HandedIn operations) c nick →
        Text.Proper nick) ↔ Text.Proper settings.defaultNick) ∧
    ∀ operations c nick, ((start settings).performAll operations).Knows (HandedIn operations) c nick →
      nick = settings.defaultNick ∨ Text.Proper nick ∧ AskedFor operations c nick := by
  refine ⟨⟨fun hproper => ?_, fun hdefault operations c nick hknows => ?_⟩, fun _ _ _ => nickname_cases⟩
  · exact hproper _ ⟨"c"⟩ _ (knows_default settings ⟨"c"⟩)
  · rcases nickname_cases hknows with rfl | ⟨hproper, -⟩
    · exact hdefault
    · exact hproper

/-- A configuration may leave members without a name: alice, who has given none, is called nothing. -/
theorem alice_is_nameless :
    let alice : ConnectionId := ⟨"alice"⟩
    let operations : List Operation := [.input (.dispatch alice "flixy new" (.object [("video_id", .natural 1)]))]
    ∃ config, (Config.parse "[session]\ndefault_nick = \"\"\n").toOption = some config ∧
      ((start config.settings).performAll operations).Knows (HandedIn operations) alice "" ∧
      ¬ Text.Proper "" := by
  intro alice operations
  refine ⟨{ settings := { defaultNick := "" } }, by decide +kernel, ?_, Text.not_proper_empty⟩
  have hseat : ((start { defaultNick := "" }).performAll operations).seat? 0 alice =
      some ⟨alice, "", .generated 1⟩ := by decide
  obtain ⟨s, hs, hm⟩ := seat?_eq_some.1 hseat
  exact .member (List.mem_of_getElem? hs) hm

end Server

end WatchParty
