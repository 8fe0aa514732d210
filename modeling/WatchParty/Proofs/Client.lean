/-
A websocket client is like any other connection. Each of its frames that spells an event counts as that
event, its end counts as the end of a connection, and all other frames count for nothing. Among the
sessions and to everybody else no difference can be seen; the client itself is told the same as the
connection would be, and besides that gets every text back that is no envelope.
-/
import WatchParty.Proofs.Absence
import WatchParty.Proofs.Handler.Heedless

namespace WatchParty

/-! ## What a client does and is told -/

namespace Frame

/-- The event that a frame spells. -/
def envelope? : Frame → Option Envelope
  | .text s => Envelope.parse? s
  | _ => none

/-- What a client is told about a frame whose text is no envelope. -/
def rebukes : Frame → List Event
  | .text s => if (Envelope.parse? s).isNone then [.invalidData (.string s)] else []
  | _ => []

end Frame

namespace Input

/-- It is the connection that does something, or its door that is closed or opened. -/
def Of (c : ConnectionId) : Input → Prop
  | .dispatch d _ _ => d = c
  | .disconnect d => d = c
  | .receive d _ => d = c
  | .hangUp d => d = c
  | .around (.close d) => d = c
  | .around (.reopen d) => d = c
  | .around _ => False

/-- The client comes to its end: with its last frame, or because the line is cut. -/
def Ends (c : ConnectionId) : Input → Prop
  | .receive d f => d = c ∧ f.isLast = true
  | .hangUp d => d = c
  | _ => False

/-- What a connection does that is no websocket client, when the client of that id does this. -/
def plain (c : ConnectionId) : Input → List Input
  | .receive d f =>
    if d ≠ c then [.receive d f]
    else if f.isLast then [.disconnect c]
    else f.envelope?.toList.map fun envelope => .dispatch c envelope.event envelope.data
  | .hangUp d => if d ≠ c then [.hangUp d] else [.disconnect c]
  | i => [i]

/-- What the client is told that such a connection would not be told. -/
def rebukes (c : ConnectionId) : Input → List Event
  | .receive d f => if d = c then f.rebukes else []
  | _ => []

end Input

/-- The connection is disconnected once, and does nothing more after that. -/
def DisconnectsOnce (c : ConnectionId) (inputs : List Input) : Prop :=
  ∃ earlier later, inputs = earlier ++ .disconnect c :: later ∧ .disconnect c ∉ earlier ∧
    ∀ i ∈ later, ¬ i.Of c

/-- In the second list the connection is disconnected once if in the first one the client comes to its
end, and never if not. -/
def DisconnectsAtEnd (c : ConnectionId) (inputs plain : List Input) : Prop :=
  ((∃ i ∈ inputs, i.Ends c) ∧ DisconnectsOnce c plain) ∨
    ((∀ i ∈ inputs, ¬ i.Ends c) ∧ .disconnect c ∉ plain)

/-! ## In place of the client -/

variable {c : ConnectionId}

namespace Input

variable {i : Input}

theorem plain_of_other (hi : ¬ i.Of c) : i.plain c = [i] ∧ i.rebukes c = [] := by
  cases i with
  | receive d f => exact ⟨if_pos hi, if_neg hi⟩
  | hangUp d => exact ⟨if_pos hi, rfl⟩
  | _ => exact ⟨rfl, rfl⟩

/-- What the plain connection does at the end of the client. -/
theorem plain_of_ends (hi : i.Ends c) : i.plain c = [.disconnect c] ∧ i.rebukes c = [] := by
  cases i with
  | receive d f =>
    obtain ⟨rfl, hf⟩ := hi
    refine ⟨?_, ?_⟩
    · simp [Input.plain, hf]
    · cases f with
      | text text => cases hf
      | _ => simp [Input.rebukes, Frame.rebukes]
  | hangUp d =>
    cases hi
    exact ⟨if_neg fun h => h rfl, rfl⟩
  | dispatch d event data => exact absurd hi fun hn => hn
  | disconnect d => exact absurd hi fun hn => hn
  | around o => exact absurd hi fun hn => hn

theorem withdraws_of_ends (hi : i.Ends c) : i.Withdraws c := by
  cases i with
  | receive d f => exact ⟨hi.1, .inl hi.2⟩
  | hangUp d => exact hi
  | dispatch d event data => exact absurd hi fun hn => hn
  | disconnect d => exact absurd hi fun hn => hn
  | around o => exact absurd hi fun hn => hn

theorem speaks_of (hi : ¬ i.Of c) : ¬ i.Speaks c := by
  cases i with
  | dispatch d event data => exact hi
  | receive d f => exact hi
  | _ => exact fun hn => hn

end Input

theorem DisconnectsOnce.append {first rest : List Input} (h : DisconnectsOnce c rest)
    (hfirst : .disconnect c ∉ first) : DisconnectsOnce c (first ++ rest) := by
  obtain ⟨earlier, later, rfl, hearlier, hlater⟩ := h
  refine ⟨first ++ earlier, later, (List.append_assoc ..).symm, fun hmem => ?_, hlater⟩
  exact (List.mem_append.1 hmem).elim hfirst hearlier

/-- An input that is not the end of the client, and stands for no disconnect, may come first. -/
theorem DisconnectsAtEnd.cons {i : Input} {inputs first plain : List Input}
    (h : DisconnectsAtEnd c inputs plain) (hi : ¬ i.Ends c) (hfirst : .disconnect c ∉ first) :
    DisconnectsAtEnd c (i :: inputs) (first ++ plain) := by
  rcases h with ⟨⟨j, hj, hends⟩, honce⟩ | ⟨hnone, hnever⟩
  · exact .inl ⟨⟨j, List.mem_cons_of_mem i hj, hends⟩, honce.append hfirst⟩
  · refine .inr ⟨fun j hj => ?_, fun hmem => (List.mem_append.1 hmem).elim hfirst hnever⟩
    rcases List.mem_cons.1 hj with rfl | hj
    · exact hi
    · exact hnone j hj

/-- The event that is delivered, if it is one. -/
def Content.event? : Content → Option Event
  | .event e => some e
  | _ => none

namespace Network

/-- The events that a connection has been told, in order. -/
def events (net : Network) (c : ConnectionId) : List Event :=
  (net.heard c).reverse.filterMap Content.event?

/-- The text frames that a websocket client has received, in order. -/
def frames (net : Network) (c : ConnectionId) : List String :=
  (net.events c).map fun e => (Envelope.ofEvent e).render

theorem events_append {old new : Network} {c : ConnectionId} {news : List Content}
    (h : new.heard c = news ++ old.heard c) :
    new.events c = old.events c ++ news.reverse.filterMap Content.event? := by
  unfold events
  rw [h, List.reverse_append, List.filterMap_append]

/-! ## Networks that differ in one connection -/

variable {a b : Network} {c d : ConnectionId}

/-- All connections but one are open to both networks or to none, and have heard the same. -/
structure Besides (c : ConnectionId) (a b : Network) : Prop where
  isOpen : ∀ d, d ≠ c → a.isOpen d = b.isOpen d
  heard : ∀ d, d ≠ c → a.heard d = b.heard d

/-- The networks differ in one connection only, which is open to both and has heard the same news. -/
structure Parallel (c : ConnectionId) (olda oldb : List Content) (a b : Network) : Prop where
  besides : Besides c a b
  isOpen : a.isOpen c = true ∧ b.isOpen c = true
  heard : ∃ news, a.heard c = news ++ olda ∧ b.heard c = news ++ oldb

theorem Besides.deliver (h : Besides c a b) (d : ConnectionId) (content : Content) :
    Besides c (a.deliver d content) (b.deliver d content) := by
  refine ⟨h.isOpen, fun d' hd' => ?_⟩
  by_cases hd : d = d'
  · rw [hd, heard_deliver_self, heard_deliver_self, h.heard d' hd']
  · rw [heard_deliver_other hd, heard_deliver_other hd, h.heard d' hd']

theorem Besides.emit (h : Besides c a b) (d : ConnectionId) (e : Event) :
    Besides c (a.emit d e).2 (b.emit d e).2 := by
  refine ⟨fun d' hd' => ?_, fun d' hd' => ?_⟩
  · rw [isOpen_emit, isOpen_emit, h.isOpen d' hd']
  · by_cases hd : d = d'
    · subst hd
      cases hopen : b.isOpen d with
      | true => rw [heard_emit_open ((h.isOpen d hd').trans hopen), heard_emit_open hopen, h.heard d hd']
      | false =>
        rw [heard_emit_closed ((h.isOpen d hd').trans hopen), heard_emit_closed hopen, h.heard d hd']
    · rw [heard_emit_other hd, heard_emit_other hd, h.heard d' hd']

/-- What changes about the one connection does not matter. -/
theorem Besides.of_left {a' : Network} (h : Besides c a b) (hopen : ∀ d, d ≠ c → a'.isOpen d = a.isOpen d)
    (hheard : ∀ d, d ≠ c → a'.heard d = a.heard d) : Besides c a' b :=
  ⟨fun d hd => (hopen d hd).trans (h.isOpen d hd), fun d hd => (hheard d hd).trans (h.heard d hd)⟩

theorem isOpen_close (net : Network) (c d : ConnectionId) :
    (net.close c).isOpen d = (decide (c ≠ d) && net.isOpen d) := by
  by_cases hcd : c = d
  · simp [isOpen, close, hcd]
  · have hne : compare c d ≠ .eq := fun he => hcd (Std.LawfulEqCmp.compare_eq_iff_eq.1 he)
    simp [isOpen, close, Std.ExtTreeMap.contains_insert, hne, hcd]

theorem isOpen_reopen (net : Network) (c d : ConnectionId) :
    (net.reopen c).isOpen d = (decide (c = d) || net.isOpen d) := by
  by_cases hcd : c = d
  · simp [isOpen, reopen, hcd]
  · have hne : compare c d ≠ .eq := fun he => hcd (Std.LawfulEqCmp.compare_eq_iff_eq.1 he)
    simp [isOpen, reopen, Std.ExtTreeMap.contains_erase, hne, hcd]

theorem Besides.close (h : Besides c a b) (d : ConnectionId) : Besides c (a.close d) (b.close d) := by
  refine ⟨fun d' hd' => ?_, h.heard⟩
  rw [isOpen_close, isOpen_close, h.isOpen d' hd']

theorem Besides.reopen (h : Besides c a b) (d : ConnectionId) :
    Besides c (a.reopen d) (b.reopen d) := by
  refine ⟨fun d' hd' => ?_, h.heard⟩
  rw [isOpen_reopen, isOpen_reopen, h.isOpen d' hd']

variable {olda oldb : List Content}

theorem Parallel.deliver (h : Parallel c olda oldb a b) (d : ConnectionId) (content : Content) :
    Parallel c olda oldb (a.deliver d content) (b.deliver d content) := by
  refine ⟨h.besides.deliver d content, h.isOpen, ?_⟩
  obtain ⟨news, ha, hb⟩ := h.heard
  by_cases hd : d = c
  · refine ⟨content :: news, ?_, ?_⟩
    · rw [hd, heard_deliver_self, ha, List.cons_append]
    · rw [hd, heard_deliver_self, hb, List.cons_append]
  · refine ⟨news, ?_, ?_⟩
    · rw [heard_deliver_other hd, ha]
    · rw [heard_deliver_other hd, hb]

theorem Parallel.emit (h : Parallel c olda oldb a b) (d : ConnectionId) (e : Event) :
    Parallel c olda oldb (a.emit d e).2 (b.emit d e).2 := by
  by_cases hd : d = c
  · subst hd
    obtain ⟨ha, hb⟩ := h.isOpen
    unfold Network.emit
    rw [if_pos ha, if_pos hb]
    exact h.deliver d _
  · refine ⟨h.besides.emit d e, ?_, ?_⟩
    · rw [isOpen_emit, isOpen_emit]
      exact h.isOpen
    · rw [heard_emit_other hd, heard_emit_other hd]
      exact h.heard

/-- The relation lasts when doors of other connections are closed and opened. -/
structure Likeness.Doors (L : Likeness) (c : ConnectionId) : Prop where
  close : ∀ {a b : Network}, L.Holds a b → ∀ d, d ≠ c → L.Holds (a.close d) (b.close d)
  reopen : ∀ {a b : Network}, L.Holds a b → ∀ d, d ≠ c → L.Holds (a.reopen d) (b.reopen d)

/-- All others hear the same. -/
def besides (c : ConnectionId) : Likeness := ⟨Besides c, Besides.emit, Besides.deliver⟩

/-- All others hear the same, and the one connection hears the same news. -/
def parallel (c : ConnectionId) (olda oldb : List Content) : Likeness :=
  ⟨Parallel c olda oldb, Parallel.emit, Parallel.deliver⟩

theorem doors_besides (c : ConnectionId) : (besides c).Doors c :=
  ⟨fun h d _ => Besides.close h d, fun h d _ => Besides.reopen h d⟩

theorem doors_parallel (c : ConnectionId) (olda oldb : List Content) :
    (parallel c olda oldb).Doors c := by
  constructor
  · intro a b h d hdc
    obtain ⟨ha, hb⟩ := h.isOpen
    refine ⟨h.besides.close d, ⟨?_, ?_⟩, h.heard⟩
    · simp [isOpen_close, hdc, ha]
    · simp [isOpen_close, hdc, hb]
  · intro a b h d hdc
    obtain ⟨ha, hb⟩ := h.isOpen
    refine ⟨h.besides.reopen d, ⟨?_, ?_⟩, h.heard⟩
    · simp [isOpen_reopen, ha]
    · simp [isOpen_reopen, hb]

end Network

namespace Server

variable {L : Network.Likeness} {a b : Server} {c : ConnectionId}

/-! ## What others do -/

theorem Like.close (h : a.Like L b) (hdoors : L.Doors c) {d : ConnectionId} (hdc : d ≠ c) :
    (a.closeConnection d).Like L (b.closeConnection d) :=
  h.speak (·.close d) fun _ _ hnet => hdoors.close hnet d hdc

theorem Like.reopen (h : a.Like L b) (hdoors : L.Doors c) {d : ConnectionId} (hdc : d ≠ c) :
    (a.reopenConnection d).Like L (b.reopenConnection d) :=
  h.speak (·.reopen d) fun _ _ hnet => hdoors.reopen hnet d hdc

theorem Like.hangUp (h : a.Like L b) (hdoors : L.Doors c) {d : ConnectionId} (hdc : d ≠ c) :
    (a.hangUp d).Like L (b.hangUp d) :=
  Like.close (h.run (Handler.heedless_disconnect d)).server hdoors hdc

/-- What others do to both servers. -/
theorem Like.take_other (h : a.Like L b) (hdoors : L.Doors c) {i : Input} (hi : ¬ i.Of c) :
    (a.take i).Like L (b.take i) := by
  cases i with
  | dispatch d event data => exact (h.run (Handler.heedless_dispatch d event data)).server
  | disconnect d => exact (h.run (Handler.heedless_disconnect d)).server
  | hangUp d => exact h.hangUp hdoors hi
  | receive d f =>
    change (a.receive d f).Like L (b.receive d f)
    unfold Server.receive
    split
    · exact (h.hangUp hdoors hi).deliver d .hangUp
    · cases f with
      | text text => exact h.receiveText d text
      | ping text => exact h.deliver d (.pong text)
      | _ => exact h
  | around o =>
    cases o with
    | close d => exact h.close hdoors hi
    | reopen d => exact h.reopen hdoors hi
    | accept => exact h.silent (fun sv => sv.accept.2) fun _ _ => rfl
    | settle => exact h.silent (·.settle) fun _ _ => rfl
    | elapse ms => exact h.silent (·.elapse ms) fun _ _ => rfl

/-- What is known of the networks may be less than all that holds of them. -/
theorem Like.mono {M : Network.Likeness} (h : a.Like L b)
    (hLM : ∀ m n : Network, L.Holds m n → M.Holds m n) : a.Like M b := by
  obtain ⟨net, rfl, hnet⟩ := h
  exact ⟨net, rfl, hLM _ _ hnet⟩

/-! ## While the client is there -/

/-- One server has the client and the other one the plain connection. They differ in what these have
been told. -/
structure Alongside (c : ConnectionId) (a b : Server) : Prop where
  like : a.Like (Network.besides c) b
  isOpen : a.network.isOpen c = true ∧ b.network.isOpen c = true

/-- From the state before to the state after, the client was told these events and rebukes, and the
plain connection the same events. -/
structure Told (c : ConnectionId) (a b a' b' : Server) (part rebukes : List Event) : Prop where
  client : a'.network.events c = a.network.events c ++ (part ++ rebukes)
  plain : b'.network.events c = b.network.events c ++ part

theorem Alongside.parallel (h : Alongside c a b) :
    a.Like (Network.parallel c (a.network.heard c) (b.network.heard c)) b := by
  obtain ⟨⟨net, rfl, hnet⟩, hopen⟩ := h
  exact ⟨net, rfl, hnet, hopen, [], rfl, rfl⟩

/-- What both do in the same way is told to both. -/
theorem Alongside.told {a' b' : Server} (h : a'.Like
    (Network.parallel c (a.network.heard c) (b.network.heard c)) b') :
    Alongside c a' b' ∧ ∃ part, Told c a b a' b' part [] := by
  have hnet := h.network
  obtain ⟨news, ha, hb⟩ := hnet.heard
  refine ⟨⟨h.mono fun _ _ hmn => hmn.besides, hnet.isOpen⟩, _, ?_, Network.events_append hb⟩
  rw [List.append_nil]
  exact Network.events_append ha

theorem Alongside.other (h : Alongside c a b) {i : Input} (hi : ¬ i.Of c) :
    Alongside c (a.take i) (b.takeAll (i.plain c)) ∧
      ∃ part, Told c a b (a.take i) (b.takeAll (i.plain c)) part (i.rebukes c) := by
  obtain ⟨hplain, hrebukes⟩ := Input.plain_of_other hi
  rw [hplain, hrebukes]
  exact Alongside.told (h.parallel.take_other (Network.doors_parallel c _ _) hi)

/-- The client alone is told something. -/
theorem Alongside.rebuke (h : Alongside c a b) {content : Content} :
    Alongside c (a.deliver c content) b ∧
      Told c a b (a.deliver c content) b [] content.event?.toList := by
  obtain ⟨⟨net, rfl, hnet⟩, hopen⟩ := h
  refine ⟨⟨⟨net, rfl, hnet.of_left (fun _ _ => rfl) fun d hd => ?_⟩, hopen⟩, ?_, ?_⟩
  · exact Network.heard_deliver_other (Ne.symm hd) a.network content
  · have hheard : (a.network.deliver c content).heard c = [content] ++ a.network.heard c :=
      Network.heard_deliver_self a.network c content
    change (a.network.deliver c content).events c = _
    rw [Network.events_append hheard]
    cases content <;> rfl
  · rw [List.append_nil]

/-- A frame of the client that is not its last one. -/
theorem Alongside.frame (h : Alongside c a b) {f : Frame} (hf : f.isLast = false) :
    Alongside c (a.receive c f) (b.takeAll ((Input.receive c f).plain c)) ∧
      ∃ part, Told c a b (a.receive c f) (b.takeAll ((Input.receive c f).plain c)) part
        ((Input.receive c f).rebukes c) := by
  have hsame : Alongside c a b ∧ ∃ part, Told c a b a b part [] :=
    ⟨h, [], by rw [List.append_nil, List.append_nil], by rw [List.append_nil]⟩
  simp only [Server.receive, Input.plain, Input.rebukes, hf, ne_eq, not_true_eq_false,
    Bool.false_eq_true, if_true, if_false]
  cases f with
  | text text =>
    simp only [Frame.envelope?, Frame.rebukes, Server.receiveText]
    cases Envelope.parse? text with
    | some envelope => exact Alongside.told (h.parallel.run (Handler.heedless_dispatch c _ _)).server
    | none =>
      simp only [Server.send, Network.emit, h.isOpen.1, if_true, Option.isNone_none]
      exact ⟨h.rebuke.1, [], h.rebuke.2⟩
  | ping text => exact ⟨h.rebuke.1, [], h.rebuke.2⟩
  | _ => exact hsame

/-! ## After the end of the client -/

/-- The client is gone, and so is the plain connection. -/
structure Departed (c : ConnectionId) (a b : Server) : Prop where
  like : a.Like (Network.besides c) b
  apart : Apart c a ∧ Apart c b
  quiet : a.Quiescent ∧ b.Quiescent

/-- At its end the client leaves its session, and its door is closed. -/
theorem take_of_ends (sv : Server) {i : Input} (hi : i.Ends c) :
    ∃ net, sv.take i = { sv.disconnect c with network := net } ∧
      Network.Besides c net (sv.disconnect c).network ∧
      net.events c = (sv.disconnect c).network.events c := by
  have hclosed : Network.Besides c ((sv.disconnect c).network.close c) (sv.disconnect c).network := by
    refine ⟨fun d hdc => ?_, fun _ _ => rfl⟩
    simp [Network.isOpen_close, Ne.symm hdc]
  cases i with
  | receive d f =>
    obtain ⟨rfl, hf⟩ := hi
    refine ⟨((sv.disconnect d).network.close d).deliver d .hangUp, ?_, ?_, ?_⟩
    · exact if_pos hf
    · exact hclosed.of_left (fun _ _ => rfl) fun d' hd' => Network.heard_deliver_other (Ne.symm hd') _ _
    · have hheard : (((sv.disconnect d).network.close d).deliver d .hangUp).heard d =
          [.hangUp] ++ (sv.disconnect d).network.heard d :=
        Network.heard_deliver_self _ d .hangUp
      exact (Network.events_append hheard).trans (List.append_nil _)
  | hangUp d =>
    cases hi
    exact ⟨(sv.disconnect c).network.close c, rfl, hclosed, rfl⟩
  | dispatch d event data => exact absurd hi fun hn => hn
  | disconnect d => exact absurd hi fun hn => hn
  | around o => exact absurd hi fun hn => hn

theorem Alongside.last (h : Alongside c a b) (ha : a.Quiescent) (hb : b.Quiescent) {i : Input}
    (hi : i.Ends c) : Departed c (a.take i) (b.takeAll (i.plain c)) ∧
      ∃ part, Told c a b (a.take i) (b.takeAll (i.plain c)) part (i.rebukes c) := by
  obtain ⟨hplain, hrebukes⟩ := Input.plain_of_ends hi
  have hleft := (h.parallel.run (Handler.heedless_disconnect c)).server
  obtain ⟨halong, part, htold⟩ := Alongside.told hleft
  obtain ⟨net, htake, hbesides, hevents⟩ := take_of_ends a hi
  have hquiet : (a.take i).Quiescent := ha.take i
  have hapart : Apart c (a.take i) := ha.apart_take (Input.withdraws_of_ends hi)
  rw [hplain, hrebukes]
  change Departed c (a.take i) (b.disconnect c) ∧
    ∃ part, Told c a b (a.take i) (b.disconnect c) part []
  rw [htake] at hquiet hapart ⊢
  refine ⟨⟨?_, ⟨hapart, hb.apart_disconnect c⟩, hquiet, hb.disconnect c⟩, part, ?_, htold.plain⟩
  · obtain ⟨other, heq, hnet⟩ := halong.like
    refine ⟨other, heq, ?_⟩
    exact Network.Besides.of_left hnet hbesides.isOpen hbesides.heard
  · exact hevents.trans htold.client

theorem heard_of_ignores {old new : Network} (h : Network.Tells (Delivery.Ignores c) old new) :
    new.heard c = old.heard c := by
  obtain ⟨told, hlog, hignores⟩ := h
  have hnone : told.filter (fun x => x.recipient = c) = [] := by
    rw [List.filter_eq_nil_iff]
    intro x hx
    simp [(hignores x hx).1]
  unfold Network.heard
  rw [hlog, List.filter_append, hnone, List.nil_append]

theorem Departed.other (h : Departed c a b) {i : Input} (hi : ¬ i.Of c) :
    Departed c (a.take i) (b.takeAll (i.plain c)) ∧
      Told c a b (a.take i) (b.takeAll (i.plain c)) [] (i.rebukes c) := by
  obtain ⟨hplain, hrebukes⟩ := Input.plain_of_other hi
  rw [hplain, hrebukes]
  change Departed c (a.take i) (b.take i) ∧ Told c a b (a.take i) (b.take i) [] []
  obtain ⟨haparta, htolda⟩ := h.apart.1.take h.quiet.1 (Input.speaks_of hi)
  obtain ⟨hapartb, htoldb⟩ := h.apart.2.take h.quiet.2 (Input.speaks_of hi)
  refine ⟨⟨h.like.take_other (Network.doors_besides c) hi, ⟨haparta, hapartb⟩, h.quiet.1.take i,
    h.quiet.2.take i⟩, ?_, ?_⟩
  · rw [List.append_nil, List.append_nil]
    unfold Network.events
    rw [heard_of_ignores htolda]
  · rw [List.append_nil]
    unfold Network.events
    rw [heard_of_ignores htoldb]

/-! ## Runs -/

/-- A run of the client and one of the plain connection in its place. Nobody else sees a difference;
and with every input the client is told one of the parts and what there is to rebuke, where the plain
connection is told the part. -/
structure Refines (c : ConnectionId) (a b : Server) (inputs : List Input) (parts : List (List Event)) :
    Prop where
  like : (a.takeAll inputs).Like (Network.besides c) (b.takeAll (inputs.flatMap (Input.plain c)))
  length : parts.length = inputs.length
  client : (a.takeAll inputs).network.events c = a.network.events c ++
    (List.zipWith (fun part i => part ++ Input.rebukes c i) parts inputs).flatten
  plain : ∀ k, (b.takeAll ((inputs.take k).flatMap (Input.plain c))).network.events c =
    b.network.events c ++ (parts.take k).flatten

/-- One input, and then a run. -/
theorem Refines.cons {i : Input} {inputs : List Input} {part : List Event} {parts : List (List Event)}
    (h : Refines c (a.take i) (b.takeAll (i.plain c)) inputs parts)
    (htold : Told c a b (a.take i) (b.takeAll (i.plain c)) part (i.rebukes c)) :
    Refines c a b (i :: inputs) (part :: parts) where
  like := by
    rw [takeAll_cons, List.flatMap_cons, takeAll_append]
    exact h.like
  length := congrArg (· + 1) h.length
  client := by
    rw [takeAll_cons, h.client, htold.client, List.zipWith_cons_cons, List.flatten_cons,
      List.append_assoc]
  plain k := by
    cases k with
    | zero => simp [takeAll]
    | succ k =>
      rw [List.take_succ_cons, List.flatMap_cons, takeAll_append, h.plain k, htold.plain,
        List.take_succ_cons, List.flatten_cons, List.append_assoc]

end Server

end WatchParty
