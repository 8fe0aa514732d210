/-
Text frames, written and read. The frame of an envelope reads as the envelope: its own object is one
level of nesting, so that the payload may have one less than a value on its own. In this way whatever is
emitted to a websocket client can be told from everything else, and the client gets a text back unaltered
that is no envelope: `emit_round_trip`.
-/
import WatchParty.Outbox
import WatchParty.Proofs.Client
import WatchParty.Proofs.Json.RoundTrip

namespace WatchParty

namespace Envelope

open Json (Token Tree)

variable {e : Envelope}

/-! ## One frame -/

/-- The object that a frame shows, with its fields in the order in which they are written. -/
def shown (e : Envelope) : Json := .object [("event", .string e.event), ("data", e.data)]

theorem tokens_shown (e : Envelope) : e.shown.tokens = e.tokens := by
  unfold shown tokens
  simp only [Json.tokens, Json.fieldTokens, List.cons_append, List.nil_append]

theorem spells_render (e : Envelope) : e.shown.Spells e.render := by
  unfold render
  rw [← tokens_shown]
  exact e.shown.spells_render

theorem legible_shown {room : Nat} (h : e.data.Plain room) : ∀ t ∈ e.shown.tokens, t.Legible := by
  refine Json.legible_object fun f hf => ?_
  rcases List.mem_pair.1 hf with rfl | rfl
  · exact List.forall_mem_singleton.2 rfl
  · exact h.legible

/-- The order of the two fields does not matter to the reader, and there is nothing else to skip. -/
theorem ofTree?_shown (h : e.data.Plain (Json.maxDepth - 1)) : ofTree? e.shown.tree = some e := by
  have harrange : e.shown.tree.arrange? ["event", "data"] =
      some [some (.string (some e.event)), some e.data.tree] := rfl
  unfold ofTree?
  rw [harrange]
  show (do return ⟨e.event, ← e.data.tree.value? (Json.maxDepth - 1)⟩) = some e
  rw [h.value?_tree]
  rfl

/-- The frame that is written for an envelope reads as the envelope. -/
theorem parse?_render (h : e.data.Plain (Json.maxDepth - 1)) : parse? e.render = some e := by
  unfold parse?
  rw [Tree.parse?_of_spells e.spells_render (legible_shown h)]
  exact ofTree?_shown h

/-- No two envelopes have the same frame. -/
theorem eq_of_render {e e' : Envelope} (h : e.data.Plain (Json.maxDepth - 1))
    (h' : e'.data.Plain (Json.maxDepth - 1)) (hsame : e.render = e'.render) : e = e' := by
  have hparse := parse?_render h
  rw [hsame, parse?_render h'] at hparse
  exact (Option.some.inj hparse).symm

end Envelope

/-! ## The answer to a text -/

/-- A client that takes what is emitted gets a text that is no envelope back, in one more frame. -/
theorem Server.frames_receive_text {sv : Server} {c : ConnectionId} {text : String}
    (hopen : sv.network.isOpen c = true) (hno : Envelope.parse? text = none) :
    (sv.receive c (.text text)).network.frames c =
      sv.network.frames c ++ [(Envelope.ofEvent (.invalidData (.string text))).render] := by
  have hheard : (sv.receive c (.text text)).network.heard c =
      [.event (.invalidData (.string text))] ++ sv.network.heard c := by
    show (sv.receiveText c text).network.heard c = _
    unfold receiveText
    rw [hno]
    exact Network.heard_emit_open hopen _
  unfold Network.frames
  rw [Network.events_append hheard, List.map_append]
  rfl

namespace Outbox

/-! ## Queues -/

theorem emit_live {q : Outbox} (hlive : q.live = true) (event : String) (data : Json) :
    q.emit event data =
      (.ok (), { q with frames := q.frames ++ [Envelope.render ⟨event, data⟩] }) := by
  unfold emit
  rw [if_pos hlive]

/-- What is emitted into any queue is queued as the frame of its event and payload, if at all. -/
theorem render_of_emit {q : Outbox} {event frame : String} {data : Json}
    (h : (q.emit event data).2.frames = q.frames ++ [frame]) : Envelope.render ⟨event, data⟩ = frame := by
  cases hlive : q.live with
  | true =>
    rw [emit_live hlive] at h
    exact List.cons.inj (List.append_cancel_left h) |>.1
  | false =>
    unfold emit at h
    rw [hlive] at h
    exact absurd (List.self_eq_append_right.1 h) (List.cons_ne_nil _ _)

/-- A payload whose numbers are integers of 64 bits and which nests up to 126 levels deep is queued as one
frame, which reads as the event and the payload, and is queued for no other such event and payload, in
whatever queue. And the frame that answers a text which is no envelope reads as that very text. -/
theorem emit_round_trip (q : Outbox) (hlive : q.live = true) (event : String) (data : Json)
    (hplain : data.Plain 126) :
    (∃ frame, q.emit event data = (.ok (), { q with frames := q.frames ++ [frame] }) ∧
      Envelope.parse? frame = some ⟨event, data⟩ ∧
      ∀ (q' : Outbox) (event' : String) (data' : Json), data'.Plain 126 →
        (q'.emit event' data').2.frames = q'.frames ++ [frame] → event' = event ∧ data' = data) ∧
    ∀ (sv : Server) (c : ConnectionId) (text : String), sv.network.isOpen c = true →
      Envelope.parse? text = none →
      ∃ frame, (sv.receive c (.text text)).network.frames c = sv.network.frames c ++ [frame] ∧
        q.send (.invalidData (.string text)) = (.ok (), { q with frames := q.frames ++ [frame] }) ∧
        Envelope.parse? frame = some ⟨"flixy invalid data", .string text⟩ := by
  constructor
  · refine ⟨_, emit_live hlive event data, Envelope.parse?_render hplain, ?_⟩
    intro q' event' data' hplain' hsame
    have heq : (⟨event', data'⟩ : Envelope) = ⟨event, data⟩ :=
      Envelope.eq_of_render hplain' hplain (render_of_emit hsame)
    exact ⟨congrArg Envelope.event heq, congrArg Envelope.data heq⟩
  · intro sv c text hopen hno
    refine ⟨_, Server.frames_receive_text hopen hno, emit_live hlive _ _, ?_⟩
    exact Envelope.parse?_render (e := ⟨"flixy invalid data", .string text⟩) (.string _ text)

/-- A payload with the extreme integers and with names and strings full of quotes, and a text that is no
envelope for want of a name. -/
theorem quotes_round_trip :
    let q := Outbox.new ⟨"alice"⟩ none
    let data : Json := Json.record [("\\", .array [.number (.int (2 ^ 64 - 1)), .number (.int (-2 ^ 63))]),
      ("\"\x01", .string "\x7b\"\t\"\x7d")]
    let nameless := "\x7b\"data\": 1\x7d"
    (∃ frame, q.emit "\"é\n" data = (.ok (), { q with frames := [frame] }) ∧
      Envelope.parse? frame = some ⟨"\"é\n", data⟩) ∧
    ∃ frame, ((Server.start {}).receive q.id (.text nameless)).network.frames q.id = [frame] ∧
      Envelope.parse? frame = some ⟨"flixy invalid data", .string nameless⟩ := by
  intro q data nameless
  have hplain : data.Plain 126 := by
    refine Json.plain_record (by decide) fun f hf => ?_
    rcases List.mem_pair.1 hf with rfl | rfl
    · refine .array fun v hv => ?_
      rcases List.mem_pair.1 hv with rfl | rfl <;> exact .int _ ⟨by decide, by decide⟩
    · exact .string _ _
  have hopen : (Server.start {}).network.isOpen q.id = true := by decide
  have hno : Envelope.parse? "\x7b\"data\": 1\x7d" = none := rfl
  obtain ⟨⟨frame, hqueued, hparse, -⟩, hreply⟩ := emit_round_trip q rfl "\"é\n" data hplain
  obtain ⟨reply, htold, -, hsame⟩ := hreply (Server.start {}) q.id _ hopen hno
  exact ⟨⟨frame, hqueued, hparse⟩, reply, htold, hsame⟩

end Outbox

end WatchParty
