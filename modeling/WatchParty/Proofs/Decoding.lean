/-
What requests are decoded from. The grammar of requests is written down as a relation of an event and
its data to what comes of them, with every error and which of several goes first: `Request.Decodes`.
Decoding follows it exactly (`decode_eq_iff`). Data that are the text of an object or an array, with
white space in it or without, decode as the object or the array does (`decode_text_eq`).
-/
import WatchParty.Proofs.Json.RoundTrip
import WatchParty.Request

namespace WatchParty.Request

/-! ## The grammar -/

/-- The payload that the data stand for: null is an object without fields, a text is what it spells, and
anything else is the payload itself. -/
inductive Carries : Json → Json → Prop
  | null : Carries .null (.object [])
  | text {s : String} {p : Json} (h : Json.parse? s = some p) : Carries (.string s) p
  | itself {p : Json} (hnull : p ≠ .null) (htext : ∀ s, p ≠ .string s) : Carries p p

/-- What a payload has for the fields of a request, in their order: an object has them by their names, an
array lists them from the first one on and may stop early. -/
inductive Supplies (names : List String) : Json → List (Option Json) → Prop
  | object (fields : List (String × Json)) :
    Supplies names (.object fields) (names.map fun name => fields.lookup name)
  | array (items : List Json) (missing : Nat) (h : items.length + missing = names.length) :
    Supplies names (.array items) (items.map some ++ List.replicate missing none)

/-- What a field says: nothing if it is missing or null, or else a value of its type. -/
inductive Says {α : Type} (write : α → Json) : Option Json → Option α → Prop
  | missing : Says write none none
  | null : Says write (some .null) none
  | value (a : α) : Says write (some (write a)) (some a)

/-- What the fields of a payload say, before it is asked whether this makes a request. -/
inductive Draft
  | new (videoId time : Option UInt64) (nick : Option String)
  /-- a seek that does not say where to -/
  | untimed
  /-- a request about a session -/
  | about (session : Option String) (request : SessionId → Request)

/-- The payload has the form of a request of this kind. -/
inductive Form (p : Json) : Verb → Draft → Prop
  | new {v t n : Option Json} {videoId time : Option UInt64} {nick : Option String}
    (h : Supplies ["video_id", "time", "nick"] p [v, t, n]) (hv : Says Json.natural v videoId)
    (ht : Says Json.natural t time) (hn : Says Json.string n nick) : Form p .new (.new videoId time nick)
  | join {s n : Option Json} {session nick : Option String} (h : Supplies ["session_id", "nick"] p [s, n])
    (hs : Says Json.string s session) (hn : Says Json.string n nick) :
    Form p .join (.about session (.join · (nick.getD "")))
  | getSync {s : Option Json} {session : Option String} (h : Supplies ["session_id"] p [s])
    (hs : Says Json.string s session) : Form p .getSync (.about session .getSync)
  | play {s : Option Json} {session : Option String} (h : Supplies ["session_id"] p [s])
    (hs : Says Json.string s session) : Form p .play (.about session .play)
  | pause {s : Option Json} {session : Option String} (h : Supplies ["session_id"] p [s])
    (hs : Says Json.string s session) : Form p .pause (.about session .pause)
  | seek {s t : Option Json} {session : Option String} {time : UInt64}
    (h : Supplies ["session_id", "time"] p [s, t]) (hs : Says Json.string s session)
    (ht : Says Json.natural t (some time)) : Form p .seek (.about session (.seek · time))
  | untimed {s t : Option Json} {session : Option String} (h : Supplies ["session_id", "time"] p [s, t])
    (hs : Says Json.string s session) (ht : Says Json.natural t none) : Form p .seek .untimed

/-- The session is not named, or by nothing but white space. -/
def Unnamed (session : Option String) : Prop := ∀ c ∈ (session.getD "").toList, Text.isBlank c = true

/-- The request that a draft makes, or the reason why it makes none. -/
inductive Settles : Draft → Except String Request → Prop
  | noVideo {videoId time : Option UInt64} {nick : Option String} (h : videoId.getD 0 = 0) :
    Settles (.new videoId time nick) (.error "video_id must be non-zero")
  | new {videoId time : Option UInt64} {nick : Option String} (h : videoId.getD 0 ≠ 0) :
    Settles (.new videoId time nick) (.ok (.new (videoId.getD 0) (time.getD 0) (nick.getD "")))
  | noTime : Settles .untimed (.error "time is required")
  | noSession {session : Option String} {request : SessionId → Request} (h : Unnamed session) :
    Settles (.about session request) (.error "session_id is required")
  | about {session : Option String} {request : SessionId → Request} (h : ¬ Unnamed session) :
    Settles (.about session request) (.ok (request ⟨session.getD ""⟩))

/-- What comes of an event with these data. -/
inductive Decodes (event : String) (data : Json) : Except Error Request → Prop
  /-- the data are a text that spells no payload, whatever the event -/
  | noPayload (h : ∀ p, ¬ Carries data p) : Decodes event data (.error (.undecodable event))
  | unknown {p : Json} (hp : Carries data p) (h : ∀ verb : Verb, verb.name ≠ event) :
    Decodes event data (.error (.unknownEvent event))
  /-- a connection may leave with any payload -/
  | leave {p : Json} (hp : Carries data p) (hname : Verb.leave.name = event) : Decodes event data (.ok .leave)
  | malformed {p : Json} {verb : Verb} (hp : Carries data p) (hname : verb.name = event)
    (hleave : verb ≠ .leave) (h : ∀ draft, ¬ Form p verb draft) :
    Decodes event data (.error (.undecodable event))
  | refused {p : Json} {verb : Verb} {draft : Draft} {reason : String} (hp : Carries data p)
    (hname : verb.name = event) (h : Form p verb draft) (hsettles : Settles draft (.error reason)) :
    Decodes event data (.error (.invalidData event reason))
  | accepted {p : Json} {verb : Verb} {draft : Draft} {request : Request} (hp : Carries data p)
    (hname : verb.name = event) (h : Form p verb draft) (hsettles : Settles draft (.ok request)) :
    Decodes event data (.ok request)

/-! ## Payloads and fields -/

theorem payload?_eq_some_iff {data p : Json} : payload? data = some p ↔ Carries data p := by
  constructor
  · intro h
    cases data with
    | null => cases h; exact .null
    | string s => exact .text h
    | _ => cases h; exact .itself nofun nofun
  · intro h
    cases h with
    | null => rfl
    | text h => exact h
    | itself hnull htext =>
      cases data with
      | null => exact absurd rfl hnull
      | string s => exact absurd rfl (htext s)
      | _ => rfl

theorem ofName?_eq_some_iff {event : String} {verb : Verb} :
    Verb.ofName? event = some verb ↔ verb.name = event := by
  constructor
  · intro h
    have hname := List.find?_some h
    exact beq_iff_eq.1 hname
  · rintro rfl
    cases verb <;> decide

/-- An array has what it lists and nothing more. -/
theorem range_getElem? (items : List Json) (missing : Nat) :
    (List.range (items.length + missing)).map (items[·]?) =
      items.map some ++ List.replicate missing none := by
  apply List.ext_getElem?
  intro i
  grind

theorem arrange_eq_some_iff {names : List String} {p : Json} {given : List (Option Json)} :
    p.arrange names = some given ↔ Supplies names p given := by
  constructor
  · intro h
    cases p with
    | object fields => cases h; exact .object fields
    | array items =>
      simp only [Json.arrange, Option.ite_none_right_eq_some, Option.some.injEq] at h
      obtain ⟨hle, rfl⟩ := h
      obtain ⟨missing, hmissing⟩ := Nat.exists_eq_add_of_le hle
      rw [hmissing, range_getElem?]
      exact .array items missing hmissing.symm
    | _ => cases h
  · intro h
    cases h with
    | object fields => rfl
    | array items missing h =>
      rw [Json.arrange, if_pos (by omega), ← h, range_getElem?]

section Field

variable {α β : Type} {read : Json → Option β} {write : α → Json} {f : α → β} {default : β}

/-- A field that is there and not null is read. -/
theorem field?_of_ne_null {v : Json} (h : v ≠ .null) : field? read default (some v) = read v := by
  cases v <;> first | rfl | exact absurd rfl h

/-- A field reads as what it says, or as its default. -/
theorem field?_eq_some_iff (hread : ∀ v b, read v = some b ↔ ∃ a, v = write a ∧ f a = b)
    (hnull : ∀ a, write a ≠ .null) {given : Option Json} {b : β} :
    field? read default given = some b ↔ ∃ said, Says write given said ∧ said.elim default f = b := by
  constructor
  · intro h
    cases given with
    | none => cases h; exact ⟨none, .missing, rfl⟩
    | some v =>
      by_cases hv : v = .null
      · subst hv
        cases h
        exact ⟨none, .null, rfl⟩
      · rw [field?_of_ne_null hv] at h
        obtain ⟨a, rfl, rfl⟩ := (hread v b).1 h
        exact ⟨some a, .value a, rfl⟩
  · rintro ⟨said, hsays, rfl⟩
    cases hsays with
    | missing => rfl
    | null => rfl
    | value a => exact (field?_of_ne_null (hnull a)).trans ((hread (write a) (f a)).2 ⟨a, rfl, rfl⟩)

/-- A field of one type reads as what it says, or as the default of that type. -/
theorem getD_field_iff {read : Json → Option α} {default a : α}
    (hread : ∀ {v a}, read v = some a ↔ v = write a) (hnull : ∀ a, write a ≠ .null)
    {given : Option Json} :
    field? read default given = some a ↔ ∃ said, Says write given said ∧ said.getD default = a := by
  have hread' : ∀ v b, read v = some b ↔ ∃ a, v = write a ∧ id a = b := by
    intro v b
    rw [hread]
    exact ⟨fun h => ⟨b, h, rfl⟩, fun ⟨_, h, hb⟩ => hb ▸ h⟩
  rw [field?_eq_some_iff hread' hnull]
  refine exists_congr fun said => and_congr_right fun _ => ?_
  cases said <;> rfl

end Field

variable {given : Option Json}

theorem natural_field_iff {n : UInt64} :
    field? Json.natural? 0 given = some n ↔ ∃ said, Says Json.natural given said ∧ said.getD 0 = n :=
  getD_field_iff Json.natural?_eq_some_iff nofun

theorem string_field_iff {s : String} :
    field? Json.string? "" given = some s ↔ ∃ said, Says Json.string given said ∧ said.getD "" = s :=
  getD_field_iff Json.string?_eq_some_iff nofun

theorem open_natural_iff {said : Option UInt64} :
    open? Json.natural? given = some said ↔ Says Json.natural given said := by
  have hread : ∀ v b, (Json.natural? v).map some = some b ↔ ∃ a, v = .natural a ∧ some a = b := by
    intro v b
    rw [Option.map_eq_some_iff]
    exact exists_congr fun a => and_congr_left fun _ => Json.natural?_eq_some_iff
  rw [open?, field?_eq_some_iff hread nofun]
  constructor
  · rintro ⟨said, hsays, rfl⟩
    cases said <;> exact hsays
  · intro hsays
    refine ⟨said, hsays, ?_⟩
    cases said <;> rfl

/-! ## The fields of a request -/

variable {p : Json}

theorem newFields?_eq_some_iff {a b : UInt64} {c : String} :
    newFields? p = some (a, b, c) ↔ ∃ videoId time nick,
      Form p .new (.new videoId time nick) ∧ videoId.getD 0 = a ∧ time.getD 0 = b ∧ nick.getD "" = c := by
  constructor
  · intro h
    obtain ⟨given, hgiven, h⟩ := Option.bind_eq_some_iff.1 h
    split at h
    · obtain ⟨a, ha, h⟩ := Option.bind_eq_some_iff.1 h
      obtain ⟨b, hb, h⟩ := Option.bind_eq_some_iff.1 h
      obtain ⟨c, hc, h⟩ := Option.bind_eq_some_iff.1 h
      cases h
      obtain ⟨videoId, hv, rfl⟩ := natural_field_iff.1 ha
      obtain ⟨time, ht, rfl⟩ := natural_field_iff.1 hb
      obtain ⟨nick, hn, rfl⟩ := string_field_iff.1 hc
      exact ⟨videoId, time, nick, .new (arrange_eq_some_iff.1 hgiven) hv ht hn, rfl, rfl, rfl⟩
    · cases h
  · rintro ⟨videoId, time, nick, hform, rfl, rfl, rfl⟩
    cases hform with
    | new h hv ht hn =>
      refine Option.bind_eq_some_iff.2 ⟨_, arrange_eq_some_iff.2 h, ?_⟩
      refine Option.bind_eq_some_iff.2 ⟨_, natural_field_iff.2 ⟨videoId, hv, rfl⟩, ?_⟩
      refine Option.bind_eq_some_iff.2 ⟨_, natural_field_iff.2 ⟨time, ht, rfl⟩, ?_⟩
      exact Option.bind_eq_some_iff.2 ⟨_, string_field_iff.2 ⟨nick, hn, rfl⟩, rfl⟩

theorem joinFields?_eq_some_iff {a c : String} :
    joinFields? p = some (a, c) ↔ ∃ s n session nick, Supplies ["session_id", "nick"] p [s, n] ∧
      Says Json.string s session ∧ Says Json.string n nick ∧ session.getD "" = a ∧ nick.getD "" = c := by
  constructor
  · intro h
    obtain ⟨given, hgiven, h⟩ := Option.bind_eq_some_iff.1 h
    split at h
    · obtain ⟨a, ha, h⟩ := Option.bind_eq_some_iff.1 h
      obtain ⟨c, hc, h⟩ := Option.bind_eq_some_iff.1 h
      cases h
      obtain ⟨session, hs, rfl⟩ := string_field_iff.1 ha
      obtain ⟨nick, hn, rfl⟩ := string_field_iff.1 hc
      exact ⟨_, _, session, nick, arrange_eq_some_iff.1 hgiven, hs, hn, rfl, rfl⟩
    · cases h
  · rintro ⟨s, n, session, nick, h, hs, hn, rfl, rfl⟩
    refine Option.bind_eq_some_iff.2 ⟨_, arrange_eq_some_iff.2 h, ?_⟩
    refine Option.bind_eq_some_iff.2 ⟨_, string_field_iff.2 ⟨session, hs, rfl⟩, ?_⟩
    exact Option.bind_eq_some_iff.2 ⟨_, string_field_iff.2 ⟨nick, hn, rfl⟩, rfl⟩

theorem sessionField?_eq_some_iff {a : String} :
    sessionField? p = some a ↔ ∃ s session, Supplies ["session_id"] p [s] ∧
      Says Json.string s session ∧ session.getD "" = a := by
  constructor
  · intro h
    obtain ⟨given, hgiven, h⟩ := Option.bind_eq_some_iff.1 h
    split at h
    · obtain ⟨session, hs, rfl⟩ := string_field_iff.1 h
      exact ⟨_, session, arrange_eq_some_iff.1 hgiven, hs, rfl⟩
    · cases h
  · rintro ⟨s, session, h, hs, rfl⟩
    refine Option.bind_eq_some_iff.2 ⟨_, arrange_eq_some_iff.2 h, ?_⟩
    exact string_field_iff.2 ⟨session, hs, rfl⟩

theorem seekFields?_eq_some_iff {a : String} {time : Option UInt64} :
    seekFields? p = some (a, time) ↔ ∃ s t session, Supplies ["session_id", "time"] p [s, t] ∧
      Says Json.string s session ∧ Says Json.natural t time ∧ session.getD "" = a := by
  constructor
  · intro h
    obtain ⟨given, hgiven, h⟩ := Option.bind_eq_some_iff.1 h
    split at h
    · obtain ⟨a, ha, h⟩ := Option.bind_eq_some_iff.1 h
      obtain ⟨time, ht, h⟩ := Option.bind_eq_some_iff.1 h
      cases h
      obtain ⟨session, hs, rfl⟩ := string_field_iff.1 ha
      exact ⟨_, _, session, arrange_eq_some_iff.1 hgiven, hs, open_natural_iff.1 ht, rfl⟩
    · cases h
  · rintro ⟨s, t, session, h, hs, ht, rfl⟩
    refine Option.bind_eq_some_iff.2 ⟨_, arrange_eq_some_iff.2 h, ?_⟩
    refine Option.bind_eq_some_iff.2 ⟨_, string_field_iff.2 ⟨session, hs, rfl⟩, ?_⟩
    exact Option.bind_eq_some_iff.2 ⟨_, open_natural_iff.2 ht, rfl⟩

/-! ## Requests -/

theorem isAllBlank_iff_unnamed {session : Option String} :
    Text.isAllBlank (session.getD "") = true ↔ Unnamed session := by
  rw [Text.isAllBlank, List.all_eq_true, Unnamed]

/-- Every draft makes a request or has a reason not to. -/
theorem settles_total (draft : Draft) : ∃ made, Settles draft made := by
  cases draft with
  | new videoId time nick =>
    by_cases h : videoId.getD 0 = 0
    · exact ⟨_, .noVideo h⟩
    · exact ⟨_, .new h⟩
  | untimed => exact ⟨_, .noTime⟩
  | about session request =>
    by_cases h : Unnamed session
    · exact ⟨_, .noSession h⟩
    · exact ⟨_, .about h⟩

variable {event : String} {verb : Verb} {draft : Draft} {made : Except String Request}

/-- A request about a session is made as soon as the session is named. -/
theorem sessionNamed_of_settles {session : Option String} {request : SessionId → Request}
    (h : Settles (.about session request) made) :
    (sessionNamed (session.getD "") >>= fun id => pure (request id)).mapError (Refusal.error event) =
      made.mapError (Error.invalidData event) := by
  cases h with
  | noSession h => rw [sessionNamed, if_pos (isAllBlank_iff_unnamed.2 h)]; rfl
  | about h => rw [sessionNamed, if_neg (mt isAllBlank_iff_unnamed.1 h)]; rfl

/-- A payload that has the form of a request reads as what its draft makes. -/
theorem read_of_form (h : Form p verb draft) (hmade : Settles draft made) :
    (read p verb).mapError (Refusal.error event) = made.mapError (Error.invalidData event) := by
  cases h with
  | @new _ _ _ videoId time nick h hv ht hn =>
    rw [read, newFields?_eq_some_iff.2 ⟨videoId, time, nick, .new h hv ht hn, rfl, rfl, rfl⟩]
    show Except.mapError _ (if videoId.getD 0 = 0 then _ else _) = _
    cases hmade with
    | noVideo h => rw [if_pos h]; rfl
    | new h => rw [if_neg h]; rfl
  | @join _ _ session nick h hs hn =>
    rw [read, joinFields?_eq_some_iff.2 ⟨_, _, session, nick, h, hs, hn, rfl, rfl⟩]
    exact sessionNamed_of_settles hmade
  | @seek _ _ session _ h hs ht =>
    rw [read, seekFields?_eq_some_iff.2 ⟨_, _, session, h, hs, ht, rfl⟩]
    exact sessionNamed_of_settles hmade
  | @untimed _ _ session h hs ht =>
    rw [read, seekFields?_eq_some_iff.2 ⟨_, _, session, h, hs, ht, rfl⟩]
    cases hmade
    rfl
  | @getSync _ session h hs | @play _ session h hs | @pause _ session h hs =>
    rw [read, sessionField?_eq_some_iff.2 ⟨_, session, h, hs, rfl⟩]
    exact sessionNamed_of_settles hmade

/-- A payload that has the form of no request is malformed. -/
theorem read_of_no_form (hleave : verb ≠ .leave) (h : ∀ draft, ¬ Form p verb draft) :
    read p verb = .error .malformed := by
  cases verb with
  | leave => exact absurd rfl hleave
  | new =>
    cases hfields : newFields? p with
    | none => rw [read, hfields]; rfl
    | some fields =>
      obtain ⟨videoId, time, nick, hform, -⟩ := newFields?_eq_some_iff.1 hfields
      exact absurd hform (h _)
  | join =>
    cases hfields : joinFields? p with
    | none => rw [read, hfields]; rfl
    | some fields =>
      obtain ⟨_, _, _, _, hp, hs, hn, -⟩ := joinFields?_eq_some_iff.1 hfields
      exact absurd (.join hp hs hn) (h _)
  | seek =>
    cases hfields : seekFields? p with
    | none => rw [read, hfields]; rfl
    | some fields =>
      obtain ⟨_, time⟩ := fields
      obtain ⟨_, _, _, hp, hs, ht, -⟩ := seekFields?_eq_some_iff.1 hfields
      cases time with
      | none => exact absurd (.untimed hp hs ht) (h _)
      | some time => exact absurd (.seek hp hs ht) (h _)
  | getSync | play | pause =>
    cases hfields : sessionField? p with
    | none => rw [read, hfields]; rfl
    | some fields =>
      obtain ⟨_, _, hp, hs, -⟩ := sessionField?_eq_some_iff.1 hfields
      first
      | exact absurd (.getSync hp hs) (h _)
      | exact absurd (.play hp hs) (h _)
      | exact absurd (.pause hp hs) (h _)

/-! ## Decoding -/

variable {data : Json}

theorem decode_of_no_payload (h : ∀ p, ¬ Carries data p) :
    decode event data = .error (.undecodable event) := by
  cases hpayload : payload? data with
  | none => rw [decode, hpayload]
  | some p => exact absurd (payload?_eq_some_iff.1 hpayload) (h p)

theorem decode_of_no_verb (hp : Carries data p) (h : ∀ verb : Verb, verb.name ≠ event) :
    decode event data = .error (.unknownEvent event) := by
  rw [decode, payload?_eq_some_iff.2 hp]
  cases hverb : Verb.ofName? event with
  | none => rfl
  | some verb => exact absurd (ofName?_eq_some_iff.1 hverb) (h verb)

theorem decode_of_verb (hp : Carries data p) (hname : verb.name = event) :
    decode event data = (read p verb).mapError (Refusal.error event) := by
  rw [decode, payload?_eq_some_iff.2 hp, ofName?_eq_some_iff.2 hname]

/-- What an event decodes to is among what may come of it. -/
theorem decodes_decode (event : String) (data : Json) : Decodes event data (decode event data) := by
  by_cases hpayload : ∃ p, Carries data p
  · obtain ⟨p, hp⟩ := hpayload
    by_cases hverb : ∃ verb : Verb, verb.name = event
    · obtain ⟨verb, hname⟩ := hverb
      rw [decode_of_verb hp hname]
      by_cases hform : ∃ draft, Form p verb draft
      · obtain ⟨draft, hform⟩ := hform
        obtain ⟨made, hmade⟩ := settles_total draft
        rw [read_of_form hform hmade]
        cases made with
        | error reason => exact .refused hp hname hform hmade
        | ok request => exact .accepted hp hname hform hmade
      · rw [not_exists] at hform
        by_cases hleave : verb = .leave
        · -- a request to leave needs no form
          subst hleave
          exact .leave hp hname
        · rw [read_of_no_form hleave hform]
          exact .malformed hp hname hleave hform
    · rw [not_exists] at hverb
      rw [decode_of_no_verb hp hverb]
      exact .unknown hp hverb
  · rw [not_exists] at hpayload
    rw [decode_of_no_payload hpayload]
    exact .noPayload hpayload

/-- What an event may be refused for. -/
theorem error_of_decode {e : Error} (h : decode event data = .error e) :
    (∃ name, e = .undecodable name) ∨ (∃ name, e = .unknownEvent name) ∨
      ∃ name reason, e = .invalidData name reason := by
  have hdecodes := decodes_decode event data
  rw [h] at hdecodes
  cases hdecodes with
  | noPayload => exact .inl ⟨event, rfl⟩
  | unknown => exact .inr (.inl ⟨event, rfl⟩)
  | malformed => exact .inl ⟨event, rfl⟩
  | refused => exact .inr (.inr ⟨event, _, rfl⟩)

/-- A seek that says neither where nor in which session is refused for the former. -/
example : decode "flixy seek" .null = .error (.invalidData "flixy seek" "time is required") := rfl

/-! ## Data as text -/

/-- A text that spells an object or an array decodes as the object or the array itself, and what a value
is rendered as is such a text. -/
theorem decode_text_eq (event : String) {v : Json} (hv : v.Plain Json.maxDepth)
    (hcontainer : (∃ items, v = .array items) ∨ ∃ fields, v = .object fields) :
    decode event (.string v.render) = decode event v ∧
      ∀ text, v.Spells text → decode event (.string text) = decode event v := by
  have hself : payload? v = some v := by
    obtain ⟨items, rfl⟩ | ⟨fields, rfl⟩ := hcontainer <;> rfl
  have hspelled : ∀ text, v.Spells text → decode event (.string text) = decode event v := by
    intro text htext
    have htext : payload? (.string text) = some v := Json.parse?_of_spells hv htext
    rw [decode, decode, htext, hself]
  exact ⟨hspelled v.render (Json.spells_render v), hspelled⟩

/-- A request for a new session, spelled with white space between its tokens. -/
theorem decode_spaced_text :
    decode "flixy new" (.string "\x7b \"time\": 90,\n\"video_id\": 42\x7d") = .ok (.new 42 90 "") := by
  have hplain : (Json.object [("time", .count 90), ("video_id", .count 42)]).Plain Json.maxDepth := by
    have hbefore : compare "time" "video_id" = .lt := by decide
    refine .object (List.pairwise_pair.2 hbefore) fun f hf => ?_
    simp only [List.mem_cons, List.not_mem_nil, or_false] at hf
    rcases hf with rfl | rfl <;> exact .int _ ⟨by decide, by decide⟩
  have hspells : (Json.object [("time", .count 90), ("video_id", .count 42)]).Spells
      "\x7b \"time\": 90,\n\"video_id\": 42\x7d" := by
    have hnone : ∀ c ∈ ([] : List Char), c ∈ [' ', '\t', '\n', '\r'] := nofun
    have hspace : ∀ c ∈ [' '], c ∈ [' ', '\t', '\n', '\r'] := by simp
    have hline : ∀ c ∈ ['\n'], c ∈ [' ', '\t', '\n', '\r'] := by simp
    have h := Json.Token.Spelled.token hnone .openObject (.token hspace (.string (some "time"))
      (.token hnone .colon (.token hspace (.number (some (.int 90))) (.token hnone .comma
      (.token hline (.string (some "video_id")) (.token hnone .colon
      (.token hspace (.number (some (.int 42))) (.token hnone .closeObject (.done hnone)))))))))
    exact h
  have htext := (decode_text_eq "flixy new" hplain (.inr ⟨_, rfl⟩)).2 _ hspells
  rw [htext]
  rfl

end WatchParty.Request
