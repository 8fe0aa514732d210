/-
The way from a session's id to its page. A text of any characters may be the id of a session; encoded as one
segment of a path it leads to the page of this session and of no other. The page says where to watch, in an
address from which the id reads back, and shows the session as the listing of all sessions does.
-/
import Mathlib.Data.List.TakeWhile
import WatchParty.Http
import WatchParty.Proofs.Server.Operation
import WatchParty.Proofs.Text.Percent

namespace WatchParty

/-! ## Snapshots -/

namespace Server

variable {sv : Server} {id : SessionId} {n : Nat}

/-- A snapshot has one entry under an id that is registered. -/
theorem mem_snapshot_iff (hn : sv.registered[id]? = some n) (v : SessionView) :
    (id, v) ∈ sv.snapshot ↔ v = (sv.session ⟨n, id⟩).view := by
  constructor
  · intro hv
    obtain ⟨r, hr, hview⟩ := mem_snapshot hv
    obtain ⟨hnumber, hid⟩ := registeredRef?_eq_some.1 hr
    rw [hn] at hnumber
    cases hnumber
    cases hid
    exact hview
  · rintro rfl
    have hmem := Std.ExtTreeMap.mem_toList_iff_getElem?_eq_some.2 hn
    exact List.mem_map.2 ⟨(id, n), hmem, rfl⟩

/-- Under the text of the id the listing has the view of the session. -/
theorem field?_snapshotJson (hn : sv.registered[id]? = some n) :
    (snapshotJson sv.snapshot).field? id.text = some (sv.session ⟨n, id⟩).view.toJson := by
  have hmem := Std.ExtTreeMap.mem_toList_iff_getElem?_eq_some.2 hn
  obtain ⟨before, after, hlist⟩ := List.append_of_mem hmem
  have hdistinct := sv.registered.distinct_keys_toList
  rw [hlist, List.pairwise_append] at hdistinct
  unfold snapshotJson snapshot Json.field?
  dsimp only
  rw [hlist, List.map_map, List.map_append, List.map_cons]
  apply List.lookup_eq_some_iff.2
  refine ⟨_, _, rfl, ?_⟩
  intro entry hentry
  obtain ⟨⟨other, m⟩, hother, rfl⟩ := List.mem_map.1 hentry
  have hcompare := hdistinct.2.2 _ hother _ List.mem_cons_self
  apply bne_iff_ne.2
  intro htext
  exact hcompare (Std.compare_eq_iff_eq.2 (congrArg SessionId.mk htext.symm))

end Server

/-! ## Where to watch -/

namespace Http

/-- What stands after the first equals sign in the query of an address. -/
def queryValue (address : String) : String :=
  String.ofList ((address.toList.dropWhile (· != '?')).dropWhile (· != '=')).tail

end Http

namespace Session

variable (s : Session)

/-- The number of a video is written in digits. -/
theorem videoId_range {c : Char} (h : c ∈ (toString s.videoId.toNat).toList) :
    48 ≤ c.toNat ∧ c.toNat ≤ 57 := by
  have hlist : (toString s.videoId.toNat).toList = Nat.toDigits 10 s.videoId.toNat := String.toList_ofList
  rw [hlist] at h
  exact Char.isDigit_iff_toNat.1 (Nat.isDigit_of_mem_toDigits (by decide) (by decide) h)

theorem toList_watchUrl : s.watchUrl.toList = "https://www.netflix.com/watch/".toList ++
    ((toString s.videoId.toNat).toList ++
      ("?flixySessionId=".toList ++ (Text.percentEncode s.id.text).toList)) := by
  unfold watchUrl
  simp only [String.toList_append, List.append_assoc]

/-- All characters of the address are printable, and none of them is a space. -/
theorem watchUrl_range : ∀ c ∈ s.watchUrl.toList, 33 ≤ c.toNat ∧ c.toNat ≤ 126 := by
  have hbase : ∀ c ∈ "https://www.netflix.com/watch/".toList, 33 ≤ c.toNat ∧ c.toNat ≤ 126 := by simp
  have hname : ∀ c ∈ "?flixySessionId=".toList, 33 ≤ c.toNat ∧ c.toNat ≤ 126 := by simp
  intro c hc
  simp only [toList_watchUrl, List.mem_append] at hc
  rcases hc with hc | hc | hc | hc
  · exact hbase c hc
  · have hdigit := s.videoId_range hc
    omega
  · exact hname c hc
  · exact Text.isEncoding_range (Text.isEncoding_percentEncode s.id.text c hc)

theorem queryValue_watchUrl : Http.queryValue s.watchUrl = Text.percentEncode s.id.text := by
  have hbase : ∀ c ∈ "https://www.netflix.com/watch/".toList, (c != '?') = true := by simp
  have hvideo : ∀ c ∈ (toString s.videoId.toNat).toList, (c != '?') = true := by
    intro c hc
    have hdigit := s.videoId_range hc
    apply bne_iff_ne.2
    rintro rfl
    revert hdigit
    decide
  unfold Http.queryValue
  rw [toList_watchUrl, List.dropWhile_append_of_pos hbase, List.dropWhile_append_of_pos hvideo]
  change String.ofList (Text.percentEncode s.id.text).toList = _
  exact String.ofList_toList

end Session

/-! ## Requests -/

namespace Http

/-- The text may stand between two slashes of a path. -/
def IsSegment (segment : String) : Prop :=
  segment ≠ "" ∧ ∀ c ∈ segment.toList, c ≠ '/' ∧ c ≠ '?' ∧ c ≠ '#'

def sessionPath (segment : String) : String := "/sessions/" ++ segment

theorem isSegment_percentEncode {s : String} (h : s ≠ "") : IsSegment (Text.percentEncode s) := by
  constructor
  · intro hempty
    apply Text.toList_percentEncode_ne_nil h
    rw [hempty]
    rfl
  · intro c hc
    have hencoding := Text.isEncoding_percentEncode s c hc
    refine ⟨?_, ?_, ?_⟩
    all_goals
      rintro rfl
      revert hencoding
      decide

theorem pathOf_sessionPath {segment : String} (h : IsSegment segment) :
    pathOf (sessionPath segment) = "/sessions/".toList ++ segment.toList := by
  have hlist : (sessionPath segment).toList = "/sessions/".toList ++ segment.toList := String.toList_append
  have hfirst : ∀ c ∈ "/sessions/".toList, (c != '?' && c != '#') = true := by simp
  have hrest : ∀ c ∈ segment.toList, (c != '?' && c != '#') = true := by
    intro c hc
    obtain ⟨-, hquery, hfragment⟩ := h.2 c hc
    simp [hquery, hfragment]
  unfold pathOf
  dsimp only
  rw [hlist, if_pos (by rfl), List.takeWhile_append_of_pos hfirst, List.takeWhile_eq_self_iff.2 hrest]

theorem ofPath?_session {segment : List Char} (hne : segment ≠ []) (hslash : '/' ∉ segment) :
    Route.ofPath? ("/sessions/".toList ++ segment) = some (.session segment) := by
  have hprefix : "/sessions/".toList.isPrefixOf? ("/sessions/".toList ++ segment) = some segment := by
    rfl
  unfold Route.ofPath?
  rw [if_neg (by simp), if_neg (by simp), if_neg (by simp), hprefix]
  simp [hne, hslash]

/-- A request for a page of a session is answered with the page of what the segment encodes. -/
theorem respond_sessionPath (sv : Server) (timestamp : UInt64) {segment : String} (h : IsSegment segment) :
    respond sv timestamp ⟨"GET", sessionPath segment⟩ =
      sessionPage sv timestamp (sessionPath segment).toList segment.toList := by
  have hne : segment.toList ≠ [] := fun hnil => h.1 (String.toList_inj.1 hnil)
  have hslash : '/' ∉ segment.toList := fun hc => (h.2 '/' hc).1 rfl
  have hlist : (sessionPath segment).toList = "/sessions/".toList ++ segment.toList := String.toList_append
  unfold respond
  dsimp only
  rw [pathOf_sessionPath h, ofPath?_session hne hslash, hlist]
  rfl

/-! ## Answers -/

variable {sv : Server} {id : SessionId} {n : Nat} {segment : String}

theorem sessionPage_of_registered (hid : Text.percentDecode? segment = some id.text)
    (hn : sv.registered[id]? = some n) (timestamp : UInt64) (path : List Char) :
    sessionPage sv timestamp path segment.toList = {
      status := 302
      location := some (sv.session ⟨n, id⟩).watchUrl
      content := .session (sv.session ⟨n, id⟩).view } := by
  have hlookup : sv.lookup ⟨id.text⟩ = .ok ⟨n, id⟩ := by
    unfold Server.lookup Server.registeredRef?
    rw [hn]
    rfl
  unfold sessionPage
  simp only [String.ofList_toList, hid, hlookup]

theorem sessionPage_of_missing (hid : Text.percentDecode? segment = some id.text)
    (hn : sv.registered[id]? = none) (timestamp : UInt64) (path : String) :
    sessionPage sv timestamp path.toList segment.toList = {
      status := 404
      content := .notFound ⟨timestamp, "session not found: " ++ id.text, path⟩ } := by
  have hlookup : sv.lookup ⟨id.text⟩ = .error (.sessionNotFound id) := by
    unfold Server.lookup Server.registeredRef?
    rw [hn]
    rfl
  unfold sessionPage
  simp only [String.ofList_toList, hid, hlookup]
  rfl

theorem sessionPage_of_undecodable (h : Text.percentDecode? segment = none) (timestamp : UInt64)
    (path : List Char) : sessionPage sv timestamp path segment.toList =
      { status := 400, content := .text "Invalid URL: Invalid UTF-8 in `session_id`" } := by
  unfold sessionPage
  rw [String.ofList_toList, h]

/-- The answer to a request for the page of a session, whose id is encoded as a segment of the path. -/
def pageOf (sv : Server) (timestamp : UInt64) (id : SessionId) : Response :=
  respond sv timestamp ⟨"GET", sessionPath (Text.percentEncode id.text)⟩

/-- The answer to a request for the listing of all sessions. -/
def listing (sv : Server) (timestamp : UInt64) : Response := respond sv timestamp ⟨"GET", "/status"⟩

theorem listing_eq (sv : Server) (timestamp : UInt64) :
    listing sv timestamp = { status := 200, content := .sessions sv.snapshot } := by
  rfl

/-- The answer has the one view that the listing has under the id, and leads to where the id stands in the
query. -/
structure LeadsTo (answer listing : Response) (id : SessionId) (view : SessionView) : Prop where
  content : answer.sent = .session view
  listed : ∃ views, listing.sent = .sessions views ∧ ∀ v, (id, v) ∈ views ↔ v = view
  body : listing.sent.json?.bind (Json.field? id.text) = answer.sent.json?
  location : answer.location = some ("https://www.netflix.com/watch/" ++
    toString view.status.videoId.toNat ++ "?flixySessionId=" ++ Text.percentEncode id.text)

theorem leadsTo_of_registered (hg : sv.Grounded) (hid : id.text ≠ "") (hn : sv.registered[id]? = some n)
    (timestamp : UInt64) : ∃ s : Session, s.id = id ∧ (pageOf sv timestamp id).status = 302 ∧
      (pageOf sv timestamp id).location = some s.watchUrl ∧
      LeadsTo (pageOf sv timestamp id) (listing sv timestamp) id s.view := by
  obtain ⟨s, hs, hsid⟩ := hg id n hn
  have hsid : s.id = id := hsid
  have hsession : sv.session ⟨n, id⟩ = s := Server.session_eq hs
  have hanswer : pageOf sv timestamp id =
      { status := 302, location := some s.watchUrl, content := .session s.view } := by
    unfold pageOf
    rw [respond_sessionPath sv timestamp (isSegment_percentEncode hid), ← hsession]
    exact sessionPage_of_registered (Text.percentDecode?_percentEncode id.text) hn timestamp _
  have hlisted := Server.mem_snapshot_iff hn
  have hfield := Server.field?_snapshotJson hn
  rw [hsession] at hlisted hfield
  rw [hanswer, listing_eq]
  refine ⟨s, hsid, rfl, rfl, rfl, ⟨sv.snapshot, rfl, hlisted⟩, hfield, ?_⟩
  rw [← hsid]
  rfl

theorem pageOf_of_missing (hid : id.text ≠ "") (hn : sv.registered[id]? = none) (timestamp : UInt64) :
    pageOf sv timestamp id = {
      status := 404
      content := .notFound ⟨timestamp, "session not found: " ++ id.text,
        sessionPath (Text.percentEncode id.text)⟩ } := by
  unfold pageOf
  rw [respond_sessionPath sv timestamp (isSegment_percentEncode hid)]
  exact sessionPage_of_missing (Text.percentDecode?_percentEncode id.text) hn timestamp _

/-- Wherever the page of an id leads, the id reads back from there. -/
theorem percentDecode?_location (hg : sv.Grounded) (hid : id.text ≠ "") {timestamp : UInt64} {location : String}
    (h : (pageOf sv timestamp id).location = some location) :
    Text.percentDecode? (queryValue location) = some id.text := by
  cases hn : sv.registered[id]? with
  | none =>
    rw [pageOf_of_missing hid hn] at h
    cases h
  | some n =>
    obtain ⟨s, rfl, -, hwatch, -⟩ := leadsTo_of_registered hg hid hn timestamp
    rw [hwatch] at h
    cases h
    rw [s.queryValue_watchUrl]
    exact Text.percentDecode?_percentEncode s.id.text

/-- Whatever has been done to a server: the page of an id redirects exactly if a session is registered under
this id. It then shows what the listing has under the id, and leads to an address of printable characters,
from whose query the id reads back; so no two ids lead to the same address. If nothing is registered under
the id, the answer says so, with the id and with the path as it was asked for. A segment of a path that does
not encode a text leads nowhere. -/
theorem page_of_registered (settings : Settings) (operations : List Operation) (timestamp : UInt64) :
    let sv := (Server.start settings).performAll operations
    (∀ id : SessionId, id.text ≠ "" →
      let answer := pageOf sv timestamp id
      (answer.status = 302 ↔ id ∈ sv.registered) ∧
      (answer.status = 302 → ∃ view location, LeadsTo answer (listing sv timestamp) id view ∧
        answer.location = some location ∧
        (∀ c ∈ location.toList, 33 ≤ c.toNat ∧ c.toNat ≤ 126) ∧
        Text.percentDecode? (queryValue location) = some id.text) ∧
      (answer.status ≠ 302 → answer = {
        status := 404
        content := .notFound ⟨timestamp, "session not found: " ++ id.text,
          sessionPath (Text.percentEncode id.text)⟩ })) ∧
    (∀ (a b : SessionId) (location : String), a.text ≠ "" → b.text ≠ "" →
      (pageOf sv timestamp a).location = some location →
      (pageOf sv timestamp b).location = some location → a = b) ∧
    ∀ segment, IsSegment segment → Text.percentDecode? segment = none →
      respond sv timestamp ⟨"GET", sessionPath segment⟩ =
        { status := 400, content := .text "Invalid URL: Invalid UTF-8 in `session_id`" } := by
  intro sv
  have hg : sv.Grounded := (Server.grounded_start settings).performAll operations
  refine ⟨?_, ?_, ?_⟩
  · intro id hid answer
    cases hn : sv.registered[id]? with
    | none =>
      have hmissing := pageOf_of_missing hid hn timestamp
      have hstatus : answer.status ≠ 302 := by
        rw [show answer = _ from hmissing]
        exact (by decide : 404 ≠ 302)
      have hmem : id ∉ sv.registered := by
        rw [Std.ExtTreeMap.mem_iff_isSome_getElem?, hn]
        exact nofun
      exact ⟨⟨fun h => absurd h hstatus, fun h => absurd h hmem⟩, fun h => absurd h hstatus,
        fun _ => hmissing⟩
    | some n =>
      obtain ⟨s, hsid, hstatus, hwatch, hleads⟩ := leadsTo_of_registered hg hid hn timestamp
      have hmem : id ∈ sv.registered := by
        rw [Std.ExtTreeMap.mem_iff_isSome_getElem?, hn]
        rfl
      refine ⟨⟨fun _ => hmem, fun _ => hstatus⟩, fun _ => ?_, fun h => absurd hstatus h⟩
      exact ⟨s.view, s.watchUrl, hleads, hwatch, s.watchUrl_range, percentDecode?_location hg hid hwatch⟩
  · intro a b location ha hb hlocation hsame
    have htext := percentDecode?_location hg ha hlocation
    rw [percentDecode?_location hg hb hsame] at htext
    cases a
    cases b
    exact congrArg SessionId.mk (Option.some_inj.1 htext.symm)
  · intro segment hsegment hnone
    rw [respond_sessionPath sv timestamp hsegment]
    exact sessionPage_of_undecodable hnone timestamp _

/-- Two sessions of the same video, one of them with an id of which hardly any character stands for itself. -/
theorem page_of_odd_id :
    let odd : SessionId := ⟨"a/ü %"⟩
    let plain : SessionId := ⟨"au"⟩
    let sv := (Server.start {}).performAll [.newSession odd 7 0, .newSession plain 7 0,
      .onSession 0 .insert, .onSession 1 .insert]
    Text.percentEncode odd.text = "a%2F%C3%BC%20%25" ∧ (pageOf sv 0 odd).status = 302 ∧
      (∃ location, (pageOf sv 0 odd).location = some location ∧
        (pageOf sv 0 plain).location ≠ some location ∧
        Text.percentDecode? (queryValue location) = some odd.text) ∧
      (pageOf sv 0 ⟨"A"⟩).status = 404 ∧ (respond sv 0 ⟨"GET", sessionPath "%FF"⟩).status = 400 := by
  intro odd plain sv
  obtain ⟨hpages, hapart, hbad⟩ := page_of_registered {} [.newSession odd 7 0, .newSession plain 7 0,
    .onSession 0 .insert, .onSession 1 .insert] 0
  obtain ⟨hiff, hleads, -⟩ := hpages odd (by decide)
  obtain ⟨hother, -, hmissing⟩ := hpages ⟨"A"⟩ (by decide)
  have hstatus := hiff.2 (by decide)
  obtain ⟨view, location, -, hlocation, -, hread⟩ := hleads hstatus
  have hencoded : Text.percentEncode odd.text = "a%2F%C3%BC%20%25" := by
    rw [Text.percentEncode_eq]
    decide
  have hnone : Text.percentDecode? "%FF" = none := by
    unfold Text.percentDecode?
    rw [Text.toList_bytes]
    decide
  refine ⟨hencoded, hstatus, ⟨location, hlocation, ?_, hread⟩, ?_, ?_⟩
  · intro hsame
    have hequal := hapart odd plain location (by decide) (by decide) hlocation hsame
    exact absurd hequal (by decide)
  · have hanswer := hmissing (mt hother.1 (by decide))
    exact congrArg Response.status hanswer
  · have hsegment : IsSegment "%FF" := by simp [IsSegment]
    exact congrArg Response.status (hbad "%FF" hsegment hnone)

end Http

end WatchParty
