/-
The server's pages: a greeting, the state of all sessions, the way from a session's id to where one
watches it, and the place where websockets are opened. Pages are read only; a request for the head of a
page is answered without the content.
-/
import WatchParty.Server.Registration

namespace WatchParty.Http

/-- A request by its method and its target, which is a path or a whole address. -/
structure Request where
  method : String
  target : String

/-- The content of an answer that something was not found. -/
structure NotFound where
  /-- milliseconds since the first of January 1970 -/
  timestamp : UInt64
  message : String
  path : String

def NotFound.toJson (e : NotFound) : Json :=
  .object [("error", .string "Not Found"), ("message", .string e.message), ("path", .string e.path),
    ("status", .count 404), ("timestamp", .natural e.timestamp)]

inductive Content
  | none
  | text (s : String)
  | sessions (views : List (SessionId × SessionView))
  | session (view : SessionView)
  | notFound (e : NotFound)

/-- The content as JSON, unless it is a plain text. -/
def Content.json? : Content → Option Json
  | .sessions views => some (Server.snapshotJson views)
  | .session view => some view.toJson
  | .notFound e => some e.toJson
  | _ => Option.none

def Content.type? : Content → Option String
  | .none => Option.none
  | .text _ => some "text/plain; charset=utf-8"
  | _ => some "application/json"

structure Response where
  status : Nat
  location : Option String := none
  content : Content := .none
  /-- the content is described but left out -/
  headOnly : Bool := false

/-- The version of the interface, which every answer names. -/
def apiVersion : String := "1"

def Response.sent (r : Response) : Content := if r.headOnly then .none else r.content

/-! ## Routes -/

inductive Route
  | index
  | status
  | session (segment : List Char)
  | socket

/-- The path of a target: without the query, and without what stands before the path in an address. -/
def pathOf (target : String) : List Char :=
  let pathAt := fun (cs : List Char) => cs.takeWhile fun c => c != '?' && c != '#'
  let cs := target.toList
  if cs.head? = some '/' then pathAt cs
  else
    match cs.dropWhile (· != ':') with
    | ':' :: '/' :: '/' :: address =>
      let path := pathAt (address.dropWhile fun c => c != '/' && c != '?' && c != '#')
      if path = [] then ['/'] else path
    | _ => pathAt cs

/-- The page at a path. The id of a session is one segment that is not empty. -/
def Route.ofPath? (path : List Char) : Option Route :=
  if path = "/".toList then some .index
  else if path = "/status".toList then some .status
  else if path = "/socket".toList then some .socket
  else match "/sessions/".toList.isPrefixOf? path with
    | some segment => if segment = [] ∨ '/' ∈ segment then none else some (.session segment)
    | none => none

/-! ## Answers -/

/-- The page of a session: where to watch it, and the session itself. -/
def sessionPage (sv : Server) (timestamp : UInt64) (path segment : List Char) : Response :=
  match Text.percentDecode? (String.ofList segment) with
  | none => { status := 400, content := .text "Invalid URL: Invalid UTF-8 in `session_id`" }
  | some id =>
    match sv.lookup ⟨id⟩ with
    | .ok r =>
      let s := sv.session r
      { status := 302, location := some s.watchUrl, content := .session s.view }
    | .error e =>
      { status := 404, content := .notFound ⟨timestamp, e.message, String.ofList path⟩ }

/-- The answer to a request for a page with its content. -/
def page (sv : Server) (timestamp : UInt64) (path : List Char) : Route → Response
  | .index => { status := 200, content := .text "Hi!" }
  | .status => { status := 200, content := .sessions sv.snapshot }
  | .session segment => sessionPage sv timestamp path segment
  | .socket => { status := 400, content := .text "Connection header did not include 'upgrade'" }

/-- The answer to a request for the head of a page. A websocket is not opened that way. -/
def head (sv : Server) (timestamp : UInt64) (path : List Char) : Route → Response
  | .socket =>
    { status := 405, content := .text "Request method must be `GET`", headOnly := true }
  | route => { page sv timestamp path route with headOnly := true }

/-- Answers a request at a given time. -/
def respond (sv : Server) (timestamp : UInt64) (r : Request) : Response :=
  let path := pathOf r.target
  match Route.ofPath? path with
  | none => { status := 404, headOnly := r.method == "HEAD" }
  | some route =>
    if r.method = "GET" then page sv timestamp path route
    else if r.method = "HEAD" then head sv timestamp path route
    else { status := 405 }

end WatchParty.Http
