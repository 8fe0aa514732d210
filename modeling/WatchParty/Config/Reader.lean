/-
Reading a configuration from a TOML document and from files. A section is a table or a list of its
values in order; a value left out of it has its default, and what the configuration does not know is
ignored. Of the two files that may hold a configuration the first that exists counts, whatever is in
it.
-/
import WatchParty.Config
import WatchParty.Error
import WatchParty.Toml.Document

namespace WatchParty

/-- A setting that has its default when it is left out. -/
def Toml.setting? {α : Type} (read : Toml → Option α) (default : α) : Option Toml → Option α
  | none => some default
  | some v => read v

def Toml.port? (v : Toml) : Option UInt16 := (v.naturalBelow? (2 ^ 16)).map UInt16.ofNat

def Toml.natural? (v : Toml) : Option UInt64 := (v.naturalBelow? (2 ^ 64)).map UInt64.ofNat

def Endpoint.ofToml? (v : Toml) : Option Endpoint := do
  match ← v.arrange? ["host", "port"] with
  | [host, port] =>
    let initial : Endpoint := {}
    return ⟨← Toml.setting? Toml.string? initial.host host,
      ← Toml.setting? Toml.port? initial.port port⟩
  | _ => none

/-- Reads the section on logging. A list must have both of its values. -/
def Logging.ofToml? (v : Toml) : Option Logging := do
  let complete :=
    match v with
    | .array _ items => decide (2 ≤ items.length)
    | _ => true
  match ← v.arrange? ["level", "filters"] with
  | [level, filters] =>
    if complete then
      return ⟨← Toml.setting? (fun v => v.string?.map some) none level,
        ← Toml.setting? (fun v => v.string?.map some) none filters⟩
    else none
  | _ => none

def Settings.ofToml? (v : Toml) : Option Settings := do
  match ← v.arrange? ["tick_ms", "default_nick"] with
  | [tickMs, defaultNick] =>
    let initial : Settings := {}
    return ⟨← Toml.setting? Toml.natural? initial.tickMs tickMs,
      ← Toml.setting? Toml.string? initial.defaultNick defaultNick⟩
  | _ => none

namespace Config

def ofToml? (v : Toml) : Option Config := do
  match ← v.arrange? ["server", "logging", "session"] with
  | [server, logging, session] =>
    return ⟨← Toml.setting? Endpoint.ofToml? {} server,
      ← Toml.setting? (fun v => (Logging.ofToml? v).map some) none logging,
      ← Toml.setting? Settings.ofToml? {} session⟩
  | _ => none

def parse (s : String) : Except Error Config :=
  match (Toml.parse? s).bind ofToml? with
  | some c => .ok c
  | none => .error .badConfiguration

/-! ## Files -/

inductive Entry
  | directory
  | file (content : List UInt8)

def Entry.text : Entry → Except Error String
  | .directory => .error (.unreadable .isDirectory)
  | .file content =>
    match String.fromUTF8? content.toByteArray with
    | some s => .ok s
    | none => .error (.unreadable .notText)

/-- The names under which a configuration may be found, the first one first. -/
def fileNames : List String := ["config.toml", "config.default.toml"]

/-- The configuration that is found in a directory. Without any there are the defaults. -/
def load (find : String → Option Entry) : Except Error Config := do
  match fileNames.findSome? find with
  | some entry => parse (← entry.text)
  | none => return {}

end Config

end WatchParty
