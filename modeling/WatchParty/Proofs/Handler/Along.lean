/-
The calls that a handler makes from a given state of the server, when nothing happens between them.
`Handler.Along` says of each of them what holds of it in the state in which it is made. What every such
call brings about is brought about by the handler as a whole, if it can be chained: `Along.run`.
-/
import WatchParty.Proofs.Handler.Candid
import WatchParty.Proofs.Handler.Makes
import WatchParty.Proofs.Server.Told

namespace WatchParty

namespace Handler

variable {α β : Type} {P Q : Server → Call → Prop} {sv : Server} {c : ConnectionId}

/-- When the calls of the handler are made in a row, this holds of each of them and of the server it
is made on. -/
def Along (P : Server → Call → Prop) : Handler α → Server → Prop
  | .done _, _ => True
  | .call q next, sv => P sv q ∧ (next (sv.answer q).1).Along P (sv.answer q).2

theorem along_ask {q : Call} (hq : P sv q) : (ask q).Along P sv := ⟨hq, trivial⟩

theorem Along.bind {h : Handler α} {f : α → Handler β} (hh : h.Along P sv)
    (hf : (f (h.run sv).1).Along P (h.run sv).2) : (h >>= f).Along P sv := by
  change (h.andThen f).Along P sv
  induction h generalizing sv with
  | done a => exact hf
  | call q next ih => exact ⟨hh.1, ih (sv.answer q).1 hh.2 hf⟩

theorem Along.mono {h : Handler α} (hh : h.Along P sv) (hPQ : ∀ sv q, P sv q → Q sv q) :
    h.Along Q sv := by
  induction h generalizing sv with
  | done a => trivial
  | call q next ih => exact ⟨hPQ sv q hh.1, ih (sv.answer q).1 hh.2⟩

theorem Along.and {h : Handler α} (hP : h.Along P sv) (hQ : h.Along Q sv) :
    h.Along (fun sv q => P sv q ∧ Q sv q) sv := by
  induction h generalizing sv with
  | done a => trivial
  | call q next ih => exact ⟨⟨hP.1, hQ.1⟩, ih (sv.answer q).1 hP.2 hQ.2⟩

/-- Whatever the calls are answered, they are of a kind; so they are when they are made in a row. -/
theorem Makes.along {K : Call → Prop} {h : Handler α} (hh : h.Makes K) (sv : Server) :
    h.Along (fun _ q => K q) sv := by
  induction h generalizing sv with
  | done a => trivial
  | call q next ih => exact ⟨hh.1, ih (sv.answer q).1 (hh.2 _) (sv.answer q).2⟩

/-- What every call brings about, the handler brings about. -/
theorem Along.run {R : Server → Server → Prop} (hrefl : ∀ sv, R sv sv)
    (htrans : ∀ {sv₁ sv₂ sv₃}, R sv₁ sv₂ → R sv₂ sv₃ → R sv₁ sv₃)
    (hstep : ∀ sv q, P sv q → R sv (sv.answer q).2) {h : Handler α} (hh : h.Along P sv) :
    R sv (h.run sv).2 := by
  induction h generalizing sv with
  | done a => exact hrefl sv
  | call q next ih => exact htrans (hstep sv q hh.1) (ih (sv.answer q).1 hh.2)

end Handler

/-! ## Calls of a connection -/

/-- The server is sound, and the call is a proper one of the connection that shows sessions as they
are. -/
structure Call.Fair (c : ConnectionId) (sv : Server) (q : Call) : Prop where
  sound : sv.Sound
  proper : q.Proper c sv
  truthful : q.Truthful sv

/-- What a proper call shows of a session is as it is after the call. -/
theorem Call.Proper.shows {c : ConnectionId} {sv : Server} {q : Call} (hq : q.Proper c sv)
    {v : SessionView} (hv : q.seen? (sv.answer q).1 = some v) : (sv.answer q).2.Shows v := by
  cases q with
  | view r =>
    obtain ⟨s, hs, -⟩ := hq
    cases hv
    refine ⟨r.number, s, hs, ?_⟩
    change (sv.session r).view = s.view
    rw [Server.session_eq hs]
  | _ => cases hv

theorem Call.Repeats.truthful {sv : Server} {q : Call} {seen : Option SessionView}
    (h : q.Repeats seen) (hseen : ∀ v, seen = some v → sv.Shows v) : q.Truthful sv := by
  cases q with
  | send c e => exact fun v hv => hseen v (h v hv)
  | _ => trivial

namespace Handler

variable {α : Type} {c : ConnectionId} {sv : Server}

/-- All calls of a safe and candid handler are fair. -/
theorem Safe.along {ends : α → Server → Prop} {h : Handler α} (hs : h.Safe c ends sv)
    (hsound : sv.Sound) {seen : Option SessionView} (hcandid : h.Candid seen)
    (hseen : ∀ v, seen = some v → sv.Shows v) : h.Along (fun sv q => q.Fair c sv) sv := by
  induction h generalizing sv seen with
  | done a => trivial
  | call q next ih =>
    obtain ⟨hq, hnext⟩ := hs.call_of_sound hsound
    refine ⟨⟨hsound, hq, hcandid.1.truthful hseen⟩, ?_⟩
    exact ih (sv.answer q).1 hnext (hsound.answer hq) (hcandid.2 _) fun v => hq.shows

end Handler

namespace Server

open Handler

variable {sv : Server}

theorem along_dispatch (hsound : sv.Sound) {c : ConnectionId} (h : Settled c sv) (event : String)
    (data : Json) : (Handler.dispatch c event data).Along (fun sv q => q.Fair c sv) sv :=
  (safe_dispatch hsound h event data).along hsound (candid_dispatch c event data) nofun

theorem along_disconnect (hsound : sv.Sound) {c : ConnectionId} (h : Settled c sv) :
    (Handler.disconnect c).Along (fun sv q => q.Fair c sv) sv :=
  (safe_disconnect hsound h).along hsound (candid_disconnect c) nofun

end Server

end WatchParty
