/-
Handlers among the handlers of others. Between any two calls of a connection's handler the others may
make calls of their own, and all that the connection can rely on is `Server.Meanwhile`. A handler is
`Safe` if it makes proper calls only and ends as it should whatever happens meanwhile; it is `Tidy` if
it takes care at once of every open session that a call of its own leaves without members.

A handler whose calls are made in a row is the case in which nothing happens meanwhile.
-/
import WatchParty.Dispatch
import WatchParty.Proofs.Server.Calls

namespace WatchParty

open Server

/-- What may have happened between two calls of a connection's handler: the server is sound, and
nothing that concerns the connection has changed. -/
structure Server.Meanwhile (c : ConnectionId) (sv sv' : Server) : Prop where
  sound : sv'.Sound
  undisturbed : Undisturbed c sv sv'

theorem Server.Meanwhile.trans {c : ConnectionId} {sv₁ sv₂ sv₃ : Server} (h : Meanwhile c sv₁ sv₂)
    (k : Meanwhile c sv₂ sv₃) : Meanwhile c sv₁ sv₃ :=
  ⟨k.sound, h.undisturbed.trans k.undisturbed⟩

theorem Server.Sound.meanwhile {sv : Server} (h : sv.Sound) (c : ConnectionId) : Meanwhile c sv sv :=
  ⟨h, .refl c sv⟩

namespace Handler

variable {α β : Type} {c : ConnectionId} {sv sv' : Server}

/-! ## Safety -/

/-- From a state of the server on, the handler of the connection makes proper calls, and ends with a
result and in a state that are as they should be, whatever others do before each of its calls and
before its end. -/
def Safe (c : ConnectionId) (ends : α → Server → Prop) : Handler α → Server → Prop
  | .done a, sv => ∀ sv', Meanwhile c sv sv' → ends a sv'
  | .call q next, sv => ∀ sv', Meanwhile c sv sv' →
      q.Proper c sv' ∧ (next (sv'.answer q).1).Safe c ends (sv'.answer q).2

/-- A safe handler stays safe whatever others do. -/
theorem Safe.meanwhile {ends : α → Server → Prop} {h : Handler α} (hs : h.Safe c ends sv)
    (hm : Meanwhile c sv sv') : h.Safe c ends sv' := by
  cases h with
  | done a => exact fun sv₁ h₁ => hs sv₁ (hm.trans h₁)
  | call q next => exact fun sv₁ h₁ => hs sv₁ (hm.trans h₁)

/-- How a safe handler ends when it has made all its calls. -/
theorem Safe.ends_of_done {ends : α → Server → Prop} {a : α} (hs : (done a).Safe c ends sv)
    (hsound : sv.Sound) : ends a sv :=
  hs sv (hsound.meanwhile c)

/-- What a safe handler calls next is proper, and the handler goes on safely after it. -/
theorem Safe.call_of_sound {ends : α → Server → Prop} {q : Call} {next : q.Answer → Handler α}
    (hs : (call q next).Safe c ends sv) (hsound : sv.Sound) :
    q.Proper c sv ∧ (next (sv.answer q).1).Safe c ends (sv.answer q).2 :=
  hs sv (hsound.meanwhile c)

/-- A single call is safe if it is proper and what it ends with does not depend on others. -/
theorem safe_ask {q : Call} {ends : q.Answer → Server → Prop}
    (hstable : ∀ answer sv sv', Undisturbed c sv sv' → ends answer sv → ends answer sv')
    (hq : ∀ sv', Meanwhile c sv sv' → q.Proper c sv' ∧ ends (sv'.answer q).1 (sv'.answer q).2) :
    (ask q).Safe c ends sv := by
  intro sv₁ h₁
  obtain ⟨hproper, hends⟩ := hq sv₁ h₁
  exact ⟨hproper, fun sv₂ h₂ => hstable _ _ sv₂ h₂.undisturbed hends⟩

/-- Two programs in a row: the second is safe from wherever the first may end. -/
theorem Safe.bind {between : α → Server → Prop} {ends : β → Server → Prop} {h : Handler α}
    {f : α → Handler β} (hsound : sv.Sound) (hs : h.Safe c between sv)
    (hf : ∀ a sv', sv'.Sound → between a sv' → (f a).Safe c ends sv') : (h >>= f).Safe c ends sv := by
  change (h.andThen f).Safe c ends sv
  induction h generalizing sv with
  | done a => exact hf a sv hsound (hs.ends_of_done hsound)
  | call q next ih =>
    intro sv₁ h₁
    obtain ⟨hq, hnext⟩ := hs sv₁ h₁
    exact ⟨hq, ih (sv₁.answer q).1 (h₁.sound.answer hq) hnext⟩

theorem Safe.mono {ends ends' : α → Server → Prop} (hends : ∀ a sv, ends a sv → ends' a sv)
    {h : Handler α} (hs : h.Safe c ends sv) : h.Safe c ends' sv := by
  induction h generalizing sv with
  | done a => exact fun sv₁ h₁ => hends a sv₁ (hs sv₁ h₁)
  | call q next ih =>
    intro sv₁ h₁
    obtain ⟨hq, hnext⟩ := hs sv₁ h₁
    exact ⟨hq, ih (sv₁.answer q).1 hnext⟩

/-- All calls of a safe handler in a row: it ends as it should, the server stays sound, and nothing
changes for the other connections. -/
theorem Safe.run {ends : α → Server → Prop} {h : Handler α} (hs : h.Safe c ends sv)
    (hsound : sv.Sound) :
    ends (h.run sv).1 (h.run sv).2 ∧ (h.run sv).2.Sound ∧
      ∀ d, c ≠ d → Undisturbed d sv (h.run sv).2 := by
  induction h generalizing sv with
  | done a => exact ⟨hs.ends_of_done hsound, hsound, fun d _ => .refl d sv⟩
  | call q next ih =>
    obtain ⟨hq, hnext⟩ := hs.call_of_sound hsound
    obtain ⟨hend, hsound', hothers⟩ := ih (sv.answer q).1 hnext (hsound.answer hq)
    refine ⟨hend, hsound', fun d hcd => ?_⟩
    have hfirst : Undisturbed d sv (sv.answer q).2 := .answer hsound hcd hq
    exact hfirst.trans (hothers d hcd)

/-! ## Tidiness -/

/-- The next call of the handler is one that leaves no open session of the id without members. -/
def Owes (id : SessionId) : Handler α → Prop
  | .done _ => False
  | .call q _ => q.Tends id

/-- Whenever a call may have left an open session without members, the next one tends it. -/
def Tidy : Handler α → Prop
  | .done _ => True
  | .call q next => ∀ answer, (∀ id, q.Strands answer id → (next answer).Owes id) ∧ (next answer).Tidy

theorem Owes.bind {id : SessionId} {h : Handler α} (ho : h.Owes id) (f : α → Handler β) :
    (h >>= f).Owes id := by
  cases h with
  | done a => exact absurd ho fun hn => hn
  | call q next => exact ho

theorem Tidy.bind {h : Handler α} {f : α → Handler β} (ht : h.Tidy) (hf : ∀ a, (f a).Tidy) :
    (h >>= f).Tidy := by
  change (h.andThen f).Tidy
  induction h with
  | done a => exact hf a
  | call q next ih =>
    intro answer
    obtain ⟨hstrands, hnext⟩ := ht answer
    exact ⟨fun id hid => (hstrands id hid).bind f, ih answer hnext⟩

/-- A single call that leaves no session without members is tidy. -/
theorem tidy_ask {q : Call} (hq : ∀ answer id, ¬ q.Strands answer id) : (ask q).Tidy :=
  fun answer => ⟨fun id hid => absurd hid (hq answer id), trivial⟩

/-- After one call every open session without members is tended next, if each was before. -/
theorem Tidy.owes_answer {ends : α → Server → Prop} {q : Call} {next : q.Answer → Handler α}
    (ht : (call q next).Tidy) (hs : (call q next).Safe c ends sv) (hsound : sv.Sound) {id : SessionId}
    (hf : (sv.answer q).2.Forsaken id) :
    (next (sv.answer q).1).Owes id ∨ (sv.Forsaken id ∧ ¬ (call q next).Owes id) := by
  have hq := (hs.call_of_sound hsound).1
  rcases hsound.forsaken_answer hq hf with hstrands | hbefore
  · exact .inl ((ht (sv.answer q).1).1 id hstrands)
  · exact .inr hbefore

/-- All calls of a tidy and safe handler in a row leave no open session without members, but those it
found and did not tend at once. -/
theorem Tidy.run {ends : α → Server → Prop} {h : Handler α} (ht : h.Tidy) (hs : h.Safe c ends sv)
    (hsound : sv.Sound) (howes : ∀ id, sv.Forsaken id → h.Owes id) (id : SessionId) :
    ¬ (h.run sv).2.Forsaken id := by
  induction h generalizing sv with
  | done a => exact howes id
  | call q next ih =>
    obtain ⟨hq, hnext⟩ := hs.call_of_sound hsound
    refine ih (sv.answer q).1 (ht _).2 hnext (hsound.answer hq) fun id hf => ?_
    rcases ht.owes_answer hs hsound hf with hnow | ⟨hbefore, hnot⟩
    · exact hnow
    · exact absurd (howes id hbefore) hnot

/-! ## Length -/

/-- The handler ends after at most so many calls. -/
def CallsAtMost : Nat → Handler α → Prop
  | _, .done _ => True
  | 0, .call .. => False
  | n + 1, .call _ next => ∀ answer, (next answer).CallsAtMost n

theorem callsAtMost_done (n : Nat) (a : α) : (done a : Handler α).CallsAtMost n := by
  cases n <;> trivial

theorem callsAtMost_ask (q : Call) : (ask q).CallsAtMost 1 := fun _ => trivial

theorem CallsAtMost.mono {m n : Nat} {h : Handler α} (hm : h.CallsAtMost m) (hmn : m ≤ n) :
    h.CallsAtMost n := by
  induction h generalizing m n with
  | done a => exact callsAtMost_done n a
  | call q next ih =>
    obtain ⟨m, rfl⟩ : ∃ k, m = k + 1 := by
      cases m with
      | zero => exact absurd hm fun hn => hn
      | succ k => exact ⟨k, rfl⟩
    obtain ⟨n, rfl⟩ : ∃ k, n = k + 1 := ⟨n - 1, by omega⟩
    exact fun answer => ih answer (hm answer) (by omega)

theorem CallsAtMost.bind {m n : Nat} {h : Handler α} {f : α → Handler β} (hm : h.CallsAtMost m)
    (hn : ∀ a, (f a).CallsAtMost n) : (h >>= f).CallsAtMost (m + n) := by
  change (h.andThen f).CallsAtMost (m + n)
  induction h generalizing m with
  | done a => exact (hn a).mono (by omega)
  | call q next ih =>
    obtain ⟨m, rfl⟩ : ∃ k, m = k + 1 := by
      cases m with
      | zero => exact absurd hm fun hn => hn
      | succ k => exact ⟨k, rfl⟩
    rw [Nat.add_right_comm]
    exact fun answer => ih answer (hm answer)

end Handler

end WatchParty
