/-
Handlers: programs that make one call on the server after the other, where each call depends on the
answers to those before. A call is the smallest step. `Handler.run` makes the calls of one handler in a
row; between two of them, calls of other handlers might be made as well.
-/
import WatchParty.Server.Registration

namespace WatchParty

/-- A call that a handler makes. -/
inductive Call
  | lookup (id : SessionId)
  | boundSession (c : ConnectionId)
  | unbind (c : ConnectionId)
  | destroyIfEmpty (id : SessionId)
  | create (videoId time : UInt64)
  | addMember (r : SessionRef) (c : ConnectionId) (nick : String)
  | bind (c : ConnectionId) (id : SessionId)
  | play (r : SessionRef)
  | pause (r : SessionRef)
  | setTime (r : SessionRef) (time : UInt64)
  | view (r : SessionRef)
  | send (c : ConnectionId) (e : Event)

@[reducible] def Call.Answer : Call → Type
  | .lookup _ => Except Error SessionRef
  | .boundSession _ => Option SessionId
  | .unbind _ => Except Error Unbound
  | .destroyIfEmpty _ => Bool
  | .create .. => SessionRef
  | .addMember .. => Except Error Member
  | .bind .. => Option SessionId
  | .play _ => Unit
  | .pause _ => Unit
  | .setTime .. => Unit
  | .view _ => SessionView
  | .send .. => Except Error Unit

def Server.answer (sv : Server) : (q : Call) → q.Answer × Server
  | .lookup id => (sv.lookup id, sv)
  | .boundSession c => (sv.boundSession? c, sv)
  | .unbind c => sv.unbind c
  | .destroyIfEmpty id => sv.destroyIfEmpty id
  | .create videoId time => sv.create videoId time
  | .addMember r c nick => sv.addMember r c nick
  | .bind c id => sv.bind c id
  | .play r => ((), sv.play r)
  | .pause r => ((), sv.pause r)
  | .setTime r time => ((), sv.setTime r time)
  | .view r => ((sv.session r).view, sv)
  | .send c e => sv.send c e

/-- A program of calls that ends with a result. -/
inductive Handler (α : Type)
  | done (a : α)
  | call (q : Call) (next : q.Answer → Handler α)

namespace Handler

/-- Goes on with another program once the first has ended. -/
def andThen {α β : Type} : Handler α → (α → Handler β) → Handler β
  | .done a, f => f a
  | .call q next, f => .call q fun answer => (next answer).andThen f

instance : Monad Handler where
  pure := .done
  bind := andThen

def ask (q : Call) : Handler q.Answer := .call q .done

def run {α : Type} : Handler α → Server → α × Server
  | .done a, sv => (a, sv)
  | .call q next, sv =>
    let (answer, sv) := sv.answer q
    (next answer).run sv

@[simp] theorem run_pure {α : Type} (a : α) (sv : Server) : (pure a : Handler α).run sv = (a, sv) := rfl

@[simp] theorem run_ask (q : Call) (sv : Server) : (ask q).run sv = sv.answer q := rfl

/-- Two programs in a row make their calls in a row. -/
@[simp] theorem run_bind {α β : Type} (h : Handler α) (f : α → Handler β) (sv : Server) :
    (h >>= f).run sv = (f (h.run sv).1).run (h.run sv).2 := by
  show (h.andThen f).run sv = _
  induction h generalizing sv with
  | done a => rfl
  | call q next ih => exact ih (sv.answer q).1 (sv.answer q).2

end Handler

end WatchParty
