import RaviDebug.Spec.Protocol
import RaviDebug.Spec.Lua
import Mathlib.Tactic.Simps.Basic

/-!
# The adapter process

`Session` holds the process-wide variables of `ravidebug.c` (`debugger_state`,
`thread_event_sent`), the unread part of `stdin`, the height of the Lua stack, and the trace of
the run. The trace records what a run does: the bodies it hands to `vscode_parse_message`, the
messages it writes, the calls of `debugger` from the line hook, and every assignment to
`debugger_state`. A call that can reach `exit` returns an `Outcome`.
-/

namespace RaviDebug

/-- How the dispatch loop of `debugger` ends: a step request clears `get_command`, or `fgets`
meets the end of `stdin`. -/
inductive LoopEnd
  | step | endOfInput
  deriving DecidableEq, Repr

/-- The assignments to `debugger_state` in `ravidebug.c`, `main`'s initialisation apart. -/
inductive Site
  | initializeRequest
  | launchRequest
  | programReturned
  | lineStop
  | loopEnd (how : LoopEnd)
  deriving DecidableEq, Repr

/-- One thing a run does. `setState` records the value an assignment replaces. -/
inductive Obs
  | read (body : List Char) (req : Request)
  | write (m : Message)
  | lineHook
  | setState (old new : DebuggerState) (site : Site)
  deriving DecidableEq, Repr

/-- How the process stops early: `exit (code)`, or the model's fuel running out. -/
inductive Halt
  | exit (code : Nat)
  | outOfFuel
  deriving DecidableEq, Repr

/-- The state of the adapter process. -/
structure Session where
  state : DebuggerState
  threadEventSent : Bool
  input : List Char
  top : Nat
  trace : List Obs
  deriving Repr

namespace Session

/-- Writes `m` to `stdout`: the `fprintf (out, buf)` of each `send_*` function, `buf` the
serialization of `m`. -/
@[simps] def send (s : Session) (m : Message) : Session := { s with trace := s.trace ++ [.write m] }

/-- `debugger_state = new`. -/
@[simps] def setState (s : Session) (new : DebuggerState) (site : Site) : Session :=
  { s with state := new, trace := s.trace ++ [.setState s.state new site] }

/-- A value pushed on the Lua stack. -/
@[simps] def push (s : Session) : Session := { s with top := s.top + 1 }

/-- `lua_pop (L, n)`. -/
@[simps] def pop (s : Session) (n : Nat) : Session := { s with top := s.top - n }

end Session

/-- How a call ends: it returns `a`, or the process halts; either way with the session at that
point. -/
inductive Outcome (α : Type)
  | ok (a : α) (s : Session)
  | halt (h : Halt) (s : Session)

namespace Outcome

/-- Goes on with `f` when the call returned. -/
def bind {α β : Type} : Outcome α → (α → Session → Outcome β) → Outcome β
  | ok a s, f => f a s
  | halt h s, _ => halt h s

/-- The session at the end of the call. -/
def session {α : Type} : Outcome α → Session
  | ok _ s => s
  | halt _ s => s

end Outcome

/-- Runs `f` on each element in turn, until the process halts. -/
def forEach {γ : Type} (f : γ → Session → Outcome Unit) : List γ → Session → Outcome Unit
  | [], s => .ok () s
  | x :: xs, s => (f x s).bind fun _ s => forEach f xs s

end RaviDebug
