import RaviDebug.Spec.LibC

/-!
# The interpreter, as the adapter sees it

The Lua API calls of `ravidebug.c`: `lua_getstack`, `lua_getinfo`, `lua_getlocal`,
`lua_tostring`, and the run of a loaded chunk under `lua_pcall`. The interpreter is not among
the sources; a chunk is described by what running it shows the adapter, the hook calls it makes
and the error it raises. Finalizers run with hooks off, so they add no hook calls.
-/

namespace RaviDebug

/-- One level of the call stack as `lua_getinfo (L, "Sln"/"u", &entry)` fills `entry`
(`source`, `currentline`, `name`, `none` for NULL, and `nups`), with the names `lua_getlocal`
returns for `n = 1, 2, ...`. -/
structure LuaFrame where
  source : List Char
  currentline : Int
  name : Option (List Char)
  nups : Nat
  locals : List (List Char)
  deriving DecidableEq, Repr

/-- `lua_getstack (L, level, &entry)` on the call stack `L`, level 0 on top: the frame at
`level`, or `none` (the call returns 0) when the stack is not that deep. -/
def getstack (L : List LuaFrame) (level : Int) : Option LuaFrame :=
  if 0 ≤ level then L[level.toNat]? else none

/-- `lua_getlocal (L, &entry, n)` for `n ≥ 1`: the name of the `n`-th local, or `none`
(NULL). -/
def getlocal (entry : LuaFrame) (n : Nat) : Option (List Char) := entry.locals[n - 1]?

/-- A Lua value, as far as `lua_tostring` tells values apart; a number carries the text
`lua_tostring` converts it to. -/
inductive LuaValue
  | nil | boolean (b : Bool) | number (text : List Char) | string (s : List Char)
  | table | function | userdata | thread
  deriving DecidableEq, Repr

/-- `lua_tostring`: the string, or the number converted; NULL (`none`) for any other value. -/
def LuaValue.tostring : LuaValue → Option (List Char)
  | .string s => some s
  | .number t => some t
  | _ => none

/-- The event the hook is called for (`ar->event`). -/
inductive HookKind
  | call | ret | line | count | tailCall
  deriving DecidableEq, Repr

/-- One call of the hook: its event, and the call stack at that point. -/
structure HookEvent where
  event : HookKind
  stack : List LuaFrame
  deriving DecidableEq, Repr

/-- A chunk loaded by `luaL_loadfile`, by what `lua_pcall` of it shows the adapter: the hook
calls in order, then the error object it raises (`none` when it returns). -/
structure Chunk where
  events : List HookEvent
  error : Option LuaValue
  deriving DecidableEq, Repr

end RaviDebug
