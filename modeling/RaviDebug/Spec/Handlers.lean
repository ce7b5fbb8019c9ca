import RaviDebug.Spec.Session

/-!
# The request handlers

The `send_*` functions and the handlers of `ravidebug.c` that do not run the program:
`handle_initialize_request`, `handle_thread_request`, `handle_stack_trace_request`,
`handle_scopes_request` and `handle_variables_request`, each on the call stack `L` that
`lua_getstack` walks. The log file they also write to is left out.
-/

namespace RaviDebug

variable (P : Protocol)

/-! ## Sending -/

/-- `send_stopped_event`. -/
def sendStoppedEvent (s : Session) (msg : List Char) : Session := s.send (.event (.stopped msg))

/-- `send_thread_event`. -/
def sendThreadEvent (s : Session) (started : Bool) : Session := s.send (.event (.thread started))

/-- `send_terminated_event`. -/
def sendTerminatedEvent (s : Session) : Session := s.send (.event .terminated)

/-- `send_output_event`, `none` standing for a NULL `msg`. -/
def sendOutputEvent (s : Session) (msg : Option (List Char)) : Session :=
  s.send (.event (.output msg))

/-- `send_error_response`. -/
def sendErrorResponse (s : Session) (req : Request) (t : ResponseType) (msg : List Char) :
    Session :=
  s.send (.response (makeErrorResponse req t msg))

/-- `send_success_response`. -/
def sendSuccessResponse (s : Session) (req : Request) (t : ResponseType) : Session :=
  s.send (.response (makeSuccessResponse req t))

/-! ## Handlers -/

/-- `handle_initialize_request`. -/
def handleInitializeRequest (s : Session) (req : Request) : Session :=
  if DebuggerState.initialized.code ≤ s.state.code then
    sendErrorResponse s req .initializeResponse "already initialized".toList
  else
    let s := (s.send (.event .initialized)).send
      (.response { makeSuccessResponse req .initializeResponse with body := .capabilities true })
    (sendOutputEvent s (some "Debugger initialized".toList)).setState .initialized .initializeRequest

/-- `handle_thread_request`. -/
def handleThreadRequest (s : Session) (req : Request) : Session :=
  s.send (.response { makeSuccessResponse req .threadResponse with
    body := .threads 1 (strncpy P.threadNameSize "Lua Thread".toList) })

/-- The entry `stackFrames [depth]` that `handle_stack_trace_request` fills from `entry`: the
source without a leading `@` is copied into `path [1024]`, its part after the last `/` into
`name [256]`, and these into the entry's arrays. -/
def stackFrameOf (depth : Nat) (entry : LuaFrame) : StackFrame :=
  let src := match cstr entry.source with
    | '@' :: rest => rest
    | s => s
  let name := strncpy 256 ((afterLast '/' src).getD src)
  let path := strncpy 1024 src
  { id := depth, sourcePath := strncpyArray P.sourcePathSize path,
    sourceName := strncpyArray P.sourceNameSize name, line := entry.currentline,
    name := strncpy P.frameNameSize (entry.name.getD "?".toList) }

/-- The `while` loop of `handle_stack_trace_request` from level `depth`, `L` the call stack
from that level on: it stops when `lua_getstack` fails, at `levels`, or at
`MAX_STACK_FRAMES`. -/
def stackTraceLoop (levels : Int) : Nat → List LuaFrame → List StackFrame
  | _, [] => []
  | depth, entry :: L =>
    if (depth : Int) < levels ∧ depth < P.maxStackFrames then
      stackFrameOf P depth entry :: stackTraceLoop levels (depth + 1) L
    else []

/-- `handle_stack_trace_request`. -/
def handleStackTraceRequest (L : List LuaFrame) (s : Session) (req : Request) : Session :=
  let frames := stackTraceLoop P req.levels 0 L
  s.send (.response { makeSuccessResponse req .stackTraceResponse with
    body := .stackTrace frames frames.length })

/-- `handle_scopes_request`. -/
def handleScopesRequest (L : List LuaFrame) (s : Session) (req : Request) : Session :=
  let depth := req.frameId
  match getstack L depth with
  | some entry =>
    let locals : Scope := ⟨strncpy P.scopeNameSize "Locals".toList, 1000000 + depth, false⟩
    let upValues : List Scope := if 0 < entry.nups then
      [⟨strncpy P.scopeNameSize "Up Values".toList, 2000000 + depth, false⟩] else []
    let globals : Scope := ⟨strncpy P.scopeNameSize "Globals".toList, 3000000 + depth, true⟩
    s.send (.response { makeSuccessResponse req .scopesResponse with
      body := .scopes (locals :: upValues ++ [globals]) })
  | none =>
    s.send (.response (makeErrorResponse req .scopesResponse "Error retrieving stack frame".toList))

/-- The decoding of `variablesReference` in `handle_variables_request`: the scope type
(`'g'`, `'u'` or `'l'`) and the frame depth. -/
def decodeVarRef (varRef : Int) : Char × Int :=
  if 3000000 ≤ varRef then ('g', varRef - 3000000)
  else if 2000000 ≤ varRef then ('u', varRef - 2000000)
  else ('l', varRef - 1000000)

/-- The `for` loop of `handle_variables_request`, `k` passes left and `n` the next local:
each name `lua_getlocal` finds is copied into `variables [x].name`, and the value it pushed is
popped; the loop breaks at the first NULL. -/
def getLocalsLoop (entry : LuaFrame) (x : Nat) :
    Nat → Nat → List (List Char) → Session → List (List Char) × Session
  | 0, _, names, s => (names, s)
  | k + 1, n, names, s =>
    match getlocal entry n with
    | some name =>
      getLocalsLoop entry x k (n + 1) (names.set x (strncpy P.variableNameSize name)) (s.push.pop 1)
    | none => (names, s)

/-- `handle_variables_request`; the `variables` array of the fresh response holds
`MAX_VARIABLES` zeroed entries. -/
def handleVariablesRequest (L : List LuaFrame) (s : Session) (req : Request) : Session :=
  let (type, depth) := decodeVarRef req.variablesReference
  match if type = 'l' then getstack L depth else none with
  | some entry =>
    let x := 0
    let zeroed := List.replicate P.maxVariables (List.replicate P.variableNameSize nul)
    let (names, s) := getLocalsLoop P entry x (P.maxVariables - 1) 1 zeroed s
    s.send (.response { makeSuccessResponse req .variablesResponse with body := .variables names })
  | none =>
    s.send (.response (makeErrorResponse req .variablesResponse "Error retrieving variables".toList))

end RaviDebug
