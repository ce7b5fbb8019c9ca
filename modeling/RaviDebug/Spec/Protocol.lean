import RaviDebug.Spec.LibC

/-!
# Requests, responses and events

The adapter's side of `protocol.h`. That file and `protocol.c` are not among the sources: the
request parser and the array sizes the adapter relies on are the parameters `Protocol`, and the
constructors `vscode_make_*_response` are modelled from the spec's response schema. Events are
built in place by `vscode_make_*_event`, so an `Event` is just its kind and payload.
-/

namespace RaviDebug

/-- The values of `debugger_state`. -/
inductive DebuggerState
  | birth | initialized | programLaunched | programRunning | programStopped | programTerminated
  deriving DecidableEq, Repr

/-- The value of each state in the source's `enum` (`DEBUGGER_BIRTH = 1`, ...), which
`handle_initialize_request` compares. -/
def DebuggerState.code : DebuggerState → Nat
  | birth => 1
  | initialized => 2
  | programLaunched => 3
  | programRunning => 4
  | programStopped => 5
  | programTerminated => 6

/-- The value `vscode_parse_message` returns: the `VSCODE_*_REQUEST` codes the `switch` of
`debugger` names, and `other` for every value it leaves to `default`. -/
inductive RequestCode
  | initializeRequest | launchRequest | stackTraceRequest | scopesRequest | variablesRequest
  | disconnectRequest | setExceptionBreakpointsRequest | configurationDoneRequest | threadRequest
  | stepinRequest | stepoutRequest | nextRequest
  | other (code : Int)
  deriving DecidableEq, Repr

/-- The `responseType` argument of `vscode_make_*_response`: a `VSCODE_*_RESPONSE` code, or in
the `default` branch of `debugger` the request code itself. -/
inductive ResponseType
  | initializeResponse | launchResponse | stackTraceResponse | scopesResponse
  | variablesResponse | disconnectResponse | setExceptionBreakpointsResponse
  | configurationDoneResponse | threadResponse | stepinResponse | stepoutResponse | nextResponse
  | request (code : RequestCode)
  deriving DecidableEq, Repr

/-- A request as `vscode_parse_message` leaves it in `req`, with the code it returns: the
fields of the `Request` arm that the handlers read. -/
structure Request where
  code : RequestCode
  seq : Int
  command : List Char
  program : List Char
  levels : Int
  frameId : Int
  variablesReference : Int
  deriving DecidableEq, Repr

/-- An entry of `stackFrames`, its text fields the arrays `strncpy` fills; a source field is
`none` when the copy that fills it reads past the end of its source array. -/
structure StackFrame where
  id : Int
  name : List Char
  sourceName : Option (List Char)
  sourcePath : Option (List Char)
  line : Int
  deriving DecidableEq, Repr

/-- An entry of `scopes`. -/
structure Scope where
  name : List Char
  variablesReference : Int
  expensive : Bool
  deriving DecidableEq, Repr

/-- The command-specific body of a response; `variables` holds the `name` arrays of the
`MAX_VARIABLES` entries of `variables`. -/
inductive ResponseBody
  | none
  | capabilities (supportsConfigurationDoneRequest : Bool)
  | threads (id : Int) (name : List Char)
  | stackTrace (stackFrames : List StackFrame) (totalFrames : Int)
  | scopes (scopes : List Scope)
  | variables (names : List (List Char))
  deriving DecidableEq, Repr

/-- A response. -/
structure Response where
  requestSeq : Int
  command : List Char
  responseType : ResponseType
  success : Bool
  message : List Char
  body : ResponseBody
  deriving DecidableEq, Repr

/-- An event; an `output` event built from a NULL string carries `none`. -/
inductive Event
  | initialized
  | stopped (reason : List Char)
  | thread (started : Bool)
  | terminated
  | output (text : Option (List Char))
  deriving DecidableEq, Repr

/-- A message the adapter writes. -/
inductive Message
  | response (r : Response)
  | event (e : Event)
  deriving DecidableEq, Repr

/-- What `ravidebug.c` takes from `protocol.h` and `protocol.c`: `vscode_parse_message` on the
bytes of a frame body, `MAX_STACK_FRAMES`, `MAX_VARIABLES`, and the sizes of the `name` arrays
of a thread, a scope and a variable, and of the `name`, `source.name` and `source.path` arrays
of a stack frame. -/
structure Protocol where
  parse : List Char → Request
  maxStackFrames : Nat
  maxVariables : Nat
  threadNameSize : Nat
  scopeNameSize : Nat
  variableNameSize : Nat
  frameNameSize : Nat
  sourceNameSize : Nat
  sourcePathSize : Nat

/-- Modelled from the spec: `vscode_make_success_response` (in `protocol.c`) echoes the
request's `seq` as `request_seq` and its `command`, with `success = true` and an empty body. -/
def makeSuccessResponse (req : Request) (t : ResponseType) : Response :=
  { requestSeq := req.seq, command := req.command, responseType := t, success := true,
    message := [], body := .none }

/-- Modelled from the spec: `vscode_make_error_response` (in `protocol.c`) builds the same
response with `success = false` and the message `msg`. -/
def makeErrorResponse (req : Request) (t : ResponseType) (msg : List Char) : Response :=
  { makeSuccessResponse req t with success := false, message := msg }

end RaviDebug
