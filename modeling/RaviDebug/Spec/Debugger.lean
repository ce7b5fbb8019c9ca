import RaviDebug.Spec.Handlers

/-!
# The dispatch loop, the hook and `handle_launch_request`

`debugger` reads framed requests from `stdin` and dispatches them until a step request or the
end of the input. `main` calls it in state Birth; `handle_launch_request` runs the program,
whose line events re-enter `debugger` through `ravi_debughook` while the launch is under way.
The two are one recursion, bounded by `fuel`; `main` gives it enough (`main_total`).

The reader takes `in` and `stdin` to be the same stream, as every caller has it.
-/

namespace RaviDebug

variable (P : Protocol) (load : List Char → Except (List Char) Chunk)

/-- One pass of the `while` loop of `debugger` up to the call of `vscode_parse_message`. -/
inductive FrameRead
  /-- `fgets` returned NULL, for a header line or for the blank line after it (`break`). -/
  | endOfInput
  /-- A line without `Content-Length: `, and the rest of the input. -/
  | skip (rest : List Char)
  /-- `exit (1)`: a length of at least `sizeof buf`, or a short body. -/
  | fatal
  /-- The body read, and the rest of the input. -/
  | body (b rest : List Char)
  deriving DecidableEq, Repr

/-- The frame reader of `debugger`: a header line by `fgets`, the length after
`Content-Length: ` by `atoi`, one more line taken as the blank line, then `fread` of the body
into `buf [4096]`. -/
def readFrame (inp : List Char) : FrameRead :=
  match fgets 4096 inp with
  | none => .endOfInput
  | some (line, rest) =>
    match strstr line "Content-Length: ".toList with
    | none => .skip rest
    | some bufp =>
      let len := atoi (bufp.drop 16)
      if 4096 ≤ sizeT len then .fatal
      else match fgets 4096 rest with
        | none => .endOfInput
        | some (_, rest) =>
          match fread (sizeT len) rest with
          | none => .fatal
          | some (b, rest) => .body b rest

/-- The `switch` of `debugger`, `launch` standing for `handle_launch_request`; it returns
`get_command`. -/
def dispatch (launch : Request → Session → Outcome Unit) (L : List LuaFrame) (s : Session)
    (req : Request) : Outcome Bool :=
  match req.code with
  | .initializeRequest => .ok true (handleInitializeRequest s req)
  | .launchRequest => (launch req s).bind fun _ s => .ok true s
  | .stackTraceRequest => .ok true (handleStackTraceRequest P L s req)
  | .scopesRequest => .ok true (handleScopesRequest P L s req)
  | .variablesRequest => .ok true (handleVariablesRequest P L s req)
  | .disconnectRequest => .halt (.exit 0) (sendSuccessResponse s req .disconnectResponse)
  | .setExceptionBreakpointsRequest =>
    .ok true (sendSuccessResponse s req .setExceptionBreakpointsResponse)
  | .configurationDoneRequest => .ok true (sendSuccessResponse s req .configurationDoneResponse)
  | .threadRequest => .ok true (handleThreadRequest P s req)
  | .stepinRequest => .ok false (sendSuccessResponse s req .stepinResponse)
  | .stepoutRequest => .ok false (sendSuccessResponse s req .stepoutResponse)
  | .nextRequest => .ok false (sendSuccessResponse s req .nextResponse)
  | .other c => .ok true (sendErrorResponse s req (.request (.other c))
      (snprintf 100 (cstr req.command ++ " not yet implemented".toList)))

/-- The `while` loop of `debugger`, `handle` its `switch`; `fuel` bounds the passes. -/
def dispatchLoop (handle : Session → Request → Outcome Bool) : Nat → Session → Outcome LoopEnd
  | 0, s => .halt .outOfFuel s
  | fuel + 1, s =>
    match readFrame s.input with
    | .endOfInput => .ok .endOfInput { s with input := [] }
    | .skip rest => dispatchLoop handle fuel { s with input := rest }
    | .fatal => .halt (.exit 1) s
    | .body b rest =>
      (handle { s with input := rest, trace := s.trace ++ [.read b (P.parse b)] }
        (P.parse b)).bind fun more s => if more then dispatchLoop handle fuel s else .ok .step s

/-- `ravi_debughook`: a line event enters `debugger` on the call stack of the event. -/
def raviDebughook (debugger : List LuaFrame → Session → Outcome Unit) (e : HookEvent)
    (s : Session) : Outcome Unit :=
  if e.event = .line then debugger e.stack { s with trace := s.trace ++ [.lineHook] }
  else .ok () s

/-- The start of `debugger` in state Running: the thread event and a stop for `"entry"` the
first time in the session, a stop for `"step"` after that; then state Stopped. -/
def stopAtLine (s : Session) : Session :=
  let s := if s.threadEventSent then sendStoppedEvent s "step".toList
    else sendStoppedEvent (sendThreadEvent { s with threadEventSent := true } true)
      "entry".toList
  s.setState .programStopped .lineStop

/-- `handle_launch_request` when `luaL_loadfile` fails and pushes the message `err`. -/
def launchFailed (s : Session) (req : Request) (err : List Char) : Session :=
  let temp := snprintf 1024
    ("Failed to launch ".toList ++ cstr req.program ++ " due to error: ".toList ++ cstr err)
  let s := sendOutputEvent s.push (some temp)
  (sendErrorResponse s req .launchResponse "Launch failed".toList).pop 1

/-- `handle_launch_request` once `lua_pcall` returns: the chunk is popped, an error object
that replaces it is reported and popped, then the terminated event and state Terminated. -/
def programReturned (chunk : Chunk) (s : Session) : Session :=
  let s := s.pop 1
  let s := match chunk.error with
    | none => s
    | some v =>
      let s := sendOutputEvent s.push (some "Program terminated with error".toList)
      (sendOutputEvent s v.tostring).pop 1
  (sendTerminatedEvent s).setState .programTerminated .programReturned

mutual

/-- `debugger (L, init, ar, stdin, stdout)` on the call stack `L`. -/
def debugger : Nat → List LuaFrame → Session → Outcome Unit
  | 0, _, s => .halt .outOfFuel s
  | fuel + 1, L, s =>
    if s.state = .programTerminated then .ok () s
    else
      let s := if s.state = .programRunning then stopAtLine s else s
      (dispatchLoop P (dispatch P (handleLaunchRequest fuel) L) fuel s).bind fun how s =>
        .ok () (s.setState .programRunning (.loopEnd how))

/-- `handle_launch_request`: `luaL_loadfile` pushes the chunk, which `lua_pcall` runs, each
hook call of the run reaching `ravi_debughook`. -/
def handleLaunchRequest : Nat → Request → Session → Outcome Unit
  | 0, _, s => .halt .outOfFuel s
  | fuel + 1, req, s =>
    if s.state ≠ .initialized then
      .ok () (sendErrorResponse s req .launchResponse "not initialized or unexpected state".toList)
    else
      match load (cstr req.program) with
      | .error err => .ok () (launchFailed s req err)
      | .ok chunk =>
        let s := (sendSuccessResponse s.push req .launchResponse).setState .programRunning .launchRequest
        (forEach (raviDebughook (debugger fuel)) chunk.events s).bind fun _ s =>
          .ok () (programReturned chunk s)

end

/-- The fuel `main` gives the run, enough for every input (`main_total`). -/
def budget (input : List Char) : Nat := 2 * input.length + 2

/-- The session `main` starts: state Birth, no thread event sent, nothing on the Lua stack. -/
def initial (input : List Char) : Session :=
  { state := .birth, threadEventSent := false, input, top := 0, trace := [] }

/-- `main`: `debugger` on an empty call stack, from state Birth. -/
def main (input : List Char) : Outcome Unit :=
  debugger P load (budget input) [] (initial input)

end RaviDebug
