import RaviDebug.Proof.Basic

/-!
# What one request does

Every handler but `handle_initialize_request` and `handle_launch_request` writes exactly one
response, echoing the request's `seq`, and changes nothing else (`Answered`); the loop over
`lua_getlocal` leaves the session as it found it (`getLocalsLoop_session`). `dispatch_cases`
says once what a pass of the `switch` can do, and the `handleLaunchRequest_*` lemmas give the
three ways a launch goes.
-/

namespace RaviDebug

variable (P : Protocol) (load : List Char → Except (List Char) Chunk)

/-! ## Sending -/

section Send

variable (s : Session) (req : Request) (t : ResponseType)

@[simp] theorem sendStoppedEvent_eq (msg : List Char) :
    sendStoppedEvent s msg = s.send (.event (.stopped msg)) := rfl

@[simp] theorem sendThreadEvent_eq (started : Bool) :
    sendThreadEvent s started = s.send (.event (.thread started)) := rfl

@[simp] theorem sendTerminatedEvent_eq : sendTerminatedEvent s = s.send (.event .terminated) :=
  rfl

@[simp] theorem sendOutputEvent_eq (msg : Option (List Char)) :
    sendOutputEvent s msg = s.send (.event (.output msg)) := rfl

@[simp] theorem sendErrorResponse_eq (msg : List Char) :
    sendErrorResponse s req t msg = s.send (.response (makeErrorResponse req t msg)) := rfl

@[simp] theorem sendSuccessResponse_eq :
    sendSuccessResponse s req t = s.send (.response (makeSuccessResponse req t)) := rfl

@[simp] theorem makeSuccessResponse_requestSeq : (makeSuccessResponse req t).requestSeq = req.seq :=
  rfl

@[simp] theorem makeErrorResponse_requestSeq (msg : List Char) :
    (makeErrorResponse req t msg).requestSeq = req.seq := rfl

@[simp] theorem Session.push_pop : s.push.pop 1 = s := rfl

end Send

/-! ## One response -/

/-- `s'` is `s` with one response to `req` written, and nothing else changed. -/
def Answered (s : Session) (req : Request) (s' : Session) : Prop :=
  ∃ r : Response, r.requestSeq = req.seq ∧ s' = s.send (.response r)

theorem answered_send {s : Session} {req : Request} {r : Response} (h : r.requestSeq = req.seq) :
    Answered s req (s.send (.response r)) :=
  ⟨r, h, rfl⟩

/-- The `for` loop over the locals pops every value it pushes and writes only to the
response. -/
@[simp] theorem getLocalsLoop_session (entry : LuaFrame) (x : Nat) :
    ∀ k n names s, (getLocalsLoop P entry x k n names s).2 = s
  | 0, _, _, _ => rfl
  | k + 1, n, names, s => by
    unfold getLocalsLoop
    split
    · rw [getLocalsLoop_session entry x k, Session.push_pop]
    · rfl

theorem getLocalsLoop_eq (entry : LuaFrame) (x k n : Nat) (names : List (List Char))
    (s : Session) :
    getLocalsLoop P entry x k n names s = ((getLocalsLoop P entry x k n names s).1, s) :=
  Prod.ext rfl (getLocalsLoop_session P entry x k n names s)

theorem handleThreadRequest_answered (s : Session) (req : Request) :
    Answered s req (handleThreadRequest P s req) :=
  answered_send rfl

theorem handleStackTraceRequest_answered (L : List LuaFrame) (s : Session) (req : Request) :
    Answered s req (handleStackTraceRequest P L s req) :=
  answered_send rfl

theorem handleScopesRequest_answered (L : List LuaFrame) (s : Session) (req : Request) :
    Answered s req (handleScopesRequest P L s req) := by
  simp only [handleScopesRequest]
  split <;> exact answered_send rfl

theorem handleVariablesRequest_answered (L : List LuaFrame) (s : Session) (req : Request) :
    Answered s req (handleVariablesRequest P L s req) := by
  rcases hd : decodeVarRef req.variablesReference with ⟨type, depth⟩
  simp only [handleVariablesRequest, hd]
  split
  · rw [getLocalsLoop_eq]
    exact answered_send rfl
  · exact answered_send rfl

theorem answered_input {s s' : Session} {req : Request} (h : Answered s req s') :
    s'.input = s.input := by
  obtain ⟨r, -, rfl⟩ := h
  rfl

/-! ## `handle_initialize_request` -/

/-- The check `debugger_state >= DEBUGGER_INITIALIZED` passes in every state but Birth. -/
theorem initialized_code_le (st : DebuggerState) :
    DebuggerState.initialized.code ≤ st.code ↔ st ≠ .birth := by
  cases st <;> decide

theorem handleInitializeRequest_of_birth {s : Session} (req : Request) (h : s.state = .birth) :
    handleInitializeRequest s req =
      (((s.send (.event .initialized)).send
        (.response { makeSuccessResponse req .initializeResponse with body := .capabilities true })).send
        (.event (.output (some "Debugger initialized".toList)))).setState .initialized
        .initializeRequest := by
  simp [handleInitializeRequest, initialized_code_le, h]

theorem handleInitializeRequest_of_ne {s : Session} (req : Request) (h : s.state ≠ .birth) :
    handleInitializeRequest s req =
      s.send (.response (makeErrorResponse req .initializeResponse "already initialized".toList)) := by
  simp [handleInitializeRequest, initialized_code_le, h]

/-! ## The `switch` -/

/-- **What a pass of the `switch` keeps**, each way it can go: an answer that lets the loop go
on, a stepIn, stepOut or next that answers and ends it, `disconnect` that answers and exits, and
the two handlers with more to do. -/
theorem dispatch_satisfies_halt {launch : Request → Session → Outcome Unit} {L : List LuaFrame}
    {s : Session} {req : Request} {Q : Bool → Session → Prop} {H : Halt → Session → Prop}
    (hans : ∀ s', Answered s req s' → Q true s')
    (hstep : ∀ t ∈ [ResponseType.stepinResponse, .stepoutResponse, .nextResponse],
      Q false (sendSuccessResponse s req t))
    (hdisc : req.code = .disconnectRequest →
      H (.exit 0) (sendSuccessResponse s req .disconnectResponse))
    (hinit : req.code = .initializeRequest → Q true (handleInitializeRequest s req))
    (hlaunch : req.code = .launchRequest → (launch req s).Satisfies (fun _ => Q true) H) :
    (dispatch P launch L s req).Satisfies Q H := by
  rcases hc : req.code with _ | _ | _ | _ | _ | _ | _ | _ | _ | _ | _ | _ | c <;>
    simp only [dispatch, hc, Outcome.satisfies_ok, Outcome.satisfies_halt]
  · exact hinit hc
  · exact (hlaunch hc).bind fun _ _ h => h
  · exact hans _ (handleStackTraceRequest_answered P L s req)
  · exact hans _ (handleScopesRequest_answered P L s req)
  · exact hans _ (handleVariablesRequest_answered P L s req)
  · exact hdisc hc
  · exact hans _ (answered_send rfl)
  · exact hans _ (answered_send rfl)
  · exact hans _ (handleThreadRequest_answered P s req)
  · exact hstep _ (by simp)
  · exact hstep _ (by simp)
  · exact hstep _ (by simp)
  · exact hans _ (answered_send rfl)

/-- A property of the session after one request holds when every answer, the work of
`handle_initialize_request` and the launch handler have it; `disconnect` answers and exits. -/
theorem dispatch_satisfies {launch : Request → Session → Outcome Unit} {L : List LuaFrame}
    {s : Session} {req : Request} {Q : Session → Prop} {H : Halt → Session → Prop}
    (hans : ∀ s', Answered s req s' → Q s' ∧ H (.exit 0) s')
    (hinit : req.code = .initializeRequest → Q (handleInitializeRequest s req))
    (hlaunch : req.code = .launchRequest → (launch req s).Satisfies (fun _ => Q) H) :
    (dispatch P launch L s req).Satisfies (fun _ => Q) H :=
  dispatch_satisfies_halt P (fun s' ha => (hans s' ha).1) (fun _ _ => (hans _ (answered_send rfl)).1)
    (fun _ => (hans _ (answered_send rfl)).2) hinit hlaunch

/-! ## `handle_launch_request` -/

theorem handleLaunchRequest_of_ne {fuel : Nat} {s : Session} (req : Request)
    (h : s.state ≠ .initialized) :
    handleLaunchRequest P load (fuel + 1) req s =
      .ok () (sendErrorResponse s req .launchResponse "not initialized or unexpected state".toList) := by
  simp [handleLaunchRequest, h]

theorem handleLaunchRequest_of_error {fuel : Nat} {s : Session} {req : Request} {err : List Char}
    (h : s.state = .initialized) (hl : load (cstr req.program) = .error err) :
    handleLaunchRequest P load (fuel + 1) req s = .ok () (launchFailed s req err) := by
  simp [handleLaunchRequest, h, hl]

theorem handleLaunchRequest_of_ok {fuel : Nat} {s : Session} {req : Request} {chunk : Chunk}
    (h : s.state = .initialized) (hl : load (cstr req.program) = .ok chunk) :
    handleLaunchRequest P load (fuel + 1) req s =
      (forEach (raviDebughook (debugger P load fuel)) chunk.events
        ((sendSuccessResponse s.push req .launchResponse).setState .programRunning .launchRequest)).bind
        fun _ s => .ok () (programReturned chunk s) := by
  simp [handleLaunchRequest, h, hl]

/-! ## The stop at a line -/

section StopAtLine

variable (s : Session)

@[simp] theorem stopAtLine_state : (stopAtLine s).state = .programStopped := by
  unfold stopAtLine; split <;> rfl

@[simp] theorem stopAtLine_threadEventSent : (stopAtLine s).threadEventSent = true := by
  unfold stopAtLine; split <;> simp_all

@[simp] theorem stopAtLine_input : (stopAtLine s).input = s.input := by
  unfold stopAtLine; split <;> rfl

@[simp] theorem stopAtLine_top : (stopAtLine s).top = s.top := by
  unfold stopAtLine; split <;> rfl

end StopAtLine

theorem debugger_succ (fuel : Nat) (L : List LuaFrame) (s : Session) :
    debugger P load (fuel + 1) L s =
      if s.state = .programTerminated then .ok () s
      else (dispatchLoop P (dispatch P (handleLaunchRequest P load fuel) L) fuel
        (if s.state = .programRunning then stopAtLine s else s)).bind fun how s =>
          .ok () (s.setState .programRunning (.loopEnd how)) := by
  rw [debugger]

end RaviDebug
