import RaviDebug.Proof.Run
import RaviDebug.Proof.Lifecycle

/-!
# Which requests are refused

The spec's legality table (§4.4) is not what the code checks. Only `handle_initialize_request`
and `handle_launch_request` look at `debugger_state`; the other refusals come from a frame that
`lua_getstack` does not find, a handle that is not a Locals handle, or a command the `switch`
does not know (`refused`). So a `threads` request in state Birth is answered with success
(`threads_in_birth_succeeds`).

`dispatch_refusal`: the first response a request gets echoes its `seq`; it has
`success = false` exactly when `refused` holds, and a refused request leaves the state,
`thread_event_sent` and the Lua stack as they were and lets the loop go on.
-/

namespace RaviDebug

open Outcome

variable (P : Protocol) (load : List Char → Except (List Char) Chunk)

/-- The response an observation writes. -/
def Obs.response : Obs → Option Response
  | .write (.response r) => some r
  | _ => none

/-- The responses written in a trace, in order. -/
def responses (t : List Obs) : List Response := t.filterMap Obs.response

/-- The first response a call that started in `s` writes. -/
def answer {α : Type} (s : Session) (o : Outcome α) : Option Response :=
  (responses (o.session.trace.drop s.trace.length)).head?

/-- The requests the code answers with `success = false`: initialize outside Birth, launch
outside Initialized or of a program that fails to load, scopes of a frame `lua_getstack` does
not find, variables of a handle that is not a Locals one or of a missing frame, and every
command the `switch` does not know. -/
def refused (L : List LuaFrame) (s : Session) (req : Request) : Bool :=
  match req.code with
  | .initializeRequest => s.state != .birth
  | .launchRequest =>
    s.state != .initialized || match load (cstr req.program) with
      | .error _ => true
      | .ok _ => false
  | .scopesRequest => (getstack L req.frameId).isNone
  | .variablesRequest =>
    (decodeVarRef req.variablesReference).1 != 'l' ||
      (getstack L (decodeVarRef req.variablesReference).2).isNone
  | .other _ => true
  | _ => false

/-! ## The first response -/

section Answer

variable {α : Type} {s : Session} {o : Outcome α}

@[simp] theorem responses_append (t t' : List Obs) :
    responses (t ++ t') = responses t ++ responses t' :=
  List.filterMap_append _ _ _

/-- A call whose trace starts with `pre` after that of `s` answers with the first response of
`pre`, whatever it writes after. -/
theorem answer_eq (pre : List Obs) {r : Response} (h : s.trace ++ pre <+: o.session.trace)
    (hr : (responses pre).head? = some r) : answer s o = some r := by
  obtain ⟨ext, he⟩ := h
  rw [answer, ← he, List.append_assoc, List.drop_left, responses_append,
    List.head?_append, hr]
  rfl

theorem answer_send {b : Bool} (r : Response) : answer s (ok b (s.send (.response r))) = some r :=
  answer_eq [.write (.response r)] (List.prefix_refl _) rfl

end Answer

/-! ## The handlers one by one -/

section Handlers

variable (L : List LuaFrame) (s : Session) (req : Request)

theorem handleScopesRequest_eq :
    ∃ r, handleScopesRequest P L s req = s.send (.response r) ∧ r.requestSeq = req.seq ∧
      (r.success = false ↔ (getstack L req.frameId).isNone) := by
  simp only [handleScopesRequest]
  split <;> exact ⟨_, rfl, rfl, by simp_all [makeSuccessResponse, makeErrorResponse]⟩

theorem handleVariablesRequest_eq :
    ∃ r, handleVariablesRequest P L s req = s.send (.response r) ∧ r.requestSeq = req.seq ∧
      (r.success = false ↔ ((decodeVarRef req.variablesReference).1 != 'l' ||
        (getstack L (decodeVarRef req.variablesReference).2).isNone) = true) := by
  rcases hd : decodeVarRef req.variablesReference with ⟨type, depth⟩
  simp only [handleVariablesRequest, hd]
  by_cases ht : type = 'l'
  · rw [if_pos ht]
    rcases hg : getstack L depth with _ | entry
    · exact ⟨_, rfl, rfl, by simp [hg, makeErrorResponse]⟩
    · simp only [getLocalsLoop_session]
      exact ⟨_, rfl, rfl, by simp [ht, hg, makeSuccessResponse]⟩
  · rw [if_neg ht]
    exact ⟨_, rfl, rfl, by simp [ht, makeErrorResponse]⟩

end Handlers

/-- The first response of a launch, and what a refused launch leaves. -/
theorem launch_answer (fuel : Nat) (L : List LuaFrame) (s : Session) (req : Request)
    (hc : req.code = .launchRequest) :
    ∃ r, answer s (dispatch P (handleLaunchRequest P load (fuel + 1)) L s req) = some r ∧
      r.requestSeq = req.seq ∧ (r.success = false ↔ refused load L s req = true) ∧
      (r.success = false → ∃ s', dispatch P (handleLaunchRequest P load (fuel + 1)) L s req =
        .ok true s' ∧ s'.state = s.state ∧ s'.threadEventSent = s.threadEventSent ∧
        s'.top = s.top) := by
  simp only [dispatch, hc, refused]
  by_cases hi : s.state = .initialized
  · rcases hl : load (cstr req.program) with err | chunk
    · rw [handleLaunchRequest_of_error P load hi hl]
      refine ⟨makeErrorResponse req .launchResponse "Launch failed".toList,
        by simp [answer, launchFailed, responses, Obs.response], rfl,
        by simp [hi, hl, makeErrorResponse], fun _ => ⟨_, rfl, by simp [launchFailed]⟩⟩
    · rw [handleLaunchRequest_of_ok P load hi hl]
      refine ⟨_, answer_eq ([.write (.response (makeSuccessResponse req .launchResponse))])
        ?_ rfl, rfl, by simp [hi, hl, makeSuccessResponse], by simp [makeSuccessResponse]⟩
      exact List.IsPrefix.trans (by simp) (((programRun_later (run_later P load fuel).1 chunk _).bind_ok
        true).session (fun _ _ h => h.trace) fun _ _ h => h.trace)
  · rw [handleLaunchRequest_of_ne P load req hi]
    exact ⟨_, answer_send _, rfl, by simp [hi, makeErrorResponse], fun _ => ⟨_, rfl, rfl, rfl, rfl⟩⟩

/-- **Refusals.** The first response to a request echoes its `seq` and has `success = false`
exactly when `refused` holds, in every state; a refused request changes neither
`debugger_state` nor `thread_event_sent` nor the height of the Lua stack, and the loop reads
on. -/
theorem dispatch_refusal (fuel : Nat) (L : List LuaFrame) (s : Session) (req : Request) :
    ∃ r, answer s (dispatch P (handleLaunchRequest P load (fuel + 1)) L s req) = some r ∧
      r.requestSeq = req.seq ∧ (r.success = false ↔ refused load L s req = true) ∧
      (r.success = false → ∃ s', dispatch P (handleLaunchRequest P load (fuel + 1)) L s req =
        .ok true s' ∧ s'.state = s.state ∧ s'.threadEventSent = s.threadEventSent ∧
        s'.top = s.top) := by
  rcases hc : req.code with _ | _ | _ | _ | _ | _ | _ | _ | _ | _ | _ | _ | c
  · simp only [dispatch, hc, refused]
    by_cases hb : s.state = .birth
    · rw [handleInitializeRequest_of_birth req hb]
      refine ⟨_, answer_eq ([.write (.event .initialized), .write (.response
        { makeSuccessResponse req .initializeResponse with body := .capabilities true })])
        (by simp) rfl, rfl, by simp [hb, makeSuccessResponse], by simp [makeSuccessResponse]⟩
    · rw [handleInitializeRequest_of_ne req hb]
      exact ⟨_, answer_send _, rfl, by simp [hb, makeErrorResponse],
        fun _ => ⟨_, rfl, rfl, rfl, rfl⟩⟩
  · exact launch_answer P load fuel L s req hc
  · simp only [dispatch, hc, refused, handleStackTraceRequest]
    exact ⟨_, answer_send _, rfl, by simp [makeSuccessResponse], by simp [makeSuccessResponse]⟩
  · obtain ⟨r, he, hs, hf⟩ := handleScopesRequest_eq P L s req
    simp only [dispatch, hc, refused, he]
    exact ⟨r, answer_send r, hs, hf, fun _ => ⟨_, rfl, rfl, rfl, rfl⟩⟩
  · obtain ⟨r, he, hs, hf⟩ := handleVariablesRequest_eq P L s req
    simp only [dispatch, hc, refused, he]
    exact ⟨r, answer_send r, hs, hf, fun _ => ⟨_, rfl, rfl, rfl, rfl⟩⟩
  all_goals simp only [dispatch, hc, refused, handleThreadRequest, sendSuccessResponse,
    sendErrorResponse]
  all_goals refine ⟨_, answer_eq _ (List.prefix_refl _) rfl, rfl, ?_, ?_⟩
  all_goals simp [makeSuccessResponse, makeErrorResponse]

/-- A `threads` request. -/
def threadsRequest : Request := ⟨.threadRequest, 1, "threads".toList, [], 0, 0, 0⟩

/-- A `threads` request read in state Birth, where the legality table admits only
`initialize`, is answered with success. -/
theorem threads_in_birth_succeeds :
    ∃ r : Response, (main (fixedParse threadsRequest) (fun _ => .error [])
      "Content-Length: 1\r\n\r\nx".toList).session.trace =
      [.read "x".toList threadsRequest, .write (.response r),
        .setState .birth .programRunning (.loopEnd .endOfInput)] ∧ r.success = true :=
  ⟨_, rfl, rfl⟩

end RaviDebug
