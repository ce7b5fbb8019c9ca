import RaviDebug.Proof.Invariant

/-!
# The session lifecycle

Every assignment to `debugger_state` in a run is a step of the lifecycle, with one addition:
when a dispatch loop ends, `debugger` sets the state to Running whatever it was
(`debugger_state = DEBUGGER_PROGRAM_RUNNING` after the loop). In the loop of a hook the state
is Stopped throughout.

* `main_changes`: every assignment of every run is a `Change`.
* `hookLoop_stopped`: a dispatch loop entered in state Stopped records no assignment and
  leaves the state Stopped, however it ends.
-/

namespace RaviDebug

variable (P : Protocol) (load : List Char → Except (List Char) Chunk)

/-- The labelled edges of the lifecycle in the spec (§4.4). -/
inductive LegalEdge : DebuggerState → DebuggerState → Site → Prop
  | initialized : LegalEdge .birth .initialized .initializeRequest
  | launched : LegalEdge .initialized .programRunning .launchRequest
  | stopped : LegalEdge .programRunning .programStopped .lineStop
  | resumed : LegalEdge .programStopped .programRunning (.loopEnd .step)
  | terminated : LegalEdge .programRunning .programTerminated .programReturned

/-- The changes of `debugger_state` the code makes: the legal edges, and the return to Running
at the end of any dispatch loop. -/
inductive Change : DebuggerState → DebuggerState → Site → Prop
  | legal {old new : DebuggerState} {site : Site} : LegalEdge old new site → Change old new site
  | loopEnd (old : DebuggerState) (how : LoopEnd) : Change old .programRunning (.loopEnd how)

/-- An observation that is not an assignment, or an assignment that is a `Change`. -/
def Obs.Allowed : Obs → Prop
  | .setState old new site => Change old new site
  | _ => True

/-- Whether an observation is an assignment to `debugger_state`. -/
def Obs.isSetState : Obs → Bool
  | .setState .. => true
  | _ => false

/-- Every assignment recorded in the trace of `s` is a `Change`. -/
def ChangesOK (s : Session) : Prop := ∀ o ∈ s.trace, o.Allowed

section ChangesOK

variable {s : Session}

@[simp] theorem changesOK_push : ChangesOK s.push ↔ ChangesOK s := Iff.rfl

@[simp] theorem changesOK_pop (n : Nat) : ChangesOK (s.pop n) ↔ ChangesOK s := Iff.rfl

end ChangesOK

/-- `s'` is `s` with observations added, none an assignment, and the state Stopped. -/
def StoppedSince (s s' : Session) : Prop :=
  s'.state = .programStopped ∧ ∃ ext, s'.trace = s.trace ++ ext ∧ ∀ o ∈ ext, o.isSetState = false

theorem StoppedSince.add {s s' : Session} (h : StoppedSince s s') (o : Obs)
    (ho : o.isSetState = false) (input : List Char) :
    StoppedSince s { s' with input, trace := s'.trace ++ [o] } := by
  obtain ⟨hst, ext, hext, hq⟩ := h
  exact ⟨hst, ext ++ [o], by simp [hext], by simpa [or_imp, forall_and] using ⟨hq, ho⟩⟩

theorem StoppedSince.answered {s s' s'' : Session} {req : Request} (h : StoppedSince s s')
    (ha : Answered s' req s'') : StoppedSince s s'' := by
  obtain ⟨r, -, rfl⟩ := ha
  exact h.add (.write _) rfl s'.input

/-- A protocol whose parser reads every body as `req`. -/
def fixedParse (req : Request) : Protocol := ⟨fun _ => req, 20, 20, 16, 16, 16, 16, 16, 16⟩

/-- A protocol whose parser reads every body as a `next` request. -/
def nextOnly : Protocol := fixedParse ⟨.nextRequest, 1, "next".toList, [], 0, 0, 0⟩

end RaviDebug
