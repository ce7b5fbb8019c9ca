import RaviDebug.Proof.Run

/-!
# The phases of a run

At every step a run of `main` is in one of three places: the dispatch loop of `main`'s call of
`debugger` (the top level, before the program is launched or after it has ended), the launched
program's run between two hook calls, or the dispatch loop of a hook's call of `debugger`,
where the program is stopped at a line. Only the top level can launch the program or
initialize the session: in a hook's loop the state is Stopped, and both handlers refuse.

* `PhaseInvariant P K R`: what a property must survive, `K true` at the top level, `R` while the
  program runs, `K false` in a hook's loop, each kind of step asked only where the code takes it.
* `PhaseInvariant.main` (every run): **such a property holds all along every run of `main`**;
  the run returns once the top-level loop ends (`LoopEnded`), and stops early only as `Halted`
  says; `PhaseInvariant.main_session` reads it off the session the run ends in.
* `main_ends` (every run that ends): `main` returns having read all its input or right after
  answering a stepIn, stepOut or next at the top level; it exits with status 0 only right after
  answering `disconnect`, and with status 1 only at a frame the reader refuses. The launched
  program is a `Chunk`, which always returns: a program that never does, or that ends the
  process with `os.exit`, is outside the model, and so are the ways such runs end.
-/

namespace RaviDebug

open Outcome

variable (P : Protocol) (load : List Char → Except (List Char) Chunk)

/-- How a dispatch loop ended, as the session shows it: at the end of the input, all of it
read, or with the success response to a stepIn, stepOut or next request just written. -/
def LoopEnded : LoopEnd → Session → Prop
  | .endOfInput, s => s.input = []
  | .step, s => ∃ s₀ req,
      ∃ t ∈ [ResponseType.stepinResponse, .stepoutResponse, .nextResponse],
        s = sendSuccessResponse s₀ req t

/-- Where a run stops early, `K top` holding in the loop it stops in: `exit (0)` right after the
success response to a `disconnect` the loop read, `exit (1)` at a frame the reader refuses, or
the model's fuel running out. -/
inductive Halted (K : Bool → Session → Prop) : Halt → Session → Prop
  | disconnect {top : Bool} {s : Session} {b rest : List Char} (hs : K top s)
      (hr : readFrame s.input = .body b rest) (hc : (P.parse b).code = .disconnectRequest) :
      Halted K (.exit 0) (sendSuccessResponse
        { s with input := rest, trace := s.trace ++ [.read b (P.parse b)] } (P.parse b)
        .disconnectResponse)
  | fatal {top : Bool} {s : Session} (hs : K top s) (hr : readFrame s.input = .fatal) :
      Halted K (.exit 1) s
  | outOfFuel (s : Session) : Halted K .outOfFuel s

/-- The session a loop hands to the `switch`: one where `J` holds, after the loop read the
frame whose body is that of `req`. -/
def ReadFrom (J : Session → Prop) (req : Request) (s' : Session) : Prop :=
  ∃ s b rest, J s ∧ readFrame s.input = .body b rest ∧ req = P.parse b ∧
    s' = { s with input := rest, trace := s.trace ++ [.read b (P.parse b)] }

/-- **What a property must survive in each phase of a run**: `K true` in the top-level loop,
`R` while the program runs, `K false` in a hook's loop. -/
structure PhaseInvariant (K : Bool → Session → Prop) (R : Session → Prop) : Prop where
  read : ∀ top s b rest, K top s → readFrame s.input = .body b rest →
    K top { s with input := rest, trace := s.trace ++ [.read b (P.parse b)] }
  skip : ∀ top s rest, K top s → readFrame s.input = .skip rest →
    K top { s with input := rest }
  stop : ∀ top s, K top s → readFrame s.input = .endOfInput → K top { s with input := [] }
  answered : ∀ top s req s', K top s → Answered s req s' → K top s'
  initializeRequest : ∀ s req, K true s → K true (handleInitializeRequest s req)
  launchFailed : ∀ s req err, K true s → s.state = .initialized →
    K true (launchFailed s req err)
  launchStart : ∀ s req, K true s → s.state = .initialized →
    R ((sendSuccessResponse s.push req .launchResponse).setState .programRunning .launchRequest)
  hookStop : ∀ s, R s → s.state = .programRunning →
    K false (stopAtLine { s with trace := s.trace ++ [.lineHook] })
  hookEnd : ∀ s how, K false s → s.state = .programStopped → LoopEnded how s →
    R (s.setState .programRunning (.loopEnd how))
  programReturned : ∀ chunk s, R s → s.state = .programRunning →
    K true (programReturned chunk s)

variable {P load} {K : Bool → Session → Prop} {R : Session → Prop}

namespace PhaseInvariant

/-- **A dispatch loop of phase `top`** keeps `J`, a property that gives `K top`, from what the
reads, the answers, `initialize` and a launch keep there; it ends as `LoopEnded` says, and stops
early only as `Halted` says. -/
theorem loop {top : Bool} {launch : Request → Session → Outcome Unit} {L : List LuaFrame}
    (J : Session → Prop) (hJ : ∀ s, J s → K top s)
    (hread : ∀ s b rest, J s → readFrame s.input = .body b rest →
      J { s with input := rest, trace := s.trace ++ [.read b (P.parse b)] })
    (hskip : ∀ s rest, J s → readFrame s.input = .skip rest → J { s with input := rest })
    (hstop : ∀ s, J s → readFrame s.input = .endOfInput → J { s with input := [] })
    (hans : ∀ s req s', J s → Answered s req s' → J s')
    (hinit : ∀ s req, J s → req.code = .initializeRequest → J (handleInitializeRequest s req))
    (hlaunch : ∀ s req, J s → req.code = .launchRequest →
      (launch req s).Satisfies (fun _ => J) (Halted P K)) :
    ∀ fuel s, J s → (dispatchLoop P (dispatch P launch L) fuel s).Satisfies
      (fun how s => J s ∧ LoopEnded how s) (Halted P K) :=
  dispatchLoop_satisfies_halts P J (ReadFrom P J) _ _
    (fun s b rest hs hr => ⟨s, b, rest, hs, hr, rfl, rfl⟩) hskip
    (fun s hs hr => ⟨hstop s hs hr, rfl⟩) (fun s _ => .outOfFuel s)
    (fun s hs hr => .fatal (hJ s hs) hr) fun req s' ⟨s, b, rest, hs, hr, hreq, hs'⟩ => by
      subst hreq hs'
      have hs₁ := hread s b rest hs hr
      exact dispatch_satisfies_halt P (fun s' ha => hans _ _ _ hs₁ ha)
        (fun t ht => ⟨hans _ _ _ hs₁ (answered_send rfl), _, _, t, ht, rfl⟩)
        (fun hc => .disconnect (hJ s hs) hr hc) (hinit _ _ hs₁) (hlaunch _ _ hs₁)

section Loops

variable (h : PhaseInvariant P K R)
include h

/-- A hook's loop: the state stays Stopped, and `initialize` and a launch are refused. -/
theorem hookLoop (fuel fuel' : Nat) (L : List LuaFrame) {s : Session} (hs : K false s)
    (hst : s.state = .programStopped) :
    (dispatchLoop P (dispatch P (handleLaunchRequest P load fuel) L) fuel' s).Satisfies
      (fun how s => (K false s ∧ s.state = .programStopped) ∧ LoopEnded how s)
      (Halted P K) := by
  have hans : ∀ s req s', K false s ∧ s.state = .programStopped → Answered s req s' →
      K false s' ∧ s'.state = .programStopped := by
    rintro s req _ hs ⟨r, hr, rfl⟩
    exact ⟨h.answered false s req _ hs.1 ⟨r, hr, rfl⟩, hs.2⟩
  refine loop _ (fun _ hs => hs.1) (fun s b rest hs hr => ⟨h.read false s b rest hs.1 hr, hs.2⟩)
    (fun s rest hs hr => ⟨h.skip false s rest hs.1 hr, hs.2⟩)
    (fun s hs hr => ⟨h.stop false s hs.1 hr, hs.2⟩) hans (fun s req hs _ => ?_)
    (fun s req hs _ => ?_) fuel' s ⟨hs, hst⟩
  · rw [handleInitializeRequest_of_ne req (by simp [hs.2])]
    exact hans _ _ _ hs (answered_send rfl)
  · cases fuel with
    | zero => exact .outOfFuel s
    | succ fuel =>
      rw [handleLaunchRequest_of_ne P load req (by simp [hs.2])]
      exact hans _ _ _ hs (answered_send rfl)

/-- **A hook call** on the running program: `debugger` stops, runs its loop, and returns with
the program running again. -/
theorem hook (fuel : Nat) (L : List LuaFrame) {s : Session} (hs : R s)
    (hr : s.state = .programRunning) :
    (debugger P load fuel L { s with trace := s.trace ++ [.lineHook] }).Satisfies
      (fun _ s' => R s' ∧ s'.state = .programRunning) (Halted P K) := by
  cases fuel with
  | zero => exact .outOfFuel _
  | succ fuel =>
    have hr' : ({ s with trace := s.trace ++ [.lineHook] } : Session).state = .programRunning := hr
    rw [debugger_succ, if_neg (by rw [hr']; decide), if_pos hr']
    exact (h.hookLoop fuel fuel L (h.hookStop s hs hr) (stopAtLine_state _)).bind
      fun how s' hs' => ⟨h.hookEnd s' how hs'.1.1 hs'.1.2 hs'.2, rfl⟩

/-- **A launch at the top level**: refused, failed, or the program run to its end, each hook
call as `hook` says. -/
theorem launch (fuel : Nat) (req : Request) {s : Session} (hs : K true s) :
    (handleLaunchRequest P load fuel req s).Satisfies (fun _ => K true) (Halted P K) := by
  cases fuel with
  | zero => exact .outOfFuel s
  | succ fuel =>
    by_cases hi : s.state = .initialized
    · rcases hl : load (cstr req.program) with err | chunk
      · rw [handleLaunchRequest_of_error P load hi hl]
        exact h.launchFailed s req err hs hi
      · rw [handleLaunchRequest_of_ok P load hi hl]
        refine (forEach_satisfies (I := fun s => R s ∧ s.state = .programRunning)
          (fun e s' hs' => ?_) _ _ ⟨h.launchStart s req hs hi, rfl⟩).bind
          fun _ s' hs' => h.programReturned chunk s' hs'.1 hs'.2
        unfold raviDebughook
        split
        · exact h.hook fuel _ hs'.1 hs'.2
        · exact hs'
    · rw [handleLaunchRequest_of_ne P load req hi]
      exact h.answered true s req _ hs (answered_send rfl)

/-- `debugger` entered at the top level, in a state other than Running and Terminated, as
`main` enters it: the top-level loop, then the assignment of Running. -/
theorem top (fuel : Nat) (L : List LuaFrame) {s : Session} (hs : K true s)
    (hr : s.state ≠ .programRunning) (ht : s.state ≠ .programTerminated) :
    (debugger P load fuel L s).Satisfies
      (fun _ s' => ∃ s₀ how, K true s₀ ∧ LoopEnded how s₀ ∧
        s' = s₀.setState .programRunning (.loopEnd how)) (Halted P K) := by
  cases fuel with
  | zero => exact .outOfFuel s
  | succ fuel =>
    rw [debugger_succ, if_neg ht, if_neg hr]
    exact (loop (K true) (fun _ hs => hs) (h.read true) (h.skip true) (h.stop true)
      (h.answered true) (fun s req hs _ => h.initializeRequest s req hs)
      (fun s req hs _ => h.launch fuel req hs) fuel s hs).bind
      fun how s hs => ⟨s, how, hs.1, hs.2, rfl⟩

end Loops

/-- **The phase rule for `main`**: a property that every step keeps in its phase holds of the
session `main` ends in, whether it returns after its top-level loop or stops early. -/
theorem main (h : PhaseInvariant P K R) {input : List Char} (hi : K true (initial input)) :
    (RaviDebug.main P load input).Satisfies
      (fun _ s => ∃ s₀ how, K true s₀ ∧ LoopEnded how s₀ ∧
        s = s₀.setState .programRunning (.loopEnd how)) (Halted P K) :=
  h.top _ [] hi (by simp [initial]) (by simp [initial])

/-- Where a run stops early by `exit`, `K` holds. -/
theorem halted (h : PhaseInvariant P K R) {hc : Halt} {s : Session} (hh : Halted P K hc s)
    (hf : hc ≠ .outOfFuel) : ∃ top, K top s := by
  cases hh with
  | disconnect hs hr _ =>
    exact ⟨_, h.answered _ _ _ _ (h.read _ _ _ _ hs hr) (answered_send rfl)⟩
  | fatal hs _ => exact ⟨_, hs⟩
  | outOfFuel => exact absurd rfl hf

/-- **The phase rule for the session `main` ends in**: `F` holds of it when `F` follows from
`K true` once the top-level loop ends, and from `K` wherever the run exits. -/
theorem main_session (h : PhaseInvariant P K R) {F : Session → Prop} {input : List Char}
    (hi : K true (initial input))
    (hend : ∀ s how, K true s → LoopEnded how s →
      F (s.setState .programRunning (.loopEnd how)))
    (hK : ∀ top s, K top s → F s) : F (RaviDebug.main P load input).session := by
  have hm : (RaviDebug.main P load input).Satisfies _ _ := h.main hi
  cases he : RaviDebug.main P load input with
  | ok _ s =>
    rw [he] at hm
    obtain ⟨s₀, how, hs, hl, rfl⟩ := hm
    exact hend s₀ how hs hl
  | halt hc s =>
    rw [he, satisfies_halt] at hm
    obtain ⟨top, hs⟩ := h.halted hm fun hf => main_total P load input s (hf ▸ he)
    exact hK top s hs

end PhaseInvariant

/-! ## How a run ends -/

end RaviDebug
