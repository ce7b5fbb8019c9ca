import RaviDebug.Proof.Dispatch

/-!
# The run rule

A run is made of a few kinds of steps: the reader's passes, a handler's answer,
`handle_initialize_request`, the stop at a line, the return to Running when a loop ends, and the
four steps of a launch (the failure, the start, a hook call and the return of the program).
`RunInvariant P I E` asks a property `I` of sessions to survive each of them, `E` being what
holds where `debugger` is entered; `RunInvariant.run` then carries `I` over every run, whatever
the fuel, and adds that `debugger` returns in state Running unless it found the program
terminated.

Each invariant of a whole run (`Later s`, `Framed`, `ChangesOK`, `FirstStop`) is then one
`RunInvariant`, its fields the lemmas of that invariant for each step.
-/

namespace RaviDebug

open Outcome

variable (P : Protocol) (load : List Char → Except (List Char) Chunk)

/-- **What a property of sessions must survive** to hold all along a run, `E` holding where
`debugger` is entered. -/
structure RunInvariant (I E : Session → Prop) : Prop where
  read : ∀ s b rest, I s → readFrame s.input = .body b rest →
    I { s with input := rest, trace := s.trace ++ [.read b (P.parse b)] }
  skip : ∀ s rest, I s → readFrame s.input = .skip rest → I { s with input := rest }
  stop : ∀ s, I s → readFrame s.input = .endOfInput → I { s with input := [] }
  answered : ∀ s req s', I s → Answered s req s' → I s'
  initializeRequest : ∀ s req, I s → I (handleInitializeRequest s req)
  stopAtLine : ∀ s, I s → E s → s.state = .programRunning → I (RaviDebug.stopAtLine s)
  loopEnd : ∀ s how, I s → I (s.setState .programRunning (.loopEnd how))
  launchFailed : ∀ s req err, I s → I (RaviDebug.launchFailed s req err)
  launchStart : ∀ s req, I s → s.state = .initialized →
    I ((sendSuccessResponse s.push req .launchResponse).setState .programRunning .launchRequest)
  lineHook : ∀ s, I s → s.state = .programRunning → I { s with trace := s.trace ++ [.lineHook] }
  entry : ∀ s : Session, E { s with trace := s.trace ++ [.lineHook] }
  programReturned : ∀ chunk s, I s → s.state = .programRunning →
    I (RaviDebug.programReturned chunk s)

variable {P} {I E : Session → Prop}

/-- **The run rule**: an `I` that every step keeps holds of the session every call of
`debugger` or `handle_launch_request` returns or halts in; and `debugger` returns in state
Running unless it found the program terminated. -/
theorem RunInvariant.run (h : RunInvariant P I E) : ∀ fuel,
    (∀ L s, I s → E s → (debugger P load fuel L s).Satisfies
      (fun _ s' => I s' ∧ (s.state ≠ .programTerminated → s'.state = .programRunning))
      fun _ => I) ∧
    (∀ req s, I s → (handleLaunchRequest P load fuel req s).Satisfies (fun _ => I) fun _ => I)
  | 0 => ⟨fun _ _ hs _ => hs, fun _ _ hs => hs⟩
  | fuel + 1 => by
    obtain ⟨ihd, ihl⟩ := h.run fuel
    refine ⟨fun L s hs he => ?_, fun req s hs => ?_⟩
    · rw [debugger_succ]
      split_ifs with ht hr
      · exact ⟨hs, fun h => absurd ht h⟩
      all_goals
        refine (dispatchLoop_satisfies P I (fun _ => I) (fun _ => I) (fun _ => I) h.read h.skip
          (fun s hs hr => h.stop s hs hr) (fun _ _ hs => hs)
          (fun req s' hs' => (dispatch_satisfies P
            (fun _ ha => ⟨h.answered _ _ _ hs' ha, h.answered _ _ _ hs' ha⟩)
            (fun _ => h.initializeRequest s' req hs') fun _ => ihl req s' hs').mono
            (fun more _ h' => by cases more <;> exact h') fun _ _ h' => h')
          fuel _ ?_).bind fun how s' hs' => ⟨h.loopEnd s' how hs', fun _ => rfl⟩
      · exact h.stopAtLine s hs he hr
      · exact hs
    · by_cases hi : s.state = .initialized
      · rcases hl : load (cstr req.program) with err | chunk
        · rw [handleLaunchRequest_of_error P load hi hl]
          exact h.launchFailed s req err hs
        · rw [handleLaunchRequest_of_ok P load hi hl]
          refine (forEach_satisfies (I := fun s => I s ∧ s.state = .programRunning)
            (fun e s' hs' => ?_) _ _ ⟨h.launchStart s req hs hi, rfl⟩).bind
            fun _ s' hs' => h.programReturned chunk s' hs'.1 hs'.2
          unfold raviDebughook
          split
          · exact (ihd _ _ (h.lineHook s' hs'.1 hs'.2) (h.entry s')).mono
              (fun _ _ h' => ⟨h'.1, h'.2 (by simp [hs'.2])⟩) fun _ _ h' => h'
          · exact hs'
      · rw [handleLaunchRequest_of_ne P load req hi]
        exact h.answered _ _ _ hs (answered_send rfl)

/-- The run rule for `main`, whose call of `debugger` starts from `initial input`. -/
theorem RunInvariant.main (h : RunInvariant P I E) {input : List Char} (hi : I (initial input))
    (he : E (initial input)) : I (main P load input).session :=
  ((h.run load (budget input)).1 [] _ hi he).session (fun _ _ h' => h'.1) fun _ _ h' => h'

end RaviDebug
