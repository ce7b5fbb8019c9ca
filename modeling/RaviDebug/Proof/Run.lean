import RaviDebug.Proof.Invariant
import RaviDebug.Proof.Framing

/-!
# Facts of every run

Three run lemmas over `debugger` and `handle_launch_request` together:

* `run_later`: a call only adds to the trace and only reads from the input; every step keeps
  `Later s` (`later_runInvariant`), so it is the run rule of `Proof/Invariant.lean`.
* `run_balanced`: a call that returns leaves the Lua stack as high as it found it;
  `request_balanced` is this for one request.
* `run_completes`: with two more units of fuel than bytes of input, a call never runs out of
  fuel. So `main_total`: the fuel `main` gives is enough, and every `Halt` of `main` is an
  `exit`.

The last two are each one induction on the fuel, the loop and the hook calls taken by the
rules of `Proof/Basic.lean`.
-/

namespace RaviDebug

open Outcome

variable (P : Protocol) (load : List Char → Except (List Char) Chunk)

/-! ## The trace grows, the input shrinks -/

/-- `s'` comes later than `s` in a run: the trace has only grown and the input has only been
read from. -/
structure Later (s s' : Session) : Prop where
  trace : s.trace <+: s'.trace
  input : s'.input <:+ s.input

namespace Later

variable {s s' s'' : Session}

theorem refl (s : Session) : Later s s := ⟨List.prefix_refl _, List.suffix_refl _⟩

theorem trans (h : Later s s') (h' : Later s' s'') : Later s s'' :=
  ⟨h.trace.trans h'.trace, h'.input.trans h.input⟩

theorem send (h : Later s s') (m : Message) : Later s (s'.send m) :=
  ⟨h.trace.trans (List.prefix_append _ _), h.input⟩

theorem setState (h : Later s s') (new : DebuggerState) (site : Site) :
    Later s (s'.setState new site) :=
  ⟨h.trace.trans (List.prefix_append _ _), h.input⟩

theorem record (h : Later s s') (o : Obs) {input : List Char} (hi : input <:+ s'.input) :
    Later s { s' with input, trace := s'.trace ++ [o] } :=
  ⟨h.trace.trans (List.prefix_append _ _), hi.trans h.input⟩

theorem answered {req : Request} (h : Later s s') (ha : Answered s' req s'') : Later s s'' := by
  obtain ⟨r, -, rfl⟩ := ha
  exact h.send _

end Later

theorem later_initializeRequest (s : Session) (req : Request) :
    Later s (handleInitializeRequest s req) := by
  by_cases hb : s.state = .birth
  · rw [handleInitializeRequest_of_birth req hb]
    exact ((((Later.refl s).send _).send _).send _).setState _ _
  · rw [handleInitializeRequest_of_ne req hb]
    exact (Later.refl s).send _

theorem later_stopAtLine (s : Session) : Later s (stopAtLine s) := by
  unfold stopAtLine
  split <;> exact ⟨by simp, by simp⟩

theorem later_launch (s : Session) (req : Request) :
    Later s ((sendSuccessResponse s.push req .launchResponse).setState .programRunning
      .launchRequest) :=
  ⟨by simp, List.suffix_refl _⟩

theorem later_programReturned (chunk : Chunk) (s : Session) : Later s (programReturned chunk s) := by
  unfold programReturned
  split <;> exact ⟨by simp, by simp⟩

/-- The run of the program, hook calls and all, up to the terminated event, only adds to the
trace and reads from the input when each call of `debugger` does. -/
theorem programRun_later {debugger' : List LuaFrame → Session → Outcome Unit}
    (hd : ∀ L s, (debugger' L s).Satisfies (fun _ => Later s) fun _ => Later s)
    (chunk : Chunk) (s : Session) :
    ((forEach (raviDebughook debugger') chunk.events s).bind fun _ s =>
      .ok () (programReturned chunk s)).Satisfies (fun _ => Later s) fun _ => Later s := by
  refine (forEach_satisfies (fun e s' h => ?_) chunk.events s (Later.refl s)).bind
    fun _ s' h => h.trans (later_programReturned chunk s')
  unfold raviDebughook
  split
  · exact (hd _ _).mono (fun _ _ h' => (h.record _ (List.suffix_refl _)).trans h')
      fun _ _ h' => (h.record _ (List.suffix_refl _)).trans h'
  · exact h

/-- Every step of a run comes later than where the run started. -/
theorem later_runInvariant (s₀ : Session) : RunInvariant P (Later s₀) fun _ => True where
  read _ _ _ h hr := h.record _ (readFrame_body_suffix hr).1
  skip _ _ h hr := ⟨h.trace, (readFrame_skip_suffix hr).1.trans h.input⟩
  stop _ h _ := ⟨h.trace, List.nil_suffix⟩
  answered _ _ _ h ha := h.answered ha
  initializeRequest s req h := h.trans (later_initializeRequest s req)
  stopAtLine s h _ _ := h.trans (later_stopAtLine s)
  loopEnd _ _ h := h.setState _ _
  launchFailed _ _ _ h := h.trans ⟨by simp [launchFailed], by simp [launchFailed]⟩
  launchStart s req h _ := h.trans (later_launch s req)
  lineHook _ h _ := h.record _ (List.suffix_refl _)
  entry _ := trivial
  programReturned chunk s h _ := h.trans (later_programReturned chunk s)

/-- **A call only adds to the trace and only reads from the input**: what was recorded stays,
in place, and what is left to read is what was left before, or a part of its end. -/
theorem run_later (fuel : Nat) :
    (∀ L s, (debugger P load fuel L s).Satisfies (fun _ => Later s) (fun _ => Later s)) ∧
    (∀ req s, (handleLaunchRequest P load fuel req s).Satisfies (fun _ => Later s)
      (fun _ => Later s)) :=
  ⟨fun L s => (((later_runInvariant P s).run load fuel).1 L s (Later.refl s) trivial).mono
    (fun _ _ h => h.1) fun _ _ h => h,
    fun req s => ((later_runInvariant P s).run load fuel).2 req s (Later.refl s)⟩

/-! ## The Lua stack -/

section Top

variable {s s' : Session} {req : Request}

theorem answered_top (h : Answered s req s') : s'.top = s.top := by
  obtain ⟨r, -, rfl⟩ := h
  rfl

@[simp] theorem handleInitializeRequest_top : (handleInitializeRequest s req).top = s.top := by
  unfold handleInitializeRequest; split <;> rfl

@[simp] theorem launchFailed_top (err : List Char) : (launchFailed s req err).top = s.top := by
  simp [launchFailed]

@[simp] theorem programReturned_top (chunk : Chunk) :
    (programReturned chunk s).top = s.top - 1 := by
  unfold programReturned; split <;> simp

end Top

/-- One request keeps the height of the stack when the launch handler does. -/
theorem dispatch_balanced {launch : Request → Session → Outcome Unit}
    (hl : ∀ req s, (launch req s).Satisfies (fun _ s' => s'.top = s.top) fun _ _ => True)
    (L : List LuaFrame) (s : Session) (req : Request) :
    (dispatch P launch L s req).Satisfies (fun _ s' => s'.top = s.top) fun _ _ => True :=
  dispatch_satisfies P (fun _ ha => ⟨answered_top ha, trivial⟩) (fun _ => handleInitializeRequest_top)
    fun _ => hl req s

/-- **A call that returns leaves the Lua stack as high as it found it.** -/
theorem run_balanced : ∀ fuel,
    (∀ L s, (debugger P load fuel L s).Satisfies (fun _ s' => s'.top = s.top) fun _ _ => True) ∧
    (∀ req s, (handleLaunchRequest P load fuel req s).Satisfies (fun _ s' => s'.top = s.top)
      fun _ _ => True)
  | 0 => ⟨fun _ _ => trivial, fun _ _ => trivial⟩
  | fuel + 1 => by
    obtain ⟨ihd, ihl⟩ := run_balanced fuel
    refine ⟨fun L s => ?_, fun req s => ?_⟩
    · rw [debugger_succ]
      split_ifs with ht hr
      · rfl
      all_goals
        refine (dispatchLoop_satisfies P (fun s' => s'.top = s.top) (fun _ s' => s'.top = s.top)
          (fun _ s' => s'.top = s.top) (fun _ _ => True) (fun _ _ _ h _ => h) (fun _ _ h _ => h)
          (fun _ h _ => h) (fun _ _ _ => trivial)
          (fun req s' h => (dispatch_balanced P ihl L s' req).mono
            (fun more _ h' => by cases more <;> exact h'.trans h) fun _ _ _ => trivial)
          fuel _ ?_).bind fun _ _ h => h
      · exact stopAtLine_top s
      · rfl
    · by_cases hi : s.state = .initialized
      · rcases hl : load (cstr req.program) with err | chunk
        · rw [handleLaunchRequest_of_error P load hi hl]
          exact launchFailed_top err
        · rw [handleLaunchRequest_of_ok P load hi hl]
          refine (forEach_satisfies (I := fun s' => s'.top = s.top + 1) (fun e s' h => ?_) _ _
            rfl).bind fun _ s' h => ?_
          · unfold raviDebughook
            split
            · exact (ihd _ _).mono (fun _ _ h' => h'.trans h) fun _ _ _ => trivial
            · exact h
          · show (programReturned chunk s').top = s.top
            simp [h]
      · rw [handleLaunchRequest_of_ne P load req hi]
        rfl

/-- **The Lua stack is balanced.** Every request, in every state and on every call stack it
can be read on, the hook's included, leaves the Lua stack as high as it found it once its
handler returns: the handlers push nothing they do not pop, and a launch pops the chunk, the
load error or the run's error object, after hook calls that are balanced in turn. -/
theorem request_balanced (fuel : Nat) (L : List LuaFrame) (s : Session) (req : Request) :
    (dispatch P (handleLaunchRequest P load fuel) L s req).Satisfies
      (fun _ s' => s'.top = s.top) fun _ _ => True :=
  dispatch_balanced P (run_balanced P load fuel).2 L s req

/-! ## Enough fuel -/

/-- The call returns, or the process exits: the fuel does not run out. -/
def Completes {α : Type} (o : Outcome α) : Prop :=
  o.Satisfies (fun _ _ => True) fun h _ => h ≠ .outOfFuel

/-- The loop does not run out of fuel while it has more than bytes left to read, if a
request read from at most `B` bytes, two taken by its header, is handled without running
out and without giving input back. -/
theorem dispatchLoop_completes {handle : Session → Request → Outcome Bool} (B : Nat)
    (hh : ∀ s req, s.input.length + 2 ≤ B →
      (handle s req).Satisfies (fun _ s' => s'.input <:+ s.input) fun h _ => h ≠ .outOfFuel) :
    ∀ fuel s, s.input.length < fuel → s.input.length ≤ B → Completes (dispatchLoop P handle fuel s)
  | 0, _, hf, _ => absurd hf (Nat.not_lt_zero _)
  | fuel + 1, s, hf, hB => by
    rcases hr : readFrame s.input with _ | rest | _ | ⟨b, rest⟩ <;>
      simp only [Completes, dispatchLoop, hr, satisfies_ok, satisfies_halt]
    · have := (readFrame_skip_suffix hr).2
      exact dispatchLoop_completes B hh fuel _ (by simp only; omega) (by simp only; omega)
    · exact nofun
    · have := (readFrame_body_suffix hr).2
      refine (hh _ _ (by simp only; omega)).bind fun more s' h => ?_
      have := h.length_le
      cases more
      · trivial
      · exact dispatchLoop_completes B hh fuel s' (by simp only at this; omega)
          (by simp only at this; omega)

/-- **Enough fuel**: a call of `debugger` with two more units of fuel than bytes left to read,
and of `handle_launch_request` with three more, returns or exits. The loop reads at least one
byte a pass and two before a body; a launch runs only in state Initialized, and the hook's
calls of `debugger` get the rest. -/
theorem run_completes : ∀ fuel,
    (∀ L s, s.input.length + 2 ≤ fuel → Completes (debugger P load fuel L s)) ∧
    (∀ req s, s.input.length + 3 ≤ fuel → Completes (handleLaunchRequest P load fuel req s))
  | 0 => ⟨fun _ _ h => absurd h (by omega), fun _ _ h => absurd h (by omega)⟩
  | fuel + 1 => by
    obtain ⟨ihd, ihl⟩ := run_completes fuel
    refine ⟨fun L s hf => ?_, fun req s hf => ?_⟩
    · rw [debugger_succ]
      have hlt : s.input.length < fuel := by omega
      split_ifs with ht hr
      · trivial
      all_goals
        refine (dispatchLoop_completes P s.input.length (fun s' req h => ?_) fuel _
          (by simpa using hlt) (by simp)).bind
          fun _ _ _ => trivial
      all_goals
        exact dispatch_satisfies P (fun _ ha => ⟨(answered_input ha) ▸ List.suffix_refl _, nofun⟩)
          (fun _ => (later_initializeRequest s' req).input) fun _ =>
            ((ihl req s' (by omega)).and ((run_later P load fuel).2 req s')).mono
              (fun _ _ h => h.2.input) fun _ _ h => h.1
    · by_cases hi : s.state = .initialized
      · rcases hl : load (cstr req.program) with err | chunk
        · rw [handleLaunchRequest_of_error P load hi hl]
          trivial
        · rw [handleLaunchRequest_of_ok P load hi hl]
          refine (forEach_satisfies (I := Later s) (H := fun h _ => h ≠ .outOfFuel)
            (fun e s' h => ?_) _ _ (later_launch s req)).bind fun _ _ _ => trivial
          unfold raviDebughook
          split
          · have := h.input.length_le
            exact (((run_later P load fuel).1 _ _).and (ihd _ _ (by simp only; omega))).mono
              (fun _ _ h' => (h.record _ (List.suffix_refl _)).trans h'.1) fun _ _ h' => h'.2
          · exact h
      · rw [handleLaunchRequest_of_ne P load req hi]
        trivial

/-- **The fuel `main` gives is enough**: for every input, `main` returns or exits. -/
theorem main_total (input : List Char) (s : Session) : main P load input ≠ .halt .outOfFuel s := by
  have h : Completes (main P load input) :=
    (run_completes P load (budget input)).1 [] (initial input) (by simp [budget, initial]; omega)
  intro he
  rw [he] at h
  exact h rfl

end RaviDebug
