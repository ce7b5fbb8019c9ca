import RaviDebug.Proof.Phases
import RaviDebug.Proof.FirstStop

/-!
# The program's run within a session

Four facts of every run of `main` that hold because of where each step can be taken
(`PhaseInvariant`): a launch and `initialize` only at the top level, a hook call only while the
program runs, a read only in a dispatch loop.

* `main_reads_paused` (every run): **the adapter reads a request only while the program is not
  running**: before it is launched (Birth, Initialized), stopped at a line, or after it ended.
* `main_stops_every_line` (every run): **every line event stops the program**: each hook call
  is followed at once by the stopped event, after the thread event the first time.
* `main_program_once` (every run): **the program lives once**: the trace's milestones are a
  prefix of one successful `initialize`, one launch, the program's own steps, one terminated
  event (`life`).
* `main_loops_end` (every run): **a dispatch loop ends only on a step request or at the end of
  `stdin`**: right after the response to a `stepIn`, `stepOut` or `next`, and once `stdin` has
  ended nothing more is read.
-/

namespace RaviDebug

open Outcome

variable (P : Protocol) (load : List Char → Except (List Char) Chunk)

/-! ## Reading only while the program is paused -/

/-- The states a request may be read in: before the launch, stopped at a line, after the end of
the program. -/
def readStates : List DebuggerState :=
  [.birth, .initialized, .programStopped, .programTerminated]

/-- Every request of `t` is read in one of `readStates`, the state the observations before it
leave. -/
def ReadsPaused (t : List Obs) : Prop :=
  ∀ pre b req post, t = pre ++ .read b req :: post → stateOf pre ∈ readStates

section ReadsPaused

variable {t : List Obs}

theorem ReadsPaused.snoc (h : ReadsPaused t) {o : Obs} (ho : ∀ b req, o ≠ .read b req) :
    ReadsPaused (t ++ [o]) := by
  intro pre b req post he
  rcases eq_append_cons_of_snoc he with ⟨-, rfl, -⟩ | ⟨post₀, ht, -⟩
  · exact absurd rfl (ho b req)
  · exact h pre b req post₀ ht

theorem ReadsPaused.append (h : ReadsPaused t) {u : List Obs} (hu : ∀ b req, .read b req ∉ u) :
    ReadsPaused (t ++ u) := by
  induction u using List.reverseRecOn with
  | nil => simpa using h
  | append_singleton u o ih =>
    rw [← List.append_assoc]
    exact (ih fun b req hm => hu b req (List.mem_append_left _ hm)).snoc
      fun b req he => hu b req (by simp [he])

theorem ReadsPaused.snoc_read (h : ReadsPaused t) (hs : stateOf t ∈ readStates)
    (b : List Char) (req : Request) : ReadsPaused (t ++ [.read b req]) := by
  intro pre b' req' post he
  rcases eq_append_cons_of_snoc he with ⟨rfl, -, -⟩ | ⟨post₀, ht, -⟩
  · exact hs
  · exact h pre b' req' post₀ ht

end ReadsPaused

/-! ## A stop at every line -/

/-- What follows a hook call at once: the stopped event, after the thread event the first
time. -/
def StopNext (post : List Obs) : Prop :=
  ∃ r rest, post = .write (.event (.stopped r)) :: rest ∨
    post = threadStarted :: .write (.event (.stopped r)) :: rest

/-- Every hook call of `t` is followed at once by a stop. -/
def HooksStop (t : List Obs) : Prop :=
  ∀ pre post, t = pre ++ .lineHook :: post → StopNext post

section HooksStop

theorem StopNext.append {post : List Obs} (h : StopNext post) (u : List Obs) :
    StopNext (post ++ u) := by
  obtain ⟨r, rest, rfl | rfl⟩ := h
  · exact ⟨r, rest ++ u, .inl rfl⟩
  · exact ⟨r, rest ++ u, .inr rfl⟩

theorem HooksStop.append {t u : List Obs} (ht : HooksStop t) (hu : HooksStop u) :
    HooksStop (t ++ u) := by
  intro pre post he
  rcases List.append_eq_append_iff.1 he with ⟨a, rfl, ha⟩ | ⟨c, rfl, hc⟩
  · exact hu a post ha
  · rcases c with _ | ⟨x, c⟩
    · exact hu [] post hc.symm
    · obtain ⟨rfl, rfl⟩ := List.cons.inj hc
      exact (ht pre c rfl).append u

theorem hooksStop_of_not_mem {u : List Obs} (h : .lineHook ∉ u) : HooksStop u := by
  rintro pre post rfl
  exact (h (List.mem_append_right _ (List.mem_cons_self _ _))).elim

theorem HooksStop.snoc {t : List Obs} (h : HooksStop t) {o : Obs} (ho : o ≠ .lineHook) :
    HooksStop (t ++ [o]) :=
  h.append (hooksStop_of_not_mem (by simpa [eq_comm] using ho))

/-- A hook call followed at once by a stop, and by no further hook call. -/
theorem hooksStop_hook {v : List Obs} (hv : StopNext v) (hn : .lineHook ∉ v) :
    HooksStop (.lineHook :: v) := by
  rintro (_ | ⟨a, pre⟩) post he <;> obtain ⟨-, rfl⟩ := List.cons.inj he
  · exact hv
  · exact absurd (List.mem_append_right _ (List.mem_cons_self _ _)) hn

end HooksStop

/-- A session whose state is the one its trace leaves, whose requests were all read while the
program was not running, and whose hook calls each stopped the program at once. -/
structure Paused (s : Session) : Prop where
  state : s.state = stateOf s.trace
  reads : ReadsPaused s.trace
  stops : HooksStop s.trace

namespace Paused

variable {s : Session} (h : Paused s)
include h

theorem push : Paused s.push := ⟨h.state, h.reads, h.stops⟩

theorem pop (n : Nat) : Paused (s.pop n) := ⟨h.state, h.reads, h.stops⟩

theorem input (input : List Char) : Paused { s with input } := ⟨h.state, h.reads, h.stops⟩

theorem flag (b : Bool) : Paused { s with threadEventSent := b } := ⟨h.state, h.reads, h.stops⟩

theorem send (m : Message) : Paused (s.send m) :=
  ⟨by simp [h.state, Obs.stateAfter], h.reads.snoc (by simp), h.stops.snoc (by simp)⟩

theorem setState (new : DebuggerState) (site : Site) : Paused (s.setState new site) :=
  ⟨by simp [Obs.stateAfter], h.reads.snoc (by simp), h.stops.snoc (by simp)⟩

theorem read (hs : s.state ∈ readStates) (b : List Char) (req : Request) (input : List Char) :
    Paused { s with input, trace := s.trace ++ [.read b req] } :=
  ⟨by simp [h.state, Obs.stateAfter], h.reads.snoc_read (h.state ▸ hs) b req,
    h.stops.snoc (by simp)⟩

/-- A hook call followed at once by a stop, and by no read or further hook call. -/
theorem hook {s' : Session} (v : List Obs) (htr : s'.trace = s.trace ++ .lineHook :: v)
    (hst : s'.state = stateOf s'.trace) (hv : StopNext v) (hr : ∀ b req, .read b req ∉ v)
    (hl : .lineHook ∉ v) : Paused s' :=
  ⟨hst, htr ▸ h.reads.append fun b req hm => (List.mem_cons.1 hm).elim (by simp) (hr b req),
    htr ▸ h.stops.append (hooksStop_hook hv hl)⟩

theorem hookStop : Paused (stopAtLine { s with trace := s.trace ++ [.lineHook] }) := by
  unfold RaviDebug.stopAtLine
  split
  · exact h.hook [.write (.event (.stopped "step".toList)), .setState s.state .programStopped
      .lineStop] (by simp) (by simp [Obs.stateAfter]) ⟨_, _, .inl rfl⟩ (by simp) (by simp)
  · exact h.hook [threadStarted, .write (.event (.stopped "entry".toList)), .setState s.state
      .programStopped .lineStop] (by simp [threadStarted]) (by simp [Obs.stateAfter])
      ⟨_, _, .inr rfl⟩ (by simp [threadStarted]) (by simp [threadStarted])

theorem programReturned (chunk : Chunk) : Paused (programReturned chunk s) := by
  unfold RaviDebug.programReturned
  split
  · exact ((h.pop 1).send _).setState _ _
  · exact (((((h.pop 1).push.send _).send _).pop 1).send _).setState _ _

end Paused

@[simp] theorem programReturned_state (chunk : Chunk) (s : Session) :
    (programReturned chunk s).state = .programTerminated := by
  unfold programReturned
  split <;> rfl

/-- The phases of `Paused`: at the top level the state is Birth, Initialized or Terminated,
in a hook's loop it is Stopped. -/
def PausedIn (top : Bool) (s : Session) : Prop :=
  Paused s ∧ s.state ∈ (if top then [.birth, .initialized, .programTerminated]
    else [.programStopped])

theorem pausedIn_readStates {top : Bool} {s : Session} (h : PausedIn top s) :
    s.state ∈ readStates := by
  have hsub : ∀ st ∈ (if top then [DebuggerState.birth, .initialized, .programTerminated]
      else [.programStopped]), st ∈ readStates := by
    cases top <;> decide
  exact hsub _ h.2

theorem paused_phaseInvariant : PhaseInvariant P PausedIn Paused where
  read _ _ _ _ hs _ := ⟨hs.1.read (pausedIn_readStates hs) _ _ _, hs.2⟩
  skip _ _ rest hs _ := ⟨hs.1.input rest, hs.2⟩
  stop _ _ hs _ := ⟨hs.1.input [], hs.2⟩
  answered _ _ _ _ hs ha := by
    obtain ⟨r, -, rfl⟩ := ha
    exact ⟨hs.1.send _, hs.2⟩
  initializeRequest s req hs := by
    by_cases hb : s.state = .birth
    · rw [handleInitializeRequest_of_birth req hb]
      exact ⟨(((hs.1.send _).send _).send _).setState _ _, by simp⟩
    · rw [handleInitializeRequest_of_ne req hb]
      exact ⟨hs.1.send _, hs.2⟩
  launchFailed _ _ _ hs _ := ⟨((hs.1.push.send _).send _).pop 1, hs.2⟩
  launchStart _ _ hs _ := (hs.1.push.send _).setState _ _
  hookStop _ hs _ := ⟨hs.hookStop, by simp⟩
  hookEnd _ _ hs _ _ := hs.1.setState _ _
  programReturned chunk _ hs _ := ⟨hs.programReturned chunk, by simp⟩

theorem pausedIn_initial (input : List Char) : PausedIn true (initial input) :=
  ⟨⟨rfl, fun _ _ _ _ h => by simp [initial] at h, fun _ _ h => by simp [initial] at h⟩,
    by simp [initial]⟩

/-- **Requests are read only while the program is not running.** In every run of `main`,
whatever the requests and the program's line events, every request is read in state Birth or
Initialized, before the program is launched, Stopped, while the program waits at a line, or
Terminated, after it has ended: never while it runs. -/
theorem main_reads_paused (input : List Char) : ReadsPaused (main P load input).session.trace :=
  (paused_phaseInvariant P).main_session (F := fun s => ReadsPaused s.trace)
    (pausedIn_initial input)
    (fun _ _ hs _ => (hs.1.setState _ _).reads) fun _ _ hs => hs.1.reads

/-- **The program stops at every line.** In every run of `main`, whatever the requests and the
program's line events, every hook call is followed at once by a stopped event, the first time
after the thread event: no line event passes without a stop, and nothing is read between a
line event and its stop. -/
theorem main_stops_every_line (input : List Char) :
    HooksStop (main P load input).session.trace :=
  (paused_phaseInvariant P).main_session (F := fun s => HooksStop s.trace)
    (pausedIn_initial input)
    (fun _ _ hs _ => (hs.1.setState _ _).stops) fun _ _ hs => hs.1.stops

/-! ## One run of the program -/

/-- The steps in the life of the program that a trace records: the successful `initialize`,
the launch, anything only the program's run does (a hook call, a thread or stopped event), and
the terminated event. -/
inductive Milestone
  | initialized | launched | program | terminated
  deriving DecidableEq, Repr

/-- The milestone `o` is, if any: an assignment in `handle_initialize_request` or
`handle_launch_request`, a hook call, a thread, stopped or terminated event. -/
def Obs.milestone : Obs → Option Milestone
  | .setState _ _ .initializeRequest => some .initialized
  | .setState _ _ .launchRequest => some .launched
  | .lineHook => some .program
  | .write (.event (.stopped _)) => some .program
  | .write (.event (.thread _)) => some .program
  | .write (.event .terminated) => some .terminated
  | _ => none

/-- The milestones of `t`, in order. -/
def milestones (t : List Obs) : List Milestone := t.filterMap Obs.milestone

/-- The milestones of a program launched and run for `n` steps. -/
def running (n : Nat) : List Milestone := .initialized :: .launched :: List.replicate n .program

/-- The milestones of a whole life of the program, `n` steps long. -/
def life (n : Nat) : List Milestone := running n ++ [.terminated]

@[simp] theorem milestones_append (t t' : List Obs) :
    milestones (t ++ t') = milestones t ++ milestones t' :=
  List.filterMap_append _ _ _

@[simp] theorem milestones_nil : milestones [] = [] := rfl

@[simp] theorem milestones_cons (o : Obs) (t : List Obs) :
    milestones (o :: t) = o.milestone.toList ++ milestones t := by
  cases h : o.milestone <;> simp [milestones, List.filterMap_cons, h]

theorem running_append_program (n k : Nat) :
    running n ++ List.replicate k .program = running (n + k) := by
  simp [running]

/-- The stop at a line records program steps only. -/
theorem milestones_stopAtLine (s : Session) :
    ∃ k, milestones (stopAtLine s).trace = milestones s.trace ++ List.replicate k .program := by
  unfold stopAtLine
  split
  · exact ⟨1, by simp [Obs.milestone]⟩
  · exact ⟨2, by simp [Obs.milestone]⟩

@[simp] theorem milestones_programReturned (chunk : Chunk) (s : Session) :
    milestones (programReturned chunk s).trace = milestones s.trace ++ [.terminated] := by
  unfold programReturned
  split <;> simp [Obs.milestone]

/-- The phases of a run in terms of its milestones: at the top level none before
`initialize`, the `initialize` alone before the launch, a whole life once the program has
ended; in a hook's loop, a program launched and stopped at a line. -/
def LifeIn : Bool → Session → Prop
  | true, s => s.state = .birth ∧ milestones s.trace = [] ∨
      s.state = .initialized ∧ milestones s.trace = [.initialized] ∨
      s.state = .programTerminated ∧ ∃ n, milestones s.trace = life n
  | false, s => s.state = .programStopped ∧ ∃ n, milestones s.trace = running n

section Life

variable {top : Bool} {s s' : Session}

/-- A step that records no milestone and keeps the state keeps the phase. -/
theorem LifeIn.quiet (h : LifeIn top s) (hs : s'.state = s.state)
    (ht : milestones s'.trace = milestones s.trace) : LifeIn top s' := by
  cases top <;> simpa only [LifeIn, hs, ht] using h

theorem LifeIn.prefix (h : LifeIn top s) : ∃ n, milestones s.trace <+: life n := by
  cases top
  · obtain ⟨-, n, hn⟩ := h
    exact ⟨n, hn ▸ List.prefix_append _ _⟩
  · rcases h with ⟨-, hn⟩ | ⟨-, hn⟩ | ⟨-, n, hn⟩
    · exact ⟨0, hn ▸ List.nil_prefix⟩
    · exact ⟨0, hn ▸ ⟨_, rfl⟩⟩
    · exact ⟨n, hn ▸ List.prefix_refl _⟩

end Life

theorem lifeIn_phaseInvariant :
    PhaseInvariant P LifeIn fun s => ∃ n, milestones s.trace = running n where
  read _ _ _ _ hs _ := hs.quiet rfl (by simp [Obs.milestone])
  skip _ _ _ hs _ := hs.quiet rfl rfl
  stop _ _ hs _ := hs.quiet rfl rfl
  answered _ _ _ _ hs ha := by
    obtain ⟨r, -, rfl⟩ := ha
    exact hs.quiet rfl (by simp [Obs.milestone])
  initializeRequest s req hs := by
    by_cases hb : s.state = .birth
    · have hm : milestones s.trace = [] := by
        rcases hs with ⟨-, hm⟩ | ⟨h, -⟩ | ⟨h, -⟩ <;> simp_all
      rw [handleInitializeRequest_of_birth req hb]
      exact .inr (.inl ⟨rfl, by simp [hm, Obs.milestone]⟩)
    · rw [handleInitializeRequest_of_ne req hb]
      exact hs.quiet rfl (by simp [Obs.milestone])
  launchFailed _ _ _ hs _ := hs.quiet rfl (by simp [launchFailed, Obs.milestone])
  launchStart s _ hs hi := by
    have hm : milestones s.trace = [.initialized] := by
      rcases hs with ⟨h, -⟩ | ⟨-, hm⟩ | ⟨h, -⟩ <;> simp_all
    exact ⟨0, by simp [hm, Obs.milestone, running]⟩
  hookStop s hs _ := by
    obtain ⟨n, hn⟩ := hs
    obtain ⟨k, hk⟩ := milestones_stopAtLine { s with trace := s.trace ++ [.lineHook] }
    refine ⟨stopAtLine_state _, n + 1 + k, ?_⟩
    rw [hk, ← running_append_program, ← running_append_program]
    simp [hn, Obs.milestone]
  hookEnd _ _ hs _ _ := by
    obtain ⟨-, n, hn⟩ := hs
    exact ⟨n, by simp [hn, Obs.milestone]⟩
  programReturned chunk _ hs _ := by
    obtain ⟨n, hn⟩ := hs
    exact .inr (.inr ⟨programReturned_state chunk _, n, by simp [hn, life]⟩)

/-- **The program lives once.** In every run of `main`, whatever the requests and the program's
line events, the milestones of the trace are, in order, a prefix of one life of the program:
one successful `initialize`, then one launch, then the program's own steps (hook calls, the
thread and stopped events), then one terminated event. So `initialize` succeeds at most once,
the program is launched at most once and only after it, nothing of the program's run comes
before the launch or after the terminated event, and that event is sent at most once. -/
theorem main_program_once (input : List Char) :
    ∃ n, milestones (main P load input).session.trace <+: life n :=
  (lifeIn_phaseInvariant P).main_session (F := fun s => ∃ n, milestones s.trace <+: life n)
    (.inl ⟨rfl, rfl⟩) (fun _ _ hs _ => by
      obtain ⟨n, hn⟩ := hs.prefix
      exact ⟨n, by simpa [Obs.milestone] using hn⟩)
    fun _ _ hs => hs.prefix

/-! ## Where a dispatch loop ends -/

/-- `pre` closes with the success response to a step request: `stepIn`, `stepOut` or `next`. -/
def StepAcked (pre : List Obs) : Prop :=
  ∃ pre' req, ∃ t ∈ [ResponseType.stepinResponse, .stepoutResponse, .nextResponse],
    pre = pre' ++ [.write (.response (makeSuccessResponse req t))]

/-- Every dispatch loop of `t` that ends by a step request ends right after that request's
response, and one that ends at the end of `stdin` is followed by no read. -/
def LoopsEnd (t : List Obs) : Prop :=
  (∀ pre old post, t = pre ++ .setState old .programRunning (.loopEnd .step) :: post →
    StepAcked pre) ∧
  ∀ pre old post, t = pre ++ .setState old .programRunning (.loopEnd .endOfInput) :: post →
    ∀ b req, .read b req ∉ post

/-- Some dispatch loop of `t` has met the end of `stdin`. -/
def InputEnded (t : List Obs) : Prop :=
  ∃ old, .setState old .programRunning (.loopEnd .endOfInput) ∈ t

section LoopsEnd

variable {t : List Obs} {o : Obs}

theorem InputEnded.of_snoc (h : InputEnded (t ++ [o]))
    (ho : ∀ old, o ≠ .setState old .programRunning (.loopEnd .endOfInput)) : InputEnded t := by
  obtain ⟨old, hm⟩ := h
  rcases List.mem_append.1 hm with hm | hm
  · exact ⟨old, hm⟩
  · exact absurd (List.mem_singleton.1 hm).symm (ho old)

/-- An observation that ends no loop keeps `LoopsEnd`, a read only while the input lasts. -/
theorem LoopsEnd.snoc (h : LoopsEnd t)
    (hs : ∀ old new how, o ≠ .setState old new (.loopEnd how))
    (hr : ∀ b req, o = .read b req → ¬ InputEnded t) : LoopsEnd (t ++ [o]) := by
  refine ⟨fun pre old post he => ?_, fun pre old post he b req hm => ?_⟩
  · rcases eq_append_cons_of_snoc he with ⟨-, rfl, -⟩ | ⟨post₀, ht, -⟩
    · exact absurd rfl (hs _ _ _)
    · exact h.1 pre old post₀ ht
  · rcases eq_append_cons_of_snoc he with ⟨-, rfl, -⟩ | ⟨post₀, ht, rfl⟩
    · exact absurd rfl (hs _ _ _)
    · rcases List.mem_append.1 hm with hm | hm
      · exact h.2 pre old post₀ ht b req hm
      · exact hr b req (List.mem_singleton.1 hm).symm
          ⟨old, ht ▸ List.mem_append_right _ (List.mem_cons_self _ _)⟩

/-- The end of a dispatch loop keeps `LoopsEnd` when a step response closes the trace, if the
loop ends by a step request. -/
theorem LoopsEnd.loopEnd (h : LoopsEnd t) (how : LoopEnd) (hs : how = .step → StepAcked t)
    (old : DebuggerState) : LoopsEnd (t ++ [.setState old .programRunning (.loopEnd how)]) := by
  refine ⟨fun pre old' post he => ?_, fun pre old' post he b req hm => ?_⟩
  · rcases eq_append_cons_of_snoc he with ⟨rfl, he', -⟩ | ⟨post₀, ht, -⟩
    · cases he'
      exact hs rfl
    · exact h.1 pre old' post₀ ht
  · rcases eq_append_cons_of_snoc he with ⟨-, -, rfl⟩ | ⟨post₀, ht, rfl⟩
    · exact absurd hm (List.not_mem_nil _)
    · rcases List.mem_append.1 hm with hm | hm
      · exact h.2 pre old' post₀ ht b req hm
      · cases List.mem_singleton.1 hm

end LoopsEnd

theorem readFrame_nil : readFrame [] = .endOfInput := rfl

/-- A session whose dispatch loops each ended as `LoopsEnd` says, with no input left once one
met the end of `stdin`. -/
structure Drained (s : Session) : Prop where
  loops : LoopsEnd s.trace
  input : InputEnded s.trace → s.input = []

namespace Drained

variable {s : Session} (h : Drained s)
include h

theorem push : Drained s.push := ⟨h.loops, h.input⟩

theorem pop (n : Nat) : Drained (s.pop n) := ⟨h.loops, h.input⟩

theorem flag (b : Bool) : Drained { s with threadEventSent := b } := ⟨h.loops, h.input⟩

/-- A step that appends one observation, ending no loop and reading nothing. -/
theorem record {s' : Session} {o : Obs} (htr : s'.trace = s.trace ++ [o]) (hin : s'.input = s.input)
    (hs : ∀ old new how, o ≠ .setState old new (.loopEnd how))
    (hr : ∀ b req, o ≠ .read b req) : Drained s' :=
  ⟨htr ▸ h.loops.snoc hs fun b req he => absurd he (hr b req),
    fun he => hin ▸ h.input ((htr ▸ he).of_snoc fun _ he' => hs _ _ _ he')⟩

theorem send (m : Message) : Drained (s.send m) := h.record rfl rfl (by simp) (by simp)

theorem setState (new : DebuggerState) {site : Site} (hs : ∀ how, site ≠ .loopEnd how) :
    Drained (s.setState new site) :=
  h.record rfl rfl (fun _ _ how he => hs how (Obs.setState.inj he).2.2) (by simp)

theorem lineHook : Drained { s with trace := s.trace ++ [.lineHook] } :=
  h.record rfl rfl (by simp) (by simp)

/-- A frame read: the input had not ended, since the reader found a body. -/
theorem read {b rest : List Char} (hr : readFrame s.input = .body b rest) (req : Request) :
    Drained { s with input := rest, trace := s.trace ++ [.read b req] } := by
  have hne : ¬ InputEnded s.trace := fun he => by
    rw [h.input he, readFrame_nil] at hr
    cases hr
  exact ⟨h.loops.snoc (by simp) fun _ _ _ => hne, fun he => absurd (he.of_snoc (by simp)) hne⟩

theorem loopEnd {how : LoopEnd} (hl : LoopEnded how s) :
    Drained (s.setState .programRunning (.loopEnd how)) := by
  cases how with
  | step =>
    obtain ⟨s₀, req, t, ht, rfl⟩ := hl
    exact ⟨h.loops.loopEnd .step (fun _ => ⟨_, req, t, ht, rfl⟩) _,
      fun he => h.input (he.of_snoc (by simp))⟩
  | endOfInput => exact ⟨h.loops.loopEnd .endOfInput nofun _, fun _ => hl⟩

theorem stopAtLine : Drained (stopAtLine s) := by
  unfold RaviDebug.stopAtLine
  split
  · exact (h.send _).setState _ nofun
  · exact (((h.flag true).send _).send _).setState _ nofun

theorem programReturned (chunk : Chunk) : Drained (programReturned chunk s) := by
  unfold RaviDebug.programReturned
  split
  · exact ((h.pop 1).send _).setState _ nofun
  · exact (((((h.pop 1).push.send _).send _).pop 1).send _).setState _ nofun

end Drained

theorem drained_phaseInvariant : PhaseInvariant P (fun _ => Drained) Drained where
  read _ _ _ _ hs hr := hs.read hr _
  skip _ s rest hs hr := ⟨hs.loops, fun he => by
    rw [hs.input he, readFrame_nil] at hr
    cases hr⟩
  stop _ _ hs _ := ⟨hs.loops, fun _ => rfl⟩
  answered _ _ _ _ hs ha := by
    obtain ⟨r, -, rfl⟩ := ha
    exact hs.send _
  initializeRequest s req hs := by
    by_cases hb : s.state = .birth
    · rw [handleInitializeRequest_of_birth req hb]
      exact (((hs.send _).send _).send _).setState _ nofun
    · rw [handleInitializeRequest_of_ne req hb]
      exact hs.send _
  launchFailed _ _ _ hs _ := ((hs.push.send _).send _).pop 1
  launchStart _ _ hs _ := (hs.push.send _).setState _ nofun
  hookStop _ hs _ := hs.lineHook.stopAtLine
  hookEnd _ _ hs _ hl := hs.loopEnd hl
  programReturned chunk _ hs _ := hs.programReturned chunk

/-- **A dispatch loop ends only on a step request or at the end of `stdin`.** In every run of
`main`, whatever the requests and the program's line events, every dispatch loop of `debugger`
(the top-level one and each hook's) that ends by a step request ends right after the success
response to a `stepIn`, `stepOut` or `next`; and once a loop has met the end of `stdin`,
nothing more is read. -/
theorem main_loops_end (input : List Char) : LoopsEnd (main P load input).session.trace :=
  (drained_phaseInvariant P).main_session (F := fun s => LoopsEnd s.trace)
    ⟨⟨fun _ _ _ h => by simp [initial] at h, fun _ _ _ h => by simp [initial] at h⟩,
      fun ⟨_, h⟩ => by simp [initial] at h⟩
    (fun _ _ hs hl => (hs.loopEnd hl).loops) fun _ _ hs => hs.loops

end RaviDebug
