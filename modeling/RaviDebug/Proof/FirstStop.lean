import RaviDebug.Proof.Invariant

/-!
# The first stop

`thread_event_sent` starts at 0, and the first call of `debugger` that finds the state Running
sets it and sends the one thread event of the session, then the stop for `"entry"`; every later
call that finds the state Running sends a stop for `"step"`. Each does so before its loop reads
anything, and `debugger` is entered in state Running only by the hook.

`FirstStop` is the invariant this gives a session: the state is the last one the trace assigns,
the flag is set exactly when a stop has been sent, the thread event is sent once, with the flag,
and is followed at once by the stop for `"entry"` (`ThreadsLead`), and every stop comes right
after the hook call that found the state Running (`StopsShaped`). Every step of a run keeps it
(`firstStop_runInvariant`), and `main_first_stop` states it of `main`.
-/

namespace RaviDebug

open Outcome

variable (P : Protocol) (load : List Char → Except (List Char) Chunk)

/-! ## Reading a trace -/

/-- The state after `o`, `st` before it. -/
def Obs.stateAfter (st : DebuggerState) : Obs → DebuggerState
  | .setState _ new _ => new
  | _ => st

/-- The state the observations `t` leave `debugger_state` in: the last one assigned, Birth
before any. -/
def stateOf (t : List Obs) : DebuggerState := t.foldl Obs.stateAfter .birth

/-- The reason of a stopped event. -/
def Obs.stopReason : Obs → Option (List Char)
  | .write (.event (.stopped r)) => some r
  | _ => none

/-- The reasons of the stopped events of `t`, in order. -/
def stopsOf (t : List Obs) : List (List Char) := t.filterMap Obs.stopReason

/-- The thread event, `started = true`. -/
def threadStarted : Obs := .write (.event (.thread true))

/-- The stopped event for `"entry"`. -/
def entryStop : Obs := .write (.event (.stopped "entry".toList))

/-- An observation that is neither a stopped event nor the thread event. -/
def Obs.quiet : Obs → Bool
  | .write (.event (.stopped _)) => false
  | .write (.event (.thread true)) => false
  | _ => true

@[simp] theorem stateOf_append (t t' : List Obs) :
    stateOf (t ++ t') = t'.foldl Obs.stateAfter (stateOf t) :=
  List.foldl_append _ _ _ _

@[simp] theorem stopsOf_append (t t' : List Obs) : stopsOf (t ++ t') = stopsOf t ++ stopsOf t' :=
  List.filterMap_append _ _ _

theorem Obs.quiet_spec {o : Obs} (h : o.quiet) : o.stopReason = none ∧ o ≠ threadStarted := by
  rcases o with _ | ⟨_ | ⟨_ | _ | ⟨_ | _⟩ | _ | _⟩⟩ | _ | _ <;>
    simp_all [Obs.quiet, Obs.stopReason, threadStarted]

/-- An occurrence of `x` in `t ++ [o]` is the last element or one in `t`. -/
theorem eq_append_cons_of_snoc {α : Type} {t pre post : List α} {x o : α}
    (h : t ++ [o] = pre ++ x :: post) :
    (pre = t ∧ x = o ∧ post = []) ∨
      ∃ post₀, t = pre ++ x :: post₀ ∧ post = post₀ ++ [o] := by
  rcases List.append_eq_append_iff.1 h with ⟨a, rfl, ha⟩ | ⟨c, rfl, hc⟩
  · rcases a with _ | ⟨y, a⟩
    · obtain ⟨rfl, rfl⟩ := List.cons.inj ha
      exact .inl ⟨by simp, rfl, rfl⟩
    · simp at ha
  · rcases c with _ | ⟨y, c⟩
    · obtain ⟨rfl, rfl⟩ := List.cons.inj hc
      exact .inl ⟨by simp, rfl, rfl⟩
    · obtain ⟨rfl, rfl⟩ := List.cons.inj hc
      exact .inr ⟨c, rfl, rfl⟩

/-! ## The shape of the stops -/

/-- A stopped event for `r` sent after the observations `pre`: right after the hook call that
found the state Running, before anything else; for `"entry"` and right after the thread event
when it is the first stop, for `"step"` when it is not. -/
def StopAt (pre : List Obs) (r : List Char) : Prop :=
  ∃ hook, stateOf hook = .programRunning ∧
    (stopsOf pre = [] ∧ r = "entry".toList ∧ pre = hook ++ [.lineHook, threadStarted] ∨
      stopsOf pre ≠ [] ∧ r = "step".toList ∧ pre = hook ++ [.lineHook])

/-- Every stopped event of `t` is sent as `StopAt` says. -/
def StopsShaped (t : List Obs) : Prop :=
  ∀ pre r post, t = pre ++ .write (.event (.stopped r)) :: post → StopAt pre r

/-- Every thread event of `t` is followed at once by the stopped event for `"entry"`. -/
def ThreadsLead (t : List Obs) : Prop :=
  ∀ pre post, t = pre ++ threadStarted :: post → ∃ post', post = entryStop :: post'

section Shape

variable {t : List Obs}

theorem StopsShaped.snoc (h : StopsShaped t) {o : Obs} (ho : o.stopReason = none) :
    StopsShaped (t ++ [o]) := by
  intro pre r post he
  rcases eq_append_cons_of_snoc he with ⟨-, rfl, -⟩ | ⟨post₀, ht, -⟩
  · cases ho
  · exact h pre r post₀ ht

theorem StopsShaped.snoc_stop (h : StopsShaped t) {r : List Char} (hs : StopAt t r) :
    StopsShaped (t ++ [.write (.event (.stopped r))]) := by
  intro pre r' post he
  rcases eq_append_cons_of_snoc he with ⟨rfl, hx, -⟩ | ⟨post₀, ht, -⟩
  · cases hx
    exact hs
  · exact h pre r' post₀ ht

theorem ThreadsLead.snoc (h : ThreadsLead t) {o : Obs} (ho : o ≠ threadStarted) :
    ThreadsLead (t ++ [o]) := by
  intro pre post he
  rcases eq_append_cons_of_snoc he with ⟨-, rfl, -⟩ | ⟨post₀, ht, rfl⟩
  · exact absurd rfl ho
  · obtain ⟨post', rfl⟩ := h pre post₀ ht
    exact ⟨_, rfl⟩

theorem ThreadsLead.snoc_entry (h : ThreadsLead t) :
    ThreadsLead (t ++ [threadStarted] ++ [entryStop]) := by
  intro pre post he
  rcases eq_append_cons_of_snoc he with ⟨-, hx, -⟩ | ⟨post₀, ht, rfl⟩
  · cases hx
  · rcases eq_append_cons_of_snoc ht with ⟨-, -, rfl⟩ | ⟨post₁, ht', rfl⟩
    · exact ⟨[], rfl⟩
    · obtain ⟨post', rfl⟩ := h pre post₁ ht'
      exact ⟨_, rfl⟩

end Shape

/-! ## The invariant -/

/-- **The first-stop invariant** of a session. -/
structure FirstStop (s : Session) : Prop where
  state : s.state = stateOf s.trace
  sent : s.threadEventSent = true ↔ stopsOf s.trace ≠ []
  count : s.trace.count threadStarted = if s.threadEventSent then 1 else 0
  threads : ThreadsLead s.trace
  stops : StopsShaped s.trace

namespace FirstStop

variable {s s' : Session}

theorem congr (h : FirstStop s) (htr : s'.trace = s.trace) (hst : s'.state = s.state)
    (hse : s'.threadEventSent = s.threadEventSent) : FirstStop s' :=
  ⟨by rw [hst, htr, h.state], by rw [hse, htr, h.sent], by rw [hse, htr, h.count], htr ▸ h.threads,
    htr ▸ h.stops⟩

/-- An observation that is neither a stop nor the thread event keeps the invariant. -/
theorem snoc (h : FirstStop s) {o : Obs} (ho : o.quiet) (htr : s'.trace = s.trace ++ [o])
    (hst : s'.state = o.stateAfter s.state) (hse : s'.threadEventSent = s.threadEventSent) :
    FirstStop s' := by
  obtain ⟨hr, hq⟩ := Obs.quiet_spec ho
  refine ⟨?_, ?_, ?_, htr ▸ h.threads.snoc hq, htr ▸ h.stops.snoc hr⟩
  · simp [htr, hst, h.state]
  · simp [htr, hse, h.sent, stopsOf, hr]
  · simp [htr, hse, h.count, List.count_singleton, hq]

theorem push (h : FirstStop s) : FirstStop s.push := h.congr rfl rfl rfl

theorem pop (h : FirstStop s) (n : Nat) : FirstStop (s.pop n) := h.congr rfl rfl rfl

theorem send (h : FirstStop s) (m : Message) (hm : (Obs.write m).quiet) : FirstStop (s.send m) :=
  h.snoc hm rfl rfl rfl

theorem setState (h : FirstStop s) (new : DebuggerState) (site : Site) :
    FirstStop (s.setState new site) :=
  h.snoc (o := .setState s.state new site) rfl rfl rfl rfl

theorem record (h : FirstStop s) {o : Obs} (ho : o.quiet) (hs : o.stateAfter s.state = s.state)
    (input : List Char) : FirstStop { s with input, trace := s.trace ++ [o] } :=
  h.snoc ho rfl hs.symm rfl

theorem answered {req : Request} (h : FirstStop s) (ha : Answered s req s') : FirstStop s' := by
  obtain ⟨r, -, rfl⟩ := ha
  exact h.send _ (by rfl)

end FirstStop

/-! ## The stop at a line -/

section Stop

variable {s : Session} {hook : List Obs} (h : FirstStop s) (hr : s.state = .programRunning)
  (hl : s.trace = hook ++ [.lineHook])
include h hr hl

theorem stateOf_hook : stateOf hook = .programRunning := by
  rw [← hr, h.state, hl, stateOf_append]
  rfl

/-- A stop once the thread event has been sent: for `"step"`. -/
theorem firstStop_step (hsent : s.threadEventSent = true) :
    FirstStop (s.send (.event (.stopped "step".toList))) where
  state := by simp [h.state, Obs.stateAfter]
  sent := by simp [hsent, stopsOf, Obs.stopReason]
  count := by
    simp only [Session.send_trace, List.count_append, h.count]
    simp [threadStarted]
  threads := h.threads.snoc nofun
  stops := h.stops.snoc_stop ⟨hook, stateOf_hook h hr hl, .inr ⟨h.sent.1 hsent, rfl, hl⟩⟩

/-- The first stop: the thread event, then the stop for `"entry"`. -/
theorem firstStop_entry (hsent : s.threadEventSent = false) :
    FirstStop (({ s with threadEventSent := true }.send (.event (.thread true))).send
      (.event (.stopped "entry".toList))) where
  state := by simp [h.state, Obs.stateAfter]
  sent := by simp [stopsOf, Obs.stopReason]
  count := by
    simp only [Session.send_trace, List.count_append, h.count]
    simp [hsent, threadStarted]
  threads := h.threads.snoc_entry
  stops := (h.stops.snoc (o := threadStarted) rfl).snoc_stop ⟨hook, stateOf_hook h hr hl,
    .inl ⟨by rw [stopsOf_append, (by simpa [hsent] using h.sent : stopsOf s.trace = [])]; rfl,
      rfl, by simp [hl, threadStarted]⟩⟩

theorem firstStop_stopAtLine : FirstStop (stopAtLine s) := by
  unfold stopAtLine
  split
  next hsent => exact (firstStop_step h hr hl hsent).setState _ _
  next hsent => exact (firstStop_entry h hr hl (eq_false_of_ne_true hsent)).setState _ _

end Stop

/-! ## Every run -/

section Handlers

variable {s : Session} (h : FirstStop s)
include h

theorem firstStop_initializeRequest (req : Request) :
    FirstStop (handleInitializeRequest s req) := by
  by_cases hb : s.state = .birth
  · rw [handleInitializeRequest_of_birth req hb]
    exact (((h.send _ (by rfl)).send _ (by rfl)).send _ (by rfl)).setState _ _
  · rw [handleInitializeRequest_of_ne req hb]
    exact h.send _ (by rfl)

theorem firstStop_launchFailed (req : Request) (err : List Char) :
    FirstStop (launchFailed s req err) :=
  ((h.push.send _ (by rfl)).send _ (by rfl)).pop 1

theorem firstStop_programReturned (chunk : Chunk) : FirstStop (programReturned chunk s) := by
  unfold programReturned
  split
  · exact ((h.pop 1).send _ (by rfl)).setState _ _
  · exact (((((h.pop 1).push.send _ (by rfl)).send _ (by rfl)).pop 1).send _ (by rfl)).setState _ _

end Handlers

/-- Where `debugger` may be entered in state Running: right after a hook call. -/
def AfterHook (s : Session) : Prop :=
  s.state = .programRunning → ∃ hook, s.trace = hook ++ [.lineHook]

/-- Every step of a run keeps `FirstStop`, `debugger` entered as `AfterHook` says. -/
theorem firstStop_runInvariant : RunInvariant P FirstStop AfterHook where
  read _ _ _ h _ := h.record (by rfl) (by rfl) _
  skip _ _ h _ := h.congr rfl rfl rfl
  stop _ h _ := h.congr rfl rfl rfl
  answered _ _ _ h ha := h.answered ha
  initializeRequest _ req h := firstStop_initializeRequest h req
  stopAtLine _ h he hr := by
    obtain ⟨_, hl⟩ := he hr
    exact firstStop_stopAtLine h hr hl
  loopEnd _ _ h := h.setState _ _
  launchFailed _ req err h := firstStop_launchFailed h req err
  launchStart _ _ h _ := (h.push.send _ (by rfl)).setState _ _
  lineHook _ h _ := h.record (by rfl) (by rfl) _
  entry s _ := ⟨s.trace, rfl⟩
  programReturned chunk _ h _ := firstStop_programReturned h chunk

theorem firstStop_initial (input : List Char) : FirstStop (initial input) where
  state := rfl
  sent := by simp [initial, stopsOf]
  count := rfl
  threads _ _ h := by simp [initial] at h
  stops _ _ _ h := by simp [initial] at h

/-- **The first stop.** In every run, whatever the requests and the program's line events, the
thread event (`started = true`) is sent at most once, and is followed at once by the stopped
event for `"entry"`; every stopped event is sent right after a hook call that found the state
Running, before anything is read: for `"entry"`, right after the thread event, when it is the
first stop of the session, and for `"step"` when it is not. -/
theorem main_first_stop (input : List Char) :
    (main P load input).session.trace.count threadStarted ≤ 1 ∧
      ThreadsLead (main P load input).session.trace ∧
      StopsShaped (main P load input).session.trace := by
  have h : FirstStop (main P load input).session :=
    (firstStop_runInvariant P).main load (firstStop_initial input) nofun
  refine ⟨?_, h.threads, h.stops⟩
  rw [h.count]
  split <;> omega

/-- A client that sends `initialize` for the body `i`, a launch of `a.lua` for `l`, and `next`
for any other body. -/
def steppingClient : Protocol :=
  ⟨fun b => match b with
    | ['i'] => ⟨.initializeRequest, 1, "initialize".toList, [], 0, 0, 0⟩
    | ['l'] => ⟨.launchRequest, 2, "launch".toList, "a.lua".toList, 0, 0, 0⟩
    | _ => ⟨.nextRequest, 3, "next".toList, [], 0, 0, 0⟩, 20, 20, 16, 16, 16, 16, 16, 16⟩

/-- A program of two lines. -/
def twoLines : Chunk := ⟨[⟨.line, []⟩, ⟨.line, []⟩], none⟩

set_option maxRecDepth 8192 in
example : stopsOf (main steppingClient (fun _ => .ok twoLines)
    ("Content-Length: 1\r\n\r\niContent-Length: 1\r\n\r\nl".toList ++
      "Content-Length: 1\r\n\r\nnContent-Length: 1\r\n\r\nn".toList)).session.trace =
    ["entry".toList, "step".toList] := by
  rfl

end RaviDebug
