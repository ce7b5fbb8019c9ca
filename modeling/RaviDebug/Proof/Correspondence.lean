import RaviDebug.Proof.Run

/-!
# One response per request

The client's view of a run is the stream of requests the adapter reads and responses it
writes (`exchanges`). `accepts` is the client's monitor: idle, a request may be read; waiting
for the answer to `q`, only a response echoing `q.seq` may come, and the monitor is idle
again. `Exch a s s' b` says that the monitor goes from `a` to `b` over what a run adds from `s`
to `s'`.

`run_exch`: a call of `debugger` leaves the monitor idle, and a launch answers its request
first, before any hook call reads one. So, with `main_total`, `main_exchanges`: the
requests and responses of every run alternate, each response echoing the `seq` of the request
read just before it, and the launch response comes before anything read in the hooks.
-/

namespace RaviDebug

open Outcome

variable (P : Protocol) (load : List Char → Except (List Char) Chunk)

/-- The request an observation reads, or the response it writes. -/
def Obs.exchange : Obs → List (Request ⊕ Response)
  | .read _ req => [.inl req]
  | .write (.response r) => [.inr r]
  | _ => []

/-- The requests read and the responses written in a trace, in order. -/
def exchanges (t : List Obs) : List (Request ⊕ Response) := t.flatMap Obs.exchange

@[simp] theorem exchanges_append (t t' : List Obs) :
    exchanges (t ++ t') = exchanges t ++ exchanges t' :=
  List.flatMap_append _ _ _

/-- The client's monitor, waiting for the answer to a request or idle (`none`): the state it
ends in, or `none` at the first request read while one is pending or response that does not
answer the pending request. -/
def accepts : Option Request → List (Request ⊕ Response) → Option (Option Request)
  | a, [] => some a
  | none, .inl q :: xs => accepts (some q) xs
  | some q, .inr r :: xs => if r.requestSeq = q.seq then accepts none xs else none
  | _, _ :: _ => none

@[simp] theorem accepts_nil (a : Option Request) : accepts a [] = some a := by
  cases a <;> rfl

theorem accepts_append : ∀ (a : Option Request) (xs ys : List (Request ⊕ Response)),
    accepts a (xs ++ ys) = (accepts a xs).bind fun b => accepts b ys
  | a, [], _ => by simp
  | none, .inl q :: xs, ys => accepts_append (some q) xs ys
  | some q, .inr r :: xs, ys => by
    simp only [List.cons_append, accepts]
    split
    · exact accepts_append none xs ys
    · rfl
  | none, .inr _ :: _, _ => rfl
  | some _, .inl _ :: _, _ => rfl

/-- What the monitor accepts from idle back to idle is a list of pairs, each a request and
the response that echoes its `seq`. -/
theorem pairs_of_accepts : ∀ xs : List (Request ⊕ Response), accepts none xs = some none →
    ∃ ps : List (Request × Response), (∀ p ∈ ps, p.2.requestSeq = p.1.seq) ∧
      xs = ps.flatMap fun p => [.inl p.1, .inr p.2]
  | [], _ => ⟨[], by simp, rfl⟩
  | .inl q :: .inr r :: xs, h => by
    simp only [accepts] at h
    split_ifs at h with hs
    obtain ⟨ps, hps, rfl⟩ := pairs_of_accepts xs h
    exact ⟨(q, r) :: ps, by simpa [hs] using hps, rfl⟩
  | [.inl _], h => by simp [accepts] at h
  | .inl _ :: .inl _ :: _, h => by simp [accepts] at h
  | .inr _ :: _, h => by simp [accepts] at h

/-! ## The monitor over a run -/

/-- `s'` extends `s`, and the monitor goes from `a` to `b` over what it adds. -/
def Exch (a : Option Request) (s s' : Session) (b : Option Request) : Prop :=
  ∃ ext, s'.trace = s.trace ++ ext ∧ accepts a (exchanges ext) = some b

namespace Exch

variable {a b c : Option Request} {s s' s'' : Session}

theorem refl (a : Option Request) (s : Session) : Exch a s s a := ⟨[], by simp, by simp [exchanges]⟩

theorem trans (h : Exch a s s' b) (h' : Exch b s' s'' c) : Exch a s s'' c := by
  obtain ⟨ext, he, ha⟩ := h
  obtain ⟨ext', he', ha'⟩ := h'
  exact ⟨ext ++ ext', by simp [he', he], by simp [accepts_append, ha, ha']⟩

/-- Observations that are neither a read nor a response leave the monitor where it was. -/
theorem quiet (h : Exch a s s' b) (o : Obs) (ho : o.exchange = []) (input : List Char) :
    Exch a s { s' with input, trace := s'.trace ++ [o] } b :=
  h.trans ⟨[o], rfl, by simp [exchanges, ho]⟩

theorem event (h : Exch a s s' b) (e : Event) : Exch a s (s'.send (.event e)) b :=
  h.quiet (.write (.event e)) rfl s'.input

theorem setState (h : Exch a s s' b) (new : DebuggerState) (site : Site) :
    Exch a s (s'.setState new site) b :=
  h.quiet (.setState s'.state new site) rfl s'.input

theorem push (h : Exch a s s' b) : Exch a s s'.push b := h

theorem pop (h : Exch a s s' b) (n : Nat) : Exch a s (s'.pop n) b := h

theorem read (h : Exch a s s' none) (body : List Char) (q : Request) (input : List Char) :
    Exch a s { s' with input, trace := s'.trace ++ [.read body q] } (some q) :=
  h.trans ⟨[.read body q], rfl, rfl⟩

theorem response {q : Request} (h : Exch a s s' (some q)) {r : Response}
    (hr : r.requestSeq = q.seq) : Exch a s (s'.send (.response r)) none :=
  h.trans ⟨[.write (.response r)], rfl, by simp [exchanges, Obs.exchange, accepts, hr]⟩

theorem answered {q : Request} (h : Exch a s s' (some q)) (ha : Answered s' q s'') :
    Exch a s s'' none := by
  obtain ⟨r, hr, rfl⟩ := ha
  exact h.response hr

end Exch

theorem exch_initializeRequest (s : Session) (req : Request) :
    Exch (some req) s (handleInitializeRequest s req) none := by
  by_cases hb : s.state = .birth
  · rw [handleInitializeRequest_of_birth req hb]
    exact ((((Exch.refl _ s).event _).response rfl).event _).setState _ _
  · rw [handleInitializeRequest_of_ne req hb]
    exact (Exch.refl _ s).response rfl

theorem exch_stopAtLine (s : Session) : Exch none s (stopAtLine s) none := by
  unfold stopAtLine
  split
  · exact ((Exch.refl _ s).event _).setState _ _
  · exact (((Exch.refl none { s with threadEventSent := true }).event _).event _).setState _ _

theorem exch_programReturned (chunk : Chunk) (s : Session) :
    Exch none s (programReturned chunk s) none := by
  unfold programReturned
  split
  · exact (((Exch.refl _ s).pop 1).event _).setState _ _
  · exact ((((((Exch.refl _ s).pop 1).push.event _).event _).pop 1).event _).setState _ _

/-- **The monitor over a run**: a call of `debugger` adds an exchange the monitor takes from
idle to idle, and a launch one that answers the launch request first; unless the fuel runs
out. -/
theorem run_exch : ∀ fuel,
    (∀ L s, (debugger P load fuel L s).Satisfies (fun _ s' => Exch none s s' none)
      fun h s' => h = .outOfFuel ∨ Exch none s s' none) ∧
    (∀ req s, (handleLaunchRequest P load fuel req s).Satisfies
      (fun _ s' => Exch (some req) s s' none) fun h s' => h = .outOfFuel ∨ Exch (some req) s s' none)
  | 0 => ⟨fun _ _ => .inl rfl, fun _ _ => .inl rfl⟩
  | fuel + 1 => by
    obtain ⟨ihd, ihl⟩ := run_exch fuel
    refine ⟨fun L s => ?_, fun req s => ?_⟩
    · rw [debugger_succ]
      split_ifs with ht hr
      · exact Exch.refl none s
      all_goals
        refine (dispatchLoop_satisfies P (fun s' => Exch none s s' none)
          (fun q s' => Exch none s s' (some q)) (fun _ s' => Exch none s s' none)
          (fun h s' => h = .outOfFuel ∨ Exch none s s' none) (fun _ _ _ h _ => h.read _ _ _)
          (fun _ _ h _ => h) (fun _ h _ => h) (fun _ _ h => .inr h)
          (fun req s' h => (dispatch_satisfies P (fun _ ha => ⟨h.answered ha, .inr (h.answered ha)⟩)
            (fun _ => h.trans (exch_initializeRequest s' req)) fun _ => (ihl req s').mono
              (fun _ _ h' => h.trans h') fun _ _ h' => h'.imp_right h.trans).mono
            (fun more _ h' => by cases more <;> exact h') fun _ _ h' => h')
          fuel _ ?_).bind fun _ _ h => h.setState _ _
      · exact exch_stopAtLine s
      · exact Exch.refl none s
    · by_cases hi : s.state = .initialized
      · rcases hl : load (cstr req.program) with err | chunk
        · rw [handleLaunchRequest_of_error P load hi hl]
          simp only [launchFailed]
          exact ((((Exch.refl _ s).push).event _).response rfl).pop 1
        · rw [handleLaunchRequest_of_ok P load hi hl]
          have h0 : Exch (some req) s ((sendSuccessResponse s.push req .launchResponse).setState
              .programRunning .launchRequest) none := ((Exch.refl _ s.push).response rfl).setState _ _
          refine (forEach_satisfies (I := fun s' => Exch (some req) s s' none) (fun e s' h => ?_)
            _ _ h0).bind fun _ s' h => h.trans (exch_programReturned chunk s')
          unfold raviDebughook
          split
          · exact (ihd _ _).mono (fun _ _ h' => (h.quiet .lineHook rfl _).trans h')
              fun _ _ h' => h'.imp_right (h.quiet .lineHook rfl _).trans
          · exact h
      · rw [handleLaunchRequest_of_ne P load req hi]
        exact (Exch.refl _ s).response rfl

/-- **One response per request, in order.** In every run, whatever the requests and however
the program's line events fall, the requests read and the responses written alternate: each
request is answered by exactly one response, echoing its `seq`, before the next request is
read. In particular a launch is answered before anything is read in the hook calls of the
program it runs. -/
theorem main_exchanges (input : List Char) :
    ∃ ps : List (Request × Response), (∀ p ∈ ps, p.2.requestSeq = p.1.seq) ∧
      exchanges (main P load input).session.trace = ps.flatMap fun p => [.inl p.1, .inr p.2] := by
  have hrun : (main P load input).Satisfies (fun _ s' => Exch none (initial input) s' none)
      fun h s' => h = .outOfFuel ∨ Exch none (initial input) s' none :=
    (run_exch P load (budget input)).1 [] (initial input)
  have he : Exch none (initial input) (main P load input).session none := by
    rcases hm : main P load input with ⟨_, s⟩ | ⟨h, s⟩ <;> rw [hm] at hrun
    · exact hrun
    · exact hrun.resolve_left fun hh => main_total P load input s (hh ▸ hm)
  obtain ⟨ext, htr, hacc⟩ := he
  rw [htr]
  exact pairs_of_accepts _ hacc

end RaviDebug
