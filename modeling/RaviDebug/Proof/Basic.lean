import RaviDebug.Spec.Debugger

/-!
# Rules for runs

A call of the model ends in an `Outcome`; `Outcome.Satisfies Q H` says that the session it
ends in satisfies `Q` if the call returns and `H` if the process halts. The rules here carry
such a property through `Outcome.bind`, `forEach` and the dispatch loop, so that a property of
whole runs is proved once against the handlers:

* `Outcome.Satisfies.bind`: the rule for sequencing.
* `forEach_satisfies`: a property kept by each hook call is kept by a run of the program.
* `dispatchLoop_satisfies_halts`: **the loop rule**, from what a read and a dispatch keep.
-/

namespace RaviDebug

namespace Outcome

variable {α β : Type}

@[simp] theorem ok_bind (a : α) (s : Session) (f : α → Session → Outcome β) :
    (ok a s).bind f = f a s := rfl

@[simp] theorem session_ok (a : α) (s : Session) : (ok a s).session = s := rfl

@[simp] theorem session_halt (h : Halt) (s : Session) : (halt h s : Outcome α).session = s := rfl

@[simp] theorem halt_bind (h : Halt) (s : Session) (f : α → Session → Outcome β) :
    (halt h s).bind f = halt h s := rfl

/-- The call returns `a` in a session satisfying `Q a`, or halts with `h` in one satisfying
`H h`. -/
def Satisfies (Q : α → Session → Prop) (H : Halt → Session → Prop) : Outcome α → Prop
  | ok a s => Q a s
  | halt h s => H h s

variable {Q Q' : α → Session → Prop} {R : β → Session → Prop} {H H' : Halt → Session → Prop}

@[simp] theorem satisfies_ok (a : α) (s : Session) : (ok a s).Satisfies Q H ↔ Q a s := Iff.rfl

@[simp] theorem satisfies_halt (h : Halt) (s : Session) :
    (halt h s : Outcome α).Satisfies Q H ↔ H h s := Iff.rfl

theorem Satisfies.bind {o : Outcome α} {f : α → Session → Outcome β} (ho : o.Satisfies Q H)
    (hf : ∀ a s, Q a s → (f a s).Satisfies R H) : (o.bind f).Satisfies R H := by
  cases o with
  | ok a s => exact hf a s ho
  | halt h s => exact ho

theorem Satisfies.bind_ok {β : Type} {o : Outcome α} {I : Session → Prop}
    (ho : o.Satisfies (fun _ => I) H)
    (b : β) : (o.bind fun _ s => ok b s).Satisfies (fun _ => I) H :=
  ho.bind fun _ _ h => h

theorem Satisfies.mono {o : Outcome α} (ho : o.Satisfies Q H) (hQ : ∀ a s, Q a s → Q' a s)
    (hH : ∀ h s, H h s → H' h s) : o.Satisfies Q' H' := by
  cases o with
  | ok a s => exact hQ a s ho
  | halt h s => exact hH h s ho

theorem Satisfies.and {o : Outcome α} (ho : o.Satisfies Q H) (ho' : o.Satisfies Q' H') :
    o.Satisfies (fun a s => Q a s ∧ Q' a s) (fun h s => H h s ∧ H' h s) := by
  cases o with
  | ok a s => exact ⟨ho, ho'⟩
  | halt h s => exact ⟨ho, ho'⟩

/-- What holds of the session a call ends in, whether it returns or halts. -/
theorem Satisfies.session {o : Outcome α} {R : Session → Prop} (ho : o.Satisfies Q H)
    (hQ : ∀ a s, Q a s → R s) (hH : ∀ h s, H h s → R s) : R o.session := by
  cases o with
  | ok a s => exact hQ a s ho
  | halt h s => exact hH h s ho

end Outcome

open Outcome

/-- A property kept by each call of `f` is kept by `forEach f`. -/
theorem forEach_satisfies {γ : Type} {f : γ → Session → Outcome Unit} {I : Session → Prop}
    {H : Halt → Session → Prop} (hf : ∀ x s, I s → (f x s).Satisfies (fun _ => I) H) :
    ∀ xs s, I s → (forEach f xs s).Satisfies (fun _ => I) H
  | [], _, hs => hs
  | x :: xs, s, hs => (hf x s hs).bind fun _ s' hs' => forEach_satisfies hf xs s' hs'

section Loop

variable (P : Protocol) {handle : Session → Request → Outcome Bool}

/-- **The loop rule.** `I` holds where the loop reads a frame, `J req` once the body of `req`
is read, and `E` where the loop ends; `H` holds where it halts: out of fuel, at a frame the
reader refuses (`exit (1)`), or wherever the `switch` halts. -/
theorem dispatchLoop_satisfies_halts (I : Session → Prop) (J : Request → Session → Prop)
    (E : LoopEnd → Session → Prop) (H : Halt → Session → Prop)
    (hread : ∀ s b rest, I s → readFrame s.input = .body b rest →
      J (P.parse b) { s with input := rest, trace := s.trace ++ [.read b (P.parse b)] })
    (hskip : ∀ s rest, I s → readFrame s.input = .skip rest → I { s with input := rest })
    (hend : ∀ s, I s → readFrame s.input = .endOfInput → E .endOfInput { s with input := [] })
    (hfuel : ∀ s, I s → H .outOfFuel s)
    (hfatal : ∀ s, I s → readFrame s.input = .fatal → H (.exit 1) s)
    (hhandle : ∀ req s, J req s →
      (handle s req).Satisfies (fun more s => if more then I s else E .step s) H) :
    ∀ fuel s, I s → (dispatchLoop P handle fuel s).Satisfies E H
  | 0, s, hs => hfuel s hs
  | fuel + 1, s, hs => by
    rcases hr : readFrame s.input with _ | rest | _ | ⟨b, rest⟩ <;>
      simp only [dispatchLoop, hr, satisfies_halt]
    · exact hend s hs hr
    · exact dispatchLoop_satisfies_halts I J E H hread hskip hend hfuel hfatal hhandle fuel _
        (hskip s rest hs hr)
    · exact hfatal s hs hr
    · refine (hhandle _ _ (hread s b rest hs hr)).bind fun more s' h => ?_
      cases more
      · exact h
      · exact dispatchLoop_satisfies_halts I J E H hread hskip hend hfuel hfatal hhandle fuel s' h

/-- The loop rule, `H` holding of every session where `I` does. -/
theorem dispatchLoop_satisfies (I : Session → Prop) (J : Request → Session → Prop)
    (E : LoopEnd → Session → Prop) (H : Halt → Session → Prop)
    (hread : ∀ s b rest, I s → readFrame s.input = .body b rest →
      J (P.parse b) { s with input := rest, trace := s.trace ++ [.read b (P.parse b)] })
    (hskip : ∀ s rest, I s → readFrame s.input = .skip rest → I { s with input := rest })
    (hend : ∀ s, I s → readFrame s.input = .endOfInput → E .endOfInput { s with input := [] })
    (hhalt : ∀ h s, I s → H h s)
    (hhandle : ∀ req s, J req s →
      (handle s req).Satisfies (fun more s => if more then I s else E .step s) H) :
    ∀ fuel s, I s → (dispatchLoop P handle fuel s).Satisfies E H :=
  dispatchLoop_satisfies_halts P I J E H hread hskip hend (hhalt _) (fun s hs _ => hhalt _ s hs)
    hhandle

end Loop

end RaviDebug
