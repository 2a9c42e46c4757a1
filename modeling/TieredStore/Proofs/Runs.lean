import TieredStore.Program

/-!
# Runs of calls

What is left of a state after a list of calls was answered.  Two states that answer alike
step by step answer alike after any run, and run all programs alike.

Main results:

- Theorem `stateAfter_related`: a relation that every call keeps is kept by every run.
- Theorem `Program.run_related`: a program has one result on states that answer alike.
-/

namespace TieredStore

variable {Call : Type} [Interface Call] {σ τ : Type}

/-- The program of a single call is answered like the call. -/
theorem Program.run_ofCall (answer : Handler Call σ) (call : Call) :
    (Program.ofCall call).run answer = answer call := by
  funext s
  show (answer call >>= fun reply => pure reply) s = answer call s
  rw [Action.bind_apply]
  rcases answer call s with ⟨_ | _, _⟩ <;> rfl

/-- The state after some calls were answered one after the other. -/
def stateAfter (answer : Handler Call σ) (calls : List Call) (s : σ) : σ :=
  calls.foldl (fun s call => (answer call s).2) s

/-- A relation that every call keeps is kept by every run. -/
theorem stateAfter_related {first : Handler Call σ} {second : Handler Call τ}
    {Related : σ → τ → Prop}
    (step : ∀ call s t, Related s t → Related (first call s).2 (second call t).2)
    (calls : List Call) {s : σ} {t : τ} (h : Related s t) :
    Related (stateAfter first calls s) (stateAfter second calls t) := by
  induction calls generalizing s t with
  | nil => exact h
  | cons call rest ih => exact ih (step call s t h)

/-- A program has one result on states that answer alike, and leaves states that do. -/
theorem Program.run_related {α : Type} {first : Handler Call σ} {second : Handler Call τ}
    {Related : σ → τ → Prop}
    (step : ∀ call s t, Related s t →
      (first call s).1 = (second call t).1 ∧ Related (first call s).2 (second call t).2)
    (p : Program Call α) {s : σ} {t : τ} (h : Related s t) :
    (p.run first s).1 = (p.run second t).1 ∧ Related (p.run first s).2 (p.run second t).2 := by
  induction p generalizing s t with
  | done a => exact ⟨rfl, h⟩
  | fail e => exact ⟨rfl, h⟩
  | ask call resume ih =>
    have hstep := step call s t h
    rw [run_ask, run_ask, Action.bind_apply, Action.bind_apply]
    rcases hfirst : first call s with ⟨result, s'⟩
    rcases hsecond : second call t with ⟨result', t'⟩
    rw [hfirst, hsecond] at hstep
    obtain ⟨rfl, hrelated⟩ := hstep
    cases result with
    | ok reply => exact ih reply hrelated
    | error e => exact ⟨rfl, hrelated⟩

end TieredStore
