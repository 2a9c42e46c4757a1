import Mathlib.Logic.Function.Basic
import TieredStore.Proofs.Runs

/-!
# Clients that take turns

Several clients run programs against one state.  Whose turn it is, is up to a schedule: at
each move one client makes its next call, which is answered at once, or the state is changed
from outside, as when time goes by.  A log keeps the calls that were made, each with the
state that it met.

Main results:

- Theorem `Program.run_through`: a program whose calls are made of lower calls runs like
  the program itself on a handler that makes these lower calls.
- Theorem `Program.run_next`: making the next call on its own changes no run.
- Theorem `Crowd.run_alone`: a client that is the only one to move comes to what its
  program comes to.
- Theorem `Crowd.over_alone`: after some turns it is through.
-/

namespace TieredStore

/-! ## Programs call by call -/

namespace Program

variable {Call Lower : Type} [Interface Call] [Interface Lower] {α σ : Type}

/-- A program whose calls are each made of lower calls. -/
def through (translate : (call : Call) → Program Lower (Interface.Reply call)) :
    Program Call α → Program Lower α
  | .done a => .done a
  | .fail e => .fail e
  | .ask call resume => translate call >>= fun reply => (resume reply).through translate

/-- Making lower calls for each call of a program is answering these calls by lower ones. -/
theorem run_through (translate : (call : Call) → Program Lower (Interface.Reply call))
    (answer : Handler Lower σ) (p : Program Call α) :
    (p.through translate).run answer = p.run fun call => (translate call).run answer := by
  induction p with
  | done a => rfl
  | fail e => rfl
  | ask call resume ih =>
    rw [through, run_bind, run_ask]
    exact congrArg _ (funext ih)

/-- The outcome of a program that is over. -/
def outcome? : Program Call α → Option (Except StoreError α)
  | .done a => some (.ok a)
  | .fail e => some (.error e)
  | .ask _ _ => none

/-- Makes the next call; a program that is over stays as it is. -/
def next (answer : Handler Call σ) : Program Call α → σ → Program Call α × σ
  | .ask call resume, s =>
    match answer call s with
    | (.ok reply, s) => (resume reply, s)
    | (.error e, s) => (.fail e, s)
  | p, s => (p, s)

/-- Making the next call on its own changes no run. -/
theorem run_next (answer : Handler Call σ) (p : Program Call α) (s : σ) :
    (p.next answer s).1.run answer (p.next answer s).2 = p.run answer s := by
  cases p with
  | done a => rfl
  | fail e => rfl
  | ask call resume =>
    rw [next, run_ask, Action.bind_apply]
    rcases answer call s with ⟨_ | _, _⟩ <;> rfl

end Program

/-! ## Crowds of clients -/

/-- A client has its turn, or there is a change from outside. -/
inductive Move (ι ε : Type) where
  | client (i : ι)
  | outside (change : ε)

/-- A call that a client made, with the state that it met. -/
structure Event (ι Call σ : Type) where
  client : ι
  call : Call
  before : σ

/-- Clients that run programs against one state: what is left of each program, and the calls
that were made so far. -/
structure Crowd (ι Call σ : Type) [Interface Call] (α : Type) where
  state : σ
  rest : ι → Program Call α
  log : List (Event ι Call σ) := []

namespace Crowd

variable {ι Call σ ε α : Type} [Interface Call] [DecidableEq ι]
  (answer : Handler Call σ) (shift : ε → σ → σ)

/-- What is done in a move.  A client whose program is over does nothing. -/
def move (c : Crowd ι Call σ α) : Move ι ε → Crowd ι Call σ α
  | .outside change => { c with state := shift change c.state }
  | .client i =>
    match c.rest i with
    | .ask call resume => {
        state := ((Program.ask call resume).next answer c.state).2
        rest := Function.update c.rest i ((Program.ask call resume).next answer c.state).1
        log := c.log ++ [⟨i, call, c.state⟩] }
    | _ => c

/-- What is done in some moves, one after the other. -/
def run (moves : List (Move ι ε)) (c : Crowd ι Call σ α) : Crowd ι Call σ α :=
  moves.foldl (move answer shift) c

variable {answer shift} {c : Crowd ι Call σ α} {i : ι}

/-- A client whose program is not over makes its next call. -/
theorem move_client_of_ask {call : Call} {resume : Interface.Reply call → Program Call α}
    (h : c.rest i = .ask call resume) :
    c.move answer shift (.client i) = {
      state := ((c.rest i).next answer c.state).2
      rest := Function.update c.rest i ((c.rest i).next answer c.state).1
      log := c.log ++ [⟨i, call, c.state⟩] } := by
  rw [move, h]

/-- A client whose program is over does nothing. -/
theorem move_client_of_outcome {outcome : Except StoreError α}
    (h : (c.rest i).outcome? = some outcome) : c.move answer shift (.client i) = c := by
  cases hrest : c.rest i with
  | done a => rw [move, hrest]
  | fail e => rw [move, hrest]
  | ask call resume =>
    rw [hrest] at h
    cases h

variable (answer shift) in
/-- A move of a client is the next call of its program. -/
theorem move_client (c : Crowd ι Call σ α) (i : ι) :
    (c.move answer shift (.client i)).state = ((c.rest i).next answer c.state).2 ∧
      (c.move answer shift (.client i)).rest =
        Function.update c.rest i ((c.rest i).next answer c.state).1 := by
  cases hrest : c.rest i with
  | done a =>
    rw [move_client_of_outcome (by rw [hrest]; rfl)]
    exact ⟨rfl, (Function.update_eq_self_iff.2 hrest.symm).symm⟩
  | fail e =>
    rw [move_client_of_outcome (by rw [hrest]; rfl)]
    exact ⟨rfl, (Function.update_eq_self_iff.2 hrest.symm).symm⟩
  | ask call resume =>
    rw [move_client_of_ask hrest, hrest]
    exact ⟨rfl, rfl⟩

/-- A client that is the only one to move comes to what its program comes to. -/
theorem run_alone (c : Crowd ι Call σ α) (i : ι) (turns : Nat) :
    ((c.run answer shift (List.replicate turns (.client i))).rest i).run answer
        (c.run answer shift (List.replicate turns (.client i))).state =
      (c.rest i).run answer c.state := by
  induction turns generalizing c with
  | zero => rfl
  | succ turns ih =>
    refine (ih (c.move answer shift (.client i))).trans ?_
    obtain ⟨hstate, hrest⟩ := c.move_client answer shift i
    rw [hstate, hrest, Function.update_self, Program.run_next]

/-- A client that is the only one to move is through after some turns. -/
theorem over_alone (c : Crowd ι Call σ α) (i : ι) :
    ∃ turns, ((c.run answer shift (List.replicate turns (.client i))).rest i).outcome?.isSome := by
  generalize hrest : c.rest i = p
  induction p generalizing c with
  | done a =>
    refine ⟨0, ?_⟩
    show (c.rest i).outcome?.isSome
    rw [hrest]
    rfl
  | fail e =>
    refine ⟨0, ?_⟩
    show (c.rest i).outcome?.isSome
    rw [hrest]
    rfl
  | ask call resume ih =>
    have hnext : (c.move answer shift (.client i)).rest i =
        ((Program.ask call resume).next answer c.state).1 := by
      rw [(c.move_client answer shift i).2, Function.update_self, hrest]
    rw [Program.next] at hnext
    rcases hanswer : answer call c.state with ⟨e | reply, s⟩
    · rw [hanswer] at hnext
      refine ⟨1, ?_⟩
      show ((c.move answer shift (.client i)).rest i).outcome?.isSome
      rw [hnext]
      rfl
    · rw [hanswer] at hnext
      obtain ⟨turns, hturns⟩ := ih reply (c.move answer shift (.client i)) hnext
      exact ⟨turns + 1, hturns⟩

end Crowd

end TieredStore
