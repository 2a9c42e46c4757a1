import TieredStore.Action

/-!
# Programs over calls

A store answers calls.  Whatever is built from several calls is a program: a tree
whose nodes are calls and whose branches are the replies.  The same program runs
against one store, against several stores in turn, or in steps between those of
other programs, because it says nothing about how its calls are answered.

Main results:

- Theorem `Program.run_bind`: a program in two parts runs part by part.
-/

namespace TieredStore

/-- A kind of call, with the type of the reply to each call. -/
class Interface (Call : Type) where
  Reply : Call → Type

/-- How calls are answered on a state. -/
abbrev Handler (Call : Type) [Interface Call] (σ : Type) : Type :=
  (call : Call) → Action σ (Interface.Reply call)

/-- What is to be done by calls. -/
inductive Program (Call : Type) [Interface Call] (α : Type) where
  /-- The program is over and has a result. -/
  | done (result : α)
  | fail (error : StoreError)
  /-- A call is made, and its reply decides how the program goes on. -/
  | ask (call : Call) (resume : Interface.Reply call → Program Call α)

namespace Program

variable {Call : Type} [Interface Call] {α β γ σ : Type}

/-- One program after the other. -/
protected def bind : Program Call α → (α → Program Call β) → Program Call β
  | .done a, f => f a
  | .fail e, _ => .fail e
  | .ask call resume, f => .ask call fun reply => (resume reply).bind f

instance : Monad (Program Call) where
  pure := .done
  bind := Program.bind

/-- The program of a single call. -/
def ofCall (call : Call) : Program Call (Interface.Reply call) := .ask call .done

/-- A result or an error that needs no call. -/
def ofExcept : Except StoreError α → Program Call α
  | .ok a => .done a
  | .error e => .fail e

/-- A result is handed on. -/
@[simp] theorem done_bind (a : α) (f : α → Program Call β) : (Program.done a) >>= f = f a := rfl

/-- A program that gives up does not go on. -/
@[simp] theorem fail_bind (e : StoreError) (f : α → Program Call β) :
    (Program.fail e : Program Call α) >>= f = .fail e := rfl

/-- The next program goes on after every reply. -/
@[simp] theorem ask_bind (call : Call) (resume : Interface.Reply call → Program Call α)
    (f : α → Program Call β) :
    Program.ask call resume >>= f = .ask call fun reply => resume reply >>= f := rfl

/-- Programs in a row can be grouped in any way. -/
theorem bind_assoc (p : Program Call α) (f : α → Program Call β) (g : β → Program Call γ) :
    p >>= f >>= g = p >>= fun a => f a >>= g := by
  induction p with
  | done a => rfl
  | fail e => rfl
  | ask call resume ih =>
    simp only [ask_bind]
    exact congrArg (Program.ask call) (funext ih)

/-- A result that is handed on at the end changes nothing. -/
theorem bind_pure (p : Program Call α) : p >>= pure = p := by
  induction p with
  | done a => rfl
  | fail e => rfl
  | ask call resume ih =>
    simp only [ask_bind]
    exact congrArg (Program.ask call) (funext ih)

/-! ## Running a program by itself -/

/-- Runs a program, its calls being answered one after the other. -/
def run (answer : Handler Call σ) : Program Call α → Action σ α
  | .done a => pure a
  | .fail e => Action.fail e
  | .ask call resume => answer call >>= fun reply => run answer (resume reply)

/-- A program that is over makes no call. -/
@[simp] theorem run_done (answer : Handler Call σ) (a : α) :
    run answer (.done a) = pure a := rfl

/-- A program that gives up makes no call. -/
@[simp] theorem run_fail (answer : Handler Call σ) (e : StoreError) :
    run answer (.fail e : Program Call α) = Action.fail e := rfl

/-- A program goes on with the reply to its call. -/
@[simp] theorem run_ask (answer : Handler Call σ) (call : Call)
    (resume : Interface.Reply call → Program Call α) :
    run answer (.ask call resume) = answer call >>= fun reply => run answer (resume reply) := rfl

/-- A program in two parts runs part by part. -/
theorem run_bind (answer : Handler Call σ) (p : Program Call α) (f : α → Program Call β) :
    run answer (p >>= f) = run answer p >>= fun a => run answer (f a) := by
  induction p with
  | done a => rfl
  | fail e => rfl
  | ask call resume ih =>
    simp only [ask_bind, run_ask, Action.bind_assoc]
    exact congrArg (answer call >>= ·) (funext ih)

end Program

/-! ## Calls to one of several stores -/

/-- A call to the store at a place. -/
structure At (Place Call : Type) where
  place : Place
  call : Call

/-- The reply does not depend on the place. -/
instance {Place Call : Type} [Interface Call] : Interface (At Place Call) where
  Reply call := Interface.Reply call.call

/-- A program whose calls all go to one place. -/
def Program.at {Place Call α : Type} [Interface Call] (place : Place) :
    Program Call α → Program (At Place Call) α
  | .done a => .done a
  | .fail e => .fail e
  | .ask call resume => .ask ⟨place, call⟩ fun reply => (resume reply).at place

/-- Running at a place is running against the store at that place. -/
theorem Program.run_at {Place Call α σ : Type} [Interface Call] (place : Place)
    (answer : Handler (At Place Call) σ) (p : Program Call α) :
    (p.at place).run answer = p.run fun call => answer ⟨place, call⟩ := by
  induction p with
  | done a => rfl
  | fail e => rfl
  | ask call resume ih =>
    simp only [Program.at, run_ask]
    exact congrArg (answer ⟨place, call⟩ >>= ·) (funext ih)

/-! ## The life of a store -/

/-- The calls that concern a store as a whole. -/
inductive Lifecycle where
  /-- Prepares the store; doing so twice is the same as once. -/
  | setup
  | destroy
  | clear
  /-- Frees storage that nothing can be read from any more. -/
  | maintenance
  deriving DecidableEq

/-- The name of a lifecycle call. -/
def Lifecycle.name : Lifecycle → String
  | .setup => "system_setup"
  | .destroy => "system_destroy"
  | .clear => "clear"
  | .maintenance => "maintenance"

end TieredStore
