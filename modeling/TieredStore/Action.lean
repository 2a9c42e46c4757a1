import TieredStore.Error

/-!
# Actions

An action reads and changes a state and gives a result or an error.  A failed
action keeps the changes that it made before it failed.

Main results:

- Theorem `Action.bind_assoc`: actions in a row can be grouped in any way.
-/

namespace TieredStore

/-- A step on a state that may fail half way. -/
def Action (σ α : Type) : Type := σ → Except StoreError α × σ

namespace Action

variable {σ τ α β γ : Type}

/-- Gives a result and changes nothing. -/
protected def pure (a : α) : Action σ α := fun s => (.ok a, s)

/-- Fails and changes nothing. -/
def fail (e : StoreError) : Action σ α := fun s => (.error e, s)

/-- One action after the other; the second one is left out if the first one
fails. -/
protected def bind (x : Action σ α) (f : α → Action σ β) : Action σ β := fun s =>
  match x s with
  | (.ok a, s) => f a s
  | (.error e, s) => (.error e, s)

instance : Monad (Action σ) where
  pure := Action.pure
  bind := Action.bind

/-- Giving a result changes nothing. -/
@[simp] theorem pure_apply (a : α) (s : σ) : (pure a : Action σ α) s = (.ok a, s) := rfl

/-- Failing changes nothing. -/
@[simp] theorem fail_apply (e : StoreError) (s : σ) :
    (fail e : Action σ α) s = (.error e, s) := rfl

/-- The second action starts where the first one ends. -/
theorem bind_apply (x : Action σ α) (f : α → Action σ β) (s : σ) :
    (x >>= f) s = match x s with
      | (.ok a, s) => f a s
      | (.error e, s) => (.error e, s) := rfl

/-- Actions in a row can be grouped in any way. -/
theorem bind_assoc (x : Action σ α) (f : α → Action σ β) (g : β → Action σ γ) :
    x >>= f >>= g = x >>= fun a => f a >>= g := by
  funext s
  simp only [bind_apply]
  rcases x s with ⟨_ | _, _⟩ <;> rfl

/-- A result that is passed on at once leaves no trace. -/
theorem pure_bind (a : α) (f : α → Action σ β) : (pure a : Action σ α) >>= f = f a := rfl

/-- After a failure nothing happens. -/
theorem fail_bind (e : StoreError) (f : α → Action σ β) :
    (fail e : Action σ α) >>= f = fail e := rfl

/-! ## Access to the state -/

/-- The state. -/
def read : Action σ σ := fun s => (.ok s, s)

/-- Replaces the state. -/
def write (s : σ) : Action σ Unit := fun _ => (.ok (), s)

/-- Changes the state. -/
def update (f : σ → σ) : Action σ Unit := fun s => (.ok (), f s)

/-- A result or an error that does not depend on the state. -/
def ofExcept (result : Except StoreError α) : Action σ α := fun s => (result, s)

/-- Reading changes nothing. -/
@[simp] theorem read_apply (s : σ) : (read : Action σ σ) s = (.ok s, s) := rfl

/-- After a write the state is what was written. -/
@[simp] theorem write_apply (s t : σ) : (write t : Action σ Unit) s = (.ok (), t) := rfl

/-- An update applies its function to the state. -/
@[simp] theorem update_apply (f : σ → σ) (s : σ) : (update f : Action σ Unit) s = (.ok (), f s) :=
  rfl

/-- A fixed result changes nothing. -/
@[simp] theorem ofExcept_apply (result : Except StoreError α) (s : σ) :
    (ofExcept result : Action σ α) s = (result, s) := rfl

/-- An action on a part of the state. -/
def onPart (part : σ → τ) (replace : τ → σ → σ) (x : Action τ α) : Action σ α := fun s =>
  match x (part s) with
  | (result, t) => (result, replace t s)

end Action

end TieredStore
