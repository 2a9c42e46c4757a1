import TieredStore.Proofs.Storage.MemoryStores

/-!
# The three contracts

Each contract has its calls, and the tables that a store in memory of this contract keeps.
A run of a store is a list of steps: the clock is set, or a client runs a program.

Main results:

- Theorem `Step.answer_related`: a relation that every call and every setting of the clock
  keeps is kept by every step.
-/

namespace TieredStore

namespace Contract

/-- The calls to stores of a contract. -/
@[reducible] def Call : Contract → Type
  | .records => RecordCall
  | .texts => EntryCall String
  | .counters => EntryCall Int64

/-- What a store in memory keeps. -/
@[reducible] def Table : Contract → Type
  | .records => RecordTable
  | .texts => EntryTable String
  | .counters => EntryTable Int64

instance : (contract : Contract) → Interface contract.Call
  | .records => inferInstanceAs (Interface RecordCall)
  | .texts => inferInstanceAs (Interface (EntryCall String))
  | .counters => inferInstanceAs (Interface (EntryCall Int64))

instance : (contract : Contract) → StoreKind contract.Call
  | .records => inferInstanceAs (StoreKind RecordCall)
  | .texts => inferInstanceAs (StoreKind (EntryCall String))
  | .counters => inferInstanceAs (StoreKind (EntryCall Int64))

instance : (contract : Contract) → EmptyCollection contract.Table
  | .records => inferInstanceAs (EmptyCollection RecordTable)
  | .texts => inferInstanceAs (EmptyCollection (EntryTable String))
  | .counters => inferInstanceAs (EmptyCollection (EntryTable Int64))

instance (contract : Contract) : Inhabited contract.Table := ⟨∅⟩

instance : (contract : Contract) → Stored contract.Table
  | .records => inferInstanceAs (Stored RecordTable)
  | .texts => inferInstanceAs (Stored (EntryTable String))
  | .counters => inferInstanceAs (Stored (EntryTable Int64))

instance : (contract : Contract) → MemoryKind contract.Call contract.Table
  | .records => inferInstanceAs (MemoryKind RecordCall RecordTable)
  | .texts => inferInstanceAs (MemoryKind (EntryCall String) (EntryTable String))
  | .counters => inferInstanceAs (MemoryKind (EntryCall Int64) (EntryTable Int64))

end Contract

/-! ## Runs of a store -/

/-- What happens to a store: the clock is set, or a client runs a program against it. -/
inductive Step (Call : Type) [Interface Call] (α : Type) where
  | clock (time : Int64)
  | program (p : Program Call α)

namespace Step

variable {Call : Type} [Interface Call] {α : Type}

/-- What a step is replied with: a program has a result. -/
@[reducible] def Reply : Step Call α → Type
  | .clock _ => Unit
  | .program _ => α

instance : Interface (Step Call α) := ⟨Reply⟩

/-- How a step goes with a store that answers calls in some way. -/
def answer (perform : Handler Call Storage) : Handler (Step Call α) Storage
  | .clock time => Storage.setClock time
  | .program p => p.run perform

/-- A relation that every call and every setting of the clock keeps is kept by every step. -/
theorem answer_related {first second : Handler Call Storage}
    {Related : Storage → Storage → Prop}
    (clock : ∀ time s t, Related s t → Related { s with clock := time } { t with clock := time })
    (call : ∀ call s t, Related s t →
      (first call s).1 = (second call t).1 ∧ Related (first call s).2 (second call t).2)
    (step : Step Call α) (s t : Storage) (h : Related s t) :
    Related (answer first step s).2 (answer second step t).2 := by
  cases step with
  | clock time => exact clock time s t h
  | program p => exact (Program.run_related call p h).2

end Step

end TieredStore
