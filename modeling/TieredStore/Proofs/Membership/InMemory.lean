import TieredStore.Proofs.Membership.SeparateBases

/-!
# Memberships over separate stores in memory

Three stores in memory that share no table answer like the tables that they hold, so what is
true of programs on the tables is true of programs on the stores.

Main results:

- Theorem `SeparateStores.perform_holds`: a call to one store leaves the others alone.
- Theorem `SeparateStores.run_holds`: a program has the same result on the stores and on the
  tables, and leaves stores that hold the tables that are left.
-/

namespace TieredStore

/-- Three stores in memory, each with a table of its own. -/
structure SeparateStores where
  name : MembershipTable → String
  ref : MembershipTable → Ref RecordTable
  separate : ∀ {a b}, ref a = ref b → a = b

namespace SeparateStores

variable (stores : SeparateStores)

/-- The membership over the stores. -/
def membership : MembershipStores where
  groups := .base (.memory (stores.name .groups) (stores.ref .groups))
  members := .base (.memory (stores.name .members) (stores.ref .members))
  relations := .base (.memory (stores.name .relations) (stores.ref .relations))

/-- Whether the stores hold the contents of some tables. -/
def Holds (s : Storage) (t : MembershipTables) : Prop :=
  ∀ place, s.records.Holds (stores.ref place) ∧ s.cell (stores.ref place) = t.table place

variable {stores} {s : Storage} {t : MembershipTables}

/-- The stores as base stores. -/
def bases (stores : SeparateStores) : MembershipBases where
  base place := .memory (stores.name place) (stores.ref place)
  separate h := stores.separate (RecordPart.inMemory.inj h)

/-- Stores in memory need no set-up to hold their tables. -/
theorem holds_bases_iff : stores.bases.Holds s t ↔ stores.Holds s t :=
  ⟨fun h => h.keeps, fun h => ⟨h, fun _ => trivial⟩⟩

/-- A call to one store is answered from its table and leaves the others alone. -/
theorem perform_holds (h : stores.Holds s t) (request : At MembershipTable RecordCall) :
    (stores.membership.perform request s).1 = (MembershipTables.answer request t).1 ∧
      stores.Holds (stores.membership.perform request s).2
        (MembershipTables.answer request t).2 := by
  obtain ⟨hresult, hholds⟩ :=
    @MembershipBases.perform_holds stores.bases s t (holds_bases_iff.2 h) request trivial
  exact ⟨hresult, holds_bases_iff.1 hholds⟩

/-- A program has the same result on the stores and on the tables that they hold. -/
theorem run_holds {α : Type} (h : stores.Holds s t) (p : MembershipProgram α) :
    (stores.membership.run p s).1 = (MembershipTables.run p t).1 ∧
      stores.Holds (stores.membership.run p s).2 (MembershipTables.run p t).2 := by
  obtain ⟨hresult, hholds⟩ :=
    MembershipBases.run_holds (holds_bases_iff.2 h) (p.makes_any.mono fun _ _ => trivial)
  exact ⟨hresult, holds_bases_iff.1 hholds⟩

end SeparateStores

end TieredStore
