import TieredStore.Proofs.Interleaving.Crowd

/-!
# What a client upholds

A client relies on an invariant of the state and the log, and upholds it with each of its
calls, whatever the others did before: they change the state within the invariant, and add
calls of their own to the log.  When its program is over, the client has come to an outcome
and knows something about the log.

Main results:

- Theorem `Program.Upholds.bind`: programs in a row uphold the invariant one after the
  other.
- Theorem `Crowd.Kept.run`: if every client upholds the invariant, it holds after every
  schedule, and what the clients know holds of those that are through.
-/

namespace TieredStore

variable {ι Call σ : Type}

/-- Whether a log went on with calls of others only. -/
def Meanwhile (i : ι) (log later : List (Event ι Call σ)) : Prop :=
  ∃ others, later = log ++ others ∧ ∀ e ∈ others, e.client ≠ i

namespace Meanwhile

variable {i : ι} {log later last : List (Event ι Call σ)}

/-- Nothing may have been called. -/
theorem refl (i : ι) (log : List (Event ι Call σ)) : Meanwhile i log log :=
  ⟨[], (List.append_nil log).symm, fun _ h => nomatch h⟩

/-- Calls of others can come in several parts. -/
theorem trans (h : Meanwhile i log later) (h' : Meanwhile i later last) :
    Meanwhile i log last := by
  obtain ⟨others, rfl, hothers⟩ := h
  obtain ⟨more, rfl, hmore⟩ := h'
  refine ⟨others ++ more, List.append_assoc _ _ _, fun e he => ?_⟩
  rcases List.mem_append.1 he with he | he
  · exact hothers e he
  · exact hmore e he

/-- A call of another client is one. -/
theorem of_event (log : List (Event ι Call σ)) {e : Event ι Call σ} (hne : e.client ≠ i) :
    Meanwhile i log (log ++ [e]) :=
  ⟨[e], rfl, fun _ h => List.mem_singleton.1 h ▸ hne⟩

/-- No call is taken back. -/
theorem isPrefix (h : Meanwhile i log later) : log <+: later := by
  obtain ⟨others, rfl, -⟩ := h
  exact List.prefix_append log others

end Meanwhile

variable [Interface Call]

/-! ## Programs that uphold an invariant -/

namespace Program

variable (answer : Handler Call σ) (Inv : List (Event ι Call σ) → σ → Prop) (i : ι)
  {α β : Type}

/-- Whether a client upholds an invariant with the calls of its program, if the others do, and
knows something about the log when it has come to an outcome. -/
def Upholds (Knows : Except StoreError α → List (Event ι Call σ) → Prop) :
    Program Call α → List (Event ι Call σ) → Prop
  | .done a, log => ∀ later, Meanwhile i log later → Knows (.ok a) later
  | .fail e, log => ∀ later, Meanwhile i log later → Knows (.error e) later
  | .ask call resume, log => ∀ later s, Meanwhile i log later → Inv later s →
    Inv (later ++ [⟨i, call, s⟩]) (answer call s).2 ∧
      match (answer call s).1 with
      | .ok reply => Upholds Knows (resume reply) (later ++ [⟨i, call, s⟩])
      | .error e => ∀ last, Meanwhile i (later ++ [⟨i, call, s⟩]) last → Knows (.error e) last

variable {answer Inv i} {Knows Knows' : Except StoreError α → List (Event ι Call σ) → Prop}
  {p : Program Call α} {log later : List (Event ι Call σ)}

namespace Upholds

/-- Calls of others make no difference. -/
theorem meanwhile (h : Upholds answer Inv i Knows p log) (hlater : Meanwhile i log later) :
    Upholds answer Inv i Knows p later := by
  cases p with
  | done a => exact fun last hlast => h last (hlater.trans hlast)
  | fail e => exact fun last hlast => h last (hlater.trans hlast)
  | ask call resume => exact fun last s hlast => h last s (hlater.trans hlast)

/-- What is known at the end can be weakened, given that the log is a longer one then. -/
theorem mono (h : Upholds answer Inv i Knows p log)
    (himp : ∀ outcome later, log <+: later → Knows outcome later → Knows' outcome later) :
    Upholds answer Inv i Knows' p log := by
  induction p generalizing log with
  | done a => exact fun later hlater => himp _ _ hlater.isPrefix (h later hlater)
  | fail e => exact fun later hlater => himp _ _ hlater.isPrefix (h later hlater)
  | ask call resume ih =>
    intro later s hlater hinv
    obtain ⟨hkept, hgoes⟩ := h later s hlater hinv
    have hlonger : log <+: later ++ [⟨i, call, s⟩] :=
      hlater.isPrefix.trans (List.prefix_append _ _)
    refine ⟨hkept, ?_⟩
    rcases hresult : (answer call s).1 with e | reply
    · rw [hresult] at hgoes
      exact fun last hlast => himp _ _ (hlonger.trans hlast.isPrefix) (hgoes last hlast)
    · rw [hresult] at hgoes
      exact ih reply hgoes fun outcome last hlast => himp outcome last (hlonger.trans hlast)

/-- Programs in a row uphold the invariant one after the other. -/
theorem bind {f : α → Program Call β} {Knows : Except StoreError β → List (Event ι Call σ) → Prop}
    (h : Upholds answer Inv i (fun outcome log => match outcome with
      | .ok a => Upholds answer Inv i Knows (f a) log
      | .error e => Knows (.error e) log) p log) :
    Upholds answer Inv i Knows (p >>= f) log := by
  induction p generalizing log with
  | done a => exact h log (Meanwhile.refl i log)
  | fail e => exact h
  | ask call resume ih =>
    intro later s hlater hinv
    obtain ⟨hkept, hgoes⟩ := h later s hlater hinv
    refine ⟨hkept, ?_⟩
    rcases hresult : (answer call s).1 with e | reply
    · rw [hresult] at hgoes
      exact hgoes
    · rw [hresult] at hgoes
      exact ih reply hgoes

/-- A call that succeeds upholds the invariant, and the program goes on with its reply. -/
theorem call {call : Call} {f : Interface.Reply call → Program Call α}
    (h : ∀ later s, Meanwhile i log later → Inv later s →
      ∃ reply, (answer call s).1 = .ok reply ∧ Inv (later ++ [⟨i, call, s⟩]) (answer call s).2 ∧
        Upholds answer Inv i Knows (f reply) (later ++ [⟨i, call, s⟩])) :
    Upholds answer Inv i Knows (.ofCall call >>= f) log := by
  intro later s hlater hinv
  obtain ⟨reply, hreply, hkept, hgoes⟩ := h later s hlater hinv
  refine ⟨hkept, ?_⟩
  rw [hreply]
  exact hgoes

/-- A call that fails upholds the invariant, and ends the program. -/
theorem call_error {call : Call} {f : Interface.Reply call → Program Call α}
    (h : ∀ later s, Meanwhile i log later → Inv later s →
      ∃ e, (answer call s).1 = .error e ∧ Inv (later ++ [⟨i, call, s⟩]) (answer call s).2 ∧
        ∀ last, Meanwhile i (later ++ [⟨i, call, s⟩]) last → Knows (.error e) last) :
    Upholds answer Inv i Knows (.ofCall call >>= f) log := by
  intro later s hlater hinv
  obtain ⟨e, he, hkept, hgoes⟩ := h later s hlater hinv
  refine ⟨hkept, ?_⟩
  rw [he]
  exact hgoes

/-- A program that is over upholds anything. -/
theorem pure {a : α} (h : ∀ later, Meanwhile i log later → Knows (.ok a) later) :
    Upholds answer Inv i Knows (pure a) log := h

/-- A program upholds what always holds, and ends knowing what any longer log shows. -/
theorem of_forall (hinv : ∀ log s, Inv log s) (p : Program Call α)
    (hknows : ∀ outcome later, log <+: later → Knows outcome later) :
    Upholds answer Inv i Knows p log := by
  induction p generalizing log with
  | done a => exact fun later hlater => hknows _ later hlater.isPrefix
  | fail e => exact fun later hlater => hknows _ later hlater.isPrefix
  | ask call resume ih =>
    intro later s hlater _
    have hlonger : log <+: later ++ [⟨i, call, s⟩] :=
      hlater.isPrefix.trans (List.prefix_append _ _)
    refine ⟨hinv _ _, ?_⟩
    rcases (answer call s).1 with e | reply
    · exact fun last hlast => hknows _ last (hlonger.trans hlast.isPrefix)
    · exact ih reply fun outcome last hlast => hknows outcome last (hlonger.trans hlast)

/-- A client that is through knows what it was to know. -/
theorem knows {outcome : Except StoreError α} (h : Upholds answer Inv i Knows p log)
    (hover : p.outcome? = some outcome) : Knows outcome log := by
  cases p with
  | done a =>
    cases hover
    exact h log (Meanwhile.refl i log)
  | fail e =>
    cases hover
    exact h log (Meanwhile.refl i log)
  | ask call resume => cases hover

/-- The next call upholds the invariant, and so do the calls that follow. -/
theorem next {call : Call} {resume : Interface.Reply call → Program Call α} {s : σ}
    (h : Upholds answer Inv i Knows (.ask call resume) log) (hinv : Inv log s) :
    Inv (log ++ [⟨i, call, s⟩]) ((Program.ask call resume).next answer s).2 ∧
      Upholds answer Inv i Knows ((Program.ask call resume).next answer s).1
        (log ++ [⟨i, call, s⟩]) := by
  obtain ⟨hkept, hgoes⟩ := h log s (Meanwhile.refl i log) hinv
  rw [Program.next]
  rcases hanswer : answer call s with ⟨e | reply, s'⟩
  · rw [hanswer] at hkept hgoes
    exact ⟨hkept, hgoes⟩
  · rw [hanswer] at hkept hgoes
    exact ⟨hkept, hgoes⟩

end Upholds

end Program

/-! ## Crowds that keep an invariant -/

namespace Crowd

variable {ε α : Type}

/-- Whether a crowd is within an invariant and all of its clients uphold it. -/
structure Kept (answer : Handler Call σ) (Inv : List (Event ι Call σ) → σ → Prop)
    (Knows : ι → Except StoreError α → List (Event ι Call σ) → Prop)
    (c : Crowd ι Call σ α) : Prop where
  inv : Inv c.log c.state
  clients : ∀ i, (c.rest i).Upholds answer Inv i (Knows i) c.log

variable {answer : Handler Call σ} {shift : ε → σ → σ} {Inv : List (Event ι Call σ) → σ → Prop}
  {Knows : ι → Except StoreError α → List (Event ι Call σ) → Prop}
  {c : Crowd ι Call σ α}

/-- A client that is through knows what it was to know. -/
theorem Kept.knows (h : c.Kept answer Inv Knows) {i : ι} {outcome : Except StoreError α}
    (hover : (c.rest i).outcome? = some outcome) : Knows i outcome c.log :=
  (h.clients i).knows hover

variable [DecidableEq ι]

/-- One move keeps the invariant. -/
theorem Kept.move {m : Move ι ε}
    (hshift : ∀ change, m = .outside change → ∀ log s, Inv log s → Inv log (shift change s))
    (h : c.Kept answer Inv Knows) : (c.move answer shift m).Kept answer Inv Knows := by
  cases m with
  | outside change => exact ⟨hshift change rfl _ _ h.inv, h.clients⟩
  | client i =>
    cases hrest : c.rest i with
    | done a => rwa [move_client_of_outcome (by rw [hrest]; rfl)]
    | fail e => rwa [move_client_of_outcome (by rw [hrest]; rfl)]
    | ask call resume =>
      have hclient := h.clients i
      rw [hrest] at hclient
      obtain ⟨hinv, hnext⟩ := hclient.next h.inv
      rw [move_client_of_ask hrest, hrest]
      refine ⟨hinv, fun j => ?_⟩
      dsimp only
      by_cases hsame : j = i
      · subst hsame
        rw [Function.update_self]
        exact hnext
      · rw [Function.update_of_ne hsame]
        exact (h.clients j).meanwhile (Meanwhile.of_event _ (Ne.symm hsame))

/-- Every schedule keeps the invariant, if the changes from outside do. -/
theorem Kept.run {moves : List (Move ι ε)}
    (hshift : ∀ change, .outside change ∈ moves → ∀ log s, Inv log s → Inv log (shift change s))
    (h : c.Kept answer Inv Knows) : (c.run answer shift moves).Kept answer Inv Knows := by
  induction moves generalizing c with
  | nil => exact h
  | cons m rest ih =>
    refine ih (fun change hmem => hshift change (List.mem_cons_of_mem _ hmem)) (h.move ?_)
    rintro change rfl
    exact hshift change List.mem_cons_self

end Crowd

end TieredStore
