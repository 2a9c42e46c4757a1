import TieredStore.Proofs.Query.Tokens
import TieredStore.Query.Basic

/-!
# The grammar of queries

    expression := term (or term)*
    term       := factor (and factor)*
    factor     := ( expression ) | name operator ?

A derivation shows how a sequence of tokens follows from the grammar.  Its reading is a boolean
function of the fields: a disjunction of terms, each a conjunction of factors, with the arguments
put for the placeholders from left to right.  The reader accepts exactly the sequences that have
a derivation, and its predicate means what the derivation reads.

Main results:

- Theorem `Derivation.holds_predicate`: the predicate of a derivation means what it reads.
- Theorem `Predicate.ofTokens_of_derivation`: whatever is derived is read.
- Theorem `Predicate.exists_derivation_of_ofTokens`: whatever is read is derived.
- Theorem `Query.parse_parsedByGrammar`: what a query text comes to.
-/

namespace TieredStore

/-- What the grammar derives. -/
inductive Nonterminal where
  | expression
  | term
  | factor

/-- How tokens follow from the grammar.  A repetition grows at its end. -/
inductive Derivation : Nonterminal → Type where
  /-- An expression of one term. -/
  | single (t : Derivation .term) : Derivation .expression
  | or (e : Derivation .expression) (t : Derivation .term) : Derivation .expression
  /-- A term of one factor. -/
  | only (f : Derivation .factor) : Derivation .term
  | and (t : Derivation .term) (f : Derivation .factor) : Derivation .term
  | group (e : Derivation .expression) : Derivation .factor
  | comparison (name : String) (op : Operator) : Derivation .factor

namespace Derivation

variable {n : Nonterminal}

/-- The tokens that are derived. -/
def tokens {n : Nonterminal} : Derivation n → List Token
  | single t => t.tokens
  | or e t => e.tokens ++ .or :: t.tokens
  | only f => f.tokens
  | and t f => t.tokens ++ .and :: f.tokens
  | group e => .opening :: e.tokens ++ [.closing]
  | comparison name op => [.name name, .operator op, .placeholder]

/-- The number of placeholders. -/
def placeholders {n : Nonterminal} : Derivation n → Nat
  | single t => t.placeholders
  | or e t => e.placeholders + t.placeholders
  | only f => f.placeholders
  | and t f => t.placeholders + f.placeholders
  | group e => e.placeholders
  | comparison _ _ => 1

/-- The boolean reading: whether it is true of fields, each placeholder being replaced by the next
argument. -/
def reading {n : Nonterminal} (fields : Fields) : Derivation n → List Value → Bool
  | single t, arguments => t.reading fields arguments
  | or e t, arguments =>
    e.reading fields arguments || t.reading fields (arguments.drop e.placeholders)
  | only f, arguments => f.reading fields arguments
  | and t f, arguments =>
    t.reading fields arguments && f.reading fields (arguments.drop t.placeholders)
  | group e, arguments => e.reading fields arguments
  | comparison name op, arguments => op.test (fields.get? name) (arguments.headD .null)

/-- The predicate of a derivation. -/
def predicate {n : Nonterminal} : Derivation n → List Value → Predicate
  | single t, arguments => t.predicate arguments
  | or e t, arguments => (e.predicate arguments).or (t.predicate (arguments.drop e.placeholders))
  | only f, arguments => f.predicate arguments
  | and t f, arguments => (t.predicate arguments).and (f.predicate (arguments.drop t.placeholders))
  | group e, arguments => e.predicate arguments
  | comparison name op, arguments => .compare name op (arguments.headD .null)

/-- The predicate holds of the fields that the derivation is true of. -/
theorem holds_predicate (d : Derivation n) (arguments : List Value) (fields : Fields) :
    (d.predicate arguments).holds fields = d.reading fields arguments := by
  induction d generalizing arguments with
  | single t ih => exact ih arguments
  | or e t ihe iht => rw [predicate, Predicate.holds_or, ihe, iht, reading]
  | only f ih => exact ih arguments
  | and t f iht ihf => rw [predicate, Predicate.holds_and, iht, ihf, reading]
  | group e ih => exact ih arguments
  | comparison name op => exact Predicate.holds_compare _ _ _ _

/-- Every placeholder is a token. -/
theorem count_placeholder (d : Derivation n) : d.tokens.count .placeholder = d.placeholders := by
  induction d with
  | single t ih => exact ih
  | or e t ihe iht => simp [tokens, placeholders, ihe, iht]
  | only f ih => exact ih
  | and t f iht ihf => simp [tokens, placeholders, iht, ihf]
  | group e ih => simp [tokens, placeholders, ih]
  | comparison name op => simp [tokens, placeholders]

end Derivation

namespace Predicate

open TieredStore.Derivation

/-! ## Whatever is derived is read -/

/-- After a term it makes no difference which factors came before it: they are part of it. -/
theorem read_connective (supplied : Nat) (term : Predicate) (outer : List Level)
    (disjunction conjunction : Option Predicate) (arguments : List Value) (tokens : List Token) :
    read supplied (.connective term) outer ⟨disjunction, conjunction⟩ arguments tokens =
      read supplied (.connective term) outer ⟨disjunction, none⟩ arguments tokens := by
  cases tokens with
  | nil => cases outer <;> simp [read, Level.result]
  | cons token rest => cases token <;> cases outer <;> simp [read, Level.result]

/-- Whether the reader gets through what is derived: a factor joins the current term, a term
is the current one, and an expression is all of its level. -/
def ReadThrough : {n : Nonterminal} → Derivation n → Prop
  | .factor, f => ∀ supplied outer (level : Level) arguments rest,
      f.placeholders ≤ arguments.length →
      read supplied .factor outer level arguments (f.tokens ++ rest) =
        read supplied (.connective (level.term (f.predicate arguments))) outer level
          (arguments.drop f.placeholders) rest
  | .term, t => ∀ supplied outer disjunction arguments rest,
      t.placeholders ≤ arguments.length →
      read supplied .factor outer ⟨disjunction, none⟩ arguments (t.tokens ++ rest) =
        read supplied (.connective (t.predicate arguments)) outer ⟨disjunction, none⟩
          (arguments.drop t.placeholders) rest
  | .expression, e => ∀ supplied outer arguments rest,
      e.placeholders ≤ arguments.length → ∃ disjunction term,
      Level.result ⟨disjunction, none⟩ term = e.predicate arguments ∧
      read supplied .factor outer .fresh arguments (e.tokens ++ rest) =
        read supplied (.connective term) outer ⟨disjunction, none⟩
          (arguments.drop e.placeholders) rest

/-- Whether every name among some tokens is a field name. -/
def NamesFields (tokens : List Token) : Prop :=
  ∀ name, .name name ∈ tokens → isFieldName name = true

theorem readThrough {n : Nonterminal} (d : Derivation n) (hnames : NamesFields d.tokens) :
    ReadThrough d := by
  induction d with
  | single t ih =>
    intro supplied outer arguments rest hsupplied
    exact ⟨none, t.predicate arguments, rfl, ih hnames supplied outer none arguments rest hsupplied⟩
  | or e t ihe iht =>
    intro supplied outer arguments rest hsupplied
    have he : NamesFields e.tokens := fun name h => hnames name (List.mem_append_left _ h)
    have ht : NamesFields t.tokens := fun name h =>
      hnames name (List.mem_append_right _ (List.mem_cons_of_mem _ h))
    rw [placeholders] at hsupplied
    obtain ⟨disjunction, term, hresult, hread⟩ :=
      ihe he supplied outer arguments (.or :: t.tokens ++ rest) (by omega)
    refine ⟨some (e.predicate arguments), t.predicate (arguments.drop e.placeholders), rfl, ?_⟩
    have hterm := iht ht supplied outer (some (e.predicate arguments))
      (arguments.drop e.placeholders) rest (by rw [List.length_drop]; omega)
    rw [tokens, List.append_assoc, hread, List.cons_append, read, hresult, hterm, List.drop_drop,
      placeholders]
  | only f ih =>
    intro supplied outer disjunction arguments rest hsupplied
    exact ih hnames supplied outer ⟨disjunction, none⟩ arguments rest hsupplied
  | and t f iht ihf =>
    intro supplied outer disjunction arguments rest hsupplied
    have ht : NamesFields t.tokens := fun name h => hnames name (List.mem_append_left _ h)
    have hf : NamesFields f.tokens := fun name h =>
      hnames name (List.mem_append_right _ (List.mem_cons_of_mem _ h))
    rw [placeholders] at hsupplied
    have hterm := iht ht supplied outer disjunction arguments (.and :: f.tokens ++ rest) (by omega)
    have hfactor := ihf hf supplied outer ⟨disjunction, some (t.predicate arguments)⟩
      (arguments.drop t.placeholders) rest (by rw [List.length_drop]; omega)
    rw [tokens, List.append_assoc, hterm, List.cons_append, read, hfactor, read_connective,
      List.drop_drop, placeholders]
    rfl
  | group e ih =>
    intro supplied outer level arguments rest hsupplied
    have he : NamesFields e.tokens := fun name h =>
      hnames name (List.mem_cons_of_mem _ (List.mem_append_left _ h))
    obtain ⟨disjunction, term, hresult, hread⟩ :=
      ih he supplied (level :: outer) arguments (.closing :: rest) hsupplied
    rw [tokens, List.cons_append, List.cons_append, List.append_assoc, read_opening]
    refine hread.trans ?_
    rw [read_closing, hresult]
    rfl
  | comparison name op =>
    intro supplied outer level arguments rest hsupplied
    have hname : isFieldName name = true := hnames name List.mem_cons_self
    obtain ⟨argument, others, rfl⟩ : ∃ argument others, arguments = argument :: others :=
      List.exists_cons_of_length_pos hsupplied
    simp [tokens, read, hname, predicate, placeholders]

end Predicate

/-! ## Whatever is read is derived -/

/-- What is derived at a level that is still open: an expression before the last `or`, and the term
before the last `and` after it. -/
structure Opened where
  disjunction : Option (Derivation .expression)
  conjunction : Option (Derivation .term)

namespace Opened

/-- The tokens at an open level. -/
def tokens (o : Opened) : List Token :=
  (o.disjunction.elim [] fun e => e.tokens ++ [.or]) ++
    o.conjunction.elim [] fun t => t.tokens ++ [.and]

/-- The current term, completed by one more factor. -/
def term (o : Opened) (f : Derivation .factor) : Derivation .term :=
  o.conjunction.elim (.only f) fun t => .and t f

/-- The whole level, completed by its last factor. -/
def complete (o : Opened) (f : Derivation .factor) : Derivation .expression :=
  o.disjunction.elim (.single (o.term f)) fun e => .or e (o.term f)

/-- A level is completed by the tokens of its last factor. -/
theorem tokens_complete (o : Opened) (f : Derivation .factor) :
    (o.complete f).tokens = o.tokens ++ f.tokens := by
  obtain ⟨_ | e, _ | t⟩ := o <;> simp [complete, term, tokens, Derivation.tokens]

/-- An `and` goes on with the current term. -/
theorem tokens_and (o : Opened) (f : Derivation .factor) :
    tokens ⟨o.disjunction, some (o.term f)⟩ = o.tokens ++ f.tokens ++ [.and] := by
  obtain ⟨_ | e, _ | t⟩ := o <;> simp [term, tokens, Derivation.tokens]

/-- An `or` goes on with the whole level. -/
theorem tokens_or (o : Opened) (f : Derivation .factor) :
    tokens ⟨some (o.complete f), none⟩ = o.tokens ++ f.tokens ++ [.or] := by
  rw [tokens, Option.elim_some, tokens_complete]
  simp

/-- The tokens at open levels, innermost first, with their parentheses. -/
def before : List Opened → List Token
  | [] => []
  | o :: outer => before outer ++ o.tokens ++ [.opening]

end Opened

namespace Predicate

/-- Whether tokens complete an expression, whatever stands before them at some number of open
levels and at the current one. -/
def Completes (depth : Nat) (tokens : List Token) : Prop :=
  ∀ (outer : List Opened) (o : Opened), outer.length = depth →
    ∃ e : Derivation .expression, e.tokens = Opened.before outer ++ o.tokens ++ tokens

section Steps

variable {depth : Nat} {tokens : List Token}

/-- After an opening parenthesis there is one level more. -/
theorem completes_opening (h : Completes (depth + 1) tokens) :
    Completes depth (.opening :: tokens) := by
  intro outer o hdepth
  obtain ⟨e, he⟩ := h (o :: outer) ⟨none, none⟩ (congrArg (· + 1) hdepth)
  exact ⟨e, by simp [he, Opened.before, Opened.tokens]⟩

/-- A closing parenthesis makes a level a factor of the one around it. -/
theorem completes_closing (h : ∀ f : Derivation .factor, Completes depth (f.tokens ++ tokens))
    (f : Derivation .factor) : Completes (depth + 1) (f.tokens ++ .closing :: tokens) := by
  intro outer o hdepth
  obtain ⟨parent, outer, rfl⟩ := List.exists_cons_of_length_eq_add_one hdepth
  obtain ⟨e, he⟩ := h (.group (o.complete f)) outer parent (Nat.succ.inj hdepth)
  exact ⟨e, by simp [he, Opened.before, Derivation.tokens, Opened.tokens_complete]⟩

/-- After an `and` the current term goes on. -/
theorem completes_and (h : Completes depth tokens) (f : Derivation .factor) :
    Completes depth (f.tokens ++ .and :: tokens) := by
  intro outer o hdepth
  obtain ⟨e, he⟩ := h outer ⟨o.disjunction, some (o.term f)⟩ hdepth
  exact ⟨e, by simp [he, Opened.tokens_and]⟩

/-- After an `or` the current level goes on. -/
theorem completes_or (h : Completes depth tokens) (f : Derivation .factor) :
    Completes depth (f.tokens ++ .or :: tokens) := by
  intro outer o hdepth
  obtain ⟨e, he⟩ := h outer ⟨some (o.complete f), none⟩ hdepth
  exact ⟨e, by simp [he, Opened.tokens_or]⟩

/-- At the end there may be no open parenthesis. -/
theorem completes_nil (f : Derivation .factor) : Completes 0 (f.tokens ++ []) := by
  intro outer o hdepth
  cases List.eq_nil_of_length_eq_zero hdepth
  exact ⟨o.complete f, by simp [Opened.before, Opened.tokens_complete]⟩

end Steps

/-- Whether tokens complete an expression of which the first tokens of a factor, or a whole one, may
have been read. -/
def CompletesAt (depth : Nat) (tokens : List Token) : Expecting → Prop
  | .factor => Completes depth tokens
  | .operator name => Completes depth (.name name :: tokens)
  | .placeholder name op => Completes depth (.name name :: .operator op :: tokens)
  | .connective _ => ∀ f : Derivation .factor, Completes depth (f.tokens ++ tokens)

/-- What is known of tokens that are read. -/
structure Readable (depth : Nat) (arguments : List Value) (tokens : List Token)
    (expecting : Expecting) : Prop where
  completes : CompletesAt depth tokens expecting
  names : NamesFields tokens
  /-- There is a placeholder for each argument. -/
  count : tokens.count .placeholder = arguments.length

/-- A further token, if it is no placeholder. -/
theorem Readable.cons {depth depth' : Nat} {arguments : List Value} {tokens : List Token}
    {expecting expecting' : Expecting} (h : Readable depth arguments tokens expecting)
    {token : Token} (hcompletes : CompletesAt depth' (token :: tokens) expecting')
    (hno : token ≠ .placeholder) (hname : ∀ name, token = .name name → isFieldName name = true) :
    Readable depth' arguments (token :: tokens) expecting' := by
  refine ⟨hcompletes, ?_, (List.count_cons_of_ne hno).trans h.count⟩
  intro name hmem
  rcases List.mem_cons.1 hmem with hfirst | hrest
  · exact hname name hfirst.symm
  · exact h.names name hrest

/-- Tokens are read only if they complete an expression. -/
theorem readable_of_read {supplied : Nat} {expecting : Expecting} {outer : List Level}
    {level : Level} {arguments : List Value} {tokens : List Token} {p : Predicate}
    (h : read supplied expecting outer level arguments tokens = .ok p) :
    Readable outer.length arguments tokens expecting := by
  fun_induction read supplied expecting outer level arguments tokens with
  | case1 outer level arguments tokens ih =>
    exact (ih h).cons (completes_opening (ih h).completes) (by simp) (by simp)
  | case2 outer level arguments field tokens hfield ih =>
    refine (ih h).cons (ih h).completes (by simp) ?_
    rintro name hname
    cases hname
    exact hfield
  | case5 field outer level arguments op tokens ih =>
    exact (ih h).cons (ih h).completes (by simp) (by simp)
  | case7 field op outer level argument arguments tokens ih =>
    obtain ⟨hcompletes, hnames, hcount⟩ := ih h
    refine ⟨hcompletes (.comparison field op), ?_, ?_⟩
    · intro name hmem
      exact hnames name ((List.mem_cons.1 hmem).resolve_left Token.noConfusion)
    · rw [List.count_cons_self, hcount, List.length_cons]
  | case10 term outer level arguments tokens ih =>
    exact (ih h).cons (completes_and (ih h).completes) (by simp) (by simp)
  | case11 term outer level arguments tokens ih =>
    exact (ih h).cons (completes_or (ih h).completes) (by simp) (by simp)
  | case12 term parent outer level arguments tokens ih =>
    exact (ih h).cons (completes_closing (ih h).completes) (by simp) (by simp)
  | case15 term level arguments hnone =>
    refine ⟨completes_nil, fun name hmem => (nomatch hmem), ?_⟩
    rw [List.isEmpty_iff.1 hnone]
    rfl
  | _ => cases h

/-! ## The reader -/

/-- Tokens are read with some arguments if they are derived, name fields, and have a placeholder
for each argument; the predicate is that of the derivation. -/
theorem ofTokens_of_derivation (e : Derivation .expression) {arguments : List Value}
    (hnames : NamesFields e.tokens) (hcount : e.tokens.count .placeholder = arguments.length) :
    ofTokens e.tokens arguments = .ok (e.predicate arguments) := by
  rw [Derivation.count_placeholder] at hcount
  obtain ⟨disjunction, term, hresult, hread⟩ :=
    readThrough e hnames arguments.length [] arguments [] (Nat.le_of_eq hcount)
  rw [List.append_nil] at hread
  rw [ofTokens, hread, hcount, List.drop_length, ← hresult]
  simp [read]

/-- And only then. -/
theorem exists_derivation_of_ofTokens {tokens : List Token} {arguments : List Value}
    {p : Predicate} (h : ofTokens tokens arguments = .ok p) :
    (∃ e : Derivation .expression, e.tokens = tokens) ∧ NamesFields tokens ∧
      tokens.count .placeholder = arguments.length := by
  obtain ⟨hcompletes, hnames, hcount⟩ := readable_of_read h
  obtain ⟨e, he⟩ := hcompletes [] ⟨none, none⟩ rfl
  exact ⟨⟨e, by simpa [Opened.before, Opened.tokens] using he⟩, hnames, hcount⟩

end Predicate

/-! ## Query texts -/

/-- Whether a derivation is one of a query text with some arguments: the text splits into its
tokens, every name in it is a field name and no keyword, and there is a placeholder for each
argument. -/
structure Derivation.Explains (e : Derivation .expression) (text : String)
    (arguments : List Value) : Prop where
  splits : Token.Splits text.toList e.tokens
  names : ∀ name, .name name ∈ e.tokens → isFieldName name = true ∧ ¬Token.IsKeyword name
  count : e.tokens.count .placeholder = arguments.length

/-- Something is derived only from tokens. -/
theorem Derivation.tokens_ne_nil {n : Nonterminal} (d : Derivation n) : d.tokens ≠ [] := by
  induction d with
  | single t ih => exact ih
  | or e t ihe iht => simp [tokens]
  | only f ih => exact ih
  | and t f iht ihf => simp [tokens]
  | group e ih => simp [tokens]
  | comparison name op => simp [tokens]

namespace Query

variable {text : String} {arguments : List Value}

/-- A text without tokens has no predicate. -/
theorem parse_of_splits_nil (h : Token.Splits text.toList []) :
    parse text arguments = if arguments.isEmpty then .ok .all
      else .error (.invalidQuery (.argumentsWithoutExpression arguments.length)) := by
  rw [parse, Predicate.ofText?, (Token.ofText_eq_ok_iff text []).2 h]
  cases arguments <;> rfl

/-- A text with tokens has the predicate of these. -/
theorem parse_of_splits {tokens : List Token} (h : Token.Splits text.toList tokens)
    (hsome : tokens ≠ []) : parse text arguments =
      (Predicate.ofTokens tokens arguments).map fun p => { predicate := some p } := by
  obtain ⟨token, rest, rfl⟩ := List.exists_cons_of_ne_nil hsome
  rw [parse, Predicate.ofText?, (Token.ofText_eq_ok_iff text _).2 h]
  show ((Predicate.ofTokens (token :: rest) arguments).map some).map _ = _
  cases Predicate.ofTokens (token :: rest) arguments <;> rfl

/-- A text with a derivation has the predicate of the derivation. -/
theorem parse_of_explains {e : Derivation .expression} (h : e.Explains text arguments) :
    parse text arguments = .ok { predicate := some (e.predicate arguments) } := by
  have hnames : Predicate.NamesFields e.tokens := fun name hmem => (h.names name hmem).1
  rw [parse_of_splits h.splits e.tokens_ne_nil, Predicate.ofTokens_of_derivation e hnames h.count]
  rfl

/-- A text that comes to a query has no tokens and no arguments, or a derivation. -/
theorem parse_cases {q : Query} (h : parse text arguments = .ok q) :
    (q = .all ∧ Token.Splits text.toList [] ∧ arguments = []) ∨
      ∃ e : Derivation .expression, e.Explains text arguments := by
  cases htokens : Token.ofText text with
  | error problem =>
    rw [parse, Predicate.ofText?, htokens] at h
    cases h
  | ok tokens =>
    have hsplits := (Token.ofText_eq_ok_iff text tokens).1 htokens
    by_cases hnone : tokens = []
    · subst hnone
      rw [parse_of_splits_nil hsplits] at h
      cases arguments with
      | nil => exact Or.inl ⟨(Except.ok.inj h).symm, hsplits, rfl⟩
      | cons argument rest => cases h
    · rw [parse_of_splits hsplits hnone] at h
      cases hread : Predicate.ofTokens tokens arguments with
      | error problem =>
        rw [hread] at h
        cases h
      | ok p =>
        obtain ⟨⟨e, rfl⟩, hnames, hcount⟩ := Predicate.exists_derivation_of_ofTokens hread
        refine Or.inr ⟨e, hsplits, fun name hmem => ⟨hnames name hmem, ?_⟩, hcount⟩
        exact hsplits.not_isKeyword hmem

/-- What a query text with some arguments comes to. -/
structure ParsedByGrammar (text : String) (arguments : List Value) : Prop where
  /-- There is a predicate exactly if the text has a derivation. -/
  some_iff : (∃ p, parse text arguments = .ok { predicate := some p }) ↔
    ∃ e : Derivation .expression, e.Explains text arguments
  /-- All rows are meant exactly if there are no tokens and no arguments. -/
  all_iff : parse text arguments = .ok .all ↔ Token.Splits text.toList [] ∧ arguments = []
  /-- In all other cases there is an error. -/
  error : (¬∃ e : Derivation .expression, e.Explains text arguments) →
    ¬(Token.Splits text.toList [] ∧ arguments = []) →
    ∃ problem, parse text arguments = .error problem
  /-- The predicate means what the derivation reads. -/
  holds : ∀ p (e : Derivation .expression), parse text arguments = .ok { predicate := some p } →
    e.Explains text arguments → ∀ fields, p.holds fields = e.reading fields arguments

/-- Every query text is parsed by the grammar, whatever the arguments. -/
theorem parse_parsedByGrammar (text : String) (arguments : List Value) :
    ParsedByGrammar text arguments := by
  constructor
  case some_iff =>
    constructor
    · rintro ⟨p, hparse⟩
      rcases parse_cases hparse with ⟨hall, -⟩ | hexplains
      · cases hall
      · exact hexplains
    · rintro ⟨e, hexplains⟩
      exact ⟨_, parse_of_explains hexplains⟩
  case all_iff =>
    constructor
    · intro hparse
      rcases parse_cases hparse with ⟨-, hnone⟩ | ⟨e, hexplains⟩
      · exact hnone
      · rw [parse_of_explains hexplains] at hparse
        cases hparse
    · rintro ⟨hsplits, rfl⟩
      exact parse_of_splits_nil hsplits
  case error =>
    intro hno hnone
    cases hparse : parse text arguments with
    | error problem => exact ⟨problem, rfl⟩
    | ok q =>
      rcases parse_cases hparse with ⟨-, hempty⟩ | hexplains
      · exact absurd hempty hnone
      · exact absurd hexplains hno
  case holds =>
    intro p e hparse hexplains fields
    rw [parse_of_explains hexplains] at hparse
    cases hparse
    exact e.holds_predicate arguments fields

end Query

end TieredStore
