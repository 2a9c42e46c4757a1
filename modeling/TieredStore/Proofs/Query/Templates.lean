import TieredStore.Proofs.Query.Grammar

/-!
# Which predicates query texts have

Joining keeps chains flat, and a chain has two parts at least.  So not every predicate is that
of a query text: those that are have field names that are no keywords, and every connective in
them has two parts or more, none of them of its own kind.

Each of these regular predicates has a text of its own, its template: comparisons with a question
mark for the argument, joined by `AND` and `OR`, and parentheses around every connective that is
a part of another one.  Reading the template gives the very same tree again.

Main results:

- Theorem `Derivation.regular_predicate`: the predicate of a derivation is regular.
- Theorem `Predicate.Regular.exists_writes`: the template of a regular predicate has a derivation
  whose predicate it is.
- Theorem `Query.parse_iff_regular`: the predicates of query texts are the regular ones, and each
  is that of its template.
-/

namespace TieredStore

/-! ## Connectives -/

/-- One of the two ways to join predicates. -/
inductive Connective where
  | all
  | any

namespace Connective

/-- The predicate of this kind with some parts. -/
def of : Connective → List Predicate → Predicate
  | all => .all
  | any => .any

/-- The parts of a predicate of this kind; anything else is its own only part. -/
def partsOf : Connective → Predicate → List Predicate
  | all => Predicate.conjuncts
  | any => Predicate.disjuncts

/-- Two predicates joined. -/
def join : Connective → Predicate → Predicate → Predicate
  | all => Predicate.and
  | any => Predicate.or

/-- The keyword, as it is written between two parts. -/
def word : Connective → String
  | all => " AND "
  | any => " OR "

/-- The keyword as a token. -/
def keyword : Connective → Token
  | all => .and
  | any => .or

variable (c : Connective) {p q : Predicate} {parts rest : List Predicate}

/-- What is joined has the parts of both. -/
theorem join_eq (p q : Predicate) : c.join p q = c.of (c.partsOf p ++ c.partsOf q) := by
  cases c <;> rfl

/-- A predicate of the kind has its parts. -/
theorem partsOf_of (parts : List Predicate) : c.partsOf (c.of parts) = parts := by
  cases c <;> rfl

/-- A predicate of another kind is its own only part. -/
theorem partsOf_of_ne (h : ∀ inner, p ≠ c.of inner) : c.partsOf p = [p] := by
  cases c with
  | all =>
    cases p with
    | all inner => exact absurd rfl (h inner)
    | compare field op argument => rfl
    | any inner => rfl
  | any =>
    cases p with
    | any inner => exact absurd rfl (h inner)
    | compare field op argument => rfl
    | all inner => rfl

/-- Joining further parts to a connective, one by one, appends them. -/
theorem foldl_join_of (parts : List Predicate) (hrest : ∀ q ∈ rest, ∀ inner, q ≠ c.of inner) :
    rest.foldl c.join (c.of parts) = c.of (parts ++ rest) := by
  induction rest generalizing parts with
  | nil => simp
  | cons q rest ih =>
    obtain ⟨hq, hrest⟩ := List.forall_mem_cons.1 hrest
    rw [List.foldl_cons, join_eq, partsOf_of, c.partsOf_of_ne hq, ih _ hrest, List.append_assoc,
      List.singleton_append]

/-- Joining predicates of other kinds, one by one, makes them the parts of a connective. -/
theorem foldl_join (hsome : rest ≠ []) (hparts : ∀ q ∈ p :: rest, ∀ inner, q ≠ c.of inner) :
    rest.foldl c.join p = c.of (p :: rest) := by
  obtain ⟨q, more, rfl⟩ := List.exists_cons_of_ne_nil hsome
  obtain ⟨hp, hq, hmore⟩ : _ ∧ _ ∧ _ := by simpa only [List.forall_mem_cons] using hparts
  rw [List.foldl_cons, join_eq, c.partsOf_of_ne hp, c.partsOf_of_ne hq, c.foldl_join_of _ hmore]
  rfl

end Connective

/-! ## Regular predicates -/

/-- Whether a predicate has field names only, none of them a keyword, and its connectives have
two parts at least, none of them of the same kind. -/
inductive Predicate.Regular : Predicate → Prop
  | compare {field : String} {op : Operator} {argument : Value}
    (hfield : isFieldName field = true) (hkeyword : ¬Token.IsKeyword field) :
    Regular (.compare field op argument)
  | all {parts : List Predicate} (htwo : 2 ≤ parts.length)
    (hother : ∀ q ∈ parts, ∀ inner, q ≠ .all inner) (hparts : ∀ q ∈ parts, Regular q) :
    Regular (.all parts)
  | any {parts : List Predicate} (htwo : 2 ≤ parts.length)
    (hother : ∀ q ∈ parts, ∀ inner, q ≠ .any inner) (hparts : ∀ q ∈ parts, Regular q) :
    Regular (.any parts)

namespace Predicate.Regular

variable {p q : Predicate}

/-- When a connective is regular. -/
theorem of_iff (c : Connective) (parts : List Predicate) : (c.of parts).Regular ↔
    2 ≤ parts.length ∧ (∀ q ∈ parts, ∀ inner, q ≠ c.of inner) ∧ ∀ q ∈ parts, q.Regular := by
  constructor
  · intro h
    cases c with
    | all =>
      cases h with
      | all htwo hother hparts => exact ⟨htwo, hother, hparts⟩
    | any =>
      cases h with
      | any htwo hother hparts => exact ⟨htwo, hother, hparts⟩
  · rintro ⟨htwo, hother, hparts⟩
    cases c with
    | all => exact .all htwo hother hparts
    | any => exact .any htwo hother hparts

/-- What a regular predicate adds to a chain: one part at least, each regular and of another
kind. -/
theorem partsOf (c : Connective) (h : p.Regular) : 1 ≤ (c.partsOf p).length ∧
    (∀ q ∈ c.partsOf p, ∀ inner, q ≠ c.of inner) ∧ ∀ q ∈ c.partsOf p, q.Regular := by
  by_cases hkind : ∃ parts, p = c.of parts
  · obtain ⟨parts, rfl⟩ := hkind
    obtain ⟨htwo, hother, hparts⟩ := (of_iff c parts).1 h
    rw [c.partsOf_of]
    exact ⟨Nat.le_of_succ_le htwo, hother, hparts⟩
  · have hother : ∀ inner, p ≠ c.of inner := not_exists.1 hkind
    rw [c.partsOf_of_ne hother]
    exact ⟨Nat.le_refl 1, List.forall_mem_singleton.2 hother, List.forall_mem_singleton.2 h⟩

/-- Joining keeps predicates regular. -/
theorem join (c : Connective) (hp : p.Regular) (hq : q.Regular) : (c.join p q).Regular := by
  obtain ⟨hlength, hother, hparts⟩ := hp.partsOf c
  obtain ⟨hlength', hother', hparts'⟩ := hq.partsOf c
  rw [c.join_eq, of_iff, List.length_append]
  exact ⟨Nat.add_le_add hlength hlength', List.forall_mem_append.2 ⟨hother, hother'⟩,
    List.forall_mem_append.2 ⟨hparts, hparts'⟩⟩

end Predicate.Regular

/-- The predicate of a derivation is regular if its names are field names and no keywords. -/
theorem Derivation.regular_predicate {n : Nonterminal} (d : Derivation n)
    (hnames : ∀ name, .name name ∈ d.tokens → isFieldName name = true ∧ ¬Token.IsKeyword name)
    (arguments : List Value) : (d.predicate arguments).Regular := by
  induction d generalizing arguments with
  | single t ih => exact ih hnames arguments
  | only f ih => exact ih hnames arguments
  | or e t ihe iht =>
    refine .join .any (ihe (fun name h => hnames name ?_) _) (iht (fun name h => hnames name ?_) _)
    · exact List.mem_append_left _ h
    · exact List.mem_append_right _ (List.mem_cons_of_mem _ h)
  | and t f iht ihf =>
    refine .join .all (iht (fun name h => hnames name ?_) _) (ihf (fun name h => hnames name ?_) _)
    · exact List.mem_append_left _ h
    · exact List.mem_append_right _ (List.mem_cons_of_mem _ h)
  | group e ih =>
    refine ih (fun name h => hnames name ?_) arguments
    exact List.mem_cons_of_mem _ (List.mem_append_left _ h)
  | comparison name op =>
    obtain ⟨hfield, hkeyword⟩ := hnames name List.mem_cons_self
    exact .compare hfield hkeyword

/-! ## Templates -/

namespace Predicate

/-- The text of a predicate as a part of another: connectives stand in parentheses. -/
def enclose : Predicate → String → String
  | .compare _ _ _, text => text
  | .all _, text => "(" ++ text ++ ")"
  | .any _, text => "(" ++ text ++ ")"

mutual

/-- The query text of a predicate, with placeholders for the arguments. -/
def template : Predicate → String
  | .compare field op _ => field ++ " " ++ op.symbol ++ " ?"
  | .all parts => Connective.all.word.intercalate (templatesOfParts parts)
  | .any parts => Connective.any.word.intercalate (templatesOfParts parts)

/-- The texts of the parts of a connective. -/
def templatesOfParts : List Predicate → List String
  | [] => []
  | p :: rest => enclose p (template p) :: templatesOfParts rest

end

mutual

/-- The arguments from left to right. -/
def arguments : Predicate → List Value
  | .compare _ _ argument => [argument]
  | .all parts => argumentsOfParts parts
  | .any parts => argumentsOfParts parts

/-- The arguments of the parts of a connective. -/
def argumentsOfParts : List Predicate → List Value
  | [] => []
  | p :: rest => arguments p ++ argumentsOfParts rest

end

/-- The text of a predicate as a part of another. -/
def partTemplate (p : Predicate) : String := p.enclose p.template

/-- Each part of a connective has its own text. -/
theorem templatesOfParts_eq_map (parts : List Predicate) :
    templatesOfParts parts = parts.map partTemplate := by
  induction parts with
  | nil => simp [templatesOfParts]
  | cons p rest ih => simp [templatesOfParts, ih, partTemplate]

/-- The arguments of a connective are those of its parts in turn. -/
theorem argumentsOfParts_eq_flatMap (parts : List Predicate) :
    argumentsOfParts parts = parts.flatMap arguments := by
  induction parts with
  | nil => simp [argumentsOfParts]
  | cons p rest ih => simp [argumentsOfParts, ih]

/-- Connectives that are parts stand in parentheses, whichever way they would be read. -/
example : template (.any [.compare "a" .eq .null, .all [.compare "b" .gt .null,
    .compare "c" .ne .null]]) = "a = ? OR (b > ? AND c != ?)" := by
  decide +kernel

/-- The arguments of a connective are those of its parts. -/
theorem arguments_of (c : Connective) (parts : List Predicate) :
    (c.of parts).arguments = parts.flatMap arguments := by
  cases c <;> rw [Connective.of, arguments, argumentsOfParts_eq_flatMap]

/-- Texts joined by a separator: it stands before every text but the first. -/
theorem intercalate_cons {α : Type} (separator first : List α) (rest : List (List α)) :
    separator.intercalate (first :: rest) = first ++ rest.flatMap (separator ++ ·) := by
  induction rest generalizing first with
  | nil => simp
  | cons second rest ih =>
    rw [List.intercalate_cons_cons, ih, List.flatMap_cons, List.append_assoc, List.append_assoc]

/-- The text of a connective. -/
theorem toList_template_of (c : Connective) (p : Predicate) (rest : List Predicate) :
    (c.of (p :: rest)).template.toList = p.partTemplate.toList ++
      rest.flatMap fun q => c.word.toList ++ q.partTemplate.toList := by
  have htemplate : (c.of (p :: rest)).template =
      c.word.intercalate ((p :: rest).map partTemplate) := by
    cases c <;> rw [Connective.of, template, templatesOfParts_eq_map]
  rw [htemplate, String.toList_intercalate, List.map_cons, List.map_cons, intercalate_cons,
    List.map_map, List.flatMap_map]
  rfl

end Predicate

/-! ## Reading templates -/

open Token (Splits signs longest_sign longest_word)

/-- A sign is a token if what follows does not make it a longer one. -/
theorem Token.splits_sign (sign : List Char) {rest : List Char} {token : Token}
    {tokens : List Token} (hsign : (sign, token) ∈ signs)
    (hend : ∀ c ∈ rest.head?, ∀ e ∈ signs, ¬(sign ++ [c]) <+: e.1) (h : Splits rest tokens) :
    Splits (sign ++ rest) (token :: tokens) :=
  .token (.sign hsign) (longest_sign hsign hend) h

/-- A word is a token if white space follows. -/
theorem Token.splits_word (word : List Char) {rest : List Char} {tokens : List Token}
    (hsome : word ≠ []) (hword : ∀ c ∈ word, isNameChar c = true) (h : Splits rest tokens) :
    Splits (word ++ ' ' :: rest) (ofWord word :: tokens) := by
  refine .token (.word hsome hword) (longest_word hsome hword ?_) (.blank (by decide) h)
  intro c hc
  cases hc
  decide

/-- An operator is a token if white space follows. -/
theorem Token.splits_symbol (op : Operator) {rest : List Char} {tokens : List Token}
    (h : Splits rest tokens) :
    Splits (op.symbol.toList ++ ' ' :: rest) (.operator op :: tokens) := by
  refine splits_sign op.symbol.toList (by cases op <;> decide) ?_ (.blank (by decide) h)
  intro c hc
  cases hc
  cases op <;> decide

/-- The keyword of a connective is a token. -/
theorem Connective.splits_word (c : Connective) {rest : List Char} {others : List Token}
    (h : Splits rest others) : Splits (c.word.toList ++ rest) (c.keyword :: others) := by
  cases c with
  | all => exact .blank (by decide) (Token.splits_word ['A', 'N', 'D'] (by decide)
      (List.all_eq_true.1 (by decide)) h)
  | any => exact .blank (by decide) (Token.splits_word ['O', 'R'] (by decide)
      (List.all_eq_true.1 (by decide)) h)

/-- A field name consists of word characters. -/
theorem isNameChar_of_isFieldName {name : String} (h : isFieldName name = true) :
    name.toList ≠ [] ∧ ∀ c ∈ name.toList, Token.isNameChar c = true := by
  unfold isFieldName at h
  split at h
  · cases h
  · rename_i first rest hname
    obtain ⟨hfirst, hrest⟩ := Bool.and_eq_true_iff.1 h
    rw [hname]
    refine ⟨List.cons_ne_nil _ _, List.forall_mem_cons.2 ⟨?_, List.all_eq_true.1 hrest⟩⟩
    rw [Token.isNameChar, Char.isAlphanum]
    rcases Bool.or_eq_true_iff.1 hfirst with hletter | hunderscore
    · simp [hletter]
    · simp [hunderscore]

/-- Whether a derivation is one of a text, whatever is written behind it, and has a predicate once
its arguments are put for the placeholders. -/
structure Derivation.Writes {n : Nonterminal} (d : Derivation n) (text : List Char)
    (arguments : List Value) (p : Predicate) : Prop where
  splits : ∀ rest others, Splits rest others → Splits (text ++ rest) (d.tokens ++ others)
  names : Predicate.NamesFields d.tokens
  count : d.placeholders = arguments.length
  predicate : ∀ more, d.predicate (arguments ++ more) = p

namespace Derivation

variable {e : Derivation .expression} {t : Derivation .term} {f : Derivation .factor}
  {text text' : List Char} {arguments arguments' : List Value} {p q : Predicate}

/-- A comparison with a placeholder is a factor. -/
theorem writes_comparison {field : String} (hfield : isFieldName field = true)
    (hkeyword : ¬Token.IsKeyword field) (op : Operator) (argument : Value) :
    (comparison field op).Writes (Predicate.compare field op argument).template.toList [argument]
      (.compare field op argument) where
  splits := by
    intro rest others hrest
    obtain ⟨hsome, hword⟩ := isNameChar_of_isFieldName hfield
    have hmark : Splits ('?' :: rest) (.placeholder :: others) :=
      Token.splits_sign ['?'] (by simp [signs]) (by simp [signs]) hrest
    have hname := Token.splits_word _ hsome hword (Token.splits_symbol op hmark)
    rw [Token.ofWord_toList hkeyword] at hname
    simpa [Predicate.template, tokens] using hname
  names := by
    intro name hname
    obtain rfl : name = field := by simpa [tokens] using hname
    exact hfield
  count := rfl
  predicate := fun _ => rfl

/-- An expression in parentheses is a factor. -/
theorem Writes.group (h : e.Writes text arguments p) :
    e.group.Writes ("(".toList ++ text ++ ")".toList) arguments p where
  splits := by
    intro rest others hrest
    have hclosing : Splits (')' :: rest) (.closing :: others) :=
      Token.splits_sign [')'] (by simp [signs]) (by simp [signs]) hrest
    have hopening : Splits ('(' :: (text ++ ')' :: rest))
        (.opening :: (e.tokens ++ .closing :: others)) :=
      Token.splits_sign ['('] (by simp [signs]) (by simp [signs])
        (h.splits _ _ hclosing)
    simpa [tokens] using hopening
  names := by
    intro name hname
    exact h.names name (by simpa [tokens] using hname)
  count := h.count
  predicate := h.predicate

/-- A factor is a term. -/
theorem Writes.only (h : f.Writes text arguments p) : (only f).Writes text arguments p :=
  ⟨h.splits, h.names, h.count, h.predicate⟩

/-- A term is an expression. -/
theorem Writes.single (h : t.Writes text arguments p) : (single t).Writes text arguments p :=
  ⟨h.splits, h.names, h.count, h.predicate⟩

/-! ### Chains -/

/-- What a chain of factors with a connective is derived from. -/
def chainOf : Connective → Nonterminal
  | .all => .term
  | .any => .expression

/-- The chain of one factor. -/
def chain : (c : Connective) → Derivation .factor → Derivation (chainOf c)
  | .all, f => only f
  | .any, f => single (only f)

/-- A chain with one factor more. -/
def extend : (c : Connective) → Derivation (chainOf c) → Derivation .factor →
    Derivation (chainOf c)
  | .all, t, f => and t f
  | .any, e, f => or e (only f)

/-- A chain as an expression. -/
def whole : (c : Connective) → Derivation (chainOf c) → Derivation .expression
  | .all, t => single t
  | .any, e => e

/-- A factor is a chain. -/
theorem Writes.chain (h : f.Writes text arguments p) (c : Connective) :
    (chain c f).Writes text arguments p := by
  cases c with
  | all => exact h.only
  | any => exact h.only.single

/-- A chain is an expression. -/
theorem Writes.whole {c : Connective} {d : Derivation (chainOf c)}
    (h : d.Writes text arguments p) : (whole c d).Writes text arguments p := by
  cases c with
  | all => exact h.single
  | any => exact h

section Extend

variable {c : Connective} (d : Derivation (chainOf c)) (f : Derivation .factor)

/-- A longer chain has the keyword between what came before and the new factor. -/
theorem tokens_extend : (extend c d f).tokens = d.tokens ++ c.keyword :: f.tokens := by
  cases c <;> rfl

/-- A longer chain has the placeholders of both. -/
theorem placeholders_extend :
    (extend c d f).placeholders = d.placeholders + f.placeholders := by
  cases c <;> rfl

/-- A longer chain joins a predicate to what came before. -/
theorem predicate_extend (arguments : List Value) : (extend c d f).predicate arguments =
    c.join (d.predicate arguments) (f.predicate (arguments.drop d.placeholders)) := by
  cases c <;> rfl

end Extend

/-- A factor behind the keyword makes a chain longer. -/
theorem Writes.extend {c : Connective} {d : Derivation (chainOf c)}
    (h : d.Writes text arguments p) (h' : f.Writes text' arguments' q) :
    (extend c d f).Writes (text ++ (c.word.toList ++ text')) (arguments ++ arguments')
      (c.join p q) where
  splits := by
    intro rest others hrest
    have htext := h.splits _ _ (c.splits_word (h'.splits _ _ hrest))
    simpa [tokens_extend] using htext
  names := by
    intro name hname
    rw [tokens_extend, List.mem_append, List.mem_cons] at hname
    rcases hname with hbefore | hkeyword | hfactor
    · exact h.names name hbefore
    · cases c <;> cases hkeyword
    · exact h'.names name hfactor
  count := by rw [placeholders_extend, h.count, h'.count, List.length_append]
  predicate := by
    intro more
    rw [predicate_extend, h.count, List.append_assoc, List.drop_left, h.predicate, h'.predicate]

/-- Any number of factors behind a chain make it longer. -/
theorem exists_writes_foldl {c : Connective} (rest : List Predicate)
    (hrest : ∀ q ∈ rest, ∃ f : Derivation .factor, f.Writes q.partTemplate.toList q.arguments q)
    {d : Derivation (chainOf c)} (h : d.Writes text arguments p) :
    ∃ d' : Derivation (chainOf c),
      d'.Writes (text ++ rest.flatMap fun q => c.word.toList ++ q.partTemplate.toList)
        (arguments ++ rest.flatMap Predicate.arguments) (rest.foldl c.join p) := by
  induction rest generalizing text arguments p d with
  | nil => exact ⟨d, by simpa using h⟩
  | cons q rest ih =>
    obtain ⟨⟨f, hf⟩, hrest⟩ := List.forall_mem_cons.1 hrest
    obtain ⟨d', hd'⟩ := ih hrest (h.extend hf)
    exact ⟨d', by simpa [List.append_assoc] using hd'⟩

end Derivation

namespace Predicate

open TieredStore.Derivation

/-- The template of a connective has a derivation if those of its parts have. -/
theorem exists_writes_of (c : Connective) {parts : List Predicate} (htwo : 2 ≤ parts.length)
    (hother : ∀ q ∈ parts, ∀ inner, q ≠ c.of inner)
    (hparts : ∀ q ∈ parts, ∃ f : Derivation .factor,
      f.Writes q.partTemplate.toList q.arguments q) :
    ∃ e : Derivation .expression,
      e.Writes (c.of parts).template.toList (c.of parts).arguments (c.of parts) := by
  obtain ⟨p, rest, rfl⟩ := List.exists_cons_of_length_pos (Nat.lt_of_succ_lt htwo)
  have hsome : rest ≠ [] := List.ne_nil_of_length_pos (Nat.lt_of_succ_lt_succ htwo)
  obtain ⟨⟨f, hf⟩, hrest⟩ := List.forall_mem_cons.1 hparts
  obtain ⟨d, hd⟩ := exists_writes_foldl rest hrest (hf.chain c)
  rw [c.foldl_join hsome hother] at hd
  refine ⟨whole c d, ?_⟩
  rw [toList_template_of, arguments_of, List.flatMap_cons]
  exact hd.whole

/-- A regular predicate that is a part of another is written as a factor. -/
theorem Regular.exists_writes_part {p : Predicate} (h : p.Regular)
    (he : ∃ e : Derivation .expression, e.Writes p.template.toList p.arguments p) :
    ∃ f : Derivation .factor, f.Writes p.partTemplate.toList p.arguments p := by
  obtain ⟨e, he⟩ := he
  cases h with
  | @compare field op argument hfield hkeyword =>
    rw [arguments]
    exact ⟨.comparison field op, writes_comparison hfield hkeyword op argument⟩
  | all _ _ _ => exact ⟨e.group, by simpa [partTemplate, enclose] using he.group⟩
  | any _ _ _ => exact ⟨e.group, by simpa [partTemplate, enclose] using he.group⟩

/-- The template of a regular predicate has a derivation whose predicate it is. -/
theorem Regular.exists_writes {p : Predicate} (h : p.Regular) :
    ∃ e : Derivation .expression, e.Writes p.template.toList p.arguments p := by
  induction h with
  | @compare field op argument hfield hkeyword =>
    rw [arguments]
    exact ⟨_, (writes_comparison hfield hkeyword op argument).only.single⟩
  | all htwo hother hparts ih =>
    exact exists_writes_of .all htwo hother fun q hq =>
      (hparts q hq).exists_writes_part (ih q hq)
  | any htwo hother hparts ih =>
    exact exists_writes_of .any htwo hother fun q hq =>
      (hparts q hq).exists_writes_part (ih q hq)

end Predicate

/-- A derivation that writes a text explains it. -/
theorem Derivation.Writes.explains {e : Derivation .expression} {text : String}
    {arguments : List Value} {p : Predicate} (h : e.Writes text.toList arguments p) :
    e.Explains text arguments := by
  have hsplits : Splits text.toList e.tokens := by simpa using h.splits [] [] .done
  exact ⟨hsplits, fun name hname => ⟨h.names name hname, hsplits.not_isKeyword hname⟩,
    e.count_placeholder.trans h.count⟩

namespace Query

/-- The template of a regular predicate is read as this predicate. -/
theorem parse_template {p : Predicate} (h : p.Regular) :
    parse p.template p.arguments = .ok (filter p) := by
  obtain ⟨e, he⟩ := h.exists_writes
  have hpredicate : e.predicate p.arguments = p := by simpa using he.predicate []
  rw [parse_of_explains he.explains, hpredicate, filter]

/-- The predicate of a query text is regular. -/
theorem regular_of_parse {text : String} {arguments : List Value} {q : Query} {p : Predicate}
    (h : parse text arguments = .ok q) (hp : q.predicate = some p) : p.Regular := by
  rcases parse_cases h with ⟨rfl, -⟩ | ⟨e, he⟩
  · cases hp
  · rw [parse_of_explains he] at h
    cases h
    cases hp
    exact e.regular_predicate he.names arguments

/-- The predicates of query texts are the regular ones, and each is that of its template. -/
theorem parse_iff_regular (p : Predicate) :
    ((∃ text arguments q, parse text arguments = .ok q ∧ q.predicate = some p) ↔ p.Regular) ∧
      (parse p.template p.arguments = .ok (filter p) ↔ p.Regular) := by
  have htemplate : parse p.template p.arguments = .ok (filter p) ↔ p.Regular :=
    ⟨fun h => regular_of_parse h rfl, parse_template⟩
  refine ⟨⟨?_, fun h => ⟨_, _, _, htemplate.2 h, rfl⟩⟩, htemplate⟩
  rintro ⟨text, arguments, q, hparse, hp⟩
  exact regular_of_parse hparse hp

end Query

end TieredStore
