import TieredStore.Proofs.Query.Spellings
import TieredStore.Proofs.Query.Templates
import TieredStore.Record.Basic

/-!
# Query texts about stored fields

A record takes any field name, and a comparison with a placeholder can be written for nearly all of
them: the name, a spelling of the operator and the question mark, with white space around them as
one likes or none at all.  The names that spell a keyword are the exception.  A record takes a field
called `and` or `OR`, and no query text can compare it, because the word is read as the connective.

Main results:

- Theorem `Token.splits_comparison`: the tokens of a comparison, whatever its white space.
- Theorem `Query.expressible_iff`: the fields that query texts can compare.
- Theorem `Record.expressible_iff_of_put`: which fields of records those are.
-/

namespace TieredStore

/-! ## Texts of one comparison -/

/-- The white space in a comparison. -/
structure Gaps where
  before : List Char
  afterField : List Char
  afterSign : List Char
  behind : List Char
  before_blank : ∀ c ∈ before, isBlank c = true
  afterField_blank : ∀ c ∈ afterField, isBlank c = true
  afterSign_blank : ∀ c ∈ afterSign, isBlank c = true
  behind_blank : ∀ c ∈ behind, isBlank c = true

/-- No white space at all. -/
def Gaps.none : Gaps := ⟨[], [], [], [], nofun, nofun, nofun, nofun⟩

/-- A comparison of a field with a placeholder, the operator being spelled by some sign. -/
def comparisonText (field : String) (sign : List Char) (gaps : Gaps) : String :=
  String.ofList (gaps.before ++ (field.toList ++ (gaps.afterField ++ (sign ++
    (gaps.afterSign ++ '?' :: gaps.behind)))))

namespace Token

variable {field : String} {op : Operator} {sign : List Char}

/-- A comparison as a writing of its three tokens. -/
def comparisonWriting (hfield : isFieldName field = true) (hsign : (sign, .operator op) ∈ signs)
    (gaps : Gaps) : Writing where
  before := gaps.before
  pieces :=
    [⟨ofWord field.toList, field.toList, gaps.afterField,
      isSpelling_ofWord (isNameChar_of_isFieldName hfield).1 (isNameChar_of_isFieldName hfield).2,
      gaps.afterField_blank⟩,
    ⟨.operator op, sign, gaps.afterSign, hsign, gaps.afterSign_blank⟩,
    ⟨.placeholder, ['?'], gaps.behind, by simp [IsSpelling, signs], gaps.behind_blank⟩]
  before_blank := gaps.before_blank

/-- A comparison needs no white space: a word does not go on with a sign, and an operator not with
the question mark. -/
theorem legible_comparisonWriting (hfield : isFieldName field = true)
    (hsign : (sign, .operator op) ∈ signs) (gaps : Gaps) :
    (comparisonWriting hfield hsign gaps).Legible := by
  refine .cons_cons (fun _ c hc hgoes => ?_) (.cons_cons (fun _ c hc hgoes => ?_) (.singleton _))
  · have hword := (isNameChar_of_isFieldName hfield).2
    obtain ⟨more, rfl⟩ := List.head?_eq_some_iff.1 hc
    exact not_goesOn_of_word hword (head_of_mem_signs hsign).1 hgoes
  · cases hc
    rcases hgoes with ⟨-, hname⟩ | ⟨hequal, -⟩ | ⟨hgreater, -⟩
    · exact absurd hname (by decide)
    · exact absurd hequal (by decide)
    · exact absurd hgreater (by decide)

/-- The tokens of a comparison, whatever its white space. -/
theorem splits_comparison (hfield : isFieldName field = true)
    (hsign : (sign, .operator op) ∈ signs) (gaps : Gaps) :
    Splits (comparisonText field sign gaps).toList
      [ofWord field.toList, .operator op, .placeholder] := by
  have hcharacters : (comparisonWriting hfield hsign gaps).characters =
      (comparisonText field sign gaps).toList := by
    simp [Writing.characters, Written.characters, comparisonWriting, comparisonText]
  rw [← hcharacters]
  exact (legible_comparisonWriting hfield hsign gaps).splits

end Token

/-! ## What they are read as -/

namespace Query

variable {field : String} {op : Operator} {sign : List Char}

/-- A comparison of a field whose name is no keyword is read as such. -/
theorem parse_comparisonText (hfield : isFieldName field = true)
    (hkeyword : ¬Token.IsKeyword field) (hsign : (sign, .operator op) ∈ Token.signs) (gaps : Gaps)
    (v : Value) :
    parse (comparisonText field sign gaps) [v] = .ok (.filter (.compare field op v)) := by
  have hsplits := Token.splits_comparison hfield hsign gaps
  rw [Token.ofWord_toList hkeyword] at hsplits
  have hexplains : Derivation.Explains (.single (.only (.comparison field op)))
      (comparisonText field sign gaps) [v] := by
    refine ⟨hsplits, fun name hname => ?_, rfl⟩
    obtain rfl : name = field := by simpa [Derivation.tokens] using hname
    exact ⟨hfield, hkeyword⟩
  exact parse_of_explains hexplains

/-- A keyword is not read as the name of a field. -/
theorem parse_comparisonText_of_isKeyword (hfield : isFieldName field = true)
    (hkeyword : Token.IsKeyword field) (hsign : (sign, .operator op) ∈ Token.signs) (gaps : Gaps)
    (v : Value) : parse (comparisonText field sign gaps) [v] =
      .error (.invalidQuery (.expectedOperand (some (Token.ofWord field.toList)))) := by
  rw [parse_of_splits (Token.splits_comparison hfield hsign gaps) (List.cons_ne_nil _ _)]
  have hword : Token.ofWord field.toList = .and ∨ Token.ofWord field.toList = .or :=
    hkeyword.imp (Token.ofWord_keyword _).1.2 (Token.ofWord_keyword _).2.2
  -- Neither of the two connectives can be the first token of an expression.
  have hread : Predicate.ofTokens [Token.ofWord field.toList, .operator op, .placeholder] [v] =
      .error (.invalidQuery (.expectedOperand (some (Token.ofWord field.toList)))) := by
    rcases hword with hword | hword <;> rw [hword] <;> simp [Predicate.ofTokens, Predicate.read]
  rw [hread]
  rfl

/-- Whether a field can be compared by a query text: however the operator is spelled, with any white
space and any argument. -/
def Expressible (field : String) : Prop :=
  ∀ (op : Operator) (sign : List Char), (sign, .operator op) ∈ Token.signs →
    ∀ (gaps : Gaps) (v : Value),
      parse (comparisonText field sign gaps) [v] = .ok (.filter (.compare field op v))

/-- Query texts can compare the fields whose names are no keywords. -/
theorem expressible_iff (field : String) :
    Expressible field ↔ isFieldName field = true ∧ ¬Token.IsKeyword field := by
  constructor
  · intro h
    have hread := h .eq ['='] (by simp [Token.signs]) .none .null
    cases regular_of_parse hread rfl with
    | compare hfield hkeyword => exact ⟨hfield, hkeyword⟩
  · rintro ⟨hfield, hkeyword⟩ op sign hsign gaps v
    exact parse_comparisonText hfield hkeyword hsign gaps v

end Query

/-! ## Fields of records -/

namespace Record

variable {r changed : Record} {field : String} {value : Value}

/-- A record takes field names only. -/
theorem isFieldName_of_put (h : r.put field value = .ok changed) : isFieldName field = true := by
  cases hfield : isFieldName field with
  | true => rfl
  | false =>
    rw [r.put_invalid value hfield] at h
    cases h

/-- Of the fields that a record takes, query texts can compare those whose names are no keywords;
every comparison of another one is refused at its name. -/
theorem expressible_iff_of_put (h : r.put field value = .ok changed) :
    (Query.Expressible field ↔ ¬Token.IsKeyword field) ∧
      (Token.IsKeyword field → ∀ (op : Operator) (sign : List Char),
        (sign, .operator op) ∈ Token.signs → ∀ (gaps : Gaps) (v : Value),
          Query.parse (comparisonText field sign gaps) [v] =
            .error (.invalidQuery (.expectedOperand (some (Token.ofWord field.toList))))) := by
  have hfield := isFieldName_of_put h
  refine ⟨(Query.expressible_iff field).trans (and_iff_right hfield), ?_⟩
  intro hkeyword op sign hsign gaps v
  exact Query.parse_comparisonText_of_isKeyword hfield hkeyword hsign gaps v

/-- A name that begins like a keyword can be compared, and one that is a keyword in capitals
cannot. -/
theorem expressible_iff_of_put_android :
    let r := create ⟨"r", by decide⟩
    (∃ changed, r.put "android" (.int 1) = .ok changed) ∧ Query.Expressible "android" ∧
      (∃ changed, r.put "OR" (.int 1) = .ok changed) ∧
      Query.parse (comparisonText "OR" ['<', '>'] .none) [.null] =
        .error (.invalidQuery (.expectedOperand (some .or))) := by
  intro r
  have handroid := r.put_valid (.int 1) (by decide : isFieldName "android" = true)
  have hor := r.put_valid (.int 1) (by decide : isFieldName "OR" = true)
  refine ⟨⟨_, handroid⟩, (expressible_iff_of_put handroid).1.2 (by decide +kernel), ⟨_, hor⟩, ?_⟩
  exact (expressible_iff_of_put hor).2 (by decide +kernel) .ne _ (by decide) .none .null

/-- A record takes a field called `and`, and query texts cannot compare it. -/
theorem not_expressible_of_put : ¬∀ (r changed : Record) (field : String) (value : Value),
    r.put field value = .ok changed → Query.Expressible field := by
  intro h
  have hput := (create ⟨"r", by decide⟩).put_valid (.int 1) (by decide : isFieldName "and" = true)
  have hkeyword : Token.IsKeyword "and" := by decide +kernel
  exact ((Query.expressible_iff "and").1 (h _ _ _ _ hput)).2 hkeyword

end Record

end TieredStore
