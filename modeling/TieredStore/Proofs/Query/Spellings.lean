import Mathlib.Data.List.Chain
import TieredStore.Proofs.Query.Tokens

/-!
# Tokens as they are written

A name is written as it is, a keyword in any letter case, and two of the operators have a second
sign.  Tokens that are written one after another, in any of their spellings and with white space
between them, are found again.  The white space may be left out wherever the next spelling does not
go on with the one before it: two words would become one, and so would some pairs of signs.  No
other texts have tokens.

Main results:

- Theorem `Token.spells_iff`: the spellings of each token.
- Theorem `Token.goesOn_iff`: which characters make a longer spelling of a spelling.
- Theorem `Token.splits_iff_exists_writing`: texts split into tokens as they are written.
- Theorem `Token.writing_laws`: which texts have some tokens, and which tokens are those of a text.
-/

namespace TieredStore

namespace Token

variable {cs rest : List Char} {token : Token}

/-! ## Spellings -/

/-- Whether a text is a name: a word that is no keyword. -/
structure IsName (word : String) : Prop where
  nonempty : word.toList ≠ []
  characters : ∀ c ∈ word.toList, isNameChar c = true
  not_keyword : ¬IsKeyword word

/-- Whether characters are a spelling of a token. -/
def IsSpelling (cs : List Char) : Token → Prop
  | .name word => cs = word.toList ∧ IsName word
  | .and => cs.map Char.toLower = ['a', 'n', 'd']
  | .or => cs.map Char.toLower = ['o', 'r']
  | token => (cs, token) ∈ signs

/-- A letter in either case is a word character. -/
theorem isNameChar_of_toLower {c : Char} (h : isNameChar c.toLower = true) :
    isNameChar c = true := by
  by_cases hupper : c.val ≥ 'A'.val ∧ c.val ≤ 'Z'.val
  · have hletter : c.isAlpha = true := Bool.or_eq_true_iff.2 (.inl (decide_eq_true hupper))
    simp [isNameChar, Char.isAlphanum, hletter]
  · have hsame : c.toLower = c := dif_neg hupper
    rwa [hsame] at h

/-- A keyword in any letter case is a word. -/
theorem spells_of_map_toLower {keyword : List Char} (h : cs.map Char.toLower = keyword)
    (hsome : keyword ≠ []) (hword : keyword.all isNameChar = true) :
    Spells cs (ofWord cs) := by
  subst h
  refine .word (fun hnil => hsome (by rw [hnil]; rfl)) fun c hc => ?_
  exact isNameChar_of_toLower (List.all_eq_true.1 hword _ (List.mem_map_of_mem hc))

/-- A word is a spelling of its token. -/
theorem isSpelling_ofWord (hsome : cs ≠ []) (hword : ∀ c ∈ cs, isNameChar c = true) :
    IsSpelling cs (ofWord cs) := by
  have htoList : (String.ofList cs).toList = cs := String.toList_ofList
  unfold ofWord
  split
  · assumption
  · split
    · assumption
    · rename_i hand hor
      refine ⟨htoList.symm, ?_, ?_, ?_⟩
      · rwa [htoList]
      · rwa [htoList]
      · rw [IsKeyword, htoList]
        exact not_or.2 ⟨hand, hor⟩

/-- The spellings of each token. -/
theorem spells_iff : Spells cs token ↔ IsSpelling cs token := by
  constructor
  · intro h
    cases h with
    | sign hsign =>
      cases token with
      | name word => simp [signs] at hsign
      | and => simp [signs] at hsign
      | or => simp [signs] at hsign
      | _ => exact hsign
    | word hsome hword => exact isSpelling_ofWord hsome hword
  · intro h
    cases token with
    | name word =>
      obtain ⟨rfl, hname⟩ := h
      have hspells := Spells.word hname.nonempty hname.characters
      rwa [ofWord_toList hname.not_keyword] at hspells
    | and =>
      have hspells := spells_of_map_toLower h (by decide) (by decide)
      rwa [(ofWord_keyword cs).1.2 h] at hspells
    | or =>
      have hspells := spells_of_map_toLower h (by decide) (by decide)
      rwa [(ofWord_keyword cs).2.2 h] at hspells
    | _ => exact .sign h

/-- Every token has a spelling, unless it is a name that cannot be one. -/
theorem exists_isSpelling_iff :
    (∃ cs, IsSpelling cs token) ↔ ∀ word, token = .name word → IsName word := by
  constructor
  · rintro ⟨cs, h⟩ word rfl
    exact h.2
  · intro h
    cases token with
    | name word => exact ⟨word.toList, rfl, h word rfl⟩
    | operator op =>
      exact ⟨op.symbol.toList, by cases op <;> simp [IsSpelling, signs, Operator.symbol]⟩
    | placeholder => exact ⟨['?'], by simp [IsSpelling, signs]⟩
    | and => exact ⟨['a', 'n', 'd'], by simp [IsSpelling]⟩
    | or => exact ⟨['o', 'r'], by simp [IsSpelling]⟩
    | opening => exact ⟨['('], by simp [IsSpelling, signs]⟩
    | closing => exact ⟨[')'], by simp [IsSpelling, signs]⟩

/-! ## Neighbours -/

/-- Whether a spelling goes on with a character that follows it directly: words do with word
characters, and three signs have longer ones. -/
def GoesOn (spelling : List Char) (c : Char) : Prop :=
  ((∀ c' ∈ spelling, isNameChar c' = true) ∧ isNameChar c = true) ∨
    (c = '=' ∧ (spelling = ['='] ∨ spelling = ['<'] ∨ spelling = ['>'])) ∨
    (c = '>' ∧ spelling = ['<'])

/-- A spelling goes on with the characters that make a longer spelling of it. -/
theorem goesOn_iff {c : Char} (h : Spells cs token) :
    GoesOn cs c ↔ ∃ longer, Spells (cs ++ [c]) longer := by
  constructor
  · rintro (⟨hword, hc⟩ | ⟨rfl, rfl | rfl | rfl⟩ | ⟨rfl, rfl⟩)
    · refine ⟨_, .word (by simp) fun c' hc' => ?_⟩
      rcases List.mem_append.1 hc' with hc' | hc'
      · exact hword c' hc'
      · rwa [List.mem_singleton.1 hc']
    · exact ⟨.operator .eq, .sign (by simp [signs])⟩
    · exact ⟨.operator .le, .sign (by simp [signs])⟩
    · exact ⟨.operator .ge, .sign (by simp [signs])⟩
    · exact ⟨.operator .ne, .sign (by simp [signs])⟩
  · rintro ⟨longer, hlonger⟩
    obtain ⟨first, more, rfl, -⟩ := h.exists_cons
    cases hfirst : isNameChar first with
    | true =>
      have hword := (hlonger.of_isNameChar hfirst).1
      have hmore := fun c' hc' => hword c' (List.mem_append_left [c] hc')
      exact .inl ⟨List.forall_mem_cons.2 ⟨hfirst, hmore⟩,
        hword c (List.mem_append_right more List.mem_cons_self)⟩
    | false =>
      -- Both are signs, and of the signs only these begin with others.
      have hall : ∀ e ∈ signs, ∀ e' ∈ signs, e'.1.dropLast = e.1 →
          (e'.1.getLast? = some '=' ∧ (e.1 = ['='] ∨ e.1 = ['<'] ∨ e.1 = ['>'])) ∨
            (e'.1.getLast? = some '>' ∧ e.1 = ['<']) := by
        decide
      have hsign : (first :: more ++ [c], longer) ∈ signs := hlonger.mem_signs hfirst
      have hpair := hall _ (h.mem_signs hfirst) _ hsign List.dropLast_concat
      rw [List.getLast?_concat, Option.some.injEq, Option.some.injEq] at hpair
      exact .inr hpair

/-- White space goes on with no spelling. -/
theorem not_goesOn_of_isBlank {c : Char} (h : isBlank c = true) : ¬GoesOn cs c := by
  rintro (⟨-, hc⟩ | ⟨rfl, -⟩ | ⟨rfl, -⟩)
  · rw [isNameChar_of_isBlank h] at hc
    cases hc
  · exact absurd h (by decide)
  · exact absurd h (by decide)

/-- A word goes on with word characters only. -/
theorem not_goesOn_of_word {c : Char} (hword : ∀ c' ∈ cs, isNameChar c' = true)
    (hc : isNameChar c = false) : ¬GoesOn cs c := by
  rintro (⟨-, hname⟩ | ⟨-, rfl | rfl | rfl⟩ | ⟨-, rfl⟩)
  · rw [hc] at hname
    cases hname
  all_goals exact absurd (hword _ List.mem_cons_self) (by decide)

/-- A spelling is a token if it does not go on with the character behind it. -/
theorem longest_of_not_goesOn (h : Spells cs token) (hend : ∀ c ∈ rest.head?, ¬GoesOn cs c) :
    Longest cs rest := by
  cases h with
  | word hsome hword =>
    refine longest_word hsome hword fun c hc => ?_
    cases hname : isNameChar c with
    | false => rfl
    | true => exact absurd (.inl ⟨hword, hname⟩) (hend c hc)
  | sign hsign =>
    refine longest_sign hsign fun c hc e he hlonger => ?_
    -- No sign has more than two characters, so the longer one has this character more.
    have htwo : ∀ e ∈ signs, e.1.length ≤ 2 := by decide
    have hlength : e.1.length ≤ (cs ++ [c]).length := by
      obtain ⟨first, more, rfl, -⟩ := (Spells.sign hsign).exists_cons
      exact Nat.le_trans (htwo e he) (by simp)
    have hspells : Spells (cs ++ [c]) e.2 := .sign (hlonger.eq_of_length_le hlength ▸ he)
    exact hend c hc ((goesOn_iff (.sign hsign)).2 ⟨e.2, hspells⟩)

/-! ## Writings -/

/-- There may be no white space at all. -/
theorem isBlank_of_mem_nil : ∀ c ∈ ([] : List Char), isBlank c = true :=
  nofun

/-- A token as it is written: a spelling, and the white space behind it. -/
structure Written where
  token : Token
  spelling : List Char
  gap : List Char
  isSpelling : IsSpelling spelling token
  gap_blank : ∀ c ∈ gap, isBlank c = true

namespace Written

/-- The characters of tokens that are written one after another. -/
def characters (pieces : List Written) : List Char :=
  pieces.flatMap fun piece => piece.spelling ++ piece.gap

/-- Whether a spelling stands apart from the next one: white space is between them, or the spelling
does not go on with the first character of the next one. -/
def Apart (piece next : Written) : Prop :=
  piece.gap = [] → ∀ c ∈ next.spelling.head?, ¬GoesOn piece.spelling c

/-- A token that is written is spelled. -/
theorem spells (piece : Written) : Spells piece.spelling piece.token :=
  spells_iff.2 piece.isSpelling

/-- The first character of what is written is that of the first spelling. -/
theorem head?_characters_cons (piece : Written) (pieces : List Written) :
    (characters (piece :: pieces)).head? = piece.spelling.head? := by
  obtain ⟨first, more, hspelling, -⟩ := piece.spells.exists_cons
  rw [characters, List.flatMap_cons, hspelling]
  rfl

/-- Tokens that are written apart are found again. -/
theorem splits_characters {pieces : List Written} (h : pieces.IsChain Apart) :
    Splits (characters pieces) (pieces.map Written.token) := by
  induction pieces with
  | nil => exact .done
  | cons piece pieces ih =>
    obtain ⟨hnext, hchain⟩ := List.isChain_cons.1 h
    rw [characters, List.flatMap_cons, List.append_assoc]
    refine .token piece.spells (longest_of_not_goesOn piece.spells fun c hc => ?_)
      (splits_blanks piece.gap_blank (ih hchain))
    cases hgap : piece.gap with
    | cons blank more =>
      have hblank := piece.gap_blank blank (hgap ▸ List.mem_cons_self)
      rw [hgap] at hc
      cases hc
      exact not_goesOn_of_isBlank hblank
    | nil =>
      rw [hgap, List.nil_append] at hc
      cases pieces with
      | nil => cases hc
      | cons next pieces =>
        change c ∈ (characters (next :: pieces)).head? at hc
        rw [head?_characters_cons] at hc
        exact hnext next rfl hgap c hc

end Written

/-- A text as a writing of tokens: white space in front, and the tokens with what is behind
them. -/
structure Writing where
  before : List Char
  pieces : List Written
  before_blank : ∀ c ∈ before, isBlank c = true

namespace Writing

/-- All characters that are written. -/
def characters (w : Writing) : List Char := w.before ++ Written.characters w.pieces

/-- The text that is written. -/
def text (w : Writing) : String := String.ofList w.characters

/-- The tokens that are written. -/
def tokens (w : Writing) : List Token := w.pieces.map Written.token

/-- Whether there is white space between all neighbours. -/
def Spaced (w : Writing) : Prop := w.pieces.IsChain fun piece _ => piece.gap ≠ []

/-- Whether white space is left out only where no spelling goes on with the next one. -/
def Legible (w : Writing) : Prop := w.pieces.IsChain Written.Apart

/-- With white space everywhere a writing is legible. -/
theorem Spaced.legible {w : Writing} (h : w.Spaced) : w.Legible :=
  List.IsChain.imp (fun _ _ hgap hnone => absurd hnone hgap) h

/-- A text consists of the characters that are written. -/
theorem text_eq_iff {w : Writing} {text : String} : w.text = text ↔ w.characters = text.toList := by
  constructor
  · rintro rfl
    exact String.toList_ofList.symm
  · intro h
    rw [Writing.text, h, String.ofList_toList]

/-- Every name that is written is one. -/
theorem isName_of_mem_tokens {w : Writing} {word : String} (h : .name word ∈ w.tokens) :
    IsName word := by
  obtain ⟨piece, -, htoken⟩ := List.mem_map.1 h
  have hspelling := piece.isSpelling
  rw [htoken] at hspelling
  exact hspelling.2

/-- What is written legibly splits into the tokens. -/
theorem Legible.splits {w : Writing} (h : w.Legible) : Splits w.characters w.tokens :=
  splits_blanks w.before_blank (Written.splits_characters h)

/-- White space in front. -/
def indent (w : Writing) (c : Char) (h : isBlank c = true) : Writing where
  before := c :: w.before
  pieces := w.pieces
  before_blank := List.forall_mem_cons.2 ⟨h, w.before_blank⟩

/-- A token in front. -/
def cons (spelling : List Char) (token : Token) (h : IsSpelling spelling token) (w : Writing) :
    Writing where
  before := []
  pieces := ⟨token, spelling, w.before, h, w.before_blank⟩ :: w.pieces
  before_blank := isBlank_of_mem_nil

/-- A token in front of white space. -/
theorem Spaced.cons {w : Writing} (h : w.Spaced) (hbefore : w.before ≠ [])
    (hspelling : IsSpelling cs token) : (cons cs token hspelling w).Spaced :=
  List.isChain_cons.2 ⟨fun _ _ => hbefore, h⟩

/-- A token in front is legible if it could not be longer. -/
theorem Legible.cons {w : Writing} (h : w.Legible) (hspells : Spells cs token)
    (hlongest : Longest cs w.characters) : (cons cs token (spells_iff.1 hspells) w).Legible := by
  refine List.isChain_cons.2 ⟨fun next hnext hgap c hc hgoes => ?_, h⟩
  obtain ⟨longer, hlonger⟩ := (goesOn_iff hspells).1 hgoes
  obtain ⟨pieces, hpieces⟩ := List.head?_eq_some_iff.1 hnext
  have hhead : w.characters.head? = some c := by
    change w.before = [] at hgap
    rw [characters, hgap, List.nil_append, hpieces, Written.head?_characters_cons, hc]
  obtain ⟨more, hmore⟩ := List.head?_eq_some_iff.1 hhead
  exact hlongest [c] (List.cons_ne_nil _ _) ⟨more, hmore.symm⟩ longer hlonger

/-- Tokens can be written with white space between them if the names among them are names. -/
theorem exists_spaced {tokens : List Token} (h : ∀ word, .name word ∈ tokens → IsName word) :
    ∃ w : Writing, w.Spaced ∧ w.tokens = tokens := by
  induction tokens with
  | nil => exact ⟨⟨[], [], isBlank_of_mem_nil⟩, .nil, rfl⟩
  | cons token tokens ih =>
    obtain ⟨w, hspaced, rfl⟩ := ih fun word hword => h word (List.mem_cons_of_mem _ hword)
    obtain ⟨cs, hspelling⟩ := exists_isSpelling_iff.2 fun word hword =>
      h word (hword ▸ List.mem_cons_self)
    have hblank : isBlank ' ' = true := by decide
    have hindented : (w.indent ' ' hblank).Spaced := hspaced
    exact ⟨_, hindented.cons (List.cons_ne_nil _ _) hspelling, rfl⟩

end Writing

/-! ## Finding tokens -/

/-- Texts split into tokens as they are written. -/
theorem splits_iff_exists_writing {tokens : List Token} :
    Splits cs tokens ↔ ∃ w : Writing, w.Legible ∧ w.characters = cs ∧ w.tokens = tokens := by
  constructor
  · intro h
    induction h with
    | done => exact ⟨⟨[], [], isBlank_of_mem_nil⟩, .nil, rfl, rfl⟩
    | blank hblank _ ih =>
      obtain ⟨w, hlegible, rfl, rfl⟩ := ih
      exact ⟨w.indent _ hblank, hlegible, rfl, rfl⟩
    | token hspells hlongest _ ih =>
      obtain ⟨w, hlegible, rfl, rfl⟩ := ih
      refine ⟨.cons _ _ (spells_iff.1 hspells) w, hlegible.cons hspells hlongest, ?_, rfl⟩
      simp [Writing.cons, Writing.characters, Written.characters]
  · rintro ⟨w, hlegible, rfl, rfl⟩
    exact hlegible.splits

/-- Tokens are those of the texts in which they are legible. -/
theorem ofText_eq_ok_iff_exists_writing {text : String} {tokens : List Token} :
    ofText text = .ok tokens ↔
      ∃ w : Writing, w.Legible ∧ w.text = text ∧ w.tokens = tokens := by
  rw [ofText_eq_ok_iff, splits_iff_exists_writing]
  simp only [Writing.text_eq_iff]

/-- How tokens are found in texts. -/
structure WritingLaws (tokens : List Token) : Prop where
  /-- Written with white space between them they are found, whatever their spellings. -/
  found : ∀ w : Writing, w.Spaced → w.tokens = tokens → ofText w.text = .ok tokens
  /-- They can be written so unless there is a name among them that cannot be one. -/
  exists_spaced_iff :
    (∃ w : Writing, w.Spaced ∧ w.tokens = tokens) ↔ ∀ word, .name word ∈ tokens → IsName word
  /-- They are the tokens of the texts in which they are written, white space being left out only
  where no spelling goes on with the next one. -/
  ofText_eq_iff : ∀ text,
    ofText text = .ok tokens ↔ ∃ w : Writing, w.Legible ∧ w.text = text ∧ w.tokens = tokens

/-- Tokens are found as they are written. -/
theorem writing_laws (tokens : List Token) : WritingLaws tokens where
  found w hspaced htokens :=
    ofText_eq_ok_iff_exists_writing.2 ⟨w, hspaced.legible, rfl, htokens⟩
  exists_spaced_iff := by
    refine ⟨?_, Writing.exists_spaced⟩
    rintro ⟨w, -, rfl⟩ word hword
    exact w.isName_of_mem_tokens hword
  ofText_eq_iff _ := ofText_eq_ok_iff_exists_writing

/-- Signs may touch words and each other, and the longest sign is taken. -/
example : ofText "a<>?aNd(b===?" = .ok [.name "a", .operator .ne, .placeholder, .and, .opening,
    .name "b", .operator .eq, .operator .eq, .placeholder] := by
  rfl

end Token

end TieredStore
