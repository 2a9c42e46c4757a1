import TieredStore.Query.Lexer

/-!
# How texts split into tokens

A text splits into tokens if it consists of their spellings, with white space between them as
one likes, and no spelling could have gone on to make a longer token.  A text splits in one way
at most, and scanning it finds this way.

Main results:

- Theorem `Token.splits_append_iff`: a text that begins with the spelling of a token, and not with
  that of a longer one, begins with this token.
- Theorem `Token.ofText_eq_ok_iff`: the tokens that are found are those that the text splits
  into.
- Theorem `Token.Splits.not_isKeyword`: no name is a keyword.
-/

namespace TieredStore

namespace Token

/-! ## Spelling -/

/-- The tokens that are spelled by signs. -/
def signs : List (List Char × Token) :=
  [(['('], .opening), ([')'], .closing), (['?'], .placeholder),
   (['='], .operator .eq), (['=', '='], .operator .eq),
   (['!', '='], .operator .ne), (['<', '>'], .operator .ne),
   (['>'], .operator .gt), (['<'], .operator .lt),
   (['>', '='], .operator .ge), (['<', '='], .operator .le)]

/-- Whether characters spell a token. -/
inductive Spells : List Char → Token → Prop
  | sign {sign : List Char} {token : Token} (h : (sign, token) ∈ signs) : Spells sign token
  | word {word : List Char} (hsome : word ≠ []) (hword : ∀ c ∈ word, isNameChar c = true) :
    Spells word (ofWord word)

/-- Whether no longer token is spelled with some of the characters that follow. -/
def Longest (cs rest : List Char) : Prop :=
  ∀ more, more ≠ [] → more <+: rest → ∀ token, ¬Spells (cs ++ more) token

/-- Whether a text splits into tokens. -/
inductive Splits : List Char → List Token → Prop
  | done : Splits [] []
  | blank {c : Char} {rest : List Char} {tokens : List Token} (hblank : isBlank c = true)
      (hrest : Splits rest tokens) : Splits (c :: rest) tokens
  | token {cs rest : List Char} {token : Token} {tokens : List Token} (hspells : Spells cs token)
      (hlongest : Longest cs rest) (hrest : Splits rest tokens) :
      Splits (cs ++ rest) (token :: tokens)

/-- A sign begins with neither a word character nor white space. -/
theorem head_of_mem_signs {c : Char} {rest : List Char} {token : Token}
    (h : (c :: rest, token) ∈ signs) : isNameChar c = false ∧ isBlank c = false := by
  have hall : ∀ e ∈ signs, (e.1.head?.all fun c => !isNameChar c && !isBlank c) = true := by decide
  simpa using hall _ h

/-- No word character is white space. -/
theorem isBlank_of_isNameChar {c : Char} (h : isNameChar c = true) : isBlank c = false := by
  have hrange : (48 ≤ c.toNat ∧ c.toNat ≤ 57) ∨ (65 ≤ c.toNat ∧ c.toNat ≤ 122) := by
    have hranges : isNameChar c =
        (decide (c.val ≥ 'A'.val ∧ c.val ≤ 'Z'.val) || c.val ≥ 'a'.val && c.val ≤ 'z'.val ||
          c.val ≥ '0'.val && c.val ≤ '9'.val || c == '_') := rfl
    simp only [hranges, Bool.or_eq_true, Bool.and_eq_true, decide_eq_true_eq, beq_iff_eq,
      ge_iff_le, UInt32.le_iff_toNat_le] at h
    rcases h with ((h | h) | h) | rfl
    · exact Or.inr ⟨h.1, Nat.le_trans h.2 (by decide)⟩
    · exact Or.inr ⟨Nat.le_trans (by decide) h.1, h.2⟩
    · exact Or.inl h
    · decide
  simp only [isBlank, CharTable.has, blankTable, List.any_cons, List.any_nil, Bool.or_false,
    Bool.or_eq_false_iff, Bool.and_eq_false_iff, decide_eq_false_iff_not, Nat.not_le]
  omega

/-- White space is no word character. -/
theorem isNameChar_of_isBlank {c : Char} (h : isBlank c = true) : isNameChar c = false := by
  cases hname : isNameChar c with
  | false => rfl
  | true =>
    rw [isBlank_of_isNameChar hname] at h
    cases h

namespace Spells

variable {cs : List Char} {a b : Token}

/-- A token has a spelling of one character at least, which is not white space. -/
theorem exists_cons (h : Spells cs a) : ∃ c rest, cs = c :: rest ∧ isBlank c = false := by
  cases h with
  | sign hmem =>
    cases cs with
    | nil => simp [signs] at hmem
    | cons c rest => exact ⟨c, rest, rfl, (head_of_mem_signs hmem).2⟩
  | word hsome hword =>
    obtain ⟨c, rest, rfl⟩ := List.exists_cons_of_ne_nil hsome
    exact ⟨c, rest, rfl, isBlank_of_isNameChar (hword c List.mem_cons_self)⟩

/-- What begins with a word character spells a word. -/
theorem of_isNameChar {c : Char} (h : Spells (c :: cs) a) (hc : isNameChar c = true) :
    (∀ c' ∈ cs, isNameChar c' = true) ∧ a = ofWord (c :: cs) := by
  cases h with
  | sign hmem =>
    rw [(head_of_mem_signs hmem).1] at hc
    cases hc
  | word hsome hword => exact ⟨fun c' hc' => hword c' (List.mem_cons_of_mem _ hc'), rfl⟩

/-- What does not begin with a word character spells a sign. -/
theorem mem_signs {c : Char} (h : Spells (c :: cs) a) (hc : isNameChar c = false) :
    (c :: cs, a) ∈ signs := by
  cases h with
  | sign hmem => exact hmem
  | word hsome hword =>
    rw [hword c List.mem_cons_self] at hc
    cases hc

/-- Characters spell one token at most. -/
theorem unique (ha : Spells cs a) (hb : Spells cs b) : a = b := by
  obtain ⟨c, rest, rfl, -⟩ := ha.exists_cons
  cases hc : isNameChar c with
  | true => rw [(ha.of_isNameChar hc).2, (hb.of_isNameChar hc).2]
  | false =>
    have hall : ∀ x ∈ signs, ∀ y ∈ signs, x.1 = y.1 → x.2 = y.2 := by decide
    exact hall _ (ha.mem_signs hc) _ (hb.mem_signs hc) rfl

end Spells

/-! ## Splitting -/

variable {cs rest : List Char} {token : Token} {tokens : List Token}

/-- White space at the beginning is skipped. -/
theorem splits_blank_iff {c : Char} (hblank : isBlank c = true) :
    Splits (c :: rest) tokens ↔ Splits rest tokens := by
  refine ⟨fun h => ?_, fun h => .blank hblank h⟩
  generalize htext : c :: rest = text at h
  cases h with
  | done => cases htext
  | blank _ hrest =>
    cases htext
    exact hrest
  | token hspells _ _ =>
    obtain ⟨first, more, rfl, hfirst⟩ := hspells.exists_cons
    cases htext
    rw [hblank] at hfirst
    cases hfirst

/-- All of the white space at the beginning is skipped. -/
theorem splits_blanks (hblank : ∀ c ∈ cs, isBlank c = true) (h : Splits rest tokens) :
    Splits (cs ++ rest) tokens := by
  induction cs with
  | nil => exact h
  | cons c cs ih =>
    obtain ⟨hc, hcs⟩ := List.forall_mem_cons.1 hblank
    exact .blank hc (ih hcs)

/-- A text that begins with the spelling of a token, and not with that of a longer one, begins with
this token. -/
theorem splits_append_iff (hspells : Spells cs token) (hlongest : Longest cs rest) :
    Splits (cs ++ rest) tokens ↔ ∃ others, Splits rest others ∧ tokens = token :: others := by
  constructor
  · intro h
    generalize htext : cs ++ rest = text at h
    cases h with
    | done =>
      obtain ⟨first, more, rfl, -⟩ := hspells.exists_cons
      cases htext
    | blank hblank _ =>
      obtain ⟨first, more, rfl, hfirst⟩ := hspells.exists_cons
      cases htext
      rw [hblank] at hfirst
      cases hfirst
    | @token cs' rest' token' others hspells' hlongest' hrest =>
      -- Of two spellings that the text begins with, the shorter one would not be longest.
      rcases List.append_eq_append_iff.1 htext with ⟨more, rfl, rfl⟩ | ⟨more, rfl, rfl⟩
      · by_cases hmore : more = []
        · subst hmore
          rw [List.append_nil] at hspells'
          rw [hspells.unique hspells']
          exact ⟨others, hrest, rfl⟩
        · exact absurd hspells' (hlongest more hmore (List.prefix_append _ _) _)
      · by_cases hmore : more = []
        · subst hmore
          rw [List.append_nil] at hspells
          rw [hspells.unique hspells']
          exact ⟨others, hrest, rfl⟩
        · exact absurd hspells (hlongest' more hmore (List.prefix_append _ _) _)
  · rintro ⟨others, hrest, rfl⟩
    exact .token hspells hlongest hrest

/-- A word ends where no word character follows. -/
theorem longest_word {word : List Char} (hsome : word ≠ [])
    (hword : ∀ c ∈ word, isNameChar c = true) (hend : ∀ c ∈ rest.head?, isNameChar c = false) :
    Longest word rest := by
  rintro (_ | ⟨c, more⟩) hmore hprefix token hspells
  · exact hmore rfl
  · obtain ⟨first, others, rfl⟩ := List.exists_cons_of_ne_nil hsome
    have hnext := (hspells.of_isNameChar (hword first List.mem_cons_self)).1 c
      (List.mem_append_right _ List.mem_cons_self)
    obtain ⟨last, rfl⟩ := hprefix
    rw [hend c rfl] at hnext
    cases hnext

/-- A sign ends where no character follows that makes it the beginning of a longer one. -/
theorem longest_sign {sign : List Char} (hsign : (sign, token) ∈ signs)
    (hend : ∀ c ∈ rest.head?, ∀ e ∈ signs, ¬(sign ++ [c]) <+: e.1) : Longest sign rest := by
  rintro (_ | ⟨c, more⟩) hmore hprefix token' hspells
  · exact hmore rfl
  · obtain ⟨last, rfl⟩ := hprefix
    obtain ⟨first, others, rfl, -⟩ := (Spells.sign hsign).exists_cons
    have hlonger := hspells.mem_signs (head_of_mem_signs hsign).1
    refine hend c rfl _ hlonger ⟨more, ?_⟩
    simp

/-! ## Scanning -/

/-- A word under way ends before anything that is no word character. -/
theorem splits_flush_iff {word : List Char} (hword : ∀ c ∈ word, isNameChar c = true)
    (hend : ∀ c ∈ rest.head?, isNameChar c = false) :
    Splits (word.reverse ++ rest) tokens ↔
      ∃ others, Splits rest others ∧ tokens = flush word others := by
  cases word with
  | nil => simp [flush]
  | cons last before =>
    have hsome : (last :: before).reverse ≠ [] := by simp
    have hreverse : ∀ c ∈ (last :: before).reverse, isNameChar c = true :=
      fun c hc => hword c (List.mem_reverse.1 hc)
    exact splits_append_iff (.word hsome hreverse) (longest_word hsome hreverse hend)

/-- The tokens of a text whose rest has been scanned. -/
theorem map_eq_ok_iff {result : Except QueryProblem (List Token)} {f : List Token → List Token} :
    result.map f = .ok tokens ↔ ∃ others, result = .ok others ∧ tokens = f others := by
  cases result with
  | error e => simp [Except.map]
  | ok others => simp [Except.map, eq_comm]

/-- A sign ends a word under way and is a token itself. -/
theorem map_flush_sign_iff {word : List Char} {result : Except QueryProblem (List Token)}
    (hword : ∀ c ∈ word, isNameChar c = true) (sign : List Char) (hsign : (sign, token) ∈ signs)
    (hend : ∀ c ∈ rest.head?, ∀ e ∈ signs, ¬(sign ++ [c]) <+: e.1)
    (hrest : ∀ others, result = .ok others ↔ Splits rest others) :
    result.map (fun ts => flush word (token :: ts)) = .ok tokens ↔
      Splits (word.reverse ++ (sign ++ rest)) tokens := by
  have hstart : ∀ c ∈ (sign ++ rest).head?, isNameChar c = false := by
    obtain ⟨first, others, rfl, -⟩ := (Spells.sign hsign).exists_cons
    intro c hc
    cases hc
    exact (head_of_mem_signs hsign).1
  rw [map_eq_ok_iff, splits_flush_iff hword hstart]
  simp only [hrest, splits_append_iff (.sign hsign) (longest_sign hsign hend)]
  constructor
  · rintro ⟨others, hsplits, rfl⟩
    exact ⟨_, ⟨others, hsplits, rfl⟩, rfl⟩
  · rintro ⟨_, ⟨others, hsplits, rfl⟩, rfl⟩
    exact ⟨others, hsplits, rfl⟩

/-- There are no tokens if a character is no white space and begins no spelling. -/
theorem error_iff {word : List Char} {problem : QueryProblem} {c : Char}
    (hword : ∀ c ∈ word, isNameChar c = true) (hname : isNameChar c = false)
    (hblank : isBlank c = false) (hsign : ∀ e ∈ signs, ¬e.1 <+: c :: rest) :
    Except.error problem = .ok tokens ↔ Splits (word.reverse ++ c :: rest) tokens := by
  have hnone : ∀ others, ¬Splits (c :: rest) others := by
    intro others h
    generalize htext : c :: rest = text at h
    cases h with
    | done => cases htext
    | blank hblank' _ =>
      cases htext
      rw [hblank] at hblank'
      cases hblank'
    | token hspells _ _ =>
      obtain ⟨first, more, rfl, -⟩ := hspells.exists_cons
      cases htext
      exact hsign _ (hspells.mem_signs hname) (List.prefix_append _ _)
  rw [splits_flush_iff hword (by simpa using hname)]
  simp [hnone]

/-- The first character is none that was looked for. -/
theorem ne_of_mem_head? {next : Char} (h : ∀ others, rest = next :: others → False) :
    ∀ c ∈ rest.head?, c ≠ next := by
  rintro c hc rfl
  obtain ⟨others, hrest⟩ := List.head?_eq_some_iff.1 hc
  exact h others hrest

/-- An empty text splits into nothing. -/
theorem splits_nil_iff : Splits [] tokens ↔ tokens = [] := by
  constructor
  · intro h
    generalize htext : ([] : List Char) = text at h
    cases h with
    | done => rfl
    | blank _ _ => cases htext
    | token hspells _ _ =>
      obtain ⟨first, more, rfl, -⟩ := hspells.exists_cons
      cases htext
  · rintro rfl
    exact .done

/-- Scanning gives the tokens that the text splits into, behind the word under way. -/
theorem scan_eq_ok_iff (word : List Char) (position : Nat) (cs : List Char)
    (hword : ∀ c ∈ word, isNameChar c = true) (tokens : List Token) :
    scan word position cs = .ok tokens ↔ Splits (word.reverse ++ cs) tokens := by
  fun_induction scan word position cs generalizing tokens with
  | case1 word position =>
    rw [splits_flush_iff hword (by simp)]
    simp [splits_nil_iff, eq_comm]
  | case2 word position rest ih =>
    exact map_flush_sign_iff hword ['('] (by simp [signs]) (by simp [signs]) (ih (by simp))
  | case3 word position rest ih =>
    exact map_flush_sign_iff hword [')'] (by simp [signs]) (by simp [signs]) (ih (by simp))
  | case4 word position rest ih =>
    exact map_flush_sign_iff hword ['?'] (by simp [signs]) (by simp [signs]) (ih (by simp))
  | case5 word position rest ih =>
    exact map_flush_sign_iff hword ['=', '='] (by simp [signs]) (by simp [signs])
      (ih (by simp))
  | case6 word position rest hnext ih =>
    refine map_flush_sign_iff hword ['='] (by simp [signs]) ?_ (ih (by simp))
    intro c hc
    simp [signs, ne_of_mem_head? hnext c hc]
  | case7 word position rest ih =>
    exact map_flush_sign_iff hword ['!', '='] (by simp [signs]) (by simp [signs])
      (ih (by simp))
  | case8 word position rest hnext =>
    refine error_iff hword (by decide) (by decide) ?_
    cases rest with
    | nil => simp [signs]
    | cons c others => simp [signs, Ne.symm (ne_of_mem_head? hnext c rfl)]
  | case9 word position rest ih =>
    exact map_flush_sign_iff hword ['<', '='] (by simp [signs]) (by simp [signs])
      (ih (by simp))
  | case10 word position rest ih =>
    exact map_flush_sign_iff hword ['<', '>'] (by simp [signs]) (by simp [signs])
      (ih (by simp))
  | case11 word position rest hnext hnext' ih =>
    refine map_flush_sign_iff hword ['<'] (by simp [signs]) ?_ (ih (by simp))
    intro c hc
    simp [signs, ne_of_mem_head? hnext c hc, ne_of_mem_head? hnext' c hc]
  | case12 word position rest ih =>
    exact map_flush_sign_iff hword ['>', '='] (by simp [signs]) (by simp [signs])
      (ih (by simp))
  | case13 word position rest hnext ih =>
    refine map_flush_sign_iff hword ['>'] (by simp [signs]) ?_ (ih (by simp))
    intro c hc
    simp [signs, ne_of_mem_head? hnext c hc]
  | case14 word position c rest _ _ _ _ _ _ _ _ _ _ _ _ hc ih =>
    rw [ih (List.forall_mem_cons.2 ⟨hc, hword⟩), List.reverse_cons, List.append_assoc]
    rfl
  | case15 word position c rest _ _ _ _ _ _ _ _ _ _ _ _ hc hblank ih =>
    rw [map_eq_ok_iff, splits_flush_iff hword (by simpa using hc)]
    simp only [splits_blank_iff hblank, ih (List.forall_mem_nil _)]
    rfl
  | case16 word position c rest hopening hclosing hmark _ hequal _ hbang _ _ hless _ hgreater hc
      hblank =>
    refine error_iff hword (Bool.eq_false_iff.2 hc) (Bool.eq_false_iff.2 hblank) ?_
    simp [signs, Ne.symm hopening, Ne.symm hclosing, Ne.symm hmark, Ne.symm hequal, Ne.symm hbang,
      Ne.symm hless, Ne.symm hgreater]

/-- The tokens of a text are those that it splits into. -/
theorem ofText_eq_ok_iff (text : String) (tokens : List Token) :
    ofText text = .ok tokens ↔ Splits text.toList tokens :=
  scan_eq_ok_iff [] 0 text.toList (List.forall_mem_nil _) tokens

/-! ## Names -/

/-- Whether a word is a keyword, in any letter case. -/
def IsKeyword (word : String) : Prop :=
  word.toList.map Char.toLower = ['a', 'n', 'd'] ∨ word.toList.map Char.toLower = ['o', 'r']

instance (word : String) : Decidable (IsKeyword word) :=
  inferInstanceAs (Decidable (_ ∨ _))

/-- A word that is no keyword is a name. -/
theorem ofWord_toList {name : String} (h : ¬IsKeyword name) :
    ofWord name.toList = .name name := by
  obtain ⟨hand, hor⟩ := not_or.1 h
  rw [ofWord, if_neg hand, if_neg hor, String.ofList_toList]

/-- What spells a name is no keyword. -/
theorem Spells.not_isKeyword {name : String} (h : Spells cs (.name name)) : ¬IsKeyword name := by
  generalize htoken : Token.name name = token at h
  cases h with
  | sign hsign =>
    subst htoken
    simp [signs] at hsign
  | word _ _ =>
    unfold ofWord at htoken
    split at htoken
    · cases htoken
    · split at htoken
      · cases htoken
      · rename_i hand hor
        cases htoken
        rw [IsKeyword, String.toList_ofList]
        exact not_or.2 ⟨hand, hor⟩

/-- No name is a keyword. -/
theorem Splits.not_isKeyword (h : Splits cs tokens) {name : String} (hname : .name name ∈ tokens) :
    ¬IsKeyword name := by
  induction h with
  | done => cases hname
  | blank _ _ ih => exact ih hname
  | token hspells _ _ ih =>
    rcases List.mem_cons.1 hname with rfl | hrest
    · exact hspells.not_isKeyword
    · exact ih hrest

end Token

end TieredStore
