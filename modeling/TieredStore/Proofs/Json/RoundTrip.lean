import TieredStore.Json.Query
import TieredStore.Proofs.Json.Reading
import TieredStore.Proofs.Predicate.Meaning
import TieredStore.Proofs.Query.Templates
import TieredStore.Proofs.SortedMap

/-!
# Round trips through JSON texts

Values, field maps and queries come back from their JSON texts.  A value is written without its
kind, and the kind is told from the text alone: a number that is no integer is written with a
fraction or an exponent, so it never comes back as an integer.  How exactly the digits of such a
number are read is left open; whatever numbers are read back by themselves are read back as parts
of values, field maps and queries.

Main results:

- Theorem `Value.ofSource?_toJson`: a value comes back as it is, of its own kind.
- Theorem `Predicate.ofSource?_toJson`: a predicate comes back as the same tree.
- Theorem `Json.decode_render`: queries and field maps come back from their texts.
-/

namespace TieredStore

open Json

/-! ## Values -/

/-- The number as a binary64 number, whether it was written as an integer or not. -/
def JsonNumber.toBinary64 : JsonNumber → Binary64
  | .integer i => .ofInt i
  | .float x => x

/-- Whether a number is read back from its JSON text, at least as a number. -/
def Binary64.IsReadBack (x : Binary64) : Prop :=
  ((Source.ofText? (Json.float x).render).bind Source.number?).map JsonNumber.toBinary64 = some x

instance (x : Binary64) : Decidable x.IsReadBack := inferInstanceAs (Decidable (_ = _))

/-- Whether the floating-point numbers among some values are finite and read back. -/
structure Value.FloatsReadBack (values : List Value) : Prop where
  finite : ∀ x, Value.float x ∈ values → ∃ y, x = .finite y
  readBack : ∀ y, Value.float (.finite y) ∈ values → (Binary64.finite y).IsReadBack

/-- The same holds among fewer values. -/
theorem Value.FloatsReadBack.mono {values others : List Value} (h : FloatsReadBack values)
    (hothers : ∀ v ∈ others, v ∈ values) : FloatsReadBack others :=
  ⟨fun x hx => h.finite x (hothers _ hx), fun y hy => h.readBack y (hothers _ hy)⟩

/-- A finite number that is read back at all is read back as no integer. -/
theorem Json.number?_floatSource {x : Finite64} (h : (Binary64.finite x).IsReadBack) :
    (floatSource (.finite x)).number? = some (.float (.finite x)) := by
  obtain ⟨literal, hsource, hshape, -⟩ := exists_floatSource_eq x
  obtain ⟨value, hvalue⟩ := NumberLiteral.exists_evaluate_eq hshape
  rw [Binary64.IsReadBack, Source.ofText?_render, Option.bind_some, source, hsource,
    Source.number?, hvalue] at h
  rw [hsource, Source.number?, hvalue]
  cases value with
  | none => cases h
  | some y => exact congrArg (fun y => some (JsonNumber.float y)) (Option.some.inj h)

namespace Value

/-- A value comes back as it is, of its own kind. -/
theorem ofSource?_toJson {v : Value} (h : FloatsReadBack [v]) :
    ofSource? v.toJson.source = some v := by
  cases v with
  | null => simp [toJson, source, ofSource?]
  | bool b => simp [toJson, source, ofSource?]
  | int i =>
    have hlow := Int64.le_toInt i
    have hhigh := Int64.toInt_lt i
    rw [toJson, source, ofSource?, NumberLiteral.evaluate_integer (by omega) (by omega),
      Option.map_some, ofNumber_integer]
  | float x =>
    obtain ⟨y, rfl⟩ := h.finite x List.mem_cons_self
    obtain ⟨literal, hsource, -, -⟩ := exists_floatSource_eq y
    have hnumber := number?_floatSource (h.readBack y List.mem_cons_self)
    rw [hsource, Source.number?] at hnumber
    rw [toJson, source, hsource, ofSource?, hnumber]
    rfl
  | text s => rw [toJson, source, ofSource?, Source.pieceText?_pieces]; rfl

end Value

/-! ## Lists and objects -/

namespace Json

/-- The forms of elements are those of each of them. -/
theorem sources_eq_map (elements : List Json) : sources elements = elements.map source := by
  induction elements with
  | nil => simp [sources]
  | cons value rest ih => simp [sources, ih]

/-- No element is deeper than the deepest one. -/
theorem depth_le_elementsDepth {elements : List Json} {j : Json} (h : j ∈ elements) :
    j.depth ≤ elementsDepth elements := by
  induction elements with
  | nil => cases h
  | cons first rest ih =>
    rw [elementsDepth]
    rcases List.mem_cons.1 h with rfl | hrest
    · exact Nat.le_max_left _ _
    · exact Nat.le_trans (ih hrest) (Nat.le_max_right _ _)

/-- What is decoded for each member of a list is decoded for the list. -/
theorem mapM_eq_some {α β : Type} {decode : α → Option β} {value : α → β} {l : List α}
    (h : ∀ a ∈ l, decode a = some (value a)) : l.mapM decode = some (l.map value) := by
  induction l with
  | nil => rfl
  | cons a rest ih =>
    obtain ⟨ha, hrest⟩ := List.forall_mem_cons.1 h
    rw [List.mapM_cons, ha, ih hrest]
    rfl

/-- The members of an object come back under their names. -/
theorem namedMembers?_memberSources (members : List (String × Json)) :
    Source.namedMembers? (memberSources members) =
      some (members.map fun m => (m.1, m.2.source)) := by
  have hsources : memberSources members = members.map fun m => (pieces m.1, m.2.source) := by
    induction members with
    | nil => simp [memberSources]
    | cons m rest ih =>
      obtain ⟨key, value⟩ := m
      simp [memberSources, ih]
  rw [hsources, Source.namedMembers?, List.mapM_map]
  refine mapM_eq_some fun m _ => ?_
  rw [Function.comp_apply, Source.pieceText?_pieces]
  rfl

/-- What is written for the fields of a structure is found under their names. -/
theorem members?_object (names : List String) (members : List (String × Json)) :
    Source.members? names (Json.object members).source =
      (names.mapM (Source.slotOf? (members.map fun m => (m.1, m.2.source)))).map (⟨false, ·⟩) := by
  have hsource : (Json.object members).source = .object (memberSources members) := by rw [source]
  rw [hsource, Source.members?, namedMembers?_memberSources, Option.bind_eq_bind, Option.bind_some]
  cases names.mapM (Source.slotOf? (members.map fun m => (m.1, m.2.source))) <;> rfl

/-- What may be missing comes back if what is there does and is not written as `null`. -/
theorem nullable?_ofOption {α : Type} {form : α → Json} {decode : Source → Option α}
    {value : Option α} (h : ∀ a ∈ value, decode (form a).source = some a)
    (hsome : ∀ a ∈ value, (form a).source ≠ .null) :
    Source.nullable? decode (ofOption form value).source = some value := by
  cases value with
  | none => rw [ofOption, source, Source.nullable?]
  | some a =>
    have hdecode := h a rfl
    rw [ofOption, Source.nullable?, hdecode]
    · rfl
    · exact hsome a rfl

/-- An unsigned word comes back. -/
theorem word?_ofWord (n : UInt64) : Source.word? (ofWord n).source = some n := by
  have hbound : n.toNat < 0x10000000000000000 := n.toNat_lt
  have hnumber : Source.number? (ofWord n).source = some (.integer n.toNat) := by
    rw [ofWord, source, Source.number?, NumberLiteral.evaluate_integer (by omega) (by omega)]
  have hrange : (n.toNat : Int) ≤ 0xFFFFFFFFFFFFFFFF := by omega
  rw [Source.word?, Source.integerWithin?, hnumber]
  simp [hrange]

end Json

/-! ## Field maps -/

/-- A field map comes back from its form. -/
theorem Fields.ofSource?_toJson {fields : Fields} (levels : Nat)
    (h : Value.FloatsReadBack (fields.entries.map Prod.snd)) :
    Fields.ofSource? (levels + 1) (Fields.toJson fields).source = some fields := by
  have hvalues : (fields.entries.map fun e => (e.1, e.2.toJson.source)).mapM
      (fun m => (Value.ofSource? m.2).map fun v => (m.1, v)) = some fields.entries := by
    rw [List.mapM_map]
    refine (mapM_eq_some fun e he => ?_).trans (congrArg some (List.map_id _))
    have hmem : ∀ v ∈ [e.2], v ∈ fields.entries.map Prod.snd :=
      List.forall_mem_singleton.2 (List.mem_map_of_mem he)
    have hvalue := Value.ofSource?_toJson (h.mono hmem)
    rw [Function.comp_apply, hvalue]
    rfl
  rw [Fields.toJson, source, Fields.ofSource?, namedMembers?_memberSources, List.map_map,
    Option.bind_eq_bind, Option.bind_some]
  show ((fields.entries.map fun e => (e.1, e.2.toJson.source)).mapM _ >>= _) = _
  rw [hvalues]
  exact congrArg some (SortedMap.ofList_entries fields)

/-! ## Predicates -/

namespace Predicate

/-- The forms of the parts of a connective are those of each of them. -/
theorem toJsons_eq_map (parts : List Predicate) : toJsons parts = parts.map toJson := by
  induction parts with
  | nil => simp [toJsons]
  | cons p rest ih => simp [toJsons, ih]

/-- The form of a value is no sequence and no object. -/
theorem depth_toJson_value (v : Value) : v.toJson.depth = 0 := by
  cases v <;> simp [Value.toJson, depth]

/-- A comparison comes back from its form. -/
theorem comparisonOfSource?_toJson (levels : Nat) (field : String) (op : Operator)
    {argument : Value} (h : Value.FloatsReadBack [argument]) :
    comparisonOfSource? (levels + 1) (Json.object [("field", .string field), ("op", op.toJson),
      ("arg", argument.toJson)]).source = some (.compare field op argument) := by
  have hvalue := Value.ofSource?_toJson h
  have hop : Operator.ofSource? levels op.toJson.source = some op := by
    rw [Operator.ofSource?, Operator.toJson, source, Source.choice?, Source.pieceText?_pieces,
      Option.bind_some, Operator.ofWord?_word]
  have hfield : Source.text? (Json.string field).source = some field := by
    rw [source, Source.text?, Source.pieceText?_pieces]
  rw [comparisonOfSource?, members?_object]
  simp [Source.slotOf?, Source.valuesOf, Source.Members.required?, hfield, hop, hvalue]

/-- The parts of a connective come back in their order. -/
theorem mapM_ofSource?_toJsons {parts : List Predicate} {levels : Nat}
    (hparts : ∀ p ∈ parts, ofSource? levels p.toJson.source = some p) :
    (sources (toJsons parts)).mapM (ofSource? levels) = some parts := by
  rw [toJsons_eq_map, sources_eq_map, List.map_map, List.mapM_map]
  exact (mapM_eq_some hparts).trans (congrArg some (List.map_id _))

/-- A predicate comes back as the same tree. -/
theorem ofSource?_toJson (p : Predicate) {levels : Nat} (hdepth : p.toJson.depth ≤ levels)
    (h : Value.FloatsReadBack p.arguments) : ofSource? levels p.toJson.source = some p := by
  -- A connective takes two levels, one for the object and one for the sequence of its parts.
  have hparts : ∀ {parts : List Predicate} (levels : Nat),
      (∀ p ∈ parts, ∀ {levels : Nat}, p.toJson.depth ≤ levels →
        Value.FloatsReadBack p.arguments → ofSource? levels p.toJson.source = some p) →
      elementsDepth (toJsons parts) ≤ levels →
      Value.FloatsReadBack (parts.flatMap Predicate.arguments) →
      (sources (toJsons parts)).mapM (ofSource? levels) = some parts := by
    intro parts levels ih hdepth h
    refine mapM_ofSource?_toJsons fun p hp => ih p hp ?_ (h.mono fun v hv => ?_)
    · refine Nat.le_trans (depth_le_elementsDepth ?_) hdepth
      rw [toJsons_eq_map]
      exact List.mem_map_of_mem hp
    · exact List.mem_flatMap.2 ⟨p, hp, hv⟩
  induction p using Predicate.inductionOn generalizing levels with
  | compare field op argument =>
    rw [arguments] at h
    simp only [toJson, Operator.toJson, depth, membersDepth, depth_toJson_value] at hdepth
    obtain ⟨levels, rfl⟩ : ∃ n, levels = n + 2 := ⟨levels - 2, by omega⟩
    have hsource : (compare field op argument).toJson.source = .object [(pieces "compare",
        (Json.object [("field", .string field), ("op", op.toJson),
          ("arg", argument.toJson)]).source)] := by
      rw [toJson, source, memberSources, memberSources]
    rw [hsource, Predicate.ofSource?.eq_def]
    simp only [Source.pieceText?_pieces]
    exact comparisonOfSource?_toJson levels field op h
  | all parts ih =>
    rw [arguments, argumentsOfParts_eq_flatMap] at h
    simp only [toJson, depth, membersDepth] at hdepth
    obtain ⟨levels, rfl⟩ : ∃ n, levels = n + 2 := ⟨levels - 2, by omega⟩
    have hsource : (all parts).toJson.source =
        .object [(pieces "and", .array (sources (toJsons parts)))] := by
      rw [toJson, source, memberSources, memberSources, source]
    rw [hsource, Predicate.ofSource?.eq_def]
    simp only [Source.pieceText?_pieces, hparts levels ih (by omega) h]
    rfl
  | any parts ih =>
    rw [arguments, argumentsOfParts_eq_flatMap] at h
    simp only [toJson, depth, membersDepth] at hdepth
    obtain ⟨levels, rfl⟩ : ∃ n, levels = n + 2 := ⟨levels - 2, by omega⟩
    have hsource : (any parts).toJson.source =
        .object [(pieces "or", .array (sources (toJsons parts)))] := by
      rw [toJson, source, memberSources, memberSources, source]
    rw [hsource, Predicate.ofSource?.eq_def]
    simp only [Source.pieceText?_pieces, hparts levels ih (by omega) h]
    rfl

end Predicate

/-! ## Queries -/

/-- An order comes back from its form. -/
theorem OrderBy.ofSource?_toJson (order : OrderBy) (levels : Nat) :
    OrderBy.ofSource? (levels + 1) order.toJson.source = some order := by
  have hfield : Source.text? (Json.string order.field).source = some order.field := by
    rw [source, Source.text?, Source.pieceText?_pieces]
  have hword : Direction.ofWord? order.direction.word = some order.direction := by
    cases order.direction <;> decide
  have hdirection : Source.choice? Direction.ofWord? levels
      (Json.string order.direction.word).source = some order.direction := by
    rw [source, Source.choice?, Source.pieceText?_pieces, Option.bind_some, hword]
  rw [OrderBy.ofSource?, OrderBy.toJson, members?_object]
  simp [Source.slotOf?, Source.valuesOf, Source.Members.required?, hfield, hdirection]

namespace Query

/-- The arguments of a query's predicate, if it has one. -/
def arguments (q : Query) : List Value := q.predicate.elim [] Predicate.arguments

/-- A query comes back from its form. -/
theorem ofSource?_toJson {q : Query} {levels : Nat} (hdepth : q.toJson.depth ≤ levels)
    (h : Value.FloatsReadBack q.arguments) : ofSource? levels q.toJson.source = some q := by
  obtain ⟨predicate, order, offset, limit⟩ := q
  simp only [toJson, depth, membersDepth] at hdepth
  obtain ⟨levels, rfl⟩ : ∃ n, levels = n + 1 := ⟨levels - 1, by omega⟩
  have hpredicate : Source.nullable? (Predicate.ofSource? levels)
      (ofOption Predicate.toJson predicate).source = some predicate := by
    refine nullable?_ofOption (fun p hp => ?_) fun p hp => ?_
    · cases hp
      exact Predicate.ofSource?_toJson p (by simp only [ofOption] at hdepth; omega) h
    · cases p <;> rw [Predicate.toJson, source] <;> exact Source.noConfusion
  have horder : Source.nullable? (OrderBy.ofSource? levels)
      (ofOption OrderBy.toJson order).source = some order := by
    refine nullable?_ofOption (fun o ho => ?_) fun o ho => ?_
    · cases ho
      simp only [ofOption, OrderBy.toJson, depth, membersDepth] at hdepth
      obtain ⟨levels, rfl⟩ : ∃ n, levels = n + 1 := ⟨levels - 1, by omega⟩
      exact OrderBy.ofSource?_toJson o levels
    · rw [OrderBy.toJson, source]
      exact Source.noConfusion
  have hlimit : Source.nullable? Source.word? (ofOption Json.ofWord limit).source = some limit := by
    refine nullable?_ofOption (fun n _ => word?_ofWord n) fun n _ => ?_
    rw [Json.ofWord, source]
    exact Source.noConfusion
  rw [ofSource?, toJson, members?_object]
  simp [Source.slotOf?, Source.valuesOf, Source.Members.optional?, Source.Members.required?,
    hpredicate, horder, word?_ofWord, hlimit]

end Query

/-- Queries and field maps come back from their JSON texts, if the numbers among their values are
finite and read back, and the reader follows the text as deep as it is nested. -/
theorem Json.bind_ofText?_render (levels : Nat) :
    (∀ q : Query, Value.FloatsReadBack q.arguments → q.toJson.depth ≤ levels →
      (Source.ofText? q.toJson.render).bind (Query.ofSource? levels) = some q) ∧
    ∀ fields : Fields, Value.FloatsReadBack (fields.entries.map Prod.snd) →
      fields.toJson.depth ≤ levels →
      (Source.ofText? fields.toJson.render).bind (Fields.ofSource? levels) = some fields := by
  constructor
  · intro q hfloats hdepth
    rw [Source.ofText?_render, Option.bind_some, Query.ofSource?_toJson hdepth hfloats]
  · intro fields hfloats hdepth
    obtain ⟨levels, rfl⟩ : ∃ n, levels = n + 1 := by
      rw [Fields.toJson, depth] at hdepth
      exact ⟨levels - 1, by omega⟩
    rw [Source.ofText?_render, Option.bind_some, Fields.ofSource?_toJson levels hfloats]

/-- A whole number, an integer at the end of its range, a null and escaped characters come back. -/
theorem Json.bind_ofText?_render_two :
    let two : Finite64 := ⟨false, ⟨0x4000000000000000, by decide⟩⟩
    let predicate : Predicate := .all [.compare "a" .eq (.float (.finite two)),
      .any [.compare "b" .ne .null, .compare "c" .lt (.int Int64.minValue)]]
    let order : OrderBy := ⟨"a", .descending⟩
    let q : Query := { predicate := some predicate, order := some order, limit := some 3 }
    let fields : Fields :=
      .ofList [("x", .float (.finite two)), ("y", .null), ("z", .text "\"\n\x01")]
    Value.FloatsReadBack q.arguments ∧ q.toJson.depth ≤ nestingLimit ∧
      (Source.ofText? q.toJson.render).bind (Query.ofSource? nestingLimit) = some q ∧
      Value.FloatsReadBack (fields.entries.map Prod.snd) ∧ fields.toJson.depth ≤ nestingLimit ∧
      (Source.ofText? fields.toJson.render).bind (Fields.ofSource? nestingLimit) = some fields := by
  intro two predicate order q fields
  have htwo : (Binary64.finite two).IsReadBack := by decide +kernel
  have hsingle : ∀ values : List Value, (∀ x, .float x ∈ values → x = .finite two) →
      Value.FloatsReadBack values := by
    intro values hvalues
    refine ⟨fun x hx => ⟨two, hvalues x hx⟩, fun y hy => ?_⟩
    rw [hvalues _ hy]
    exact htwo
  have hquery : Value.FloatsReadBack q.arguments := hsingle _ fun x hx => by
    simpa [Query.arguments, q, predicate, Predicate.arguments, Predicate.argumentsOfParts] using hx
  have hentries : fields.entries = [("x", .float (.finite two)), ("y", .null),
      ("z", .text "\"\n\x01")] := by decide +kernel
  have hfields : Value.FloatsReadBack (fields.entries.map Prod.snd) := hsingle _ fun x hx => by
    simpa [hentries] using hx
  have hdepth : q.toJson.depth ≤ nestingLimit := by decide +kernel
  have hdepthFields : fields.toJson.depth ≤ nestingLimit := by decide +kernel
  exact ⟨hquery, hdepth, (bind_ofText?_render nestingLimit).1 q hquery hdepth, hfields,
    hdepthFields, (bind_ofText?_render nestingLimit).2 fields hfields hdepthFields⟩

end TieredStore
