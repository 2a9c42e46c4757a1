import TieredStore.Membership.Link
import TieredStore.Proofs.Predicate.Meaning

/-!
# OIDs under the comparison of fields

Links are looked up by comparing a field with the text of an OID, and the comparison of
fields goes by number where it can.  Hence it takes different OIDs that spell one number,
and some values that are no texts, for the OID that was asked for.

Main results:

- Theorem `Link.holds_sidePredicate_iff`: what a look-up by side accepts.
- Theorem `Value.resembles_text_iff`: among texts of OIDs these are the OID itself and its
  twins.
- Theorem `Link.holds_sidePredicate_of_side`: the same for records that hold an OID.
-/

namespace TieredStore

/-- What holds of both sides holds of the group and of the member. -/
theorem Side.forall_iff {P : Side → Prop} : (∀ side, P side) ↔ P .group ∧ P .member := by
  constructor
  · intro h
    exact ⟨h .group, h .member⟩
  · intro h side
    cases side with
    | group => exact h.1
    | member => exact h.2

/-- The number that an OID spells. -/
def Oid.number? (oid : Oid) : Option Finite64 := (Value.text oid.text).asNumber?

/-- Different OIDs that spell one number. -/
def Oid.Twins (a b : Oid) : Prop :=
  a ≠ b ∧ ∃ x y, a.number? = some x ∧ b.number? = some y ∧ x.position = y.position

/-- A value that the comparison of fields takes for an OID: one of the same number if both
are numeric, otherwise one of the same text. -/
def Value.Resembles (v : Value) (oid : Oid) : Prop :=
  match v.asNumber?, oid.number? with
  | some x, some y => x.position = y.position
  | _, _ => v ≠ .null ∧ v.display = oid.text

/-- An OID that spells no number has no twin. -/
theorem Oid.not_twins_of_number?_eq_none {a b : Oid} (h : a.number? = none) : ¬a.Twins b := by
  rintro ⟨-, x, y, hx, -, -⟩
  rw [h] at hx
  cases hx

/-- OIDs are twins of each other. -/
theorem Oid.Twins.symm {a b : Oid} (h : a.Twins b) : b.Twins a := by
  obtain ⟨hne, x, y, hx, hy, hxy⟩ := h
  exact ⟨hne.symm, y, x, hy, hx, hxy.symm⟩

/-- The texts that resemble an OID are those of the OID and of its twins. -/
theorem Value.resembles_text_iff (a b : Oid) :
    (Value.text a.text).Resembles b ↔ a = b ∨ a.Twins b := by
  have hsame : (Value.text a.text ≠ .null ∧ (Value.text a.text).display = b.text) ↔ a = b := by
    constructor
    · intro h
      exact Oid.ext_text h.2
    · rintro rfl
      exact ⟨Value.noConfusion, rfl⟩
  unfold Resembles
  change (match a.number?, b.number? with
    | some x, some y => x.position = y.position
    | _, _ => Value.text a.text ≠ .null ∧ (Value.text a.text).display = b.text) ↔ _
  cases ha : a.number? with
  | none =>
    have hno : ¬a.Twins b := Oid.not_twins_of_number?_eq_none ha
    simp only [hsame, hno, or_false]
  | some x =>
    cases hb : b.number? with
    | none =>
      have hno : ¬a.Twins b := fun h => Oid.not_twins_of_number?_eq_none hb h.symm
      simp only [hsame, hno, or_false]
    | some y =>
      constructor
      · intro hxy
        by_cases hab : a = b
        · exact Or.inl hab
        · exact Or.inr ⟨hab, x, y, ha, hb, hxy⟩
      · rintro (rfl | ⟨-, x', y', hx', hy', hxy⟩)
        · rw [ha] at hb
          cases hb
          rfl
        · rw [ha] at hx'
          rw [hb] at hy'
          cases hx'
          cases hy'
          exact hxy

namespace Link

/-- A look-up by side accepts the fields that hold something resembling the OID. -/
theorem holds_sidePredicate_iff (side : Side) (oid : Oid) (fields : Fields) :
    (sidePredicate side oid).holds fields = true ↔
      ∃ v, fields.get? side.field = some v ∧ v.Resembles oid := by
  have hvalue : ∀ v : Value, Operator.eq.holds v (.text oid.text) = true ↔ v.Resembles oid := by
    intro v
    cases hnull : v.isNull with
    | true =>
      rw [Value.isNull_eq_true_iff] at hnull
      subst hnull
      simp [Operator.holds, Value.isNull, Value.Resembles]
    | false =>
      have hne : v ≠ .null := by
        rintro rfl
        cases hnull
      unfold Operator.holds Value.compareWith Value.Resembles Oid.number?
      simp only [Value.isNull, Operator.accepts, beq_iff_eq]
      cases v.asNumber? with
      | none => simp [hne, Value.display]
      | some x =>
        cases (Value.text oid.text).asNumber? with
        | none => simp [hne, Value.display]
        | some y => simp [Finite64.compareValue]
  rw [sidePredicate, Predicate.holds_compare, Operator.test, hvalue]
  cases hget : fields.get? side.field with
  | none => simp [Value.Resembles]
  | some v => simp

/-- A record holds an OID on a side if its field holds the text of the OID. -/
theorem sideOfRecord?_eq_some_iff (r : Record) (side : Side) (oid : Oid) :
    sideOfRecord? r side = some oid ↔ r.fields.get? side.field = some (.text oid.text) := by
  unfold sideOfRecord? Record.text? Record.get?
  constructor
  · intro h
    obtain ⟨s, hs, hparse⟩ := Option.bind_eq_some_iff.1 h
    obtain ⟨v, hv, htext⟩ := Option.bind_eq_some_iff.1 hs
    cases v with
    | text t =>
      cases htext
      rw [hv, Oid.text_of_parse? hparse]
    | _ => cases htext
  · intro h
    simp [h, Value.asString?]

/-- A record that holds an OID on a side is accepted for this OID and its twins. -/
theorem holds_sidePredicate_of_side {r : Record} {side : Side} {a : Oid}
    (h : sideOfRecord? r side = some a) (b : Oid) :
    (sidePredicate side b).holds r.fields = true ↔ a = b ∨ a.Twins b := by
  rw [sideOfRecord?_eq_some_iff] at h
  rw [holds_sidePredicate_iff, ← Value.resembles_text_iff]
  constructor
  · rintro ⟨v, hv, hresembles⟩
    rw [h] at hv
    cases hv
    exact hresembles
  · intro hresembles
    exact ⟨_, h, hresembles⟩

/-- A record holds a link exactly if it holds both of its sides. -/
theorem ofRecord?_eq_some_iff (r : Record) (link : Link) :
    ofRecord? r = some link ↔ ∀ side, sideOfRecord? r side = some (link.side side) := by
  rw [Side.forall_iff]
  unfold ofRecord?
  constructor
  · intro h
    obtain ⟨group, hgroup, h⟩ := Option.bind_eq_some_iff.1 h
    obtain ⟨member, hmember, h⟩ := Option.bind_eq_some_iff.1 h
    cases h
    exact ⟨hgroup, hmember⟩
  · rintro ⟨hgroup, hmember⟩
    rw [hgroup, hmember]
    rfl

/-- A look-up of a pair is a look-up by both sides. -/
theorem holds_predicate_iff (link : Link) (fields : Fields) :
    link.predicate.holds fields = true ↔
      ∀ side, (sidePredicate side (link.side side)).holds fields = true := by
  rw [predicate, Predicate.holds_and, Bool.and_eq_true, Side.forall_iff]
  rfl

/-- A look-up by side is valid. -/
theorem validate_sidePredicate (side : Side) (oid : Oid) :
    (sidePredicate side oid).validate = .ok () := by
  rw [Predicate.validate_eq_ok_iff, sidePredicate, Predicate.names]
  intro name hname
  rw [List.mem_singleton.1 hname]
  exact Side.isFieldName_field side

/-- A look-up of a pair is valid. -/
theorem validate_predicate (link : Link) : link.predicate.validate = .ok () :=
  (Predicate.validate_and _ _).2
    ⟨validate_sidePredicate .group link.group, validate_sidePredicate .member link.member⟩

end Link

end TieredStore
