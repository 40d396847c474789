import FunctionStack.Proofs.Schema.Fields
import Mathlib.Tactic

/-!
The kinds of values that shapes take. What comes out of a shape is of its own kind. A value of another kind is converted if it
is a scalar, and a list or a table is never converted into anything else.
-/

namespace FunctionStack

namespace Checked

/-- The values of a list are checked one by one. -/
theorem items_ok (check : Value → Checked Value) (position : Nat) (values checked : List Value) :
    items check position values = .ok checked ↔ List.Forall₂ (fun value result => check value = .ok result) values checked := by
  induction values generalizing position checked with
  | nil =>
      rw [items, List.forall₂_nil_left_iff]
      exact ⟨fun done => (Except.ok.inj done).symm, fun done => done ▸ rfl⟩
  | cons value rest ih =>
      rw [items]
      constructor
      · intro done
        obtain ⟨result, others, first, remaining, rfl⟩ := both_ok _ _ _ _ done
        exact .cons (inside_ok _ _ _ first) ((ih _ _).mp remaining)
      · intro each
        cases each with
        | cons first remaining =>
            rw [first, (ih _ _).mpr remaining]
            rfl

/-- The values of a table are checked one by one and stay under their keys. -/
theorem entries_ok (check : Value → Checked Value) (given checked : Fields) :
    entries check given = .ok checked ↔
      List.Forall₂ (fun entry result => result.1 = entry.1 ∧ check entry.2 = .ok result.2) given checked := by
  induction given generalizing checked with
  | nil =>
      rw [entries, List.forall₂_nil_left_iff]
      exact ⟨fun done => (Except.ok.inj done).symm, fun done => done ▸ rfl⟩
  | cons entry rest ih =>
      obtain ⟨key, value⟩ := entry
      rw [entries]
      constructor
      · intro done
        obtain ⟨result, others, first, remaining, rfl⟩ := both_ok _ _ _ _ done
        exact .cons ⟨rfl, inside_ok _ _ _ first⟩ ((ih _).mp remaining)
      · intro each
        cases each with
        | @cons _ result _ others first remaining =>
            obtain ⟨same, checks⟩ := first
            obtain ⟨known, found⟩ := result
            cases same
            rw [show check value = .ok found from checks, (ih _).mpr remaining]
            rfl

end Checked

namespace Schema

/-- A shape is that of a scalar, or it is made of the shapes in it. -/
theorem nested {motive : Schema → Prop} (any : motive .any) (text : motive .text) (integer : motive .integer)
    (boolean : motive .boolean) (path : motive .path) (list : ∀ item, motive item → motive (.list item))
    (table : ∀ item, motive item → motive (.table item)) (optional : ∀ inner, motive inner → motive (.optional inner))
    (either : ∀ first second, motive first → motive second → motive (.either first second))
    (model : ∀ name fields, (∀ field schema, (field, schema) ∈ fields → motive schema) → motive (.model name fields)) :
    ∀ schema, motive schema
  | .any => any
  | .text => text
  | .integer => integer
  | .boolean => boolean
  | .path => path
  | .list item => list item (nested any text integer boolean path list table optional either model item)
  | .table item => table item (nested any text integer boolean path list table optional either model item)
  | .optional inner => optional inner (nested any text integer boolean path list table optional either model inner)
  | .either first second =>
      either first second (nested any text integer boolean path list table optional either model first)
        (nested any text integer boolean path list table optional either model second)
  | .model name fields => model name fields fun field schema member =>
      have := List.sizeOf_lt_of_mem member
      nested any text integer boolean path list table optional either model schema
termination_by schema => sizeOf schema
decreasing_by all_goals simp_all; try omega

theorem validate_text (value checked : Value) (valid : text.validate value = .ok checked) :
    ∃ content, value = .str content ∧ checked = .str content := by
  cases value with
  | str content =>
      rw [validate] at valid
      exact ⟨content, rfl, (Except.ok.inj valid).symm⟩
  | _ =>
      rw [validate] at valid
      · cases valid
      · rintro _ ⟨⟩

theorem validate_path (value checked : Value) (valid : path.validate value = .ok checked) :
    ∃ content, value = .str content ∧ checked = .str content := by
  cases value with
  | str content =>
      rw [validate] at valid
      exact ⟨content, rfl, (Except.ok.inj valid).symm⟩
  | _ =>
      rw [validate] at valid
      · cases valid
      · rintro _ ⟨⟩

theorem ofScalar_ok {α : Type} (make : α → Value) (scalar : Except IssueKind α) (checked : Value)
    (valid : Checked.ofScalar make scalar = .ok checked) : ∃ content, scalar = .ok content ∧ checked = make content := by
  cases scalar with
  | error kind => cases valid
  | ok content => exact ⟨content, rfl, (Except.ok.inj valid).symm⟩

theorem validate_integer (value checked : Value) (valid : integer.validate value = .ok checked) :
    ∃ number, toInteger value = .ok number ∧ checked = .int number := by
  rw [validate] at valid
  exact ofScalar_ok _ _ _ valid

theorem validate_boolean (value checked : Value) (valid : boolean.validate value = .ok checked) :
    ∃ truth, toBoolean value = .ok truth ∧ checked = .bool truth := by
  rw [validate] at valid
  exact ofScalar_ok _ _ _ valid

theorem validate_list (item : Schema) (value checked : Value) (valid : (list item).validate value = .ok checked) :
    ∃ values results, value = .arr values ∧ checked = .arr results ∧
      List.Forall₂ (fun value result => item.validate value = .ok result) values results := by
  cases value with
  | arr values =>
      rw [validate] at valid
      cases outcome : Checked.items item.validate 0 values with
      | error issues =>
          rw [outcome] at valid
          cases valid
      | ok results =>
          rw [outcome] at valid
          exact ⟨values, results, rfl, (Except.ok.inj valid).symm, (Checked.items_ok _ _ _ _).mp outcome⟩
  | _ =>
      rw [validate] at valid
      · cases valid
      · rintro _ ⟨⟩

theorem validate_list_ok (item : Schema) (values results : List Value)
    (each : List.Forall₂ (fun value result => item.validate value = .ok result) values results) :
    (list item).validate (.arr values) = .ok (.arr results) := by
  rw [validate, (Checked.items_ok _ 0 _ _).mpr each]
  rfl

theorem validate_table (item : Schema) (value checked : Value) (valid : (table item).validate value = .ok checked) :
    ∃ given results, value = .obj given ∧ checked = .obj results ∧
      List.Forall₂ (fun entry result => result.1 = entry.1 ∧ item.validate entry.2 = .ok result.2) given results := by
  cases value with
  | obj given =>
      rw [validate] at valid
      cases outcome : Checked.entries item.validate given with
      | error issues =>
          rw [outcome] at valid
          cases valid
      | ok results =>
          rw [outcome] at valid
          exact ⟨given, results, rfl, (Except.ok.inj valid).symm, (Checked.entries_ok _ _ _).mp outcome⟩
  | _ =>
      rw [validate] at valid
      · cases valid
      · rintro _ ⟨⟩

theorem validate_table_ok (item : Schema) (given results : Fields)
    (each : List.Forall₂ (fun entry result => result.1 = entry.1 ∧ item.validate entry.2 = .ok result.2) given results) :
    (table item).validate (.obj given) = .ok (.obj results) := by
  rw [validate, (Checked.entries_ok _ _ _).mpr each]
  rfl

theorem validate_model_ok (name : String) (model : List (FieldName × Schema)) (given checked : Fields)
    (valid : validateFields model given = .ok checked) : (Schema.model name model).validate (.obj given) = .ok (.obj checked) := by
  rw [validate, valid]
  rfl

theorem validate_optional_given (inner : Schema) (value : Value) (given : value ≠ .null) :
    (optional inner).validate value = inner.validate value := by
  rw [validate]
  exact given

theorem validate_optional (inner : Schema) (value checked : Value) (valid : (optional inner).validate value = .ok checked) :
    value = .null ∧ checked = .null ∨ value ≠ .null ∧ inner.validate value = .ok checked := by
  by_cases given : value = .null
  · subst given
    rw [validate] at valid
    exact Or.inl ⟨rfl, (Except.ok.inj valid).symm⟩
  · rw [validate_optional_given inner value given] at valid
    exact Or.inr ⟨given, valid⟩

/-- What comes out of one of two shapes comes out of the first or out of the second. -/
theorem validate_either (first second : Schema) (value checked : Value)
    (valid : (either first second).validate value = .ok checked) :
    first.validate value = .ok checked ∨ second.validate value = .ok checked := by
  rw [validate] at valid
  unfold choose at valid
  split at valid
  case h_1 one two =>
    cases valid
    split
    · exact Or.inr two
    · exact Or.inl one
  case h_2 one _ =>
    cases valid
    exact Or.inl one
  case h_3 two =>
    cases valid
    exact Or.inr two
  case h_4 => cases valid

/-- The first shape keeps what is its own. -/
theorem validate_either_first (first second : Schema) (value checked : Value) (owned : first.owns value = true)
    (valid : first.validate value = .ok checked) : (either first second).validate value = .ok checked := by
  rw [validate, valid]
  unfold choose
  cases second.validate value with
  | error issues => rfl
  | ok other => simp [owned]

/-- The second shape gets what is its own and not of the first. -/
theorem validate_either_second (first second : Schema) (value checked : Value) (owned : second.owns value = true)
    (foreign : first.owns value = false) (valid : second.validate value = .ok checked) :
    (either first second).validate value = .ok checked := by
  rw [validate, valid]
  unfold choose
  cases first.validate value with
  | error issues => rfl
  | ok other => simp [owned, foreign]

theorem owns_optional (inner : Schema) (value : Value) (owned : inner.owns value = true) : (optional inner).owns value = true := by
  cases value <;> simp [owns, owned]

/-- What comes out of a shape is of its own kind. -/
theorem validate_owns (schema : Schema) (value checked : Value) (valid : schema.validate value = .ok checked) :
    schema.owns checked = true := by
  induction schema using nested generalizing value checked with
  | any => rfl
  | text =>
      obtain ⟨content, -, rfl⟩ := validate_text value checked valid
      rfl
  | integer =>
      obtain ⟨number, -, rfl⟩ := validate_integer value checked valid
      rfl
  | boolean =>
      obtain ⟨truth, -, rfl⟩ := validate_boolean value checked valid
      rfl
  | path =>
      obtain ⟨content, -, rfl⟩ := validate_path value checked valid
      rfl
  | list item ih =>
      obtain ⟨_, results, -, rfl, -⟩ := validate_list item value checked valid
      rfl
  | table item ih =>
      obtain ⟨_, results, -, rfl, -⟩ := validate_table item value checked valid
      rfl
  | optional inner ih =>
      rcases validate_optional inner value checked valid with ⟨-, rfl⟩ | ⟨-, valid⟩
      · rfl
      · exact owns_optional inner checked (ih value checked valid)
  | either first second one two =>
      rw [owns, Bool.or_eq_true]
      rcases validate_either first second value checked valid with valid | valid
      · exact Or.inl (one value checked valid)
      · exact Or.inr (two value checked valid)
  | model name fields ih =>
      obtain ⟨_, checked, -, -, rfl⟩ := validate_model name fields value checked valid
      rfl

/-- A list or a table of values. -/
def isContainer : Value → Bool
  | .arr _ => true
  | .obj _ => true
  | _ => false

/-- A shape takes no list or table that is not its own. -/
theorem container_owned (schema : Schema) (value checked : Value) (container : isContainer value = true)
    (valid : schema.validate value = .ok checked) : schema.owns value = true := by
  induction schema using nested generalizing value checked with
  | any => rfl
  | text =>
      obtain ⟨content, rfl, -⟩ := validate_text value checked valid
      rfl
  | integer =>
      obtain ⟨number, taken, -⟩ := validate_integer value checked valid
      cases value with
      | arr items => cases taken
      | obj fields => cases taken
      | _ => cases container
  | boolean =>
      obtain ⟨truth, taken, -⟩ := validate_boolean value checked valid
      cases value with
      | arr items => cases taken
      | obj fields => cases taken
      | _ => cases container
  | path =>
      obtain ⟨content, rfl, -⟩ := validate_path value checked valid
      rfl
  | list item ih =>
      obtain ⟨values, _, rfl, -, -⟩ := validate_list item value checked valid
      rfl
  | table item ih =>
      obtain ⟨given, _, rfl, -, -⟩ := validate_table item value checked valid
      rfl
  | optional inner ih =>
      rcases validate_optional inner value checked valid with ⟨rfl, -⟩ | ⟨-, valid⟩
      · rfl
      · exact owns_optional inner value (ih value checked container valid)
  | either first second one two =>
      rw [owns, Bool.or_eq_true]
      rcases validate_either first second value checked valid with valid | valid
      · exact Or.inl (one value checked container valid)
      · exact Or.inr (two value checked container valid)
  | model name fields ih =>
      obtain ⟨given, _, rfl, -, -⟩ := validate_model name fields value checked valid
      rfl

end Schema

end FunctionStack
