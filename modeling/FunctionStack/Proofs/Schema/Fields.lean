import FunctionStack.Proofs.Value.Table
import FunctionStack.Schema.Validation

/-!
What a validated table holds for a field of its model. It is what the table was given for that field, once this is valid, and it
does not depend on what there was for other fields.
-/

namespace FunctionStack

/-- What a field is given is known from what there is under its key and under its plain name. -/
theorem FieldName.given?_congr (field : FieldName) (first second : Fields)
    (key : Table.find? first field.key = Table.find? second field.key)
    (name : Table.find? first field.name = Table.find? second field.name) : field.given? first = field.given? second := by
  rw [given?, given?, key, name]

namespace Checked

theorem both_ok {α β γ : Type} (combine : α → β → γ) (first : Checked α) (second : Checked β) (c : γ)
    (done : both combine first second = .ok c) : ∃ a b, first = .ok a ∧ second = .ok b ∧ combine a b = c := by
  unfold both at done
  split at done
  case h_1 a b =>
    cases done
    exact ⟨a, b, rfl, rfl, rfl⟩
  all_goals cases done

theorem inside_ok {α : Type} (step : LocationStep) (check : Checked α) (a : α) (done : check.inside step = .ok a) :
    check = .ok a := by
  cases check with
  | error issues => cases done
  | ok b => exact done

end Checked

namespace Schema

/-- The fields of a model. -/
def fields : Schema → List (FieldName × Schema)
  | .model _ fields => fields
  | _ => []

variable {given checked : Fields}

/-- A validated model is the table of its validated fields. -/
theorem validate_model (name : String) (model : List (FieldName × Schema)) (value checked : Value)
    (valid : validate (.model name model) value = .ok checked) :
    ∃ given fields, value = .obj given ∧ validateFields model given = .ok fields ∧ checked = .obj fields := by
  cases value with
  | obj given =>
      rw [validate] at valid
      cases outcome : validateFields model given with
      | error issues =>
          rw [outcome] at valid
          cases valid
      | ok fields =>
          rw [outcome] at valid
          cases valid
          exact ⟨given, fields, rfl, outcome, rfl⟩
  | _ =>
      rw [validate] at valid
      · cases valid
      · nofun

/-- The first field of a valid table is there with what it is given, or it is missing and need not be there. -/
theorem validateFields_first (field : FieldName) (schema : Schema) (rest : List (FieldName × Schema))
    (valid : validateFields ((field, schema) :: rest) given = .ok checked) :
    ∃ others, validateFields rest given = .ok others ∧
      ((∃ key value result, field.given? given = some (key, value) ∧ validate schema value = .ok result ∧
          checked = (field.key, result) :: others) ∨
        field.given? given = none ∧ field.required = false ∧ checked = others) := by
  rw [validateFields] at valid
  split at valid
  case h_1 key value found =>
    obtain ⟨result, others, first, second, rfl⟩ := Checked.both_ok _ _ _ _ valid
    exact ⟨others, second, Or.inl ⟨key, value, result, found, Checked.inside_ok _ _ _ first, rfl⟩⟩
  case h_2 absent =>
    split at valid
    case isTrue required =>
      obtain ⟨_, _, missing, _⟩ := Checked.both_ok _ _ _ _ valid
      cases missing
    case isFalse optional => exact ⟨checked, valid, Or.inr ⟨absent, by simpa using optional, rfl⟩⟩

theorem validateFields_keys (model : List (FieldName × Schema)) (valid : validateFields model given = .ok checked) :
    (Table.keys checked).Sublist (model.map fun entry => entry.1.key) := by
  induction model generalizing checked with
  | nil =>
      cases valid
      exact List.Sublist.refl _
  | cons entry rest ih =>
      obtain ⟨others, remaining, outcome⟩ := validateFields_first entry.1 entry.2 rest valid
      rcases outcome with ⟨key, value, result, -, -, rfl⟩ | ⟨-, -, rfl⟩
      · exact (ih remaining).cons_cons _
      · exact (ih remaining).cons _

/-- A field of a model with keys of their own comes out as what it is given, if it is given anything. -/
theorem validateFields_find? (model : List (FieldName × Schema)) (valid : validateFields model given = .ok checked)
    (distinct : (model.map fun entry => entry.1.key).Nodup) (field : FieldName) (schema : Schema)
    (listed : (field, schema) ∈ model) :
    (∃ key value result, field.given? given = some (key, value) ∧ validate schema value = .ok result ∧
        Table.find? checked field.key = some result) ∨
      field.given? given = none ∧ field.required = false ∧ Table.find? checked field.key = none := by
  induction model generalizing checked with
  | nil => cases listed
  | cons entry rest ih =>
      obtain ⟨first, shape⟩ := entry
      obtain ⟨others, remaining, outcome⟩ := validateFields_first first shape rest valid
      obtain ⟨fresh, distinct⟩ := List.nodup_cons.mp distinct
      rcases List.mem_cons.mp listed with same | later
      · cases same
        rcases outcome with ⟨key, value, result, found, taken, rfl⟩ | ⟨absent, optional, rfl⟩
        · refine Or.inl ⟨key, value, result, found, taken, ?_⟩
          rw [Table.find?_cons, if_pos rfl]
        · refine Or.inr ⟨absent, optional, ?_⟩
          rw [Table.find?_none_iff]
          exact fun member => fresh ((validateFields_keys rest remaining).subset member)
      · have other : field.key ≠ first.key := by
          intro same
          exact fresh (List.mem_map.mpr ⟨(field, schema), later, same⟩)
        have apart : Table.find? checked field.key = Table.find? others field.key := by
          rcases outcome with ⟨_, _, _, -, -, rfl⟩ | ⟨-, -, rfl⟩
          · rw [Table.find?_cons, if_neg other]
          · rfl
        rw [apart]
        exact ih remaining distinct later

/-- What becomes of a field does not depend on what there is for other fields. -/
theorem validateFields_congr (model : List (FieldName × Schema)) {other result : Fields}
    (valid : validateFields model given = .ok checked) (validToo : validateFields model other = .ok result)
    (distinct : (model.map fun entry => entry.1.key).Nodup) (field : FieldName) (schema : Schema)
    (listed : (field, schema) ∈ model) (same : field.given? other = field.given? given) :
    Table.find? result field.key = Table.find? checked field.key := by
  rcases validateFields_find? model valid distinct field schema listed with
    ⟨key, value, own, found, taken, held⟩ | ⟨absent, -, free⟩
  · rcases validateFields_find? model validToo distinct field schema listed with
      ⟨_, _, again, there, takes, holds⟩ | ⟨missing, _⟩
    · cases (same.symm.trans there).symm.trans found
      cases taken.symm.trans takes
      rw [holds, held]
    · cases (same.symm.trans missing).symm.trans found
  · rcases validateFields_find? model validToo distinct field schema listed with
      ⟨_, _, _, there, _⟩ | ⟨-, -, none⟩
    · cases (same.symm.trans there).symm.trans absent
    · rw [none, free]

end Schema

end FunctionStack
