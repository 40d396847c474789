import FunctionStack.Proofs.Schema.Stability
import FunctionStack.Proofs.Value.Same

/-!
Validation keeps values proper: a model puts each field under a key of its own, and what is converted is a scalar.
-/

namespace FunctionStack.Schema

/-- The values of a list are proper if each comes from a proper one. -/
theorem items_isProper {values results : List Value} {step : Value → Value → Prop}
    (each : List.Forall₂ step values results) (proper : (Value.arr values).isProper = true)
    (kept : ∀ value result, value.isProper = true → step value result → result.isProper = true) :
    (Value.arr results).isProper = true := by
  rw [Value.isProper, Value.areProper_iff] at proper ⊢
  induction each with
  | nil => exact fun _ member => by cases member
  | cons first _ ih =>
      obtain ⟨own, others⟩ := List.forall_mem_cons.mp proper
      exact List.forall_mem_cons.mpr ⟨kept _ _ own first, ih others⟩

theorem keys_forall₂ {given results : Fields} {step : Value → Value → Prop}
    (each : List.Forall₂ (fun entry result => result.1 = entry.1 ∧ step entry.2 result.2) given results) :
    results.map Prod.fst = given.map Prod.fst := by
  induction each with
  | nil => rfl
  | cons first _ ih => rw [List.map_cons, List.map_cons, first.1, ih]

theorem entries_isProper {given results : Fields} {step : Value → Value → Prop}
    (each : List.Forall₂ (fun entry result => result.1 = entry.1 ∧ step entry.2 result.2) given results)
    (proper : (Value.obj given).isProper = true)
    (kept : ∀ value result, value.isProper = true → step value result → result.isProper = true) :
    (Value.obj results).isProper = true := by
  rw [Value.obj_isProper] at proper ⊢
  refine ⟨keys_forall₂ each ▸ proper.1, fun key result member => ?_⟩
  replace proper := proper.2
  induction each with
  | nil => cases member
  | @cons entry first given results step _ ih =>
      rcases List.mem_cons.mp member with rfl | later
      · exact kept entry.2 _ (proper entry.1 entry.2 (List.mem_cons_self ..)) step.2
      · exact ih later fun key value listed => proper key value (List.mem_cons_of_mem _ listed)

theorem given?_isProper {field : FieldName} {given : Fields} {key : String} {value : Value}
    (proper : (Value.obj given).isProper = true) (found : field.given? given = some (key, value)) : value.isProper = true := by
  unfold FieldName.given? at found
  split at found
  case h_1 own keyed =>
    cases found
    exact Value.field?_isProper proper _ keyed
  case h_2 =>
    obtain ⟨own, named, same⟩ := Option.map_eq_some_iff.mp found
    cases same
    exact Value.field?_isProper proper _ named

theorem validateFields_isProper {model : List (FieldName × Schema)} {given checked : Fields}
    (proper : (Value.obj given).isProper = true) (valid : validateFields model given = .ok checked)
    (kept : ∀ field schema, (field, schema) ∈ model → ∀ value result, value.isProper = true →
      schema.validate value = .ok result → result.isProper = true) :
    ∀ key value, (key, value) ∈ checked → value.isProper = true := by
  induction model generalizing checked with
  | nil =>
      cases valid
      exact fun _ _ member => by cases member
  | cons entry rest ih =>
      obtain ⟨field, schema⟩ := entry
      obtain ⟨others, remaining, outcome⟩ := validateFields_first field schema rest valid
      have later := ih remaining fun field schema listed => kept field schema (List.mem_cons_of_mem _ listed)
      rcases outcome with ⟨key, value, result, found, taken, rfl⟩ | ⟨-, -, rfl⟩
      · intro known part member
        rcases List.mem_cons.mp member with same | member
        · cases same
          exact kept field schema (List.mem_cons_self ..) value _ (given?_isProper proper found) taken
        · exact later known part member
      · exact later

theorem validate_isProper (schema : Schema) (regular : schema.isRegular = true) (value checked : Value)
    (proper : value.isProper = true) (valid : schema.validate value = .ok checked) : checked.isProper = true := by
  induction schema using nested generalizing value checked with
  | any =>
      rw [validate] at valid
      cases valid
      exact proper
  | text =>
      obtain ⟨content, -, rfl⟩ := validate_text value checked valid
      rfl
  | integer =>
      obtain ⟨number, -, rfl⟩ := validate_integer value checked valid
      rfl
  | boolean =>
      obtain ⟨truth, -, rfl⟩ := validate_boolean value checked valid
      rfl
  | path =>
      obtain ⟨content, -, rfl⟩ := validate_path value checked valid
      rfl
  | list item ih =>
      rw [isRegular] at regular
      obtain ⟨values, results, rfl, rfl, each⟩ := validate_list item value checked valid
      exact items_isProper each proper (ih regular)
  | table item ih =>
      rw [isRegular] at regular
      obtain ⟨given, results, rfl, rfl, each⟩ := validate_table item value checked valid
      exact @entries_isProper _ _ (fun value result => item.validate value = .ok result) each proper (ih regular)
  | optional inner ih =>
      rw [isRegular] at regular
      rcases validate_optional inner value checked valid with ⟨-, rfl⟩ | ⟨-, valid⟩
      · rfl
      · exact ih regular value checked proper valid
  | either first second one two =>
      rw [isRegular, Bool.and_eq_true, Bool.and_eq_true] at regular
      rcases validate_either first second value checked valid with valid | valid
      · exact one regular.1.1 value checked proper valid
      · exact two regular.1.2 value checked proper valid
  | model name fields ih =>
      have apart := regular_model name fields regular
      obtain ⟨given, results, rfl, outcome, rfl⟩ := validate_model name fields value checked valid
      rw [Value.obj_isProper]
      refine ⟨apart.keys.sublist (validateFields_keys fields outcome), ?_⟩
      exact validateFields_isProper proper outcome fun field schema listed =>
        ih field schema listed (apart.inner field schema listed)

end FunctionStack.Schema
