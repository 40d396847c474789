import FunctionStack.Proofs.Schema.Kinds

/-!
Validation comes to rest after one step: what has been validated validates to itself, with or without the fields that are not
shown. This takes shapes whose fields cannot be mistaken for one another, and alternatives that own no value in common.
-/

namespace FunctionStack

namespace Table

theorem find?_filter_keys {α : Type} (table : Table α) (test : String → Bool) (key : String) :
    find? (table.filter fun entry => test entry.1) key = if test key then find? table key else none := by
  induction table with
  | nil => exact (ite_self _).symm
  | cons entry rest ih =>
      obtain ⟨known, value⟩ := entry
      rw [List.filter_cons, find?_cons]
      by_cases same : key = known
      · subst same
        by_cases kept : test key = true
        · rw [if_pos kept, if_pos kept, if_pos rfl, find?_cons, if_pos rfl]
        · rw [if_neg kept, if_neg kept, ih, if_neg kept]
      · rw [if_neg same, ← ih]
        split
        · rw [find?_cons, if_neg same]
        · rfl

end Table

namespace FieldName

/-- The keys that a field may be given under. -/
def spellings (field : FieldName) : List String := [field.key, field.name]

/-- Fields that cannot be given under the same key. -/
def Apart (one two : FieldName) : Prop := ∀ key ∈ one.spellings, key ∉ two.spellings

instance (one two : FieldName) : Decidable (one.Apart two) :=
  inferInstanceAs (Decidable (∀ key ∈ one.spellings, key ∉ two.spellings))

theorem Apart.symm {one two : FieldName} (apart : one.Apart two) : two.Apart one :=
  fun key second first => apart key first second

/-- Where a field is not given under its plain name, it is given what there is under its key. -/
theorem given?_keyed (field : FieldName) (given : Fields)
    (unnamed : field.name ≠ field.key → Table.find? given field.name = none) :
    field.given? given = (Table.find? given field.key).map (field.key, ·) := by
  rw [given?]
  cases keyed : Table.find? given field.key with
  | some value => rfl
  | none =>
      by_cases same : field.name = field.key
      · rw [same, keyed]
      · rw [unnamed same]
        rfl

end FieldName

namespace Schema

/-- One value of each kind. -/
def kinds : List Value := [.null, .bool true, .int 0, .float .nan, .str "", .arr [], .obj []]

/-- The value that stands for a value's kind. -/
def kindOf : Value → Value
  | .null => .null
  | .bool _ => .bool true
  | .int _ => .int 0
  | .float _ => .float .nan
  | .str _ => .str ""
  | .arr _ => .arr []
  | .obj _ => .obj []

theorem kindOf_listed (value : Value) : kindOf value ∈ kinds := by
  cases value <;> simp [kindOf, kinds]

/-- Whether a shape owns a value depends on the value's kind alone. -/
theorem owns_kindOf (schema : Schema) (value : Value) : schema.owns (kindOf value) = schema.owns value := by
  induction schema using nested with
  | optional inner ih =>
      cases value with
      | null => rfl
      | _ => simpa only [kindOf, owns] using ih
  | either first second one two => rw [owns, owns, one, two]
  | _ => cases value <;> rfl

/-- Whether two shapes own no value in common. -/
def apart (first second : Schema) : Bool := kinds.all fun kind => !(first.owns kind && second.owns kind)

theorem apart_foreign (first second : Schema) (different : first.apart second = true) (value : Value)
    (owned : second.owns value = true) : first.owns value = false := by
  have neither := List.all_eq_true.mp different _ (kindOf_listed value)
  rw [owns_kindOf, owns_kindOf, owned, Bool.and_true, Bool.not_eq_true'] at neither
  exact neither

mutual

/-- Whether the fields of every model can be told apart, and the kinds of all alternatives; and no field that is not shown has
to be given. -/
def isRegular : Schema → Bool
  | .list item => item.isRegular
  | .table item => item.isRegular
  | .optional inner => inner.isRegular
  | .either first second => first.isRegular && second.isRegular && first.apart second
  | .model _ fields =>
    decide (fields.Pairwise fun one two => one.1.Apart two.1) && fields.all (fun entry => entry.1.shown || !entry.1.required) &&
      areRegular fields
  | _ => true

def areRegular : List (FieldName × Schema) → Bool
  | [] => true
  | (_, schema) :: rest => schema.isRegular && areRegular rest

end

theorem areRegular_mem (fields : List (FieldName × Schema)) (regular : areRegular fields = true) (field : FieldName)
    (schema : Schema) (listed : (field, schema) ∈ fields) : schema.isRegular = true := by
  induction fields with
  | nil => cases listed
  | cons entry rest ih =>
      rw [areRegular, Bool.and_eq_true] at regular
      rcases List.mem_cons.mp listed with same | later
      · cases same
        exact regular.1
      · exact ih regular.2 later

/-- A model whose fields can be told apart. -/
structure Regular (model : List (FieldName × Schema)) : Prop where
  apart : model.Pairwise fun one two => one.1.Apart two.1
  hidden : ∀ field schema, (field, schema) ∈ model → field.shown = false → field.required = false
  inner : ∀ field schema, (field, schema) ∈ model → schema.isRegular = true

theorem regular_model (name : String) (model : List (FieldName × Schema))
    (regular : (Schema.model name model).isRegular = true) : Regular model := by
  rw [isRegular, Bool.and_eq_true, Bool.and_eq_true, decide_eq_true_eq] at regular
  obtain ⟨⟨apart, hidden⟩, inner⟩ := regular
  refine ⟨apart, ?_, areRegular_mem model inner⟩
  intro field schema listed unseen
  have optional := List.all_eq_true.mp hidden _ listed
  rw [unseen, Bool.false_or, Bool.not_eq_true'] at optional
  exact optional

variable {model : List (FieldName × Schema)} {given other checked : Fields}

/-- A key is a spelling of one field only. -/
theorem Regular.only (regular : Regular model) {one two : FieldName × Schema} (first : one ∈ model) (second : two ∈ model)
    (key : String) (spelled : key ∈ one.1.spellings) (spelledToo : key ∈ two.1.spellings) : one = two := by
  by_contra different
  have symmetric : Std.Symm fun one two : FieldName × Schema => one.1.Apart two.1 := ⟨fun _ _ => FieldName.Apart.symm⟩
  exact regular.apart.forall first second different key spelled spelledToo

theorem Regular.keys (regular : Regular model) : (model.map fun entry => entry.1.key).Nodup := by
  rw [List.Nodup, List.pairwise_map]
  apply regular.apart.imp
  intro one two apart same
  exact apart one.1.key (List.mem_cons_self ..) (same ▸ List.mem_cons_self ..)

/-- A validated table has nothing under the plain name of a field. -/
theorem Regular.unnamed (regular : Regular model) (valid : validateFields model given = .ok checked) {field : FieldName}
    {schema : Schema} (listed : (field, schema) ∈ model) (different : field.name ≠ field.key) :
    Table.find? checked field.name = none := by
  rw [Table.find?_none_iff]
  intro member
  obtain ⟨entry, among, same⟩ := List.mem_map.mp ((validateFields_keys model valid).subset member)
  have named : entry.1.key ∈ field.spellings := same ▸ List.mem_cons_of_mem _ (List.mem_cons_self ..)
  have own : entry = (field, schema) := regular.only among listed _ (List.mem_cons_self ..) named
  subst own
  exact different same.symm

/-- What a field is given in one table is as good as what it is given in another. -/
inductive Carries (field : FieldName) (schema : Schema) (given other : Fields) : Prop
  | absent (missing : field.given? given = none) (missingToo : field.given? other = none)
  | given (key known : String) (value replaced : Value) (found : field.given? given = some (key, value))
      (there : field.given? other = some (known, replaced))
      (kept : ∀ checked, schema.validate value = .ok checked → schema.validate replaced = .ok checked)

theorem Carries.of_eq {field : FieldName} {schema : Schema} (same : field.given? other = field.given? given) :
    Carries field schema given other := by
  cases found : field.given? given with
  | none => exact .absent found (same.trans found)
  | some entry => exact .given entry.1 entry.1 entry.2 entry.2 found (same.trans found) fun _ valid => valid

/-- A table that gives fields what another one gives them, and nothing to those that a test leaves out. -/
def CarriesAll (model : List (FieldName × Schema)) (test : String → Bool) (given other : Fields) : Prop :=
  ∀ field schema, (field, schema) ∈ model →
    if test field.key then Carries field schema given other else field.given? other = none ∧ field.required = false

/-- Validation goes by what fields are given. -/
theorem validateFields_carried (test : String → Bool) (valid : validateFields model given = .ok checked)
    (carries : CarriesAll model test given other) :
    validateFields model other = .ok (checked.filter fun entry => test entry.1) := by
  induction model generalizing checked with
  | nil =>
      cases valid
      rfl
  | cons entry rest ih =>
      obtain ⟨field, schema⟩ := entry
      obtain ⟨others, remaining, outcome⟩ := validateFields_first field schema rest valid
      have tail := ih remaining fun field schema listed => carries field schema (List.mem_cons_of_mem _ listed)
      have here := carries field schema (List.mem_cons_self ..)
      rw [validateFields]
      by_cases kept : test field.key = true
      · rw [if_pos kept] at here
        rcases outcome with ⟨key, value, result, found, taken, rfl⟩ | ⟨absent, optional, rfl⟩
        · cases here with
          | absent missing _ => cases found.symm.trans missing
          | given key known value replaced there again same =>
              cases found.symm.trans there
              rw [again, List.filter_cons, if_pos kept]
              simp only [same result taken, tail]
              rfl
        · cases here with
          | absent _ missing =>
              rw [missing, optional]
              exact tail
          | given key known value replaced there _ _ => cases absent.symm.trans there
      · rw [if_neg kept] at here
        obtain ⟨missing, optional⟩ := here
        rw [missing, optional]
        rcases outcome with ⟨key, value, result, -, -, rfl⟩ | ⟨-, -, rfl⟩
        · rw [List.filter_cons, if_neg kept]
          exact tail
        · exact tail

/-- Validated fields validate to themselves, also if some are left out that need not be given. -/
theorem validateFields_again (regular : Regular model) (valid : validateFields model given = .ok checked)
    (again : ∀ field schema, (field, schema) ∈ model → ∀ value result, schema.validate value = .ok result →
      schema.validate result = .ok result)
    (test : String → Bool) (spared : ∀ field schema, (field, schema) ∈ model → test field.key = false → field.required = false) :
    validateFields model (checked.filter fun entry => test entry.1) = .ok (checked.filter fun entry => test entry.1) := by
  apply validateFields_carried test valid
  intro field schema listed
  have keyed : field.given? (checked.filter fun entry => test entry.1) =
      if test field.key then (Table.find? checked field.key).map (field.key, ·) else none := by
    rw [field.given?_keyed, Table.find?_filter_keys]
    · split <;> rfl
    · intro different
      rw [Table.find?_filter_keys, regular.unnamed valid listed different]
      exact ite_self _
  by_cases kept : test field.key = true
  · rw [if_pos kept] at keyed ⊢
    rcases validateFields_find? model valid regular.keys field schema listed with
      ⟨key, value, result, found, taken, held⟩ | ⟨absent, -, free⟩
    · rw [held] at keyed
      refine .given key field.key value result found keyed ?_
      intro other validated
      cases taken.symm.trans validated
      exact again field schema listed value result taken
    · rw [free] at keyed
      exact .absent absent keyed
  · rw [if_neg kept] at keyed ⊢
    exact ⟨keyed, spared field schema listed (Bool.eq_false_iff.mpr kept)⟩

theorem settled_each {α β : Type} {step : α → β → Prop} {rest : β → β → Prop} {values : List α} {results : List β}
    (each : List.Forall₂ step values results) (settled : ∀ value result, step value result → rest result result) :
    List.Forall₂ rest results results := by
  induction each with
  | nil => exact .nil
  | cons first _ ih => exact .cons (settled _ _ first) ih

/-- What has been validated validates to itself. -/
theorem validate_again (schema : Schema) (regular : schema.isRegular = true) (value checked : Value)
    (valid : schema.validate value = .ok checked) : schema.validate checked = .ok checked := by
  induction schema using nested generalizing value checked with
  | any => rw [validate]
  | text =>
      obtain ⟨content, -, rfl⟩ := validate_text value checked valid
      rw [validate]
  | integer =>
      obtain ⟨number, -, rfl⟩ := validate_integer value checked valid
      rw [validate]
      rfl
  | boolean =>
      obtain ⟨truth, -, rfl⟩ := validate_boolean value checked valid
      rw [validate]
      rfl
  | path =>
      obtain ⟨content, -, rfl⟩ := validate_path value checked valid
      rw [validate]
  | list item ih =>
      rw [isRegular] at regular
      obtain ⟨_, results, -, rfl, each⟩ := validate_list item value checked valid
      exact validate_list_ok item results results (settled_each each (ih regular))
  | table item ih =>
      rw [isRegular] at regular
      obtain ⟨_, results, -, rfl, each⟩ := validate_table item value checked valid
      apply validate_table_ok
      apply settled_each each
      intro source result taken
      exact ⟨rfl, ih regular source.2 result.2 taken.2⟩
  | optional inner ih =>
      rw [isRegular] at regular
      rcases validate_optional inner value checked valid with ⟨-, rfl⟩ | ⟨-, valid⟩
      · rw [validate]
      · by_cases given : checked = .null
        · rw [given, validate]
        · rw [validate_optional_given inner checked given]
          exact ih regular value checked valid
  | either first second one two =>
      rw [isRegular, Bool.and_eq_true, Bool.and_eq_true] at regular
      obtain ⟨⟨firstRegular, secondRegular⟩, different⟩ := regular
      rcases validate_either first second value checked valid with valid | valid
      · exact validate_either_first first second checked checked (validate_owns first value checked valid)
          (one firstRegular value checked valid)
      · have owned := validate_owns second value checked valid
        exact validate_either_second first second checked checked owned (apart_foreign first second different checked owned)
          (two secondRegular value checked valid)
  | model name fields ih =>
      have apart := regular_model name fields regular
      obtain ⟨given, results, -, outcome, rfl⟩ := validate_model name fields value checked valid
      have settled := validateFields_again apart outcome
        (fun field schema listed => ih field schema listed (apart.inner field schema listed)) (fun _ => true) (by simp)
      rw [List.filter_true] at settled
      exact validate_model_ok name fields results results settled

/-- Whether what there is under a key is shown. -/
def shows (model : List (FieldName × Schema)) (key : String) : Bool :=
  model.all fun (field, _) => field.key ≠ key || field.shown

theorem dump_model (name : String) (model : List (FieldName × Schema)) (checked : Fields) :
    (Schema.model name model).dump (.obj checked) = .obj (checked.filter fun entry => shows model entry.1) := rfl

theorem Regular.shows (regular : Regular model) {field : FieldName} {schema : Schema} (listed : (field, schema) ∈ model) :
    shows model field.key = field.shown := by
  rw [Bool.eq_iff_iff, Schema.shows, List.all_eq_true]
  constructor
  · intro every
    simpa using every _ listed
  · intro shown other among
    by_cases same : other.1.key = field.key
    · have own : other = (field, schema) :=
        regular.only among listed other.1.key (List.mem_cons_self ..) (same ▸ List.mem_cons_self ..)
      simp [own, shown]
    · simp [same]

/-- What is shown of a validated table validates to itself. -/
theorem validate_dump (name : String) (regular : (Schema.model name model).isRegular = true) (value checked : Value)
    (valid : (Schema.model name model).validate value = .ok checked) :
    (Schema.model name model).validate ((Schema.model name model).dump checked) =
      .ok ((Schema.model name model).dump checked) := by
  have apart := regular_model name model regular
  obtain ⟨given, results, -, outcome, rfl⟩ := validate_model name model value checked valid
  rw [dump_model]
  apply validate_model_ok
  apply validateFields_again apart outcome
  · intro field schema listed
    exact validate_again schema (apart.inner field schema listed)
  · intro field schema listed unseen
    rw [apart.shows listed] at unseen
    exact apart.hidden field schema listed unseen

theorem dump_dump (schema : Schema) (value : Value) : schema.dump (schema.dump value) = schema.dump value := by
  cases schema with
  | model name model =>
      cases value with
      | obj given => rw [dump_model, dump_model, List.filter_filter]; simp only [Bool.and_self]
      | _ => rfl
  | _ => rfl

/-- What is shown sets the fields that are shown. -/
theorem setNames_dump (name hidden : String) (regular : (Schema.model name model).isRegular = true)
    (shown : ∀ field schema, (field, schema) ∈ model → field.shown = decide (field.name ≠ hidden)) (value checked : Value)
    (valid : (Schema.model name model).validate value = .ok checked) :
    (Schema.model name model).setNames ((Schema.model name model).dump checked) =
      ((Schema.model name model).setNames checked).filter (· ≠ hidden) := by
  have apart := regular_model name model regular
  obtain ⟨given, results, -, -, rfl⟩ := validate_model name model value checked valid
  rw [dump_model, setNames, setNames, List.filter_filterMap]
  apply List.filterMap_congr
  intro entry listed
  obtain ⟨field, schema⟩ := entry
  have kept : Table.has (results.filter fun entry => shows model entry.1) field.key =
      (decide (field.name ≠ hidden) && Table.has results field.key) := by
    rw [Table.has, Table.find?_filter_keys, apart.shows listed, shown field schema listed]
    by_cases unseen : field.name = hidden <;> simp [unseen, Table.has]
  change (if Table.has (results.filter fun entry => shows model entry.1) field.key then some field.name else none) =
    Option.filter (· ≠ hidden) (if Table.has results field.key then some field.name else none)
  rw [kept]
  by_cases unseen : field.name = hidden
  · cases Table.has results field.key <;> simp [unseen, Option.filter_some]
  · cases Table.has results field.key <;> simp [unseen, Option.filter_some]

end Schema

end FunctionStack
