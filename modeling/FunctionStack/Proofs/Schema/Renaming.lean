import FunctionStack.Proofs.Schema.Stability
import Mathlib.Logic.Relation

/-!
Fields under another of their keys. A field may be given under its key or under its plain name. A value validates to the same if
any of its fields, however deep inside it, moves from one to the other, unless there is something else under that already.
-/

namespace FunctionStack.Schema

/-- One table gives under a key what the other gives under another one, and nothing under each other's. -/
structure Moves (old new : String) (given renamed : Fields) : Prop where
  free : Table.find? given new = none
  moved : Table.find? renamed new = Table.find? given old
  gone : Table.find? renamed old = none
  others : ∀ key, key ≠ old → key ≠ new → Table.find? renamed key = Table.find? given key

/-- One table gives under a key another value than the other. -/
structure Replaces (key : String) (value replaced : Value) (given renamed : Fields) : Prop where
  held : Table.find? given key = some value
  holds : Table.find? renamed key = some replaced
  others : ∀ other, other ≠ key → Table.find? renamed other = Table.find? given other

/-- Values that differ in the spelling of one field of a model, which is anywhere in them. -/
inductive Renames : Schema → Value → Value → Prop
  | field {name : String} {model : List (FieldName × Schema)} {field : FieldName} {schema : Schema} {old new : String}
      {given renamed : Fields} (listed : (field, schema) ∈ model) (different : old ≠ new) (spelled : old ∈ field.spellings)
      (respelled : new ∈ field.spellings) (moves : Moves old new given renamed) :
      Renames (.model name model) (.obj given) (.obj renamed)
  | inField {name : String} {model : List (FieldName × Schema)} {field : FieldName} {schema : Schema} {key : String}
      {value replaced : Value} {given renamed : Fields} (listed : (field, schema) ∈ model) (spelled : key ∈ field.spellings)
      (replaces : Replaces key value replaced given renamed) (inside : Renames schema value replaced) :
      Renames (.model name model) (.obj given) (.obj renamed)
  | item {item : Schema} {value replaced : Value} (before after : List Value) (inside : Renames item value replaced) :
      Renames (.list item) (.arr (before ++ value :: after)) (.arr (before ++ replaced :: after))
  | entry {item : Schema} {value replaced : Value} (key : String) (before after : Fields)
      (inside : Renames item value replaced) :
      Renames (.table item) (.obj (before ++ (key, value) :: after)) (.obj (before ++ (key, replaced) :: after))
  | optional {inner : Schema} {value replaced : Value} (inside : Renames inner value replaced) :
      Renames (.optional inner) value replaced
  | first {first second : Schema} {value replaced : Value} (inside : Renames first value replaced) :
      Renames (.either first second) value replaced
  | second {first second : Schema} {value replaced : Value} (inside : Renames second value replaced) :
      Renames (.either first second) value replaced

variable {schema : Schema} {value renamed checked : Value}

/-- Fields are in lists and tables only. -/
theorem Renames.containers (renames : Renames schema value renamed) : isContainer value = true ∧ isContainer renamed = true := by
  induction renames with
  | field | inField | item | entry => exact ⟨rfl, rfl⟩
  | optional _ ih | first _ ih | second _ ih => exact ih

theorem Renames.owns (renames : Renames schema value renamed) : schema.owns value = true ∧ schema.owns renamed = true := by
  induction renames with
  | field | inField | item | entry => exact ⟨rfl, rfl⟩
  | optional _ ih => exact ⟨owns_optional _ _ ih.1, owns_optional _ _ ih.2⟩
  | first _ ih => simp only [Schema.owns, ih, Bool.true_or, and_self]
  | second _ ih => simp only [Schema.owns, ih, Bool.or_true, and_self]

theorem container_given (container : isContainer value = true) : value ≠ .null := by
  intro null
  rw [null] at container
  cases container

theorem given?_moved (field : FieldName) (given : Fields) (old new : String) (different : old ≠ new)
    (spelled : old ∈ field.spellings) (respelled : new ∈ field.spellings) (free : Table.find? given new = none) :
    field.given? given = (Table.find? given old).map (old, ·) := by
  simp only [FieldName.spellings, List.mem_cons, List.not_mem_nil, or_false] at spelled respelled
  rw [FieldName.given?]
  rcases spelled with rfl | rfl
  · rcases respelled with rfl | rfl
    · exact absurd rfl different
    · rw [free]
      cases Table.find? given field.key <;> rfl
  · rcases respelled with rfl | rfl
    · rw [free]
    · exact absurd rfl different

variable {model : List (FieldName × Schema)} {given other : Fields} {field : FieldName}

/-- A field is given the same under its other key. -/
theorem Moves.carries {old new : String} (moves : Moves old new given other) (different : old ≠ new)
    (spelled : old ∈ field.spellings) (respelled : new ∈ field.spellings) : Carries field schema given other := by
  have before := given?_moved field given old new different spelled respelled moves.free
  have after := given?_moved field other new old different.symm respelled spelled moves.gone
  rw [moves.moved] at after
  cases held : Table.find? given old with
  | none =>
      rw [held] at before after
      exact .absent before after
  | some value =>
      rw [held] at before after
      exact .given old new value value before after fun _ valid => valid

/-- A field is given the same wherever nothing happens under its keys. -/
theorem given?_untouched (same : ∀ key ∈ field.spellings, Table.find? other key = Table.find? given key) :
    field.given? other = field.given? given :=
  field.given?_congr other given (same _ (List.mem_cons_self ..)) (same _ (List.mem_cons_of_mem _ (List.mem_cons_self ..)))

/-- A field that is given another value, or is not given it because there is something under its key. -/
theorem Replaces.carries {key : String} {replaced : Value} (replaces : Replaces key value replaced given other)
    (spelled : key ∈ field.spellings)
    (kept : ∀ checked, schema.validate value = .ok checked → schema.validate replaced = .ok checked) :
    Carries field schema given other := by
  simp only [FieldName.spellings, List.mem_cons, List.not_mem_nil, or_false] at spelled
  by_cases shadowed : key ≠ field.key ∧ (Table.find? given field.key).isSome
  · obtain ⟨different, present⟩ := shadowed
    obtain ⟨own, held⟩ := Option.isSome_iff_exists.mp present
    apply Carries.of_eq
    rw [FieldName.given?, FieldName.given?, replaces.others _ different.symm, held]
  · have before : field.given? given = some (key, value) := by
      rw [FieldName.given?]
      rcases spelled with rfl | rfl
      · rw [replaces.held]
      · by_cases same : field.name = field.key
        · rw [← same, replaces.held]
        · have free : Table.find? given field.key = none := by simpa [same] using shadowed
          rw [free, replaces.held]
          rfl
    have after : field.given? other = some (key, replaced) := by
      rw [FieldName.given?]
      rcases spelled with rfl | rfl
      · rw [replaces.holds]
      · by_cases same : field.name = field.key
        · rw [← same, replaces.holds]
        · have free : Table.find? given field.key = none := by simpa [same] using shadowed
          rw [replaces.others _ (Ne.symm same), free, replaces.holds]
          rfl
    exact .given key key value replaced before after kept

/-- What is the same for one field and elsewhere is the same for all. -/
theorem carriesAll_of (regular : Regular model) (listed : (field, schema) ∈ model) (here : Carries field schema given other)
    (others : ∀ key ∉ field.spellings, Table.find? other key = Table.find? given key) :
    CarriesAll model (fun _ => true) given other := by
  intro also shape among
  rw [if_pos rfl]
  by_cases same : (also, shape) = (field, schema)
  · cases same
    exact here
  · apply Carries.of_eq
    apply given?_untouched
    intro key theirs
    apply others
    intro own
    exact same (regular.only among listed key theirs own)

theorem validate_carried (name : String) (carries : CarriesAll model (fun _ => true) given other)
    (valid : (Schema.model name model).validate (.obj given) = .ok checked) :
    (Schema.model name model).validate (.obj other) = .ok checked := by
  obtain ⟨_, results, same, outcome, rfl⟩ := validate_model name model _ checked valid
  cases same
  have carried := validateFields_carried _ outcome carries
  rw [List.filter_true] at carried
  exact validate_model_ok name model other results carried

theorem forall₂_replaced {α β : Type} {relation : α → β → Prop} (before after : List α) (old new : α) (results : List β)
    (kept : ∀ result, relation old result → relation new result)
    (each : List.Forall₂ relation (before ++ old :: after) results) : List.Forall₂ relation (before ++ new :: after) results := by
  induction before generalizing results with
  | nil =>
      cases each with
      | cons first rest => exact .cons (kept _ first) rest
  | cons head before ih =>
      cases each with
      | cons first rest => exact .cons first (ih _ rest)

/-- A field is spelled either way without any effect. -/
theorem Renames.validate (renames : Renames schema value renamed) (regular : schema.isRegular = true)
    (valid : schema.validate value = .ok checked) : schema.validate renamed = .ok checked := by
  induction renames generalizing checked with
  | @field name model field schema old new given renamed listed different spelled respelled moves =>
      have apart := regular_model name model regular
      apply validate_carried name _ valid
      apply carriesAll_of apart listed (moves.carries different spelled respelled)
      intro key foreign
      apply moves.others
      · intro same
        exact foreign (same ▸ spelled)
      · intro same
        exact foreign (same ▸ respelled)
  | @inField name model field schema key value replaced given renamed listed spelled replaces inside ih =>
      have apart := regular_model name model regular
      apply validate_carried name _ valid
      apply carriesAll_of apart listed (replaces.carries spelled fun _ => ih (apart.inner field schema listed))
      intro other foreign
      apply replaces.others
      intro same
      exact foreign (same ▸ spelled)
  | @item item value replaced before after inside ih =>
      rw [isRegular] at regular
      obtain ⟨_, results, same, rfl, each⟩ := validate_list item _ checked valid
      cases same
      apply validate_list_ok
      exact forall₂_replaced before after value replaced results (fun _ => ih regular) each
  | @entry item value replaced key before after inside ih =>
      rw [isRegular] at regular
      obtain ⟨_, results, same, rfl, each⟩ := validate_table item _ checked valid
      cases same
      apply validate_table_ok
      exact forall₂_replaced before after (key, value) (key, replaced) results
        (fun _ holds => ⟨holds.1, ih regular holds.2⟩) each
  | @optional inner value replaced inside ih =>
      rw [isRegular] at regular
      obtain ⟨before, after⟩ := inside.containers
      rw [validate_optional_given inner value (container_given before)] at valid
      rw [validate_optional_given inner replaced (container_given after)]
      exact ih regular valid
  | @first first second value replaced inside ih =>
      rw [isRegular, Bool.and_eq_true, Bool.and_eq_true] at regular
      obtain ⟨⟨firstRegular, -⟩, different⟩ := regular
      apply validate_either_first first second replaced checked inside.owns.2
      apply ih firstRegular
      rcases validate_either first second value checked valid with valid | foreign
      · exact valid
      -- What the first shape owns cannot have come out of the second one, for it would have to own it as well.
      · have owned := container_owned second value checked inside.containers.1 foreign
        have none := apart_foreign first second different value owned
        rw [inside.owns.1] at none
        cases none
  | @second first second value replaced inside ih =>
      rw [isRegular, Bool.and_eq_true, Bool.and_eq_true] at regular
      obtain ⟨⟨-, secondRegular⟩, different⟩ := regular
      apply validate_either_second first second replaced checked inside.owns.2
        (apart_foreign first second different replaced inside.owns.2)
      apply ih secondRegular
      rcases validate_either first second value checked valid with foreign | valid
      · have owned := container_owned first value checked inside.containers.1 foreign
        have none := apart_foreign first second different value inside.owns.1
        rw [owned] at none
        cases none
      · exact valid

/-- Any number of fields can be spelled either way. -/
theorem validate_renamed (regular : schema.isRegular = true) (valid : schema.validate value = .ok checked)
    (renames : Relation.ReflTransGen (Renames schema) value renamed) : schema.validate renamed = .ok checked := by
  induction renames with
  | refl => exact valid
  | tail _ renames ih => exact renames.validate regular ih

end FunctionStack.Schema
