import FunctionStack.Compile.Destination
import FunctionStack.Proofs.Compile.Build
import FunctionStack.Proofs.Schema.Fields
import FunctionStack.Proofs.Value.Json.Unique

/-!
Destinations are told apart by their keys, and a pointer is either written by the user or made from the name of a
function.
-/

namespace FunctionStack

namespace Schema

theorem entries_any (fields checked : Fields) (valid : Checked.entries (validate .any) fields = .ok checked) :
    checked = fields := by
  induction fields generalizing checked with
  | nil => simpa [Checked.entries] using valid.symm
  | cons field fields ih =>
      obtain ⟨key, value⟩ := field
      rw [Checked.entries] at valid
      have head : (validate .any value).inside (.key key) = .ok value := by
        rw [validate]
        rfl
      rw [head] at valid
      cases rest : Checked.entries (validate .any) fields with
      | error issues =>
          rw [rest] at valid
          cases valid
      | ok others =>
          rw [rest] at valid
          cases valid
          rw [ih others rest]

/-- A pointer is taken as it is. -/
theorem validate_pointer (value checked : Value) (valid : validate Shapes.pointer value = .ok checked) :
    checked = value := by
  have text (other : Value) (taken : validate .text value = .ok other) : other = value := by
    cases value <;> simp_all [validate, Checked.issue]
  have table (other : Value) (taken : validate (.table .any) value = .ok other) : other = value := by
    cases value with
    | obj fields =>
        rw [validate] at taken
        cases rest : Checked.entries (validate .any) fields with
        | error issues =>
            rw [rest] at taken
            cases taken
        | ok others =>
            rw [rest] at taken
            cases taken
            rw [entries_any fields others rest]
    | _ => simp [validate, Checked.issue] at taken
  rw [Shapes.pointer, validate] at valid
  unfold choose at valid
  split at valid
  case h_1 a b first second =>
    cases valid
    rw [text a first, table b second, ite_self]
  case h_2 a _ first _ =>
    cases valid
    exact text _ first
  case h_3 _ b _ second =>
    cases valid
    exact table _ second
  case h_4 => cases valid

theorem given?_mem (field : FieldName) (given : Fields) (key : String) (value : Value)
    (found : field.given? given = some (key, value)) : (key, value) ∈ given := by
  unfold FieldName.given? at found
  split at found
  case h_1 proper present =>
    cases found
    exact Table.find?_some_mem given _ value present
  case h_2 =>
    obtain ⟨other, present, pair⟩ := Option.map_eq_some_iff.mp found
    cases pair
    exact Table.find?_some_mem given _ value present

/-- A valid table of a type and an ARN holds the ARN as it was given. -/
theorem validate_destinationTarget (given : Fields) (checked : Value)
    (valid : validate Shapes.destinationTarget (.obj given) = .ok checked) :
    ∃ key arn, (key, arn) ∈ given ∧ Table.find? (checked.fields?.getD []) "arn" = some arn := by
  obtain ⟨_, fields, ⟨⟩, outcome, rfl⟩ :=
    validate_model "DestinationTarget" Shapes.destinationTarget.fields _ checked valid
  have listed : (⟨"arn", "arn", true, true⟩, Shapes.pointer) ∈ Shapes.destinationTarget.fields :=
    List.mem_cons_of_mem _ (List.mem_cons_self ..)
  rcases validateFields_find? _ outcome (by decide) _ _ listed with ⟨key, value, result, found, taken, held⟩ | ⟨_, optional, _⟩
  · rw [validate_pointer value result taken] at held
    exact ⟨key, value, given?_mem _ given key value found, held⟩
  · cases optional

end Schema

namespace Destination

/-- Where the pointer of a destination comes from: an ARN or the table's ARN, as it was written, or the name of a
function. -/
theorem classify_ok (target : Value) (owner : String) (resolve : String → Result Value) (destination : Destination)
    (classified : classify target owner resolve = .ok destination) :
    (∃ text, target = .str text ∧ destination.pointer = .str text ∧ destination.function = none ∧
        Text.beginsWith text "arn:" = true) ∨
      (∃ text, target = .str text ∧ resolve text = .ok destination.pointer ∧ destination.function = some text ∧
        Text.beginsWith text "arn:" = false) ∨
      ∃ given key, target = .obj given ∧ (key, destination.pointer) ∈ given ∧ destination.function = none := by
  unfold classify at classified
  split at classified
  case h_1 given =>
    split at classified
    case h_1 checked valid =>
      obtain ⟨key, arn, member, found⟩ := Schema.validate_destinationTarget given checked valid
      unfold ofFields ofTyped at classified
      rw [found] at classified
      split at classified
      · cases classified
        exact Or.inr (Or.inr ⟨given, key, rfl, member, rfl⟩)
      · cases classified
    case h_2 => cases classified
  case h_2 text =>
    unfold ofText at classified
    split at classified
    case isTrue arn =>
      split at classified
      · cases classified
        exact Or.inl ⟨text, rfl, rfl, rfl, arn⟩
      · cases classified
    case isFalse plain =>
      rw [Result.bind_ok] at classified
      obtain ⟨pointer, resolved, made⟩ := classified
      cases made
      exact Or.inr (Or.inl ⟨text, rfl, resolved, rfl, Bool.eq_false_of_not_eq_true plain⟩)
  case h_3 => cases classified

/-- A function of the service is what a text names that is no ARN. -/
theorem classify_function (target : Value) (owner : String) (resolve : String → Result Value) (destination : Destination)
    (classified : classify target owner resolve = .ok destination) (name : String) :
    destination.function = some name ↔ target = .str name ∧ Text.beginsWith name "arn:" = false := by
  have unnamed (none : destination.function = none) (plain : target = .str name → Text.beginsWith name "arn:" = true) :
      destination.function = some name ↔ target = .str name ∧ Text.beginsWith name "arn:" = false := by
    constructor
    · intro named
      cases none.symm.trans named
    · rintro ⟨same, other⟩
      cases (plain same).symm.trans other
  rcases classify_ok target owner resolve destination classified with
    ⟨text, rfl, _, none, arn⟩ | ⟨text, rfl, _, named, plain⟩ | ⟨_, _, rfl, _, none⟩
  · exact unnamed none fun same => Value.str.inj same ▸ arn
  · rw [named, Option.some.injEq, Value.str.injEq]
    exact ⟨fun same => ⟨same, same ▸ plain⟩, And.left⟩
  · exact unnamed none fun same => by cases same

theorem label_injective (a b : DestinationKind) (same : a.label = b.label) : a = b := by
  cases a <;> cases b <;> first | rfl | exact absurd same (by decide)

/-- Destinations with one key are of one kind and point at the same, up to the order of keys. -/
theorem key_unique (a b : Destination) (proper : a.pointer.isProper = true) (regular : b.pointer.isProper = true)
    (same : a.key = b.key) : a.kind = b.kind ∧ a.pointer.sortKeys = b.pointer.sortKeys := by
  have form (destination : Destination) :
      (Value.obj [("kind", .str destination.kind.label), ("pointer", destination.pointer)]).sortKeys =
        .obj [("kind", .str destination.kind.label), ("pointer", destination.pointer.sortKeys)] := by
    have order : ("kind" : String) ≤ "pointer" := by decide
    simp only [Value.sortKeys, Value.sortFields, Value.insertByKey, order, if_true]
  have well (destination : Destination) (proper : destination.pointer.isProper = true) :
      (Value.obj [("kind", .str destination.kind.label), ("pointer", destination.pointer.sortKeys)]).isProper =
        true := by
    simp [Value.isProper, Value.properFields, Value.sortKeys_proper _ proper]
  unfold key at same
  rw [form, form] at same
  have text := JsonStyle.toJson_unique .spaced JsonStyle.spaced_oneLine _ _ (well a proper) (well b regular) same
  simp only [Value.obj.injEq, List.cons.injEq, Prod.mk.injEq, true_and, and_true, Value.str.injEq] at text
  exact ⟨label_injective _ _ text.1, text.2⟩

end Destination

end FunctionStack
