import FunctionStack.Config.ServiceFile
import FunctionStack.Proofs.Schema.Fields

/-!
Overrides of a service file. They are laid over the provider's settings as they are written, under the very key they are given,
while a setting is read under its key first and then under its plain name. So an override under a plain name only counts where
nothing is set under the key.
-/

namespace FunctionStack

/-- The validated settings of the provider. -/
def LoadedService.provider (loaded : LoadedService) : Fields :=
  ((loaded.settings.field? "provider").bind Value.fields?).getD []

/-- The loaded provider has for a field what a value is validated to. -/
def LoadedService.Has (loaded : LoadedService) (field : FieldName) (schema : Schema) (value : Value) : Prop :=
  ∃ result, schema.validate value = .ok result ∧ Table.find? loaded.provider field.key = some result

namespace ServiceFile

/-- The settings of a provider that is a table, an explicit null or missing. -/
inductive HasProvider (data : Fields) : Fields → Prop
  | missing (absent : Table.find? data "provider" = none) : HasProvider data []
  | null (cleared : Table.find? data "provider" = some .null) : HasProvider data []
  | table (own : Fields) (given : Table.find? data "provider" = some (.obj own)) : HasProvider data own

/-- What overrides set under a key; a null sets nothing. -/
def set? (overrides : Fields) (key : String) : Option Value := (Table.find? overrides key).filter isSet

/-- What becomes of a field of the provider, where the file has its own settings for it. -/
structure Overridden (files : Files) (path : String) (overrides own : Fields) (loaded : LoadedService) (field : FieldName)
    (schema : Schema) : Prop where
  byKey : ∀ value, set? overrides field.key = some value → loaded.Has field schema value
  byName : ∀ value, set? overrides field.name = some value → set? overrides field.key = none →
    Table.find? own field.key = none → loaded.Has field schema value
  shadowed : ∀ value, Table.find? own field.key = some value → set? overrides field.key = none →
    loaded.Has field schema value
  untouched : set? overrides field.key = none → set? overrides field.name = none →
    (∀ key value, field.given? own = some (key, value) → loaded.Has field schema value) ∧
      (field.given? own = none → Table.find? loaded.provider field.key = none) ∧
      ∀ plain, load files path [] = .ok plain → Table.find? plain.provider field.key = Table.find? loaded.provider field.key

/-- Values of a table in which each key is there once can be left out without regard to the others. -/
theorem find?_filter (table : Fields) (distinct : (Table.keys table).Nodup) (test : Value → Bool) (key : String) :
    Table.find? (table.filter fun field => test field.2) key = (Table.find? table key).filter test := by
  induction table with
  | nil => rfl
  | cons entry rest ih =>
      obtain ⟨known, value⟩ := entry
      obtain ⟨fresh, unrepeated⟩ := List.nodup_cons.mp distinct
      rw [Table.find?_cons, List.filter_cons]
      by_cases same : key = known
      · subst same
        have none : Table.find? rest key = none := (Table.find?_none_iff rest key).mpr fresh
        rw [if_pos rfl]
        by_cases kept : test value = true
        · rw [if_pos kept, Table.find?_cons, if_pos rfl, Option.filter_some, if_pos kept]
        · rw [if_neg kept, ih unrepeated, none, Option.filter_some, if_neg kept, Option.filter_none]
      · rw [if_neg same, ← ih unrepeated]
        split
        · rw [Table.find?_cons, if_neg same]
        · rfl

/-- Under each key there is what the overrides set, or else what there was. -/
theorem find?_laid (own overrides : Fields) (distinct : (Table.keys overrides).Nodup) (key : String) :
    Table.find? (Table.merge own (overrides.filter fun field => isSet field.2)) key =
      (set? overrides key).or (Table.find? own key) := by
  have kept : (Table.keys (overrides.filter fun field => isSet field.2)).Nodup :=
    distinct.sublist (List.Sublist.map _ List.filter_sublist)
  rw [Table.find?_merge, Table.find?_perm _ _ (List.reverse_perm _) kept, find?_filter overrides distinct]
  rfl

section Load

variable {files : Files} {path : String} {content : FileContent} {document : Value} {data own overrides : Fields}
  {loaded : LoadedService}

/-- The provider's settings are validated, if there are any, as overrides have been laid over them. -/
theorem override_ok (provided : HasProvider data own) (distinct : (Table.keys overrides).Nodup) (laid : Fields)
    (done : override overrides data = .ok laid) :
    Table.find? laid "provider" = Table.find? data "provider" ∧ overrides = [] ∨
      ∃ given, Table.find? laid "provider" = some (.obj given) ∧
        ∀ key, Table.find? given key = (set? overrides key).or (Table.find? own key) := by
  unfold override at done
  split at done
  case isTrue empty =>
    cases done
    exact Or.inl ⟨rfl, List.isEmpty_iff.mp empty⟩
  case isFalse =>
    have settings : providerFields ((Table.find? data "provider").getD .null) = .ok own := by
      cases provided with
      | missing absent => rw [absent]; rfl
      | null cleared => rw [cleared]; rfl
      | table own given =>
          rw [given]
          cases own <;> rfl
    rw [settings] at done
    cases done
    refine Or.inr ⟨_, ?_, find?_laid own overrides distinct⟩
    rw [Table.find?_insert, if_pos rfl]

theorem completeFunctions_provider (laid complete : Fields) (done : completeFunctions laid = .ok complete) :
    Table.find? complete "provider" = Table.find? laid "provider" := by
  simp only [completeFunctions, Result.bind_ok, Result.pure_ok] at done
  obtain ⟨functions, -, rfl⟩ := done
  rw [Table.find?_insert, if_neg (by decide)]

/-- A file is loaded from its document with the overrides laid over it, once that is valid. -/
theorem load_fields (read : files.read (Path.ofText path).toText = .ok content) (parsed : content.toValue = .ok document)
    (whole : document.orElse (.obj []) = .obj data) (loads : load files path overrides = .ok loaded) :
    ∃ laid complete fields, override overrides data = .ok laid ∧
      Table.find? complete "provider" = Table.find? laid "provider" ∧
      Schema.validateFields Shapes.service.fields complete = .ok fields ∧ loaded.settings = .obj fields ∧
      loaded.service.provider = (ServiceConfig.ofFields fields).provider := by
  simp only [load, Result.bind_ok, Result.pure_ok] at loads
  obtain ⟨_, found, _, parses, complete, settled, checked, valid, rfl⟩ := loads
  cases found.symm.trans read
  cases parses.symm.trans parsed
  rw [settings, whole] at settled
  obtain ⟨laid, done, completed⟩ := (Result.bind_ok _ _ _).mp settled
  have model : Shapes.service.validate (.obj complete) = .ok checked := by
    unfold validated at valid
    split at valid
    case h_1 own same =>
      cases valid
      exact same
    case h_2 => cases valid
  obtain ⟨_, fields, same, outcome, rfl⟩ := Schema.validate_model "ServiceConfig" Shapes.service.fields _ checked model
  cases same
  exact ⟨laid, complete, fields, done, completeFunctions_provider laid complete completed, outcome, rfl, rfl⟩

/-- A loaded provider has validated settings, in which overrides come before what the file has. -/
theorem load_provider (read : files.read (Path.ofText path).toText = .ok content) (parsed : content.toValue = .ok document)
    (whole : document.orElse (.obj []) = .obj data) (provided : HasProvider data own)
    (distinct : (Table.keys overrides).Nodup) (loads : load files path overrides = .ok loaded) :
    loaded.service.provider = ProviderConfig.ofFields loaded.provider ∧
      ∃ given, Schema.validateFields Shapes.provider.fields given = .ok loaded.provider ∧
        ∀ key, Table.find? given key = (set? overrides key).or (Table.find? own key) := by
  obtain ⟨laid, complete, fields, done, kept, valid, held, record⟩ := load_fields read parsed whole loads
  have listed : (⟨"provider", "provider", false, true⟩, Shapes.provider) ∈ Shapes.service.fields :=
    List.mem_cons_of_mem _ (List.mem_cons_self ..)
  have own : loaded.provider = ((Table.find? fields "provider").bind Value.fields?).getD [] := by
    rw [LoadedService.provider, held]
    rfl
  constructor
  · rw [record, own]
    rfl
  -- What the field of the provider is given is what has been laid, for it has one name only.
  · have given : FieldName.given? ⟨"provider", "provider", false, true⟩ complete =
        (Table.find? laid "provider").map ("provider", ·) := by
      rw [FieldName.given?, ← kept]
      cases Table.find? complete "provider" <;> rfl
    have field := Schema.validateFields_find? Shapes.service.fields valid (by decide) _ _ listed
    rw [given] at field
    have table (settings : Fields) (set : Table.find? laid "provider" = some (.obj settings)) :
        Schema.validateFields Shapes.provider.fields settings = .ok loaded.provider := by
      rw [set] at field
      rcases field with ⟨_, _, result, ⟨⟩, model, found⟩ | ⟨absent, _⟩
      · obtain ⟨_, checked, ⟨⟩, outcome, rfl⟩ := Schema.validate_model "ProviderConfig" Shapes.provider.fields _ result model
        rw [own, found]
        exact outcome
      · cases absent
    rcases override_ok provided distinct laid done with ⟨same, rfl⟩ | ⟨settings, set, lookup⟩
    · cases provided with
      | missing absent =>
          rw [same, absent] at field
          rcases field with ⟨_, _, _, found, _⟩ | ⟨-, -, none⟩
          · cases found
          · refine ⟨[], ?_, fun _ => rfl⟩
            rw [own, none]
            rfl
      | null cleared =>
          rw [same, cleared] at field
          rcases field with ⟨_, _, _, ⟨⟩, model, _⟩ | ⟨absent, _⟩
          · obtain ⟨_, _, impossible, _⟩ := Schema.validate_model "ProviderConfig" Shapes.provider.fields _ _ model
            cases impossible
          · cases absent
      | table _ given => exact ⟨_, table _ (same.trans given), fun _ => rfl⟩
    · exact ⟨settings, table settings set, lookup⟩

/-- An override wins under the key of a field whatever the file says. Under the plain name of a field it wins where neither
the file nor another override says anything under the key; there the file wins. A field without an override is what it is in the
file, as if there were no overrides at all. -/
theorem load_overrides (read : files.read (Path.ofText path).toText = .ok content) (parsed : content.toValue = .ok document)
    (whole : document.orElse (.obj []) = .obj data) (provided : HasProvider data own)
    (distinct : (Table.keys overrides).Nodup) (loads : load files path overrides = .ok loaded) :
    loaded.service.provider = ProviderConfig.ofFields loaded.provider ∧
      ∀ field schema, (field, schema) ∈ Shapes.provider.fields →
        Overridden files path overrides own loaded field schema := by
  obtain ⟨record, given, valid, lookup⟩ := load_provider read parsed whole provided distinct loads
  refine ⟨record, ?_⟩
  intro field schema listed
  have keys : (Shapes.provider.fields.map fun entry => entry.1.key).Nodup := by decide
  have comes := Schema.validateFields_find? Shapes.provider.fields valid keys field schema listed
  have has (key : String) (value : Value) (found : field.given? given = some (key, value)) :
      loaded.Has field schema value := by
    rcases comes with ⟨_, _, result, same, taken, held⟩ | ⟨absent, _⟩
    · cases found.symm.trans same
      exact ⟨result, taken, held⟩
    · cases found.symm.trans absent
  have first (value : Value) (found : Table.find? given field.key = some value) : loaded.Has field schema value := by
    refine has field.key value ?_
    rw [FieldName.given?, found]
  constructor
  case byKey =>
    intro value set
    refine first value ?_
    rw [lookup, set, Option.some_or]
  case byName =>
    intro value set silent missing
    refine has field.name value ?_
    rw [FieldName.given?, lookup, lookup, silent, missing, set]
    rfl
  case shadowed =>
    intro value set silent
    refine first value ?_
    rw [lookup, silent, Option.none_or, set]
  case untouched =>
    intro silent unnamed
    have same : field.given? given = field.given? own := by
      refine field.given?_congr given own ?_ ?_
      · rw [lookup, silent, Option.none_or]
      · rw [lookup, unnamed, Option.none_or]
    refine ⟨?_, ?_, ?_⟩
    · intro key value found
      exact has key value (same.trans found)
    · intro absent
      rcases comes with ⟨_, _, _, found, _⟩ | ⟨-, -, none⟩
      · cases (same.trans absent).symm.trans found
      · exact none
    · intro plain alone
      obtain ⟨-, settings, right, laid⟩ := load_provider read parsed whole provided (by decide) alone
      have alike : field.given? settings = field.given? given := by
        rw [same]
        exact field.given?_congr settings own (laid field.key) (laid field.name)
      exact Schema.validateFields_congr Shapes.provider.fields valid right keys field schema listed alike

end Load

/-- A file that says how much memory functions have, under the key of that field. -/
def sized : Files :=
  ⟨[], .directory [("serverless.yml", .file (.document (some (.obj [
    ("service", .str "s"), ("provider", .obj [("memorySize", .int 512)])]))))]⟩

theorem load_any (files : Files) (path : String) (overrides : Fields) (p : LoadedService → Bool)
    (succeeds : (load files path overrides).toOption.any p = true) :
    ∃ loaded, load files path overrides = .ok loaded ∧ p loaded = true := by
  generalize load files path overrides = outcome at succeeds ⊢
  cases outcome with
  | error failure => cases succeeds
  | ok loaded => exact ⟨loaded, rfl, succeeds⟩

def memorySize : FieldName := ⟨"memorySize", "memory_size", false, true⟩

theorem memorySize_listed : (memorySize, Shapes.optionalInteger) ∈ Shapes.provider.fields :=
  List.mem_of_getElem? (rfl : Shapes.provider.fields[4]? = some _)

/-- The memory is overridden under its key and the versions under their plain name; the region stays the default one. -/
theorem sized_overridden : ∃ loaded,
    load sized "serverless.yml" [("memorySize", .int 1024), ("version_functions", .bool false), ("region", .null)] =
        .ok loaded ∧
      loaded.Has memorySize Shapes.optionalInteger (.int 1024) ∧
      loaded.Has ⟨"versionFunctions", "version_functions", false, true⟩ .boolean (.bool false) ∧
      loaded.service.provider.region = "us-east-1" := by
  obtain ⟨loaded, loads, -⟩ := load_any sized "serverless.yml"
    [("memorySize", .int 1024), ("version_functions", .bool false), ("region", .null)] (fun _ => true) (by decide +kernel)
  have provided : HasProvider [("service", .str "s"), ("provider", .obj [("memorySize", .int 512)])]
      [("memorySize", .int 512)] := .table _ rfl
  have read : sized.read (Path.ofText "serverless.yml").toText = .ok (.document (some (.obj [
      ("service", .str "s"), ("provider", .obj [("memorySize", .int 512)])]))) := rfl
  obtain ⟨record, each⟩ := load_overrides read rfl rfl provided (by decide) loads
  have versions : (⟨"versionFunctions", "version_functions", false, true⟩, .boolean) ∈ Shapes.provider.fields :=
    List.mem_of_getElem? (rfl : Shapes.provider.fields[13]? = some _)
  have region : (⟨"region", "region", false, true⟩, .text) ∈ Shapes.provider.fields :=
    List.mem_of_getElem? (rfl : Shapes.provider.fields[2]? = some _)
  refine ⟨loaded, loads, (each _ _ memorySize_listed).byKey _ rfl,
    (each _ _ versions).byName _ rfl rfl rfl, ?_⟩
  have absent : Table.find? loaded.provider "region" = none := ((each _ _ region).untouched rfl rfl).2.1 rfl
  simp only [record, ProviderConfig.ofFields, Settings.text?, absent]
  rfl

/-- An override under the plain name is lost where the file has the key. -/
theorem sized_not_overridden : ∃ loaded field schema,
    load sized "serverless.yml" [("memory_size", .int 1024)] = .ok loaded ∧ (field, schema) ∈ Shapes.provider.fields ∧
      set? [("memory_size", .int 1024)] field.name = some (.int 1024) ∧ ¬loaded.Has field schema (.int 1024) := by
  obtain ⟨loaded, loads, small⟩ := load_any sized "serverless.yml" [("memory_size", .int 1024)]
    (fun loaded => (Table.find? loaded.provider "memorySize").any (Value.same (.int 512))) (by decide +kernel)
  refine ⟨loaded, memorySize, Shapes.optionalInteger, loads, memorySize_listed, rfl, ?_⟩
  intro has
  obtain ⟨result, valid, held⟩ := has
  cases valid
  have same : (Table.find? loaded.provider "memorySize").any (Value.same (.int 512)) = false := by
    rw [show Table.find? loaded.provider "memorySize" = _ from held]
    rfl
  rw [same] at small
  cases small

end ServiceFile

end FunctionStack
