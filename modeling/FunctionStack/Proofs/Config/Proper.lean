import FunctionStack.Config.ServiceFile
import FunctionStack.Proofs.Compile.Declared
import FunctionStack.Proofs.Config.Stability
import FunctionStack.Proofs.Schema.Proper
import FunctionStack.Proofs.Storage.Files
import FunctionStack.Proofs.Value.Json.Reading

/-!
A service that is loaded from a proper document is proper, whatever overrides are laid over it.
-/

namespace FunctionStack

open Value

/-- All that users write into a service is proper. -/
structure ServiceConfig.IsProper (service : ServiceConfig) : Prop where
  provider : ∀ value ∈ service.provider.written, value.isProper = true
  functions : ∀ name function, (name, function) ∈ service.functions → ∀ value ∈ function.written, value.isProper = true
  resources : (Value.obj service.resources).isProper = true

namespace Settings

variable {fields : Fields} (proper : (Value.obj fields).isProper = true)

include proper

theorem find?_proper {key : String} {value : Value} (found : Table.find? fields key = some value) : value.isProper = true :=
  field?_isProper proper key found

theorem items?_proper (key : String) : ∀ item ∈ (items? fields key).getD [], item.isProper = true := by
  unfold items?
  cases found : Table.find? fields key with
  | none => exact fun _ member => by cases member
  | some value =>
      cases value with
      | arr items =>
          have whole := find?_proper proper found
          rwa [Value.isProper, areProper_iff] at whole
      | _ => exact fun _ member => by cases member

theorem table?_proper (key : String) {own : Fields} (found : table? fields key = some own) :
    (Value.obj own).isProper = true := by
  obtain ⟨value, held, table⟩ := Option.bind_eq_some_iff.mp found
  have whole := find?_proper proper held
  cases value with
  | obj entries =>
      cases table
      exact whole
  | _ => cases table

theorem tableD_proper (key : String) : (Value.obj ((table? fields key).getD [])).isProper = true := by
  cases found : table? fields key with
  | none => rfl
  | some own => exact table?_proper proper key found

theorem pointer?_proper (key : String) (pointer : Pointer) (found : pointer? fields key = some pointer) :
    pointer.toValue.isProper = true := by
  obtain ⟨value, held, pointed⟩ := Option.bind_eq_some_iff.mp found
  have whole := find?_proper proper held
  cases value with
  | str text =>
      cases pointed
      rfl
  | obj entries =>
      cases pointed
      exact whole
  | _ => cases pointed

theorem given_setting {α : Type} (read : Value → Option α) (key : String) (a : α)
    (given : setting read fields key = .given a) : ∃ value, read value = some a ∧ value.isProper = true := by
  unfold setting at given
  split at given
  · cases given
  · rename_i value held
    split at given
    · rename_i found reads
      cases given
      exact ⟨value, reads, find?_proper proper held⟩
    · cases given

theorem tableOf_proper {α : Type} (read : Fields → α) (key name : String) (a : α)
    (member : (name, a) ∈ tableOf read fields key) : ∃ own, a = read own ∧ (Value.obj own).isProper = true := by
  obtain ⟨⟨known, value⟩, listed, same⟩ := List.mem_map.mp member
  cases same
  refine ⟨_, rfl, ?_⟩
  have whole := ((obj_isProper _).mp (tableD_proper proper key)).2 name value listed
  cases value with
  | obj entries => exact whole
  | _ => rfl

end Settings

open Settings

theorem pointerValues_proper (pointers : List (Option Pointer))
    (each : ∀ pointer, some pointer ∈ pointers → pointer.toValue.isProper = true) :
    ∀ value ∈ pointerValues pointers, value.isProper = true := by
  intro value member
  obtain ⟨pointer, listed, same⟩ := List.mem_filterMap.mp member
  obtain ⟨own, rfl, rfl⟩ := Option.map_eq_some_iff.mp same
  exact each own listed

section

variable {fields : Fields} (proper : (Value.obj fields).isProper = true)

include proper

theorem VpcConfig.written_proper : ∀ value ∈ (VpcConfig.ofFields fields).written, value.isProper = true := by
  intro value member
  rcases List.mem_append.mp member with subnet | group
  · exact items?_proper proper _ value subnet
  · exact items?_proper proper _ value group

theorem FunctionConfig.targets_proper :
    ∀ value ∈ Blueprint.declaredTargets (FunctionConfig.ofFields fields), value.isProper = true := by
  intro value member
  unfold Blueprint.declaredTargets at member
  split at member
  case h_1 declared found =>
    obtain ⟨own, held, rfl⟩ := Option.map_eq_some_iff.mp found
    have inside := table?_proper proper _ held
    rcases List.mem_cons.mp (List.mem_filter.mp member).1 with rfl | last
    · exact find?_isProper own _ inside
    · rw [List.mem_singleton.mp last]
      exact find?_isProper own _ inside
  case h_2 => cases member

theorem FunctionConfig.written_proper : ∀ value ∈ (FunctionConfig.ofFields fields).written, value.isProper = true := by
  intro value member
  simp only [FunctionConfig.written, List.mem_append] at member
  rcases member with (((table | pointer) | layer) | network) | target
  · rcases List.mem_cons.mp table with rfl | last
    · exact tableD_proper proper _
    · rw [List.mem_singleton.mp last]
      exact tableD_proper proper _
  · refine pointerValues_proper _ (fun pointer listed => ?_) value pointer
    simp only [List.mem_cons, List.not_mem_nil, or_false] at listed
    rcases listed with given | given | given | given
    · exact pointer?_proper proper _ pointer given.symm
    · exact pointer?_proper proper _ pointer given.symm
    · exact pointer?_proper proper _ pointer given.symm
    · obtain ⟨mount, mounted, rfl⟩ := Option.map_eq_some_iff.mp given.symm
      obtain ⟨own, held, rfl⟩ := Option.map_eq_some_iff.mp mounted
      have inside := table?_proper proper _ held
      change ((pointer? own "arn").getD (.arn "")).toValue.isProper = true
      cases arn : pointer? own "arn" with
      | none => rfl
      | some known => exact pointer?_proper inside _ known arn
  · exact items?_proper proper _ value layer
  · split at network
    case h_1 config given =>
      obtain ⟨setting, reads, whole⟩ := given_setting proper _ _ _ given
      cases setting with
      | obj own =>
          cases reads
          exact VpcConfig.written_proper whole value network
      | bool on => cases reads
      | _ => cases reads
    case h_2 => cases network
  · exact FunctionConfig.targets_proper proper value target

theorem ProviderConfig.written_proper : ∀ value ∈ (ProviderConfig.ofFields fields).written, value.isProper = true := by
  intro value member
  simp only [ProviderConfig.written, List.mem_append] at member
  rcases member with ((table | pointer) | layer) | network
  · rcases List.mem_cons.mp table with rfl | last
    · exact tableD_proper proper _
    · rw [List.mem_singleton.mp last]
      exact tableD_proper proper _
  · refine pointerValues_proper _ (fun pointer listed => ?_) value pointer
    simp only [List.mem_cons, List.not_mem_nil, or_false] at listed
    rcases listed with given | given
    · exact pointer?_proper proper _ pointer given.symm
    · exact pointer?_proper proper _ pointer given.symm
  · exact items?_proper proper _ value layer
  · change value ∈ ((table? fields "vpc").map VpcConfig.ofFields).elim [] VpcConfig.written at network
    cases found : table? fields "vpc" with
    | none =>
        rw [found] at network
        cases network
    | some own =>
        rw [found] at network
        exact VpcConfig.written_proper (table?_proper proper _ found) value network

theorem ServiceConfig.ofFields_proper : (ServiceConfig.ofFields fields).IsProper where
  provider := ProviderConfig.written_proper (tableD_proper proper _)
  functions := by
    intro name function member
    obtain ⟨own, rfl, inside⟩ := tableOf_proper proper _ _ name function member
    exact FunctionConfig.written_proper inside
  resources := tableD_proper proper _

end

namespace ServiceFile

theorem pair_proper (value : Value) (entry : String × Value) (paired : pair value = .ok (some entry))
    (proper : value.isProper = true) : entry.2.isProper = true := by
  unfold pair at paired
  split at paired
  · rename_i key part
    split at paired
    · obtain ⟨text, -, rfl⟩ := Option.map_eq_some_iff.mp (Except.ok.inj paired)
      rw [Value.isProper, areProper_iff] at proper
      exact proper part (List.mem_cons_of_mem _ (List.mem_cons_self ..))
    · cases paired
  · cases paired
  · cases paired
    rfl
  · cases paired
  · split at paired
    · cases paired
      rfl
    · cases paired
  · cases paired

theorem pairs_proper (items : List Value) (entries : Fields) (paired : pairs items = .ok entries)
    (proper : ∀ item ∈ items, item.isProper = true) : ∀ key value, (key, value) ∈ entries → value.isProper = true := by
  induction items generalizing entries with
  | nil =>
      cases paired
      exact fun _ _ member => by cases member
  | cons item rest ih =>
      simp only [pairs, Result.bind_ok, Result.pure_ok] at paired
      obtain ⟨first, own, others, more, rfl⟩ := paired
      obtain ⟨here, later⟩ := List.forall_mem_cons.mp proper
      intro key value member
      rcases List.mem_append.mp member with known | member
      · exact pair_proper item (key, value) (own.trans (congrArg _ (Option.mem_toList.mp known))) here
      · exact ih others more later key value member

theorem providerFields_proper (provider : Value) (fields : Fields) (taken : providerFields provider = .ok fields)
    (proper : provider.isProper = true) : (Value.obj fields).isProper = true := by
  have whole := orElse_isProper provider (.obj []) proper rfl
  unfold providerFields at taken
  split at taken
  case h_1 own held =>
    cases taken
    rwa [held] at whole
  case h_2 items held =>
    obtain ⟨entries, paired, same⟩ := (Result.bind_ok _ _ _).mp taken
    cases (Result.pure_ok _ _).mp same
    rw [held, Value.isProper, areProper_iff] at whole
    exact merge_isProper [] entries rfl (pairs_proper items entries paired whole)
  case h_3 => cases taken
  case h_4 => cases taken

theorem override_proper {overrides data laid : Fields} (done : override overrides data = .ok laid)
    (proper : (Value.obj data).isProper = true) (others : ∀ key value, (key, value) ∈ overrides → value.isProper = true) :
    (Value.obj laid).isProper = true := by
  unfold override at done
  split at done
  · cases done
    exact proper
  · obtain ⟨provider, taken, same⟩ := (Result.bind_ok _ _ _).mp done
    cases (Result.pure_ok _ _).mp same
    have own := providerFields_proper _ provider taken (find?_isProper data _ proper)
    refine insert_isProper data _ _ proper (merge_isProper provider _ own fun key value member => ?_)
    exact others key value (List.mem_filter.mp member).1

theorem completeFunctions_proper {data complete : Fields} (done : completeFunctions data = .ok complete)
    (proper : (Value.obj data).isProper = true) : (Value.obj complete).isProper = true := by
  obtain ⟨functions, listed, same⟩ := (Result.bind_ok _ _ _).mp done
  cases (Result.pure_ok _ _).mp same
  have inside := (obj_isProper functions).mp (Fields.entries_isProper "functions" proper listed)
  refine insert_isProper data _ _ proper ((obj_isProper _).mpr ⟨?_, fun key value member => ?_⟩)
  · rw [Table.mapValues, List.map_map]
    exact inside.1
  · obtain ⟨⟨known, own⟩, declared, same⟩ := List.mem_map.mp member
    cases same
    exact orElse_isProper own _ (inside.2 key own declared) rfl

theorem settings_proper {overrides complete : Fields} {document : Value} (done : settings overrides document = .ok complete)
    (proper : document.isProper = true) (others : ∀ key value, (key, value) ∈ overrides → value.isProper = true) :
    (Value.obj complete).isProper = true := by
  have whole := orElse_isProper document (.obj []) proper rfl
  unfold settings at done
  split at done
  case h_1 data held =>
    obtain ⟨laid, overridden, completed⟩ := (Result.bind_ok _ _ _).mp done
    rw [held] at whole
    exact completeFunctions_proper completed (override_proper overridden whole others)
  case h_2 => cases done

theorem service_regular : Shapes.service.isRegular = true :=
  List.all_eq_true.mp Shapes.models_regular _ (by simp [Shapes.models])

theorem validated_proper {data : Fields} {checked : Value} (valid : validated data = .ok checked)
    (proper : (Value.obj data).isProper = true) : checked.isProper = true := by
  unfold validated at valid
  split at valid
  case h_1 own outcome =>
    cases valid
    exact Schema.validate_isProper Shapes.service service_regular _ _ proper outcome
  case h_2 => cases valid

/-- Whatever is loaded is proper if the documents that files are known by are. -/
theorem load_proper {files : Files} {path : String} {overrides : Fields} {loaded : LoadedService}
    (loads : load files path overrides = .ok loaded)
    (known : ∀ location value, files.node? location = some (.file (.document (some value))) → value.isProper = true)
    (others : ∀ key value, (key, value) ∈ overrides → value.isProper = true) : loaded.service.IsProper := by
  simp only [load, Result.bind_ok, Result.pure_ok] at loads
  obtain ⟨content, held, document, parses, complete, settled, checked, valid, rfl⟩ := loads
  obtain ⟨-, -, location, -, present⟩ := (Files.read_ok _ content).mp held
  have proper := FileContent.toValue_isProper content (fun value same => known location value (same ▸ present)) document parses
  have whole := validated_proper valid (settings_proper settled proper others)
  have fields : (Value.obj (checked.fields?.getD [])).isProper = true := by
    cases checked with
    | obj own => exact whole
    | _ => rfl
  have service := ServiceConfig.ofFields_proper fields
  exact ⟨service.provider, service.functions, service.resources⟩

end ServiceFile

end FunctionStack
