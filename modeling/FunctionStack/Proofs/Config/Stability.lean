import FunctionStack.Config.Shapes
import FunctionStack.Proofs.Schema.Renaming

/-!
Configuration that has been validated stays what it is. Fields are read alike under their keys and under their plain names, and
what is shown of a configuration is a configuration that is shown the same way.
-/

namespace FunctionStack.Shapes

open Schema

/-- The models of all configuration. -/
def models : List Schema :=
  [vpc, fileSystem, image, runtimeManagement, cors, url, destinationTarget, destinations, package, function, tracing, namedImage,
    registry, provider, layer, service]

theorem models_regular : models.all isRegular = true := by decide +kernel

/-- The directory of a service is the one field that is not shown. -/
theorem models_shown :
    models.all (fun model => model.fields.all fun entry => entry.1.shown == decide (entry.1.name ≠ "service_dir")) = true := by
  decide +kernel

theorem models_model (shape : Schema) (listed : shape ∈ models) : ∃ name fields, shape = .model name fields := by
  have every : ∀ shape ∈ models, shape = .model shape.tag shape.fields := by
    simp only [models, List.forall_mem_cons, List.not_mem_nil, false_implies, implies_true, and_true]
    exact ⟨rfl, rfl, rfl, rfl, rfl, rfl, rfl, rfl, rfl, rfl, rfl, rfl, rfl, rfl, rfl, rfl⟩
  exact ⟨shape.tag, shape.fields, every shape listed⟩

/-- Whatever a model accepts, it accepts what is shown of it, and that is shown as it is and sets the same fields, except for the
directory of a service, which is not shown. And however fields are spelled, at any depth, they validate to the same. -/
theorem models_stable (shape : Schema) (listed : shape ∈ models) (value checked : Value)
    (valid : shape.validate value = .ok checked) :
    shape.validate (shape.dump checked) = .ok (shape.dump checked) ∧
      shape.dump (shape.dump checked) = shape.dump checked ∧
      shape.setNames (shape.dump checked) = (shape.setNames checked).filter (· ≠ "service_dir") ∧
      ∀ renamed, Relation.ReflTransGen (Renames shape) value renamed → shape.validate renamed = .ok checked := by
  have regular : shape.isRegular = true := List.all_eq_true.mp models_regular shape listed
  have shown := List.all_eq_true.mp models_shown shape listed
  obtain ⟨name, model, rfl⟩ := models_model shape listed
  have hidden (field : FieldName) (schema : Schema) (member : (field, schema) ∈ model) :
      field.shown = decide (field.name ≠ "service_dir") := beq_iff_eq.mp (List.all_eq_true.mp shown (field, schema) member)
  refine ⟨validate_dump name regular value checked valid, dump_dump _ checked,
    setNames_dump name "service_dir" regular hidden value checked valid, ?_⟩
  intro renamed renames
  exact validate_renamed regular valid renames

/-- Memory as text and a network, both under plain names. -/
def sized : Value := .obj [("memory_size", .str "512"), ("vpc", .obj [("subnet_ids", .arr [])])]

/-- The same under their keys. -/
def respelled : Value := .obj [("memorySize", .str "512"), ("vpc", .obj [("subnetIds", .arr [])])]

theorem sized_renames : Relation.ReflTransGen (Renames provider) sized respelled := by
  have network : Renames vpc (.obj [("subnet_ids", .arr [])]) (.obj [("subnetIds", .arr [])]) := by
    have moves : Moves "subnet_ids" "subnetIds" [("subnet_ids", .arr [])] [("subnetIds", .arr [])] := by
      refine ⟨rfl, rfl, rfl, ?_⟩
      intro key other same
      simp [Table.find?_cons, other, same]
    exact .field (List.mem_of_getElem? (rfl : vpc.fields[0]? = some _)) (by decide) (by decide) (by decide) moves
  have memory : Moves "memory_size" "memorySize" [("memory_size", .str "512"), ("vpc", .obj [("subnet_ids", .arr [])])]
      [("memorySize", .str "512"), ("vpc", .obj [("subnet_ids", .arr [])])] := by
    refine ⟨rfl, rfl, rfl, ?_⟩
    intro key other same
    simp [Table.find?_cons, other, same]
  have inside : Replaces "vpc" (.obj [("subnet_ids", .arr [])]) (.obj [("subnetIds", .arr [])])
      [("memorySize", .str "512"), ("vpc", .obj [("subnet_ids", .arr [])])]
      [("memorySize", .str "512"), ("vpc", .obj [("subnetIds", .arr [])])] := by
    refine ⟨rfl, rfl, ?_⟩
    intro key other
    simp [Table.find?_cons, other]
  exact .tail (.single (.field (List.mem_of_getElem? (rfl : provider.fields[4]? = some _)) (by decide) (by decide) (by decide)
    memory)) (.inField (List.mem_of_getElem? (rfl : provider.fields[7]? = some _)) (by decide) inside (.optional network))

theorem sized_stable :
    let checked := .obj [("memorySize", .int 512), ("vpc", .obj [("subnetIds", .arr [])])]
    provider.validate sized = .ok checked ∧ provider.validate checked = .ok checked ∧
      provider.validate respelled = .ok checked := by
  have valid : provider.validate sized = .ok (.obj [("memorySize", .int 512), ("vpc", .obj [("subnetIds", .arr [])])]) := rfl
  have stable := models_stable provider (by simp [models]) sized _ valid
  exact ⟨valid, stable.1, stable.2.2.2 respelled sized_renames⟩

end FunctionStack.Shapes
