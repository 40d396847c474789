import FunctionStack.Compile.Workspace

/-!
Successful steps of a compilation, taken apart: a sequence of steps succeeds exactly if each step does in the
workspace that the one before it leaves.
-/

namespace FunctionStack

theorem Result.bind_ok {ε α β : Type} (result : Except ε α) (next : α → Except ε β) (b : β) :
    (result >>= next) = .ok b ↔ ∃ a, result = .ok a ∧ next a = .ok b := by
  cases result <;> simp [bind, Except.bind]

theorem Result.pure_ok {α : Type} (a b : α) : (pure a : Result α) = .ok b ↔ a = b := by
  simp [pure, Except.pure]

namespace Build

variable {α β : Type}

/-- What a step ends with, and the workspace that it leaves. -/
def outcome (step : Build α) (w : Workspace) : Result α × Workspace := step.run.run w

def Yields (step : Build α) (w : Workspace) (a : α) (left : Workspace) : Prop :=
  step.outcome w = (.ok a, left)

@[simp] theorem yields_pure (a b : α) (w left : Workspace) :
    Yields (pure a : Build α) w b left ↔ a = b ∧ w = left := by
  have run : (pure a : Build α).outcome w = (.ok a, w) := rfl
  simp [Yields, run]

theorem outcome_bind (step : Build α) (next : α → Build β) (w : Workspace) :
    (step >>= next).outcome w = match step.outcome w with
      | (.ok a, between) => (next a).outcome between
      | (.error failure, between) => (.error failure, between) := by
  change (ExceptT.bindCont next (step.run.run w).1).run (step.run.run w).2 = _
  unfold outcome
  rcases step.run.run w with ⟨_ | _, _⟩ <;> rfl

theorem outcome_get_bind (next : Workspace → Build β) (w : Workspace) : (get >>= next).outcome w = (next w).outcome w :=
  rfl

theorem yields_bind (step : Build α) (next : α → Build β) (w : Workspace) (b : β) (left : Workspace) :
    Yields (step >>= next) w b left ↔ ∃ a between, Yields step w a between ∧ Yields (next a) between b left := by
  unfold Yields
  rw [outcome_bind]
  rcases step.outcome w with ⟨failure | a, between⟩
  · simp
  · constructor
    · intro yields
      exact ⟨a, between, rfl, yields⟩
    · rintro ⟨_, _, same, yields⟩
      cases same
      exact yields

@[simp] theorem yields_get (next : Workspace → Build β) (w : Workspace) (b : β) (left : Workspace) :
    Yields (get >>= next) w b left ↔ Yields (next w) w b left := Iff.rfl

@[simp] theorem yields_modify (f : Workspace → Workspace) (w left : Workspace) (a : Unit) :
    Yields (modify f) w a left ↔ left = f w := by
  have run : (modify f : Build Unit).outcome w = (.ok (), f w) := rfl
  simp [Yields, run, eq_comm]

@[simp] theorem yields_modify_bind (f : Workspace → Workspace) (next : Unit → Build β) (w : Workspace) (b : β)
    (left : Workspace) : Yields (modify f >>= next) w b left ↔ Yields (next ()) (f w) b left := Iff.rfl

@[simp] theorem yields_ofResult (result : Result α) (w : Workspace) (a : α) (left : Workspace) :
    Yields (ofResult result) w a left ↔ result = .ok a ∧ left = w := by
  have run : (ofResult result).outcome w = (result, w) := rfl
  simp [Yields, run, eq_comm]

@[simp] theorem yields_ofResult_bind (result : Result α) (next : α → Build β) (w : Workspace) (b : β)
    (left : Workspace) :
    Yields (ofResult result >>= next) w b left ↔ ∃ a, result = .ok a ∧ Yields (next a) w b left := by
  simp [yields_bind, and_assoc]

theorem yields_forFunction (function : String) (step : Build α) (w : Workspace) (a : α) (left : Workspace) :
    Yields (forFunction function step) w a left ↔ Yields step w a left := by
  have run : (forFunction function step).outcome w =
      ((step.outcome w).1.mapError (attributed function), (step.outcome w).2) := rfl
  unfold Yields
  rw [run]
  rcases step.outcome w with ⟨failure | result, _⟩
  · constructor <;> intro same <;> cases congrArg Prod.fst same
  · exact Iff.rfl

theorem yields_addResource (id : String) (resource : Resource) (w left : Workspace) (a : Unit) :
    Yields (addResource id resource) w a left ↔
      ∃ graph, w.graph.add id resource = .ok graph ∧ left = { w with graph := graph } := by
  simp [addResource]

theorem yields_addOutput (id : String) (value : Value) (description : String) (w left : Workspace) (a : Unit) :
    Yields (addOutput id value description) w a left ↔
      ∃ graph, w.graph.addOutput id value description = .ok graph ∧ left = { w with graph := graph } := by
  simp [addOutput]

theorem yields_addResource_bind (id : String) (resource : Resource) (next : Unit → Build β) (w : Workspace) (b : β)
    (left : Workspace) : Yields (addResource id resource >>= next) w b left ↔
      ∃ graph, w.graph.add id resource = .ok graph ∧ Yields (next ()) { w with graph := graph } b left := by
  simp [addResource, bind_assoc]

theorem yields_addOutput_bind (id : String) (value : Value) (description : String) (next : Unit → Build β) (w : Workspace)
    (b : β) (left : Workspace) : Yields (addOutput id value description >>= next) w b left ↔
      ∃ graph, w.graph.addOutput id value description = .ok graph ∧ Yields (next ()) { w with graph := graph } b left := by
  simp [addOutput, bind_assoc]

end Build

end FunctionStack
