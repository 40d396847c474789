import FunctionStack.Naming
import FunctionStack.Template.Intrinsic
import FunctionStack.Template.Resource

/-!
The alias through which a function is called, where it has one. What calls a function through an alias is
created after it, because the alias points at a version that must exist first.
-/

namespace FunctionStack

structure TargetAlias where
  name : String
  id : String

namespace TargetAlias

def provisioned (function : String) : TargetAlias := ⟨"provisioned", Naming.provisionedAlias function⟩

def snapStart (function : String) : TargetAlias := ⟨"snap", Naming.snapStartAlias function⟩

/-- The most specific target of calls: the alias, or else the function. -/
def target (function : String) : Option TargetAlias → Value
  | none => Intrinsic.getAtt (Naming.function function) "Arn"
  | some via => Intrinsic.join ":" [Intrinsic.getAtt (Naming.function function) "Arn", .str via.name]

def qualifier : Option TargetAlias → String
  | none => "$LATEST"
  | some via => via.name

def attach (resource : Resource) : Option TargetAlias → Resource
  | none => resource
  | some via => resource.dependOn [.str via.id]

/-- The alias resource of a version, with the properties that it has beyond its name. -/
def resource (via : TargetAlias) (function version : String) (extra : Fields) : Resource :=
  { Resource.make "AWS::Lambda::Alias" ([
      ("FunctionName", Intrinsic.ref (Naming.function function)),
      ("FunctionVersion", Intrinsic.getAtt version "Version"),
      ("Name", .str via.name)] ++ extra) (some function) with
    dependsOn := [.str (Naming.function function)] }

end TargetAlias

end FunctionStack
