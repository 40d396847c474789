import FunctionStack.Config.Provider
import FunctionStack.Text.Case
import FunctionStack.Value.Json

/-!
The canonical text of a function's configuration, in two generations. The legacy one orders only top-level
keys, by collation; the current one orders the keys of every table by code point.
-/

namespace FunctionStack

inductive Generation where
  | legacy
  | current
  deriving DecidableEq, Repr

/-- A layer of the same template as a function refers to it. -/
structure LayerSnapshot where
  name : String
  ref : String
  properties : Fields
  artifact : Option String

namespace Generation

def version : Generation → String
  | legacy => "20200924"
  | current => "20201221"

/-- Whether the provider pins its functions to the legacy generation. -/
def isPinned (provider : ProviderConfig) : Bool :=
  provider.hashingVersion.any fun pinned => decide (pinned < current.version)

/-- An enforced update moves every service to the current generation. -/
def select (provider : ProviderConfig) (enforce : Bool) : Generation :=
  if isPinned provider && !enforce then legacy else current

/-- Fields in the collation order of their keys, each of which is worked out once. -/
def collated (fields : Fields) : Fields :=
  let ranked := fields.map fun field => (Text.collationKey field.1, field)
  (ranked.mergeSort fun a b => a.1.precedes b.1).map (·.2)

def layersKey : String := "layerConfigurations"

def legacyLayers (layers : List LayerSnapshot) : Fields :=
  layers.foldl (fun table layer => Table.insert table layer.name (.obj (collated layer.properties))) []

def currentLayer (layer : LayerSnapshot) : Value :=
  .obj [("name", .str layer.name), ("ref", .str layer.ref), ("properties", .obj layer.properties)]

def snapshot (properties : Fields) (layers : List LayerSnapshot) : Generation → Value
  | legacy => .obj (collated (Table.insert properties layersKey (.obj (legacyLayers layers))))
  | current => Value.sortKeys (.obj (Table.insert properties layersKey (.arr (layers.map currentLayer))))

def serialize (generation : Generation) (properties : Fields) (layers : List LayerSnapshot) : String :=
  (generation.snapshot properties layers).toJson .compact

end Generation

end FunctionStack
