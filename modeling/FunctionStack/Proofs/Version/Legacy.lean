import FunctionStack.Proofs.Text.Collation
import FunctionStack.Proofs.Text.Listing
import FunctionStack.Proofs.Value.Json.Unique
import FunctionStack.Proofs.Value.Table
import FunctionStack.Version.Generation

/-!
The text of a configuration in the legacy generation. The keys of the function and of each layer are collated, and everything
below them stays as it is: the text tells all but the order of those keys, and which layers another one of their name replaces.
-/

namespace FunctionStack

namespace Table

variable {α : Type}

theorem keys_merge_empty (other : Table α) : keys (merge [] other) = Text.distinct other.keys := by
  induction other using List.reverseRecOn with
  | nil => rfl
  | append_singleton other entry ih =>
      have step : merge [] (other ++ [entry]) = (merge [] other).insert entry.1 entry.2 := List.foldl_append ..
      have keys : keys (other ++ [entry]) = keys other ++ [entry.1] := List.map_append ..
      rw [step, keys_insert, ih, keys, Text.distinct_append_single]
      simp only [Text.mem_distinct]

end Table

theorem Value.obj_isProper_perm {first second : Fields} (permuted : first.Perm second)
    (proper : (Value.obj first).isProper = true) : (Value.obj second).isProper = true := by
  rw [obj_isProper] at proper ⊢
  exact ⟨(permuted.map Prod.fst).nodup_iff.mp proper.1, fun key value member => proper.2 key value (permuted.mem_iff.mpr member)⟩

namespace Generation

/-- A table that is written with its keys collated: no key stands in it twice, and all keys are ASCII. -/
structure Collatable (fields : Fields) : Prop where
  proper : (Value.obj fields).isProper = true
  ascii : ∀ key ∈ Table.keys fields, Text.IsAscii key

instance (fields : Fields) : Decidable (Collatable fields) :=
  decidable_of_iff ((Value.obj fields).isProper = true ∧ ∀ key ∈ Table.keys fields, Text.IsAscii key)
    ⟨fun ⟨proper, ascii⟩ => ⟨proper, ascii⟩, fun ⟨proper, ascii⟩ => ⟨proper, ascii⟩⟩

/-- The keys of a table in the order of collation. -/
def InCollation (fields : Fields) : Prop := fields.Pairwise fun a b => Text.Collates a.1 b.1

theorem Collatable.distinct {fields : Fields} (collatable : Collatable fields) : (Table.keys fields).Nodup :=
  ((Value.obj_isProper fields).mp collatable.proper).1

theorem Collatable.permuted {first second : Fields} (collatable : Collatable first) (permuted : first.Perm second) :
    Collatable second where
  proper := Value.obj_isProper_perm permuted collatable.proper
  ascii key member := collatable.ascii key ((permuted.map Prod.fst).mem_iff.mpr member)

theorem collated_perm (fields : Fields) : (collated fields).Perm fields := by
  unfold collated
  refine ((List.mergeSort_perm ..).map Prod.snd).trans ?_
  rw [List.map_map]
  exact (List.map_id fields).symm ▸ List.Perm.refl _

theorem collated_ordered (fields : Fields) :
    (collated fields).Pairwise fun a b => (Text.collationKey a.1).precedes (Text.collationKey b.1) = true := by
  unfold collated
  rw [List.pairwise_map]
  refine (List.pairwise_mergeSort (fun a b c => Text.precedes_trans a.1 b.1 c.1)
    (fun a b => Text.precedes_total a.1 b.1) _).imp_of_mem fun {a b} one two before => ?_
  have ranked (entry : Text.CollationKey × String × Value) (member : entry ∈ (fields.map fun field =>
      (Text.collationKey field.1, field)).mergeSort fun a b => a.1.precedes b.1) : Text.collationKey entry.2.1 = entry.1 := by
    obtain ⟨field, _, rfl⟩ := List.mem_map.mp (List.mem_mergeSort.mp member)
    rfl
  rwa [ranked a one, ranked b two]

section Collation

variable {first second : Fields}

theorem Collatable.collated (collatable : Collatable first) : Collatable (collated first) :=
  collatable.permuted (collated_perm first).symm

theorem Collatable.inCollation (collatable : Collatable first) : InCollation (Generation.collated first) := by
  have distinct := collatable.collated.distinct
  rw [Table.keys, List.Nodup, List.pairwise_map] at distinct
  refine ((collated_ordered first).and distinct).imp_of_mem fun {a b} one two both => ?_
  exact (Text.precedes_iff (collatable.collated.ascii a.1 (List.mem_map_of_mem one))
    (collatable.collated.ascii b.1 (List.mem_map_of_mem two)) both.2).mp both.1

/-- Collation forgets the order of the keys, and nothing else. -/
theorem collated_iff (collatable : Collatable first) : collated first = collated second ↔ first.Perm second := by
  constructor
  · intro same
    exact (collated_perm first).symm.trans (same ▸ collated_perm second)
  · intro permuted
    have perm := (collated_perm first).trans (permuted.trans (collated_perm second).symm)
    refine perm.eq_of_pairwise (fun a b one two before after => ?_) (collated_ordered first) (collated_ordered second)
    have own := perm.mem_iff.mpr two
    have keys := Text.collationKey_injective (collatable.collated.ascii a.1 (List.mem_map_of_mem one))
      (collatable.collated.ascii b.1 (List.mem_map_of_mem own)) (Text.precedes_antisymm _ _ before after)
    exact List.inj_on_of_nodup_map collatable.collated.distinct one own keys

end Collation

/-- The names of some layers, in the order of their first occurrences. -/
def layerNames (layers : List LayerSnapshot) : List String := Text.distinct (layers.map LayerSnapshot.name)

/-- The properties that stand under a name: those of the last layer with that name. -/
def lastProperties (layers : List LayerSnapshot) (name : String) : Fields :=
  ((layers.reverse.find? fun layer => layer.name = name).map LayerSnapshot.properties).getD []

section Layers

variable (layers others : List LayerSnapshot) (name : String)

theorem legacyLayers_merge : legacyLayers layers =
    Table.merge [] (layers.map fun layer => (layer.name, .obj (collated layer.properties))) := by
  rw [legacyLayers, Table.merge, List.foldl_map]

theorem legacyLayers_keys : Table.keys (legacyLayers layers) = layerNames layers := by
  rw [legacyLayers_merge, Table.keys_merge_empty, Table.keys, List.map_map]
  rfl

theorem legacyLayers_distinct : (Table.keys (legacyLayers layers)).Nodup := by
  rw [legacyLayers_keys]
  exact Text.distinct_nodup _

theorem mem_layerNames : name ∈ layerNames layers ↔ ∃ layer ∈ layers, layer.name = name := by
  rw [layerNames, Text.mem_distinct, List.mem_map]

theorem legacyLayers_find? : Table.find? (legacyLayers layers) name =
    if name ∈ layerNames layers then some (.obj (collated (lastProperties layers name))) else none := by
  have listed (layers : List LayerSnapshot) :
      Table.find? (layers.map fun layer => (layer.name, Value.obj (collated layer.properties))) name =
        (layers.find? fun layer => layer.name = name).map fun layer => .obj (collated layer.properties) := by
    induction layers with
    | nil => rfl
    | cons layer rest ih =>
        rw [List.map_cons, Table.find?_cons, List.find?_cons, ih]
        by_cases same : name = layer.name
        · simp [same]
        · simp [same, Ne.symm same]
  have known : name ∈ layerNames layers ↔ (layers.reverse.find? fun layer => layer.name = name).isSome := by
    rw [mem_layerNames, List.find?_isSome]
    simp
  rw [legacyLayers_merge, Table.find?_merge, ← List.map_reverse, listed, Table.find?_nil, Option.or_none, lastProperties]
  cases found : layers.reverse.find? fun layer => layer.name = name with
  | none => rw [if_neg (by simp [known, found])]; rfl
  | some layer => rw [if_pos (by simp [known, found])]; rfl

variable {layers others name}

theorem lastProperties_collatable (each : ∀ layer ∈ layers, Collatable layer.properties) (named : name ∈ layerNames layers) :
    Collatable (lastProperties layers name) := by
  obtain ⟨layer, member, same⟩ := (mem_layerNames layers name).mp named
  have present : (layers.reverse.find? fun layer => layer.name = name).isSome :=
    List.find?_isSome.mpr ⟨layer, List.mem_reverse.mpr member, by simpa using same⟩
  obtain ⟨last, found⟩ := Option.isSome_iff_exists.mp present
  rw [lastProperties, found]
  exact each last (List.mem_reverse.mp (List.mem_of_find?_eq_some found))

theorem legacyLayers_proper (each : ∀ layer ∈ layers, Collatable layer.properties) :
    (Value.obj (legacyLayers layers)).isProper = true := by
  refine (Value.obj_isProper _).mpr ⟨legacyLayers_distinct layers, fun name value member => ?_⟩
  have found := Table.find?_of_mem (legacyLayers layers) name value (legacyLayers_distinct layers) member
  rw [legacyLayers_find?] at found
  split_ifs at found with named
  rw [← Option.some.inj found]
  exact (lastProperties_collatable each named).collated.proper

/-- Layers leave their names in order, and under each name the properties of the last one up to the order of keys. -/
theorem legacyLayers_iff (each : ∀ layer ∈ layers, Collatable layer.properties) : legacyLayers layers = legacyLayers others ↔
    layerNames layers = layerNames others ∧
      ∀ name ∈ layerNames layers, (lastProperties layers name).Perm (lastProperties others name) := by
  constructor
  · intro same
    have names : layerNames layers = layerNames others := by rw [← legacyLayers_keys, same, legacyLayers_keys]
    refine ⟨names, fun name member => ?_⟩
    have found := legacyLayers_find? layers name
    rw [same, legacyLayers_find?, if_pos (names ▸ member), if_pos member, Option.some.injEq, Value.obj.injEq] at found
    exact (collated_iff (lastProperties_collatable each member)).mp found.symm
  · rintro ⟨names, properties⟩
    have keys : Table.keys (legacyLayers layers) = Table.keys (legacyLayers others) := by
      rw [legacyLayers_keys, legacyLayers_keys, names]
    refine Table.ext _ _ keys (legacyLayers_distinct layers) fun name => ?_
    rw [legacyLayers_find?, legacyLayers_find?, ← names]
    split_ifs with member
    · rw [(collated_iff (lastProperties_collatable each member)).mpr (properties name member)]
    · rfl

end Layers

/-- What the legacy generation can write: ASCII keys in the tables that it collates, and the key for layers not in use. -/
structure IsPlain (properties : Fields) (layers : List LayerSnapshot) : Prop where
  own : Collatable properties
  free : layersKey ∉ Table.keys properties
  each : ∀ layer ∈ layers, Collatable layer.properties

instance (properties : Fields) (layers : List LayerSnapshot) : Decidable (IsPlain properties layers) :=
  decidable_of_iff (Collatable properties ∧ layersKey ∉ Table.keys properties ∧ ∀ layer ∈ layers, Collatable layer.properties)
    ⟨fun ⟨own, free, each⟩ => ⟨own, free, each⟩, fun ⟨own, free, each⟩ => ⟨own, free, each⟩⟩

section Whole

variable {first second : Fields} {layers others : List LayerSnapshot}

/-- The table that is written, before its keys are collated. -/
def whole (properties : Fields) (layers : List LayerSnapshot) : Fields :=
  properties ++ [(layersKey, .obj (legacyLayers layers))]

theorem IsPlain.snapshot (plain : IsPlain first layers) : legacy.snapshot first layers = .obj (collated (whole first layers)) := by
  rw [Generation.snapshot, Table.insert_fresh _ _ _ plain.free, whole]

theorem IsPlain.whole (plain : IsPlain first layers) : Collatable (whole first layers) where
  proper := by
    rw [Generation.whole, ← Table.insert_fresh _ _ _ plain.free]
    exact Value.insert_isProper _ _ _ plain.own.proper (legacyLayers_proper plain.each)
  ascii key member := by
    rw [Table.keys, Generation.whole, List.map_append, List.mem_append] at member
    rcases member with own | last
    · exact plain.own.ascii key own
    · rw [List.mem_singleton.mp last]
      exact (by decide +kernel : Text.IsAscii layersKey)

theorem whole_perm_iff (also : IsPlain second others) :
    (whole first layers).Perm (whole second others) ↔ first.Perm second ∧ legacyLayers layers = legacyLayers others := by
  constructor
  · intro permuted
    have listed : (layersKey, Value.obj (legacyLayers layers)) ∈ whole second others :=
      permuted.mem_iff.mp (List.mem_append_right _ (List.mem_singleton_self _))
    have there : (layersKey, Value.obj (legacyLayers others)) ∈ whole second others :=
      List.mem_append_right _ (List.mem_singleton_self _)
    have same := (Prod.mk.inj (List.inj_on_of_nodup_map also.whole.distinct listed there rfl)).2
    refine ⟨?_, Value.obj.inj same⟩
    rw [whole, whole, same] at permuted
    exact (List.perm_append_right_iff _).mp permuted
  · rintro ⟨permuted, same⟩
    rw [whole, whole, same]
    exact permuted.append_right _

end Whole

/-- Two legacy texts are equal exactly if the properties are, up to the order of their own keys, and the layers leave the same
names with the same properties, up to the order of their own keys. In the text those keys are collated. -/
theorem serialize_legacy_iff (first second : Fields) (layers others : List LayerSnapshot) (plain : IsPlain first layers)
    (also : IsPlain second others) :
    (legacy.serialize first layers = legacy.serialize second others ↔
      first.Perm second ∧ layerNames layers = layerNames others ∧
        ∀ name ∈ layerNames layers, (lastProperties layers name).Perm (lastProperties others name)) ∧
    ∃ written configurations : Fields, legacy.serialize first layers = (Value.obj written).toJson .compact ∧
      written.Perm (first ++ [(layersKey, .obj configurations)]) ∧ InCollation written ∧
      Table.keys configurations = layerNames layers ∧
      ∀ name configuration, (name, configuration) ∈ configurations → ∃ own : Fields, configuration = .obj own ∧
        own.Perm (lastProperties layers name) ∧ InCollation own := by
  constructor
  · rw [← legacyLayers_iff plain.each, ← whole_perm_iff also, ← collated_iff plain.whole, serialize, serialize,
      plain.snapshot, also.snapshot]
    constructor
    · intro same
      exact Value.obj.inj (JsonStyle.toJson_unique .compact JsonStyle.compact_oneLine _ _ plain.whole.collated.proper
        also.whole.collated.proper same)
    · intro same
      rw [same]
  · refine ⟨collated (whole first layers), legacyLayers layers, ?_, collated_perm _, plain.whole.inCollation,
      legacyLayers_keys layers, fun name configuration member => ?_⟩
    · rw [serialize, plain.snapshot]
    · have found := Table.find?_of_mem _ name configuration (legacyLayers_distinct layers) member
      rw [legacyLayers_find?] at found
      split_ifs at found with named
      exact ⟨_, (Option.some.inj found).symm, collated_perm _, (lastProperties_collatable plain.each named).inCollation⟩

/-- A function with this environment, under keys that differ in their case. -/
def cased (environment : Value) : Fields := [("timeout", .int 6), ("Timeout", .str "6"), ("Environment", environment)]

/-- A layer, and another one of its name. -/
def replaced (properties : Fields) : List LayerSnapshot :=
  [⟨"base", "Base", [("LayerName", .str "earlier")], none⟩, ⟨"base", "Again", properties, none⟩]

/-- The order of the keys of a function and of a layer leaves no trace, and neither does a layer that is replaced; the order of
the variables of an environment does. -/
theorem environment_order_counts :
    legacy.serialize (cased (.obj [("b", .int 1), ("a", .bool true)])) (replaced [("LayerName", .str "base"), ("B", .null)]) =
        legacy.serialize (cased (.obj [("b", .int 1), ("a", .bool true)])).reverse
          [⟨"base", "Again", [("B", .null), ("LayerName", .str "base")], none⟩] ∧
      legacy.serialize (cased (.obj [("b", .int 1), ("a", .bool true)])) [] ≠
        legacy.serialize (cased (.obj [("a", .bool true), ("b", .int 1)])) [] := by
  constructor
  · refine (serialize_legacy_iff _ _ _ _ (by decide +kernel) (by decide +kernel)).1.mpr
      ⟨(List.reverse_perm _).symm, by decide +kernel, fun name member => ?_⟩
    have base : name = "base" := by simpa [layerNames, Text.distinct, replaced] using member
    subst base
    exact List.Perm.swap ..
  · intro same
    have permuted := ((serialize_legacy_iff _ _ _ _ (by decide +kernel) (by decide +kernel)).1.mp same).1
    have listed := permuted.mem_iff.mp (List.mem_cons_of_mem _ (List.mem_cons_of_mem _ (List.mem_singleton_self _)))
    simp [cased] at listed

end Generation

end FunctionStack
