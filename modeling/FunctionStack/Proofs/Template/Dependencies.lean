import FunctionStack.Proofs.Compile.Build
import FunctionStack.Template.Resource
import Mathlib.Data.List.Infix
import Mathlib.Data.String.Basic
import Mathlib.Tactic

/-!
What a resource is created after, as it is recorded call by call. A call leaves out the empty ids and those of earlier calls and
puts the others in front of what is recorded or behind it, so that nothing that is recorded ever moves. Within one call nothing
is left out: an id that the first call to mention it mentions twice is recorded twice.
-/

namespace FunctionStack

/-- Ids for one resource to depend on, in front of what it depends on already or behind. -/
structure DependencyCall where
  ids : List String
  first : Bool

namespace Value

theorem given_str (text : String) : (Value.str text).given = decide (text ≠ "") := rfl

theorem isIn_strs (text : String) (texts : List String) : (Value.str text).isIn (texts.map .str) = decide (text ∈ texts) := by
  have same (other : String) : Value.same (.str text) (.str other) = decide (text = other) := by rw [Value.same]
  rw [isIn, List.any_map, Bool.eq_iff_iff, List.any_eq_true, decide_eq_true_eq]
  simp only [Function.comp_apply, same, decide_eq_true_eq]
  constructor
  · rintro ⟨other, listed, rfl⟩
    exact listed
  · intro listed
    exact ⟨text, listed, rfl⟩

end Value

namespace DependencyCall

/-- What a call has to record beside some ids. -/
def news (call : DependencyCall) (ids : List String) : List String := call.ids.filter fun id => id ≠ "" && id ∉ ids

/-- The ids after a call. -/
def extend (call : DependencyCall) (ids : List String) : List String :=
  if call.first then call.news ids ++ ids else ids ++ call.news ids

theorem mem_news (call : DependencyCall) (ids : List String) (id : String) :
    id ∈ call.news ids ↔ id ∈ call.ids ∧ id ≠ "" ∧ id ∉ ids := by
  simp [news]

theorem mem_extend (call : DependencyCall) (ids : List String) (id : String) :
    id ∈ call.extend ids ↔ id ∈ ids ∨ id ≠ "" ∧ id ∈ call.ids := by
  have split : id ∈ call.extend ids ↔ id ∈ call.news ids ∨ id ∈ ids := by
    unfold extend
    split
    · exact List.mem_append
    · exact List.mem_append.trans or_comm
  rw [split, mem_news]
  by_cases known : id ∈ ids
  · simp [known]
  · simp [known, and_comm]

theorem count_extend (call : DependencyCall) (ids : List String) (id : String) :
    (call.extend ids).count id = (call.news ids).count id + ids.count id := by
  unfold extend
  split
  · exact List.count_append
  · rw [List.count_append, Nat.add_comm]

/-- What is recorded stays together. -/
theorem infix_extend (call : DependencyCall) (ids : List String) : ids <:+: call.extend ids := by
  unfold extend
  split
  · exact (List.suffix_append _ _).isInfix
  · exact (List.prefix_append _ _).isInfix

/-- How often the first of some calls to mention an id mentions it. -/
def mentions (calls : List DependencyCall) (id : String) : Nat :=
  (calls.find? fun call => id ∈ call.ids).elim 0 fun call => call.ids.count id

theorem mentions_known (calls : List DependencyCall) (call : DependencyCall) (id : String)
    (known : ∃ earlier ∈ calls, id ∈ earlier.ids) : mentions (calls ++ [call]) id = mentions calls id := by
  obtain ⟨earlier, among, mentioned⟩ := known
  have found : (calls.find? fun call => id ∈ call.ids).isSome := by
    rw [List.find?_isSome]
    exact ⟨earlier, among, by simpa using mentioned⟩
  rw [mentions, mentions, List.find?_append, Option.or_of_isSome found]

theorem mentions_new (calls : List DependencyCall) (call : DependencyCall) (id : String)
    (fresh : ¬ ∃ earlier ∈ calls, id ∈ earlier.ids) : mentions (calls ++ [call]) id = call.ids.count id := by
  have none : (calls.find? fun call => id ∈ call.ids) = none := by
    rw [List.find?_eq_none]
    intro earlier among
    simpa using fun mentioned => fresh ⟨earlier, among, mentioned⟩
  rw [mentions, List.find?_append, none, Option.none_or, List.find?_cons]
  by_cases mentioned : id ∈ call.ids
  · simp [mentioned]
  · simp [mentioned, List.count_eq_zero_of_not_mem mentioned]

/-- What calls have recorded: each id that one of them mentions, as often as the first one does. -/
structure Recorded (calls : List DependencyCall) (ids : List String) : Prop where
  listed : ∀ id, id ∈ ids ↔ id ≠ "" ∧ ∃ call ∈ calls, id ∈ call.ids
  counted : ∀ id, id ≠ "" → ids.count id = mentions calls id

theorem recorded_nil : Recorded [] [] := ⟨by simp, fun _ _ => rfl⟩

/-- One more call. -/
theorem Recorded.extend {calls : List DependencyCall} {ids : List String} (recorded : Recorded calls ids)
    (call : DependencyCall) : Recorded (calls ++ [call]) (call.extend ids) where
  listed := by
    intro id
    rw [mem_extend, recorded.listed id]
    simp only [List.mem_append, List.mem_singleton, or_and_right, exists_or, exists_eq_left]
    exact and_or_left.symm
  counted := by
    intro id named
    rw [count_extend]
    by_cases known : id ∈ ids
    · have mentioned := ((recorded.listed id).mp known).2
      have nothing : (call.news ids).count id = 0 := by
        apply List.count_eq_zero_of_not_mem
        simp [mem_news, known]
      rw [nothing, Nat.zero_add, recorded.counted id named, mentions_known calls call id mentioned]
    · have fresh : ¬ ∃ earlier ∈ calls, id ∈ earlier.ids := fun mentioned => known ((recorded.listed id).mpr ⟨named, mentioned⟩)
      have taken : (call.news ids).count id = call.ids.count id := by
        rw [news, List.count_filter (by simp [named, known])]
      rw [List.count_eq_zero_of_not_mem known, Nat.add_zero, taken, mentions_new calls call id fresh]

/-- Ids are recorded once each exactly if the first call to mention an id does so once. -/
theorem Recorded.nodup_iff {calls : List DependencyCall} {ids : List String} (recorded : Recorded calls ids) :
    ids.Nodup ↔ ∀ id, id ≠ "" → mentions calls id ≤ 1 := by
  rw [List.nodup_iff_count_le_one]
  constructor
  · intro once id named
    exact recorded.counted id named ▸ once id
  · intro once id
    by_cases named : id = ""
    · have absent : id ∉ ids := fun member => ((recorded.listed id).mp member).1 named
      rw [List.count_eq_zero_of_not_mem absent]
      exact Nat.zero_le 1
    · exact recorded.counted id named ▸ once id named

end DependencyCall

namespace Resource

open DependencyCall (Recorded mentions)

/-- What a call makes of a resource. -/
def depend (resource : Resource) (call : DependencyCall) : Resource :=
  if call.first then resource.dependFirstOn (call.ids.map .str) else resource.dependOn (call.ids.map .str)

/-- One call after another. -/
def dependAll (resource : Resource) (calls : List DependencyCall) : Resource := calls.foldl depend resource

/-- The resource as it is before it depends on anything. -/
def unordered (resource : Resource) : Resource := { resource with dependsOn := [] }

theorem newDependencies_strs (resource : Resource) (ids : List String) (held : resource.dependsOn = ids.map .str)
    (call : DependencyCall) : resource.newDependencies (call.ids.map .str) = (call.news ids).map .str := by
  rw [newDependencies, List.filter_map, held, DependencyCall.news]
  congr 1
  apply List.filter_congr
  intro id _
  rw [Function.comp_apply, Value.given_str, Value.isIn_strs, decide_not, decide_not]

theorem depend_dependsOn (resource : Resource) (ids : List String) (held : resource.dependsOn = ids.map .str)
    (call : DependencyCall) : (resource.depend call).dependsOn = (call.extend ids).map .str := by
  have added := resource.newDependencies_strs ids held call
  unfold depend DependencyCall.extend
  split
  · rw [dependFirstOn, added, held, List.map_append]
  · rw [dependOn, added, held, List.map_append]

/-- Whatever calls there are, what they have recorded so far is recorded. -/
theorem dependAll_recorded (resource : Resource) (calls : List DependencyCall) :
    ∃ ids, (resource.unordered.dependAll calls).dependsOn = ids.map .str ∧ Recorded calls ids := by
  induction calls using List.reverseRecOn with
  | nil => exact ⟨[], rfl, DependencyCall.recorded_nil⟩
  | append_singleton calls call ih =>
      obtain ⟨ids, held, recorded⟩ := ih
      refine ⟨call.extend ids, ?_, recorded.extend call⟩
      rw [dependAll, List.foldl_concat]
      exact depend_dependsOn _ ids held call

/-- More calls leave what is recorded in one piece. -/
theorem dependAll_infix (resource : Resource) (ids : List String) (held : resource.dependsOn = ids.map .str)
    (calls : List DependencyCall) :
    ∃ more, (resource.dependAll calls).dependsOn = more.map .str ∧ ids <:+: more := by
  induction calls generalizing resource ids with
  | nil => exact ⟨ids, held, List.infix_rfl⟩
  | cons call calls ih =>
      obtain ⟨more, after, inside⟩ := ih (resource.depend call) (call.extend ids) (depend_dependsOn resource ids held call)
      exact ⟨more, after, (call.infix_extend ids).trans inside⟩

/-- Calls record no empty id and otherwise every id that they mention; what has been recorded stays together in its order. An id
is recorded as often as the first call to mention it does, so that all are recorded once exactly if no call repeats an id that
is new to it. -/
theorem dependAll_dependencies (resource : Resource) (calls : List DependencyCall) :
    ∃ ids, (resource.unordered.dependAll calls).dependsOn = ids.map .str ∧
      "" ∉ ids ∧
      (∀ id, id ∈ ids ↔ id ≠ "" ∧ ∃ call ∈ calls, id ∈ call.ids) ∧
      (∀ id, id ≠ "" → ids.count id = mentions calls id) ∧
      (ids.Nodup ↔ ∀ id, id ≠ "" → mentions calls id ≤ 1) ∧
      ∀ earlier later, calls = earlier ++ later →
        ∃ before, (resource.unordered.dependAll earlier).dependsOn = before.map .str ∧ before <:+: ids := by
  obtain ⟨ids, held, recorded⟩ := resource.dependAll_recorded calls
  refine ⟨ids, held, fun empty => ((recorded.listed "").mp empty).1 rfl, recorded.listed, recorded.counted,
    recorded.nodup_iff, ?_⟩
  intro earlier later split
  obtain ⟨before, known, _⟩ := resource.dependAll_recorded earlier
  obtain ⟨more, after, inside⟩ := dependAll_infix _ before known later
  have whole : ids.map Value.str = more.map Value.str := by
    rw [← held, ← after, split, dependAll, dependAll, dependAll, List.foldl_append]
  have same : ids = more := List.map_injective_iff.mpr (fun _ _ => Value.str.inj) whole
  exact ⟨before, known, same ▸ inside⟩

/-- A call that repeats an id records it twice. -/
theorem dependAll_repeats : ∃ ids : List String, ((make "AWS::SNS::Topic" [] none).unordered.dependAll
    [⟨["Queue", "Queue"], false⟩]).dependsOn = ids.map .str ∧ ¬ ids.Nodup :=
  ⟨["Queue", "Queue"], rfl, by decide⟩

end Resource

end FunctionStack
