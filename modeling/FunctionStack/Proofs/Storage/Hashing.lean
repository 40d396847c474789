import FunctionStack.Proofs.Storage.HashPool

/-!
What a memory of hashes answers after any course of events. It answers with the content that a path had when it was first
read since the memory was last cleared; files that cannot be read leave no trace.
-/

namespace FunctionStack

open Digest (contentHash)

/-- The files there are, and the hashes remembered of them. -/
structure Hasher where
  files : Files
  memory : HashMemory

/-- What may happen: files are written and deleted, or the memory is used in one of its ways. -/
inductive HasherStep where
  | change (files : Files)
  | hash (path : String)
  | warm (paths : List String) (workers : Option Int)
  | stream (paths : List String)
  | clear

namespace HasherStep

/-- Whether a step hashes a path, from its file or from the memory. -/
def hashes (path : String) : HasherStep → Bool
  | hash own => own = path
  | warm paths _ => paths.contains path
  | _ => false

def clears : HasherStep → Bool
  | clear => true
  | _ => false

/-- The paths to be hashed can be handed to the system, and there are workers. -/
def IsRegular : HasherStep → Prop
  | hash path => Files.holdsNul path = false
  | warm paths workers => (∀ path ∈ paths, Files.holdsNul path = false) ∧ workers.all (0 < ·) = true
  | _ => True

end HasherStep

namespace Hasher

/-- A step, with its tasks in any order if it has several. -/
inductive Performs : Hasher → HasherStep → Hasher → Prop
  | change (files later : Files) (memory : HashMemory) : Performs ⟨files, memory⟩ (.change later) ⟨later, memory⟩
  | hash (files : Files) (memory : HashMemory) (path : String) :
      Performs ⟨files, memory⟩ (.hash path) ⟨files, (memory.hash files path).2⟩
  | warm (files : Files) (memory : HashMemory) (paths : List String) (workers : Option Int) (pool : HashPool)
      (run : HashPool.Runs files (.begin memory (Text.sorted (Text.distinct paths))) pool) (finished : pool.Finished) :
      Performs ⟨files, memory⟩ (.warm paths workers) ⟨files, pool.memory⟩
  | stream (hasher : Hasher) (paths : List String) : Performs hasher (.stream paths) hasher
  | clear (files : Files) (memory : HashMemory) : Performs ⟨files, memory⟩ .clear ⟨files, .empty⟩

/-- A course of steps from an empty memory, each with the files that there were when it was performed. -/
inductive Course (start : Files) : List (Files × HasherStep) → Hasher → Prop
  | nil : Course start [] ⟨start, .empty⟩
  | snoc {past : List (Files × HasherStep)} {hasher left : Hasher} {step : HasherStep} (course : Course start past hasher)
      (regular : step.IsRegular) (performs : hasher.Performs step left) :
      Course start (past ++ [(hasher.files, step)]) left

/-- The steps after the last one that cleared the memory. -/
def sinceClear (past : List (Files × HasherStep)) : List (Files × HasherStep) :=
  (past.reverse.takeWhile fun moment => !moment.2.clears).reverse

/-- The bytes that a path had when it was first read to be hashed. -/
def firstRead (path : String) (past : List (Files × HasherStep)) : Option Bytes :=
  past.findSome? fun (files, step) => if step.hashes path then files.bytes? path else none

theorem sinceClear_clear (past : List (Files × HasherStep)) (files : Files) : sinceClear (past ++ [(files, .clear)]) = [] := by
  rw [sinceClear, List.reverse_append, List.reverse_singleton, List.singleton_append, List.takeWhile_cons]
  rfl

theorem sinceClear_append (past : List (Files × HasherStep)) (files : Files) (step : HasherStep) (keeps : step.clears = false) :
    sinceClear (past ++ [(files, step)]) = sinceClear past ++ [(files, step)] := by
  rw [sinceClear, List.reverse_append, List.reverse_singleton, List.singleton_append, List.takeWhile_cons]
  simp [keeps, sinceClear]

theorem firstRead_append (path : String) (past : List (Files × HasherStep)) (files : Files) (step : HasherStep) :
    firstRead path (past ++ [(files, step)]) =
      (firstRead path past).or (if step.hashes path then files.bytes? path else none) := by
  rw [firstRead, List.findSome?_append, List.findSome?_singleton, firstRead]

/-- What is remembered after a step that does not clear the memory. -/
theorem Performs.lookup {hasher left : Hasher} {step : HasherStep} (performs : hasher.Performs step left)
    (regular : step.IsRegular) (keeps : step.clears = false) (path : String) :
    left.memory.known.find? path =
      if step.hashes path then hasher.memory.expected hasher.files path else hasher.memory.known.find? path := by
  cases performs with
  | hash files memory own =>
      rw [HashMemory.hash_lookup memory files own path regular, HasherStep.hashes]
      by_cases same : path = own
      · rw [if_pos same, if_pos (by simp [same]), same]
      · rw [if_neg same, if_neg (by simpa using Ne.symm same)]
  | warm files memory paths workers pool run finished =>
      rw [(HashPool.run_expected (Text.sorted_distinct_nodup paths) run finished).2 path, HasherStep.hashes]
      simp only [Text.mem_sorted_distinct, List.contains_iff_mem]
  | clear => cases keeps
  | _ => rfl

/-- The memory knows each path as it was first read since it was cleared, and no others. -/
def Recalls (past : List (Files × HasherStep)) (memory : HashMemory) : Prop :=
  ∀ path, memory.known.find? path = (firstRead path (sinceClear past)).map contentHash

/-- What a path is expected to hash to is what it was first read as, the step at hand included. -/
theorem Recalls.expected {past : List (Files × HasherStep)} {memory : HashMemory} (recalls : Recalls past memory)
    (files : Files) (step : HasherStep) (path : String) (hashes : step.hashes path = true) (keeps : step.clears = false) :
    memory.expected files path = (firstRead path (sinceClear (past ++ [(files, step)]))).map contentHash := by
  rw [HashMemory.expected, recalls path, sinceClear_append past files step keeps, firstRead_append, if_pos hashes,
    Files.hash?_bytes]
  cases firstRead path (sinceClear past) <;> rfl

/-- One step keeps the memory what it should be. -/
theorem Performs.recalls {past : List (Files × HasherStep)} {hasher left : Hasher} {step : HasherStep}
    (performs : hasher.Performs step left) (regular : step.IsRegular) (recalls : Recalls past hasher.memory) :
    Recalls (past ++ [(hasher.files, step)]) left.memory := by
  intro path
  cases keeps : step.clears with
  | true =>
      cases performs with
      | clear files memory => rw [sinceClear_clear]; rfl
      | _ => cases keeps
  | false =>
      rw [performs.lookup regular keeps]
      cases hashes : step.hashes path with
      | true => rw [if_pos rfl, recalls.expected hasher.files step path hashes keeps]
      | false =>
          rw [if_neg Bool.false_ne_true, recalls path, sinceClear_append _ _ _ keeps, firstRead_append, hashes,
            if_neg Bool.false_ne_true, Option.or_none]

/-- A course of steps keeps it. -/
theorem Course.recalls {start : Files} {past : List (Files × HasherStep)} {hasher : Hasher}
    (course : Course start past hasher) : Recalls past hasher.memory := by
  induction course with
  | nil => exact fun path => rfl
  | snoc _ regular performs ih => exact performs.recalls regular ih

/-- What a hasher does next, after a past. -/
structure Faithful (past : List (Files × HasherStep)) (hasher : Hasher) : Prop where
  /-- A path hashes to what it was first read as, be it now. -/
  hash : ∀ path, Files.holdsNul path = false → ∀ value, (hasher.memory.hash hasher.files path).1 = .ok value ↔
    (firstRead path (sinceClear (past ++ [(hasher.files, .hash path)]))).map contentHash = some value
  /-- A path that was not read and cannot be read fails with the reason, and leaves no trace. -/
  unreadable : ∀ path, Files.holdsNul path = false →
    firstRead path (sinceClear (past ++ [(hasher.files, .hash path)])) = none →
    ∃ reason, hasher.files.openFile path = .error reason ∧
      hasher.memory.hash hasher.files path = (.error (.because (.artifactUnreadable reason)), hasher.memory)
  /-- A path hashes as soon as it can be read. -/
  readable : ∀ path bytes, hasher.files.bytes? path = some bytes →
    ∃ value, (hasher.memory.hash hasher.files path).1 = .ok value
  /-- Of several paths each one that is remembered or can be read is hashed, once and to what it was first read as. The
  others leave no trace. The order in which the tasks take their turns does not matter. -/
  warm : ∀ paths workers, (HasherStep.warm paths workers).IsRegular →
    ∃ table left, hasher.memory.warm hasher.files paths workers = (.ok table, left) ∧
      table.keys.Nodup ∧
      (∀ path, path ∈ table.keys ↔
        path ∈ paths ∧ (hasher.memory.known.has path = true ∨ (hasher.files.bytes? path).isSome = true)) ∧
      (∀ path value, (path, value) ∈ table →
        (firstRead path (sinceClear (past ++ [(hasher.files, .warm paths workers)]))).map contentHash = some value) ∧
      (∀ path ∈ paths, path ∉ table.keys → left.known.find? path = none) ∧
      ∀ pool, HashPool.Runs hasher.files (.begin hasher.memory (Text.sorted (Text.distinct paths))) pool →
        pool.Finished → pool.collected = table ∧ ∀ path, pool.memory.known.find? path = left.known.find? path
  /-- A stream is made of what the files hold now. -/
  stream : ∀ paths data, hasher.files.stream paths = .ok data ↔
    ∃ parts, List.Forall₂ (fun path bytes => hasher.files.bytes? path = some bytes) paths parts ∧
      data = parts.foldr (· ++ ·) .empty
  /-- And streaming leaves the memory as it is. -/
  aside : ∀ paths left, hasher.Performs (.stream paths) left → left = hasher

/-- After any course of steps the answers of a hasher are faithful to what was first read since it was cleared. -/
theorem Course.faithful {start : Files} {past : List (Files × HasherStep)} {hasher : Hasher}
    (course : Course start past hasher) : Faithful past hasher where
  hash := by
    intro path plain value
    rw [← course.recalls.expected hasher.files (.hash path) path (by simp [HasherStep.hashes]) rfl]
    exact hasher.memory.hash_ok_iff hasher.files path value plain
  unreadable := by
    intro path plain never
    have expected := course.recalls.expected hasher.files (.hash path) path (by simp [HasherStep.hashes]) rfl
    rw [never] at expected
    exact hasher.memory.hash_unexpected hasher.files path plain expected
  readable := by
    intro path bytes held
    have some : (hasher.memory.expected hasher.files path).isSome = true :=
      (hasher.memory.expected_isSome hasher.files path).mpr (Or.inr (by rw [held]; rfl))
    obtain ⟨value, expects⟩ := Option.isSome_iff_exists.mp some
    obtain ⟨left, hashed, _⟩ := hasher.memory.hash_expected hasher.files path value expects
    exact ⟨value, by rw [hashed]⟩
  warm := by
    intro paths workers regular
    obtain ⟨left, warmed, lookup⟩ := hasher.memory.warm_expected hasher.files paths workers regular.1 regular.2
    refine ⟨_, left, warmed, ?_, fun path => ?_, fun path value member => ?_, fun path member unlisted => ?_,
      fun pool run finished => ?_⟩
    · rw [HashMemory.keys_expectedAll]
      exact (Text.sorted_distinct_nodup paths).sublist List.filter_sublist
    · rw [HashMemory.keys_expectedAll, List.mem_filter, Text.mem_sorted_distinct, HashMemory.expected_isSome]
    · obtain ⟨listed, expects⟩ := (HashMemory.mem_expectedAll _ _ _ _ _).mp member
      rw [← course.recalls.expected hasher.files (.warm paths workers) path ?_ rfl]
      · exact expects
      · exact List.contains_iff_mem.mpr ((Text.mem_sorted_distinct paths path).mp listed)
    · rw [HashMemory.keys_expectedAll, List.mem_filter, Text.mem_sorted_distinct, not_and] at unlisted
      rw [lookup, if_pos member]
      exact Option.not_isSome_iff_eq_none.mp (unlisted member)
    · obtain ⟨found, remembered⟩ := HashPool.run_expected (Text.sorted_distinct_nodup paths) run finished
      refine ⟨found, fun path => ?_⟩
      rw [remembered, lookup]
      simp only [Text.mem_sorted_distinct]
  stream := fun paths data => Files.stream_ok hasher.files paths data
  aside := fun paths left performs => by cases performs; rfl

/-- A directory with one file. -/
def before : Files := ⟨[], .directory [("a", .file (.bytes (.ofText "one")))]⟩

/-- The file has changed, and there is another one. -/
def after : Files :=
  ⟨[], .directory [("a", .file (.bytes (.ofText "two"))), ("b", .file (.bytes (.ofText "three")))]⟩

/-- Two files are hashed, one of which is not there yet; then one changes and the other one is written. The first is
remembered as it was, and the second is read. -/
theorem course_faithful :
    ∃ past hasher, Course before past hasher ∧ hasher.files = after ∧
      (hasher.memory.hash after "a").1 = .ok (contentHash (Digest.textBytes "one")) ∧
      (hasher.memory.hash after "b").1 = .ok (contentHash (Digest.textBytes "three")) := by
  have plain (path : String) (member : path ∈ Text.sorted (Text.distinct ["b", "a", "b"])) : Files.holdsNul path = false := by
    rw [Text.mem_sorted_distinct] at member
    revert path
    decide
  obtain ⟨pool, run, finished⟩ := HashPool.finishes before _ plain .empty [] fun _ _ member => by cases member
  have start : Course before [] ⟨before, .empty⟩ := .nil
  have regular : (HasherStep.warm ["b", "a", "b"] (some 2)).IsRegular := ⟨by decide, rfl⟩
  have free : (HasherStep.change after).IsRegular := trivial
  have course := (start.snoc regular (.warm _ _ _ _ pool run finished)).snoc free (.change _ _ _)
  refine ⟨_, _, course, rfl, ?_, ?_⟩
  · exact (course.faithful.hash "a" (by decide) _).mpr rfl
  · exact (course.faithful.hash "b" (by decide) _).mpr rfl

end Hasher

end FunctionStack
