import FunctionStack.Proofs.Compile.Build
import FunctionStack.Proofs.Text.Listing
import FunctionStack.Proofs.Value.Alike
import FunctionStack.Proofs.Value.Table
import FunctionStack.Storage.Hashing
import Mathlib.Logic.Relation

/-!
Hashing several files at once. The tasks of a pool look their paths up, read, and store what they hashed, one turn each
in any order; whatever the order, they find and remember what hashing one path after the other does.
-/

namespace FunctionStack

namespace Files

/-- The bytes of a file, where it can be read. -/
def bytes? (files : Files) (path : String) : Option Bytes := (files.readBlob path).toOption.map Blob.data

/-- What a path hashes to, where its file can be read. -/
def hash? (files : Files) (path : String) : Option String := (files.hash path).toOption

theorem hash?_bytes (files : Files) (path : String) :
    files.hash? path = (files.bytes? path).map Digest.contentHash := by
  rw [hash?, hash, bytes?]
  cases files.readBlob path with
  | ok blob => exact congrArg some blob.hash_eq
  | error failure => rfl

theorem hash?_some (files : Files) (path value : String) : files.hash? path = some value ↔ files.hash path = .ok value := by
  rw [hash?]
  cases files.hash path <;> simp [Except.toOption]

/-- A path that can be handed to the system fails to be hashed only because its file cannot be read. -/
theorem hash?_none (files : Files) (path : String) (plain : holdsNul path = false) (unreadable : files.hash? path = none) :
    ∃ reason, files.openFile path = .error reason ∧ files.hash path = .error (.because (.artifactUnreadable reason)) := by
  cases opened : files.openFile path with
  | ok content =>
      have read : files.read path = .ok content := by rw [Files.read, plain, if_neg Bool.false_ne_true, opened]
      rw [hash?, hash, readBlob, read] at unreadable
      cases unreadable
  | error reason =>
      have read : files.read path = .error (.storage reason) := by
        rw [Files.read, plain, if_neg Bool.false_ne_true, opened]
      exact ⟨reason, rfl, by rw [hash, readBlob, read]; rfl⟩

/-- Several files are streamed as they are now, if all of them can be read. -/
theorem stream_ok (files : Files) (paths : List String) (data : Bytes) : files.stream paths = .ok data ↔
    ∃ parts, List.Forall₂ (fun path bytes => files.bytes? path = some bytes) paths parts ∧
      data = parts.foldr (· ++ ·) .empty := by
  induction paths generalizing data with
  | nil => simp [stream, eq_comm]
  | cons path rest ih =>
      have bytes (part : Bytes) : files.bytes? path = some part ↔ ∃ blob, files.readBlob path = .ok blob ∧ blob.data = part := by
        rw [bytes?]
        cases files.readBlob path <;> simp [Except.toOption]
      rw [stream, Result.bind_ok]
      constructor
      · rintro ⟨blob, read, streamed⟩
        obtain ⟨others, more, same⟩ := (Result.bind_ok _ _ _).mp streamed
        obtain ⟨parts, each, rfl⟩ := (ih others).mp more
        exact ⟨blob.data :: parts, .cons ((bytes _).mpr ⟨blob, read, rfl⟩) each, ((Result.pure_ok _ _).mp same).symm⟩
      · rintro ⟨parts, each, rfl⟩
        cases each with
        | cons first others =>
            obtain ⟨blob, read, rfl⟩ := (bytes _).mp first
            exact ⟨blob, read, (Result.bind_ok _ _ _).mpr ⟨_, (ih _).mpr ⟨_, others, rfl⟩, rfl⟩⟩

end Files

namespace HashMemory

/-- What a path hashes to by the memory, or else by its file. -/
def expected (memory : HashMemory) (files : Files) (path : String) : Option String :=
  (memory.known.find? path).or (files.hash? path)

variable (memory : HashMemory) (files : Files)

theorem hash_expected (path value : String) (expects : memory.expected files path = some value) :
    ∃ left, memory.hash files path = (.ok value, left) ∧
      ∀ other, left.known.find? other = if other = path then some value else memory.known.find? other := by
  unfold expected at expects
  unfold hash
  cases known : memory.known.find? path with
  | some remembered =>
      rw [known, Option.some_or, Option.some.injEq] at expects
      refine ⟨memory, by rw [expects], fun other => ?_⟩
      split
      case isTrue same => rw [same, known, expects]
      case isFalse => rfl
  | none =>
      rw [known, Option.none_or, Files.hash?_some] at expects
      exact ⟨_, by rw [expects], fun other => Table.find?_insert memory.known path other value⟩

theorem hash_unexpected (path : String) (plain : Files.holdsNul path = false) (fails : memory.expected files path = none) :
    ∃ reason, files.openFile path = .error reason ∧
      memory.hash files path = (.error (.because (.artifactUnreadable reason)), memory) := by
  rw [expected, Option.or_eq_none_iff] at fails
  obtain ⟨reason, opened, failed⟩ := Files.hash?_none files path plain fails.2
  exact ⟨reason, opened, by rw [hash, fails.1, failed]⟩

/-- Once a path has been hashed, it is remembered as expected; of other paths nothing changes. -/
theorem hash_lookup (path other : String) (plain : Files.holdsNul path = false) :
    (memory.hash files path).2.known.find? other =
      if other = path then memory.expected files path else memory.known.find? other := by
  cases expects : memory.expected files path with
  | some value =>
      obtain ⟨left, hashed, lookup⟩ := memory.hash_expected files path value expects
      rw [hashed, lookup]
  | none =>
      obtain ⟨reason, _, failed⟩ := memory.hash_unexpected files path plain expects
      rw [failed]
      split
      case isTrue same => rw [same, (Option.or_eq_none_iff.mp expects).1]
      case isFalse => rfl

theorem hash_ok_iff (path value : String) (plain : Files.holdsNul path = false) :
    (memory.hash files path).1 = .ok value ↔ memory.expected files path = some value := by
  cases expects : memory.expected files path with
  | some known =>
      obtain ⟨left, hashed, _⟩ := memory.hash_expected files path known expects
      rw [hashed, Except.ok.injEq, Option.some.injEq]
  | none =>
      obtain ⟨reason, _, failed⟩ := memory.hash_unexpected files path plain expects
      simp [failed]

theorem expected_isSome (path : String) : (memory.expected files path).isSome = true ↔
    memory.known.has path = true ∨ (files.bytes? path).isSome = true := by
  rw [expected, Option.isSome_or, Bool.or_eq_true, Table.has, Files.hash?_bytes, Option.isSome_map]

/-- The paths that hash to something, each with its hash. -/
def expectedAll (paths : List String) : Table String :=
  paths.filterMap fun path => (memory.expected files path).map (path, ·)

theorem expectedAll_congr (other : HashMemory) (paths : List String)
    (same : ∀ path ∈ paths, other.known.find? path = memory.known.find? path) :
    other.expectedAll files paths = memory.expectedAll files paths := by
  refine List.filterMap_congr fun path member => ?_
  rw [expected, same path member, expected]

theorem mem_expectedAll (paths : List String) (path value : String) :
    (path, value) ∈ memory.expectedAll files paths ↔ path ∈ paths ∧ memory.expected files path = some value := by
  simp only [expectedAll, List.mem_filterMap, Option.map_eq_some_iff, Prod.mk.injEq]
  constructor
  · rintro ⟨own, member, hash, expects, rfl, rfl⟩
    exact ⟨member, expects⟩
  · rintro ⟨member, expects⟩
    exact ⟨path, member, value, expects, rfl, rfl⟩

theorem keys_expectedAll (paths : List String) :
    (memory.expectedAll files paths).keys = paths.filter fun path => (memory.expected files path).isSome := by
  induction paths with
  | nil => rfl
  | cons path rest ih =>
      rw [expectedAll, List.filterMap_cons]
      cases expects : memory.expected files path with
      | some value =>
          rw [List.filter_cons_of_pos (by simp [expects]), ← ih]
          rfl
      | none =>
          rw [List.filter_cons_of_neg (by simp [expects]), ← ih]
          rfl

/-- One path after the other: all that hash to something are found, and remembered from then on. -/
theorem warmAll_expected (paths : List String) (plain : ∀ path ∈ paths, Files.holdsNul path = false)
    (distinct : paths.Nodup) :
    ∃ left, warmAll files paths memory = (.ok (memory.expectedAll files paths), left) ∧
      ∀ path, left.known.find? path = if path ∈ paths then memory.expected files path else memory.known.find? path := by
  induction paths generalizing memory with
  | nil => exact ⟨memory, rfl, fun path => (if_neg (List.not_mem_nil)).symm⟩
  | cons first rest ih =>
      obtain ⟨here, others⟩ := List.forall_mem_cons.mp plain
      obtain ⟨fresh, unrepeated⟩ := List.nodup_cons.mp distinct
      cases expects : memory.expected files first with
      | some value =>
          obtain ⟨between, hashed, lookup⟩ := memory.hash_expected files first value expects
          have apart (path : String) (member : path ∈ rest) : between.known.find? path = memory.known.find? path := by
            have other : path ≠ first := fun same => fresh (same ▸ member)
            rw [lookup, if_neg other]
          obtain ⟨left, warmed, final⟩ := ih between others unrepeated
          refine ⟨left, ?_, fun path => ?_⟩
          · simp only [warmAll, hashed, warmed, expectedAll_congr memory files between rest apart]
            simp [expectedAll, expects, Except.map]
          · rw [final]
            by_cases later : path ∈ rest
            · rw [if_pos later, if_pos (List.mem_cons_of_mem _ later), expected, apart path later, expected]
            · rw [if_neg later, lookup]
              by_cases same : path = first
              · rw [if_pos same, if_pos (same ▸ List.mem_cons_self ..), same, expects]
              · rw [if_neg same, if_neg (List.not_mem_cons_of_ne_of_not_mem same later)]
      | none =>
          obtain ⟨reason, _, failed⟩ := memory.hash_unexpected files first here expects
          obtain ⟨left, warmed, final⟩ := ih memory others unrepeated
          refine ⟨left, ?_, fun path => ?_⟩
          · simp only [warmAll, failed, Failure.because, warmed]
            simp [expectedAll, expects]
          · rw [final]
            by_cases same : path = first
            · rw [same, if_neg fresh, if_pos (List.mem_cons_self ..), expects]
              exact (Option.or_eq_none_iff.mp expects).1
            · simp only [List.mem_cons, same, false_or]

/-- Several paths, in any order and number, with workers if their number is given. -/
theorem warm_expected (paths : List String) (workers : Option Int) (plain : ∀ path ∈ paths, Files.holdsNul path = false)
    (positive : workers.all (0 < ·) = true) :
    ∃ left, memory.warm files paths workers = (.ok (memory.expectedAll files (Text.sorted (Text.distinct paths))), left) ∧
      ∀ path, left.known.find? path = if path ∈ paths then memory.expected files path else memory.known.find? path := by
  obtain ⟨left, warmed, lookup⟩ := memory.warmAll_expected files (Text.sorted (Text.distinct paths))
    (fun path member => plain path ((Text.mem_sorted_distinct paths path).mp member)) (Text.sorted_distinct_nodup paths)
  have idle : workers.any (· ≤ 0) = false := by
    cases workers with
    | none => rfl
    | some count => simpa using positive
  refine ⟨left, ?_, fun path => by simpa only [Text.mem_sorted_distinct] using lookup path⟩
  rw [warm, idle, if_neg Bool.false_ne_true]
  cases paths with
  | nil =>
      have none : Text.sorted (Text.distinct []) = [] := by simp [Text.distinct, Text.sorted]
      rw [none] at warmed ⊢
      exact warmed
  | cons first rest => exact warmed

end HashMemory

/-- How far a task has come with its path. -/
inductive HashTask where
  | waiting
  /-- Nothing is remembered for the path. -/
  | missed
  | hashed (value : String)
  | done (result : Option String)

namespace HashTask

/-- One turn of a task. Looking up and storing happen under a lock, and reading outside of it. -/
inductive Turn (files : Files) (path : String) : HashMemory → HashTask → HashMemory → HashTask → Prop
  | find (memory : HashMemory) (value : String) (known : memory.known.find? path = some value) :
      Turn files path memory .waiting memory (.done (some value))
  | miss (memory : HashMemory) (unknown : memory.known.find? path = none) : Turn files path memory .waiting memory .missed
  | read (memory : HashMemory) (value : String) (hashes : files.hash path = .ok value) :
      Turn files path memory .missed memory (.hashed value)
  | fail (memory : HashMemory) (error : CompileError) (failed : files.hash path = .error (.rejected error)) :
      Turn files path memory .missed memory (.done none)
  | store (memory : HashMemory) (value : String) :
      Turn files path memory (.hashed value) ⟨memory.known.insert path value⟩ (.done (some value))

/-- What holds of a task and of what is remembered for its path, from where the pool started. -/
def Stands (start : HashMemory) (files : Files) (memory : HashMemory) (path : String) : HashTask → Prop
  | .waiting => memory.known.find? path = start.known.find? path
  | .missed => start.known.find? path = none ∧ memory.known.find? path = none
  | .hashed value => start.known.find? path = none ∧ files.hash? path = some value
  | .done result => result = start.expected files path ∧ memory.known.find? path = result

theorem Turn.apart {files : Files} {path : String} {memory left : HashMemory} {task later : HashTask}
    (turn : Turn files path memory task left later) (other : String) (others : other ≠ path) :
    left.known.find? other = memory.known.find? other := by
  cases turn with
  | store value => rw [Table.find?_insert, if_neg others]
  | _ => rfl

theorem Turn.stands {files : Files} {path : String} {memory left : HashMemory} {task later : HashTask}
    (turn : Turn files path memory task left later) (start : HashMemory) (stands : task.Stands start files memory path) :
    later.Stands start files left path := by
  cases turn with
  | find value known =>
      have same : memory.known.find? path = start.known.find? path := stands
      exact ⟨by rw [HashMemory.expected, ← same, known, Option.some_or], known⟩
  | miss unknown => exact ⟨stands.symm.trans unknown, unknown⟩
  | read value hashes => exact ⟨stands.1, (files.hash?_some path value).mpr hashes⟩
  | fail error failed =>
      refine ⟨?_, stands.2⟩
      rw [HashMemory.expected, stands.1, Option.none_or, Files.hash?, failed]
      rfl
  | store value =>
      refine ⟨?_, by rw [Table.find?_insert, if_pos rfl]⟩
      rw [HashMemory.expected, stands.1, Option.none_or, stands.2]

end HashTask

/-- The memory that the tasks of a pool share, and the tasks by their paths. -/
structure HashPool where
  memory : HashMemory
  tasks : Table HashTask

namespace HashPool

def queue (paths : List String) : Table HashTask := paths.map (·, .waiting)

def begin (memory : HashMemory) (paths : List String) : HashPool := ⟨memory, queue paths⟩

/-- Some task takes a turn. -/
inductive Step (files : Files) : HashPool → HashPool → Prop
  | turn {memory left : HashMemory} {path : String} {task later : HashTask} (before after : Table HashTask)
      (turn : task.Turn files path memory left later) :
      Step files ⟨memory, before ++ (path, task) :: after⟩ ⟨left, before ++ (path, later) :: after⟩

abbrev Runs (files : Files) : HashPool → HashPool → Prop := Relation.ReflTransGen (Step files)

def Finished (pool : HashPool) : Prop := ∀ path task, (path, task) ∈ pool.tasks → ∃ result, task = .done result

/-- The results of the tasks, leaving out those that found their file unreadable. -/
def collected (pool : HashPool) : Table String :=
  pool.tasks.filterMap fun
    | (path, .done result) => result.map (path, ·)
    | _ => none

/-- A pool on its way from a start. -/
structure Reached (start : HashMemory) (files : Files) (paths : List String) (pool : HashPool) : Prop where
  keys : pool.tasks.keys = paths
  stands : ∀ path task, (path, task) ∈ pool.tasks → task.Stands start files pool.memory path
  others : ∀ path, path ∉ paths → pool.memory.known.find? path = start.known.find? path

variable {start : HashMemory} {files : Files} {paths : List String}

theorem begin_reached (start : HashMemory) (files : Files) (paths : List String) :
    Reached start files paths (begin start paths) where
  keys := by
    rw [begin, queue, Table.keys, List.map_map]
    exact List.map_id _
  stands := by
    intro path task member
    obtain ⟨_, _, same⟩ := List.mem_map.mp member
    cases same
    rfl
  others := fun _ _ => rfl

/-- A turn keeps what holds of the tasks: it touches the memory at its own path only, and the paths are distinct. -/
theorem Step.reached {pool next : HashPool} (step : Step files pool next) (distinct : paths.Nodup)
    (reached : Reached start files paths pool) : Reached start files paths next := by
  obtain ⟨before, after, turn⟩ := step
  rename_i memory left path task later
  obtain ⟨keys, stands, others⟩ := reached
  simp only [Table.keys, List.map_append, List.map_cons] at keys
  have unrepeated : (before.map Prod.fst ++ path :: after.map Prod.fst).Nodup := keys.symm ▸ distinct
  rw [List.nodup_middle, List.nodup_cons] at unrepeated
  refine ⟨by simpa only [Table.keys, List.map_append, List.map_cons] using keys, fun other found member => ?_,
    fun other unlisted => ?_⟩
  · have cases : (other, found) ∈ before ++ after ∨ (other, found) = (path, later) := by
      rcases List.mem_append.mp member with early | late
      · exact Or.inl (List.mem_append_left _ early)
      · rcases List.mem_cons.mp late with own | late
        · exact Or.inr own
        · exact Or.inl (List.mem_append_right _ late)
    rcases cases with elsewhere | own
    · have apart : other ≠ path := by
        rintro rfl
        rw [← List.map_append] at unrepeated
        exact unrepeated.1 (List.mem_map.mpr ⟨_, elsewhere, rfl⟩)
      have stood := stands other found (by
        rcases List.mem_append.mp elsewhere with early | late
        · exact List.mem_append_left _ early
        · exact List.mem_append_right _ (List.mem_cons_of_mem _ late))
      have same := turn.apart other apart
      cases found <;> simpa only [HashTask.Stands, same] using stood
    · cases own
      exact turn.stands start (stands path task (by simp))
  · have apart : other ≠ path := by
      rintro rfl
      exact unlisted (keys ▸ by simp)
    exact (turn.apart other apart).trans (others other unlisted)

/-- A run of turns keeps it. -/
theorem run_reached {pool next : HashPool} (run : Runs files pool next) (distinct : paths.Nodup)
    (reached : Reached start files paths pool) : Reached start files paths next := by
  induction run with
  | refl => exact reached
  | tail _ step ih => exact step.reached distinct ih

/-- A pool that has finished found and remembers what was expected. -/
theorem Reached.finished {pool : HashPool} (reached : Reached start files paths pool) (finished : pool.Finished) :
    pool.collected = start.expectedAll files paths ∧ ∀ path, pool.memory.known.find? path =
      if path ∈ paths then start.expected files path else start.known.find? path := by
  constructor
  · rw [collected, HashMemory.expectedAll, ← reached.keys, Table.keys, List.filterMap_map]
    refine List.filterMap_congr fun entry member => ?_
    obtain ⟨path, task⟩ := entry
    obtain ⟨result, rfl⟩ := finished path task member
    obtain ⟨same, _⟩ := reached.stands path _ member
    rw [same]
    rfl
  · intro path
    split
    case isTrue listed =>
      rw [← reached.keys] at listed
      obtain ⟨⟨_, task⟩, member, rfl⟩ := List.mem_map.mp listed
      obtain ⟨result, rfl⟩ := finished _ task member
      obtain ⟨same, held⟩ := reached.stands _ _ member
      rw [held, same]
    case isFalse unlisted => exact reached.others path unlisted

/-- However the tasks take their turns, a pool finds and remembers what hashing one path after the other does. -/
theorem run_expected (distinct : paths.Nodup) {pool : HashPool} (run : Runs files (begin start paths) pool)
    (finished : pool.Finished) :
    pool.collected = start.expectedAll files paths ∧ ∀ path, pool.memory.known.find? path =
      if path ∈ paths then start.expected files path else start.known.find? path :=
  (run_reached run distinct (begin_reached start files paths)).finished finished

/-- A task by itself gets to its end. -/
theorem alone (files : Files) (path : String) (plain : Files.holdsNul path = false) (memory : HashMemory)
    (before after : Table HashTask) :
    ∃ left result, Runs files ⟨memory, before ++ (path, .waiting) :: after⟩ ⟨left, before ++ (path, .done result) :: after⟩ := by
  cases known : memory.known.find? path with
  | some value => exact ⟨memory, some value, .single (.turn before after (.find memory value known))⟩
  | none =>
      have missed : Runs files _ _ := .single (.turn before after (.miss memory known))
      cases hashes : files.hash? path with
      | some value =>
          have read := (files.hash?_some path value).mp hashes
          exact ⟨_, some value, (missed.tail (.turn before after (.read memory value read))).tail
            (.turn before after (.store memory value))⟩
      | none =>
          obtain ⟨reason, _, failed⟩ := files.hash?_none path plain hashes
          exact ⟨memory, none, missed.tail (.turn before after (.fail memory _ failed))⟩

/-- A pool can always run to its end, here by one task after the other. -/
theorem finishes (files : Files) (paths : List String) (plain : ∀ path ∈ paths, Files.holdsNul path = false)
    (memory : HashMemory) (settled : Table HashTask) (ended : Finished ⟨memory, settled⟩) :
    ∃ pool, Runs files ⟨memory, settled ++ queue paths⟩ pool ∧ pool.Finished := by
  induction paths generalizing memory settled with
  | nil => exact ⟨_, .refl, by simpa [queue, Finished] using ended⟩
  | cons path rest ih =>
      obtain ⟨here, others⟩ := List.forall_mem_cons.mp plain
      obtain ⟨left, result, first⟩ := alone files path here memory settled (queue rest)
      obtain ⟨pool, run, finished⟩ := ih others left (settled ++ [(path, .done result)]) (by
        intro other task member
        rcases List.mem_append.mp member with early | own
        · exact ended other task early
        · cases List.mem_singleton.mp own
          exact ⟨result, rfl⟩)
      rw [List.append_assoc] at run
      exact ⟨pool, first.trans run, finished⟩

end HashPool

end FunctionStack
