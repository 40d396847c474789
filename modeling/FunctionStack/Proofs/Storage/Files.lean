import FunctionStack.Proofs.Compile.Build
import FunctionStack.Proofs.Storage.Path
import FunctionStack.Proofs.Value.Table
import FunctionStack.Storage.Files

/-!
What stays where it is when files are written. A write changes one place in which there is no directory, and whoever makes
directories puts them where nothing is, so that every way that has been found stays open. A file is read by every path that
leads to it.
-/

namespace FunctionStack

namespace Tree

theorem at?_append (tree : Tree) (first second : List String) :
    tree.at? (first ++ second) = (tree.at? first).bind fun child => child.at? second := by
  induction first generalizing tree with
  | nil => rfl
  | cons name first ih =>
      rw [List.cons_append, at?, at?, Option.bind_assoc]
      exact congrArg _ (funext fun child => ih child)

theorem child?_put (new tree : Tree) (name other : String) (rest : List String) :
    (put new tree (name :: rest)).child? other =
      if other = name then some (put new ((tree.child? name).getD (.directory [])) rest) else tree.child? other := by
  rw [put]
  exact Table.find?_insert _ _ _ _

/-- What has been put somewhere is there. -/
theorem at?_put (new tree : Tree) (location : List String) : (put new tree location).at? location = some new := by
  induction location generalizing tree with
  | nil => rfl
  | cons name rest ih =>
      rw [at?, child?_put, if_pos rfl, Option.bind_some]
      exact ih _

/-- Above it there are directories. -/
theorem at?_put_above (new tree : Tree) (location rest : List String) (below : rest ≠ []) :
    ∃ entries, (put new tree (location ++ rest)).at? location = some (.directory entries) := by
  induction location generalizing tree with
  | nil =>
      obtain ⟨name, others, rfl⟩ := List.exists_cons_of_ne_nil below
      exact ⟨_, rfl⟩
  | cons name location ih =>
      rw [List.cons_append, at?, child?_put, if_pos rfl, Option.bind_some]
      exact ih _

/-- Elsewhere nothing has changed. -/
theorem at?_put_apart (new tree : Tree) (location other : List String) (first : ¬ location <+: other)
    (second : ¬ other <+: location) : (put new tree location).at? other = tree.at? other := by
  induction location generalizing tree other with
  | nil => exact absurd List.nil_prefix first
  | cons name rest ih =>
      cases other with
      | nil => exact absurd List.nil_prefix second
      | cons own more =>
          rw [at?, at?, child?_put]
          by_cases same : own = name
          · subst same
            rw [List.cons_prefix_cons, and_iff_right rfl] at first second
            rw [if_pos rfl, Option.bind_some, ih _ more first second]
            cases tree.child? own with
            | some child => rfl
            | none =>
                cases more with
                | nil => exact absurd List.nil_prefix second
                | cons part others => rfl
          · rw [if_neg same]

end Tree

namespace Files

variable {files left : Files}

/-- There is a directory above everything. -/
theorem node?_above {location rest : List String} {node : Node} (present : files.node? (location ++ rest) = some node)
    (below : rest ≠ []) : files.node? location = some .directory := by
  obtain ⟨tree, found, rfl⟩ := Option.map_eq_some_iff.mp present
  rw [Tree.at?_append] at found
  obtain ⟨above, there, child⟩ := Option.bind_eq_some_iff.mp found
  obtain ⟨name, others, rfl⟩ := List.exists_cons_of_ne_nil below
  cases above with
  | file content => cases child
  | directory entries => exact congrArg (Option.map Tree.node) there

theorem node?_parent {location : List String} {node : Node} (present : files.node? location = some node)
    (below : location ≠ []) : files.node? location.dropLast = some .directory := by
  rw [← List.dropLast_append_getLast below] at present
  exact node?_above present (List.cons_ne_nil _ _)

theorem node?_dropLast {location : List String} (directory : files.node? location = some .directory) :
    files.node? location.dropLast = some .directory := by
  by_cases empty : location = []
  · rwa [empty] at directory ⊢
  · exact node?_parent directory empty

/-- The working directory is there. -/
def IsRooted (files : Files) : Prop := files.node? files.workingDirectory = some .directory

theorem IsRooted.root (rooted : files.IsRooted) : files.node? [] = some .directory := by
  by_cases empty : files.workingDirectory = []
  · exact empty ▸ rooted
  · exact node?_above rooted empty

theorem IsRooted.startOf (rooted : files.IsRooted) (path : Path) : files.node? (files.startOf path) = some .directory := by
  unfold Files.startOf
  split
  · exact rooted.root
  · exact rooted

/-- Files after a write: all that was there still is, but for what stood in the place of the write, and that was no
directory. -/
structure Writes (files left : Files) (written : Option (List String)) : Prop where
  workingDirectory : left.workingDirectory = files.workingDirectory
  directories : ∀ location, files.node? location = some .directory → left.node? location = some .directory
  others : ∀ location node, files.node? location = some node → some location ≠ written → left.node? location = some node

theorem Writes.refl (files : Files) : files.Writes files none := ⟨rfl, fun _ found => found, fun _ _ found _ => found⟩

theorem Writes.trans {between : Files} {written : Option (List String)} (one : files.Writes between none)
    (two : between.Writes left written) : files.Writes left written where
  workingDirectory := two.workingDirectory.trans one.workingDirectory
  directories := fun location found => two.directories location (one.directories location found)
  others := fun location node found apart => two.others location node (one.others location node found (by simp)) apart

theorem Writes.rooted {written : Option (List String)} (writes : files.Writes left written) (rooted : files.IsRooted) :
    left.IsRooted := by
  rw [IsRooted, writes.workingDirectory]
  exact writes.directories _ rooted

/-- What is put where there is no directory, below one. -/
theorem put_writes (location : List String) (tree : Tree) (free : files.node? location ≠ some .directory)
    (parent : files.node? location.dropLast = some .directory) : files.Writes (files.put location tree) (some location) := by
  have others (other : List String) (node : Node) (found : files.node? other = some node) (apart : other ≠ location) :
      (files.put location tree).node? other = some node := by
    by_cases below : location <+: other
    · obtain ⟨rest, rfl⟩ := below
      have above := node?_above found fun none => apart (by rw [none, List.append_nil])
      exact absurd above free
    by_cases above : other <+: location
    · obtain ⟨rest, rfl⟩ := above
      have some : rest ≠ [] := fun none => apart (by rw [none, List.append_nil])
      have directory : files.node? other = .some .directory := by
        rw [List.dropLast_append_of_ne_nil some] at parent
        by_cases last : rest.dropLast = []
        · rwa [last, List.append_nil] at parent
        · exact node?_above parent last
      obtain ⟨entries, there⟩ := Tree.at?_put_above tree files.root other rest some
      rw [directory] at found
      rw [node?, put, there, ← found]
      rfl
    · rw [node?, put, Tree.at?_put_apart tree files.root location other below above]
      exact found
  refine ⟨rfl, fun other found => others other _ found ?_, fun other node found apart => others other node found ?_⟩
  · exact fun same => free (same ▸ found)
  · exact fun same => apart (congrArg _ same)

theorem node?_put (location : List String) (tree : Tree) : (files.put location tree).node? location = some tree.node := by
  rw [node?, put, Tree.at?_put]
  rfl

/-- Where nothing is, nothing is lost. -/
theorem put_fresh (location : List String) (tree : Tree) (free : files.node? location = none)
    (parent : files.node? location.dropLast = some .directory) : files.Writes (files.put location tree) none := by
  have changed : files.node? location ≠ some .directory := by simp [free]
  obtain ⟨start, directories, others⟩ := put_writes location tree changed parent
  refine ⟨start, directories, fun other node found _ => others other node found fun same => ?_⟩
  rw [Option.some.inj same, free] at found
  cases found

section Open

variable (directories : ∀ location, files.node? location = some .directory → left.node? location = some .directory)

include directories

/-- A way that has been found stays open, whoever goes it, as long as there are still directories on it. -/
theorem walk_still {path : String} {location target : List String} {parts : List String}
    (found : files.walk path location parts = .ok target) (other : String) : left.walk other location parts = .ok target := by
  induction parts generalizing location with
  | nil => exact found
  | cons part rest ih =>
      rw [Files.walk] at found ⊢
      cases here : files.node? location with
      | none => simp [here] at found
      | some node =>
          cases node with
          | file content => simp [here] at found
          | directory =>
              rw [here] at found
              rw [directories location here]
              dsimp only at found ⊢
              split_ifs at found ⊢
              · exact ih found
              · exact ih found
              · exact ih found

theorem locate_still (start : left.workingDirectory = files.workingDirectory) (path : String) (location : List String)
    (found : files.locate path = .ok location) : left.locate path = .ok location := by
  rw [Files.locate] at found ⊢
  split_ifs at found ⊢
  have same : left.startOf (Path.ofText path) = files.startOf (Path.ofText path) := by
    rw [startOf, startOf, start]
  rw [same]
  exact walk_still directories found path

end Open

theorem Writes.walk {written : Option (List String)} (writes : files.Writes left written) {path : String}
    {location target : List String} {parts : List String} (found : files.walk path location parts = .ok target)
    (other : String) : left.walk other location parts = .ok target :=
  walk_still writes.directories found other

theorem Writes.locate {written : Option (List String)} (writes : files.Writes left written) (path : String)
    (location : List String) (found : files.locate path = .ok location) : left.locate path = .ok location :=
  locate_still writes.directories writes.workingDirectory path location found

theorem makeMissing_writes (reached : Path) (location parts : List String)
    (directory : files.node? location = some .directory) (made : files.makeMissing reached location parts = .ok left) :
    files.Writes left none := by
  induction parts generalizing files reached location with
  | nil =>
      cases made
      exact .refl _
  | cons part rest ih =>
      rw [makeMissing] at made
      split_ifs at made
      · exact ih _ _ (node?_dropLast directory) made
      · cases here : files.node? (location ++ [part]) with
        | some node =>
            rw [here] at made
            cases node with
            | directory => exact ih _ _ here made
            | file content => cases made
        | none =>
            rw [here] at made
            have parent : files.node? (location ++ [part]).dropLast = some .directory := by
              rwa [List.dropLast_concat]
            exact (put_fresh _ _ here parent).trans (ih _ _ (node?_put _ _) made)

theorem makeDirectory_writes (path : String) (made : files.makeDirectory path = .ok left) : files.Writes left none := by
  rw [makeDirectory, Result.bind_ok] at made
  obtain ⟨location, _, made⟩ := made
  split at made
  · cases made
  case h_2 here =>
    split at made
    case h_1 parent =>
      cases made
      exact put_fresh location _ here parent
    all_goals cases made

theorem ensureDirectories_writes (rooted : files.IsRooted) (path : Path) (made : files.ensureDirectories path = .ok left) :
    files.Writes left none := by
  unfold ensureDirectories at made
  split at made
  case h_1 after found =>
    cases made
    exact makeDirectory_writes _ found
  case h_2 => exact makeMissing_writes _ _ _ (rooted.startOf path) made
  case h_3 =>
    split at made
    · cases made
      exact .refl files
    · cases made

/-- A file has been written in the place that its path leads to. -/
theorem writeAt_writes (rooted : files.IsRooted) (path : String) (content : FileContent)
    (written : files.writeAt path content = .ok left) : endsInSlash path = false ∧ ∃ location,
      left.locate path = .ok location ∧ left.node? location = some (.file content) ∧ files.Writes left (some location) := by
  rw [writeAt, Result.bind_ok] at written
  obtain ⟨location, found, written⟩ := written
  have done (named : ¬ endsInSlash path = true) (free : files.node? location ≠ some .directory)
      (parent : files.node? location.dropLast = some .directory) (same : files.put location (.file content) = left) :
      endsInSlash path = false ∧ ∃ location,
        left.locate path = .ok location ∧ left.node? location = some (.file content) ∧ files.Writes left (some location) := by
    subst same
    have writes := put_writes location (.file content) free parent
    exact ⟨by simpa using named, location, writes.locate path location found, node?_put location _, writes⟩
  split at written
  · cases written
  case h_2 known here =>
    split at written
    · cases written
    case isFalse named =>
      have below : location ≠ [] := by
        rintro rfl
        rw [rooted.root] at here
        cases here
      exact done named (by simp [here]) (node?_parent here below) (Except.ok.inj written)
  case h_3 here =>
    split at written
    · cases written
    case isFalse named =>
      split at written
      case h_1 parent => exact done named (by simp [here]) parent (Except.ok.inj written)
      all_goals cases written

/-- What is opened is a file where the path leads. -/
theorem openFile_ok (path : String) (content : FileContent) : files.openFile path = .ok content ↔
    endsInSlash path = false ∧
      ∃ location, files.locate path = .ok location ∧ files.node? location = some (.file content) := by
  rw [openFile, Result.bind_ok]
  constructor
  · rintro ⟨node, found, held⟩
    rw [find, Result.bind_ok] at found
    obtain ⟨location, leads, found⟩ := found
    split at found <;> try split at found
    all_goals cases found
    · cases held
    case h_3.isFalse here named =>
      cases held
      exact ⟨by simpa using named, location, leads, here⟩
  · rintro ⟨named, location, leads, here⟩
    refine ⟨.file content, ?_, rfl⟩
    rw [find, Result.bind_ok]
    exact ⟨location, leads, by simp [here, named]⟩

theorem read_ok (path : String) (content : FileContent) : files.read path = .ok content ↔
    holdsNul path = false ∧ endsInSlash path = false ∧
      ∃ location, files.locate path = .ok location ∧ files.node? location = some (.file content) := by
  rw [read, ← openFile_ok]
  cases holdsNul path with
  | true => simp [fault]
  | false =>
      cases files.openFile path with
      | ok _ => simp
      | error _ => simp

theorem walk_append (path : String) (location : List String) (first second : List String) :
    files.walk path location (first ++ second) = files.walk path location first >>= fun mid => files.walk path mid second := by
  induction first generalizing location with
  | nil => rfl
  | cons part rest ih =>
      rw [List.cons_append, walk, walk]
      cases files.node? location with
      | none => rfl
      | some node =>
          cases node with
          | file content => rfl
          | directory =>
              dsimp only
              split_ifs
              · exact ih _
              · exact ih _
              · rfl
              · exact ih _

/-- A way without dots leads down. -/
theorem walk_plain {path : String} {location target : List String} {parts : List String}
    (found : files.walk path location parts = .ok target) (plain : ∀ part ∈ parts, part ≠ "." ∧ part ≠ "..") :
    target = location ++ parts := by
  induction parts generalizing location with
  | nil =>
      cases found
      exact (List.append_nil _).symm
  | cons part rest ih =>
      obtain ⟨own, others⟩ := List.forall_mem_cons.mp plain
      rw [walk] at found
      split at found
      · cases found
      · cases found
      · rw [if_neg own.1, if_neg own.2] at found
        split at found
        · cases found
        · rw [ih found others, List.append_assoc]
          rfl

/-- The names on the way of a path are its parts. -/
theorem stepsOf_toText {path : Path} (normal : path.IsNormal) (some : path.parts ≠ []) : stepsOf path.toText = path.parts := by
  have named : ∀ piece ∈ path.parts.map String.toList, decide (piece ≠ []) = true := by
    intro piece member
    obtain ⟨part, listed, rfl⟩ := List.mem_map.mp member
    obtain ⟨c, rest, text, _⟩ := normal.part_named part listed
    simp [text]
  rw [stepsOf, normal.toText_pieces some, List.filter_append, List.filter_eq_nil_iff.mpr (by simp), List.nil_append,
    List.filter_eq_self.mpr named]
  simp

theorem locate_walk {path : Path} (normal : path.IsNormal) (some : path.parts ≠ []) {location : List String}
    (found : files.locate path.toText = .ok location) :
    files.walk path.toText (files.startOf path) path.parts = .ok location := by
  rw [locate] at found
  split_ifs at found
  rwa [normal.ofText_toText, stepsOf_toText normal some] at found

/-- Two paths that lead to the same place. -/
def Shares (files : Files) (one other : String) : Prop :=
  ∃ location, files.locate one = .ok location ∧ files.locate other = .ok location

theorem Shares.refl {path : String} {content : FileContent} (held : files.read path = .ok content) :
    files.Shares path path := by
  obtain ⟨_, _, location, leads, _⟩ := (read_ok path content).mp held
  exact ⟨location, leads, leads⟩

theorem Writes.shares {written : Option (List String)} (writes : files.Writes left written) {one other : String}
    (shared : files.Shares one other) : left.Shares one other := by
  obtain ⟨location, first, second⟩ := shared
  exact ⟨location, writes.locate one location first, writes.locate other location second⟩

/-- Paths to the same place read the same. -/
theorem Shares.read {one other : String} {content : FileContent} (shared : files.Shares one other)
    (readable : holdsNul one = false) (named : endsInSlash one = false) (held : files.read other = .ok content) :
    files.read one = .ok content := by
  obtain ⟨location, first, second⟩ := shared
  obtain ⟨_, _, there, leads, present⟩ := (read_ok other content).mp held
  rw [second] at leads
  cases leads
  exact (read_ok one content).mpr ⟨readable, named, location, first, present⟩

/-- After a write a file holds what was written, if its path leads there, and else what it held. -/
theorem Writes.read {location : List String} (writes : files.Writes left (some location)) {path : String}
    {content : FileContent} (held : files.read path = .ok content) :
    left.locate path = .ok location ∨ left.read path = .ok content := by
  obtain ⟨readable, named, there, leads, present⟩ := (read_ok path content).mp held
  have still := writes.locate path there leads
  by_cases same : there = location
  · exact Or.inl (same ▸ still)
  · have kept := writes.others there _ present fun equal => same (Option.some.inj equal)
    exact Or.inr ((read_ok path content).mpr ⟨readable, named, there, still, kept⟩)

end Files

end FunctionStack
