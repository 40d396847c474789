import FunctionStack.Proofs.Storage.Files

/-!
What writes leave alone. Whoever makes directories adds no file, and a write adds one in its place only, so that everywhere else
the same files are there.
-/

namespace FunctionStack.Files

variable {files left : Files}

/-- What is put somewhere adds no file but itself. -/
theorem node?_put_file (location other : List String) (tree : Tree) (bare : tree.entries = []) (content : FileContent)
    (found : (files.put location tree).node? other = some (.file content)) :
    other = location ∧ tree.node = .file content ∨ files.node? other = some (.file content) := by
  by_cases below : location <+: other
  · obtain ⟨rest, rfl⟩ := below
    cases rest with
    | nil =>
        rw [List.append_nil, node?_put, Option.some.injEq] at found
        exact Or.inl ⟨List.append_nil _, found⟩
    | cons name rest =>
        rw [node?, put, Tree.at?_append, Tree.at?_put, Option.bind_some, Tree.at?, Tree.child?, bare] at found
        cases found
  · by_cases above : other <+: location
    · obtain ⟨rest, rfl⟩ := above
      have some : rest ≠ [] := fun none => below (by rw [none, List.append_nil])
      obtain ⟨entries, there⟩ := Tree.at?_put_above tree files.root other rest some
      rw [node?, put, there] at found
      cases found
    · rw [node?, put, Tree.at?_put_apart tree files.root location other below above] at found
      exact Or.inr found

/-- Files after others, with none added but in the place of a write. -/
def Adds (files left : Files) (written : Option (List String)) : Prop :=
  ∀ location content, left.node? location = some (.file content) →
    files.node? location = some (.file content) ∨ some location = written

theorem Adds.refl (files : Files) (written : Option (List String)) : files.Adds files written :=
  fun _ _ found => Or.inl found

theorem Adds.trans {between : Files} {written : Option (List String)} (one : files.Adds between none)
    (two : between.Adds left written) : files.Adds left written := by
  intro location content found
  rcases two location content found with before | here
  · exact Or.inl ((one location content before).resolve_right (Option.some_ne_none _))
  · exact Or.inr here

theorem put_directory_adds (location : List String) : files.Adds (files.put location (.directory [])) none := by
  intro other content found
  rcases node?_put_file location other _ rfl content found with ⟨-, same⟩ | before
  · cases same
  · exact Or.inl before

theorem put_file_adds (location : List String) (content : FileContent) :
    files.Adds (files.put location (.file content)) (some location) := by
  intro other held found
  rcases node?_put_file location other _ rfl held found with ⟨same, -⟩ | before
  · exact Or.inr (congrArg some same)
  · exact Or.inl before

theorem makeMissing_adds (reached : Path) (location parts : List String)
    (made : files.makeMissing reached location parts = .ok left) : files.Adds left none := by
  induction parts generalizing files reached location with
  | nil =>
      cases made
      exact .refl _ _
  | cons part rest ih =>
      rw [makeMissing] at made
      split_ifs at made
      · exact ih _ _ made
      · cases here : files.node? (location ++ [part]) with
        | some node =>
            rw [here] at made
            cases node with
            | directory => exact ih _ _ made
            | file content => cases made
        | none =>
            rw [here] at made
            exact (put_directory_adds _).trans (ih _ _ made)

theorem makeDirectory_adds (path : String) (made : files.makeDirectory path = .ok left) : files.Adds left none := by
  rw [makeDirectory, Result.bind_ok] at made
  obtain ⟨location, _, made⟩ := made
  split at made
  · cases made
  · split at made
    case h_1 =>
      cases made
      exact put_directory_adds location
    all_goals cases made

theorem ensureDirectories_adds (path : Path) (made : files.ensureDirectories path = .ok left) : files.Adds left none := by
  unfold ensureDirectories at made
  split at made
  case h_1 after found =>
    cases made
    exact makeDirectory_adds _ found
  case h_2 => exact makeMissing_adds _ _ _ made
  case h_3 =>
    split at made
    · cases made
      exact .refl files _
    · cases made

theorem writeAt_adds (path : String) (content : FileContent) (written : files.writeAt path content = .ok left) :
    ∃ location, files.locate path = .ok location ∧ files.Adds left (some location) := by
  rw [writeAt, Result.bind_ok] at written
  obtain ⟨location, found, written⟩ := written
  refine ⟨location, found, ?_⟩
  have done (same : (.ok (files.put location (.file content)) : Except StorageError Files) = .ok left) :
      files.Adds left (some location) := by
    cases same
    exact put_file_adds location content
  split at written
  · cases written
  · split at written
    · cases written
    · exact done written
  · split at written
    · cases written
    · split at written
      case h_1 => exact done written
      all_goals cases written

/-- Files after others: the ways that were open still are, and outside some places there are the same files. -/
structure Spares (files left : Files) (places : List String → Prop) : Prop where
  workingDirectory : left.workingDirectory = files.workingDirectory
  directories : ∀ location, files.node? location = some .directory → left.node? location = some .directory
  same : ∀ location, ¬ places location → ∀ content,
    left.node? location = some (.file content) ↔ files.node? location = some (.file content)

theorem Spares.refl (files : Files) (places : List String → Prop) : files.Spares files places :=
  ⟨rfl, fun _ found => found, fun _ _ _ => Iff.rfl⟩

theorem Spares.of_writes {written : Option (List String)} (writes : files.Writes left written)
    (adds : files.Adds left written) : files.Spares left fun location => some location = written where
  workingDirectory := writes.workingDirectory
  directories := writes.directories
  same := by
    intro location apart content
    constructor
    · intro found
      exact (adds location content found).resolve_right apart
    · intro found
      exact writes.others location _ found apart

theorem Spares.mono {places more : List String → Prop} (spares : files.Spares left places)
    (within : ∀ location, places location → more location) : files.Spares left more :=
  { spares with same := fun location apart => spares.same location fun here => apart (within location here) }

theorem Spares.trans {between : Files} {places : List String → Prop} (one : files.Spares between places)
    (two : between.Spares left places) : files.Spares left places where
  workingDirectory := two.workingDirectory.trans one.workingDirectory
  directories := fun location found => two.directories location (one.directories location found)
  same := fun location apart content => (two.same location apart content).trans (one.same location apart content)

theorem Spares.rooted {places : List String → Prop} (spares : files.Spares left places) (rooted : files.IsRooted) :
    left.IsRooted := by
  rw [IsRooted, spares.workingDirectory]
  exact spares.directories _ rooted

theorem Spares.locate {places : List String → Prop} (spares : files.Spares left places) (path : String)
    (location : List String) (found : files.locate path = .ok location) : left.locate path = .ok location :=
  locate_still spares.directories spares.workingDirectory path location found

/-- A path to a file that is spared still leads to it. -/
theorem Spares.openFile {places : List String → Prop} (spares : files.Spares left places) (path : String)
    (apart : ∀ location, left.locate path = .ok location → ¬ places location) (content : FileContent)
    (opened : files.openFile path = .ok content) : left.openFile path = .ok content := by
  obtain ⟨named, location, leads, present⟩ := (openFile_ok path content).mp opened
  have still := spares.locate path location leads
  exact (openFile_ok path content).mpr ⟨named, location, still, (spares.same location (apart location still) content).mpr present⟩

end FunctionStack.Files
