import FunctionStack.Storage.Files

/-!
The normal form of paths. Every path that is read from a text is in it, nothing that is done to paths leaves it, and a path in
normal form is read again from its own text.
-/

namespace FunctionStack

theorem Text.pieces_eq_splitOn (separator : Char) (text : List Char) : pieces separator text = text.splitOn separator := by
  induction text with
  | nil => simp [pieces]
  | cons c rest ih =>
      rw [pieces, ih, List.splitOn_cons_eq_if_modifyHead]
      by_cases here : c = separator
      · rw [if_pos here, if_pos (by simpa using here)]
      · rw [if_neg here, if_neg (by simpa using here)]
        cases split : rest.splitOn separator with
        | nil => exact absurd split (List.splitOn_ne_nil separator rest)
        | cons piece others => rfl

theorem Text.pieces_spared (separator : Char) (text : List Char) : ∀ piece ∈ pieces separator text, separator ∉ piece := by
  induction text with
  | nil => simp [pieces]
  | cons c rest ih =>
      rw [pieces]
      split
      · exact List.forall_mem_cons.mpr ⟨List.not_mem_nil, ih⟩
      case isFalse other =>
        split
        · simpa using Ne.symm other
        case h_2 piece others found =>
          rw [found, List.forall_mem_cons] at ih
          refine List.forall_mem_cons.mpr ⟨?_, ih.2⟩
          exact fun member => (List.mem_cons.mp member).elim (Ne.symm other) ih.1

theorem Text.pieces_replicate (separator : Char) (n : Nat) (text : List Char) :
    pieces separator (List.replicate n separator ++ text) = List.replicate n [] ++ pieces separator text := by
  induction n with
  | zero => rfl
  | succ n ih => rw [List.replicate_succ, List.cons_append, pieces, if_pos rfl, ih]; rfl

theorem Text.pieces_injective (separator : Char) : Function.Injective (pieces separator) := by
  intro first second same
  rw [pieces_eq_splitOn, pieces_eq_splitOn] at same
  have joined := congrArg [separator].intercalate same
  rwa [List.intercalate_splitOn, List.intercalate_splitOn] at joined

theorem Text.pieces_single (separator : Char) (text : List Char) (spared : separator ∉ text) :
    pieces separator text = [text] := by
  induction text with
  | nil => rfl
  | cons c rest ih =>
      rw [pieces, if_neg (Ne.symm (List.ne_of_not_mem_cons spared)), ih (List.not_mem_of_not_mem_cons spared)]

/-- The first piece is what is cut off at the first separator. -/
theorem Text.pieces_cutAt (separator : Char) (text : List Char) : pieces separator text =
    match cutAt [separator] text with
    | some (before, after) => before :: pieces separator after
    | none => [text] := by
  induction text with
  | nil => rfl
  | cons c rest ih =>
      rw [pieces, cutAt]
      by_cases here : c = separator
      · subst here
        simp
      · rw [if_neg here, if_neg (by simpa using Ne.symm here), ih]
        cases cutAt [separator] rest with
        | none => rfl
        | some found => rfl

namespace Path

/-- A text of pieces that all can be parts is the path of them. -/
theorem ofText_pieces (text : String) (each : ∀ piece ∈ Text.pieces '/' text.toList, isPart piece = true) :
    ofText text = ⟨0, (Text.pieces '/' text.toList).map String.ofList⟩ := by
  rw [ofText, partsOf, List.filter_eq_self.mpr each, Path.mk.injEq, slashesOf]
  refine ⟨?_, rfl⟩
  cases characters : text.toList with
  | nil => rfl
  | cons c rest =>
      have relative : c ≠ '/' := by
        rintro rfl
        have none := each [] (by rw [characters, Text.pieces, if_pos rfl]; exact List.mem_cons_self ..)
        cases none
      rw [List.takeWhile_cons_of_neg (by simpa using relative)]
      rfl

/-- The text of a path behind the slashes it begins with. -/
def below (path : Path) : List Char := ['/'].intercalate (path.parts.map String.toList)

/-- The form of the paths that come from texts. -/
structure IsNormal (path : Path) : Prop where
  slashes : path.slashes ≤ 2
  parts : ∀ part ∈ path.parts, isPart part.toList = true ∧ '/' ∉ part.toList

theorem ofText_normal (text : String) : (ofText text).IsNormal where
  slashes := by
    simp only [ofText, slashesOf]
    split <;> decide
  parts := by
    intro part member
    obtain ⟨piece, listed, rfl⟩ := List.mem_map.mp member
    obtain ⟨among, proper⟩ := List.mem_filter.mp listed
    rw [String.toList_ofList]
    exact ⟨proper, Text.pieces_spared '/' _ piece among⟩

theorem IsNormal.join {path other : Path} (normal : path.IsNormal) (also : other.IsNormal) : (path.join other).IsNormal := by
  unfold Path.join
  split
  · exact also
  · refine ⟨normal.slashes, fun part member => ?_⟩
    exact (List.mem_append.mp member).elim (normal.parts part) (also.parts part)

theorem IsNormal.child {path : Path} (normal : path.IsNormal) (text : String) : (path.child text).IsNormal :=
  normal.join (ofText_normal text)

/-- Only a path that is absolute, or relative to nothing, is not changed by what it is relative to. -/
theorem join_eq_right (path other : Path) : path.join other = other ↔ other.isAbsolute = true ∨ path = current := by
  unfold join
  split
  case isTrue absolute => simp [absolute]
  case isFalse relative =>
    have slashes : other.slashes = 0 := by simpa [isAbsolute] using relative
    obtain ⟨first, parts⟩ := path
    rw [or_iff_right relative]
    constructor
    · intro same
      have first := congrArg Path.slashes same
      have none : parts = [] := by simpa using congrArg Path.parts same
      rw [current, Path.mk.injEq]
      exact ⟨first.trans slashes, none⟩
    · rintro ⟨⟩
      rw [← slashes]
      rfl

theorem join_relative {path other : Path} (relative : (path.join other).isAbsolute = false) :
    path.isAbsolute = false ∧ other.isAbsolute = false ∧ (path.join other).parts = path.parts ++ other.parts := by
  unfold join at relative ⊢
  split at relative
  case isTrue absolute => exact absurd absolute (by simp [relative])
  case isFalse below => exact ⟨relative, by simpa using below, by rw [if_neg below]⟩

theorem child_relative {path : Path} {text : String} (relative : (path.child text).isAbsolute = false) :
    path.isAbsolute = false ∧ path.parts ⊆ (path.child text).parts := by
  obtain ⟨above, _, parts⟩ := join_relative relative
  exact ⟨above, parts ▸ List.subset_append_left _ _⟩

theorem mem_below (path : Path) (c : Char) (apart : c ≠ '/') : c ∈ path.below ↔ ∃ part ∈ path.parts, c ∈ part.toList := by
  rw [below]
  induction path.parts with
  | nil => simp
  | cons part others ih =>
      cases others with
      | nil => simp
      | cons next more =>
          rw [List.map_cons, List.map_cons, List.intercalate_cons_cons, ← List.map_cons, List.mem_append, List.mem_append, ih]
          simp [apart]

theorem toText_toList (path : Path) (named : ¬ (path.slashes = 0 ∧ path.parts = [])) :
    path.toText.toList = List.replicate path.slashes '/' ++ path.below := by
  rw [toText, if_neg (by simpa using named), String.toList_append, String.toList_ofList, String.toList_intercalate]
  rfl

/-- A text has a character in it where a part has, but for the slashes. -/
theorem mem_toText (path : Path) (c : Char) (apart : c ≠ '/') (named : ¬ (path.slashes = 0 ∧ path.parts = [])) :
    c ∈ path.toText.toList ↔ ∃ part ∈ path.parts, c ∈ part.toList := by
  rw [toText_toList path named, List.mem_append, List.mem_replicate, mem_below path c apart]
  simp [apart]

namespace IsNormal

variable {path : Path} (normal : path.IsNormal)

include normal

theorem part_named (part : String) (member : part ∈ path.parts) : ∃ c rest, part.toList = c :: rest ∧ c ≠ '/' := by
  obtain ⟨proper, spared⟩ := normal.parts part member
  cases text : part.toList with
  | nil =>
      rw [text] at proper
      cases proper
  | cons c rest =>
      rw [text] at spared
      exact ⟨c, rest, rfl, fun slash => spared (slash ▸ List.mem_cons_self ..)⟩

/-- Behind the slashes in front there is none but between the parts. -/
theorem below_pieces (some : path.parts ≠ []) : Text.pieces '/' path.below = path.parts.map String.toList := by
  rw [below, Text.pieces_eq_splitOn]
  refine List.splitOn_intercalate '/' (fun piece member => ?_) (by simpa using some)
  obtain ⟨part, listed, rfl⟩ := List.mem_map.mp member
  exact (normal.parts part listed).2

theorem below_start : path.below = [] ∧ path.parts = [] ∨ ∃ c rest, path.below = c :: rest ∧ c ≠ '/' := by
  cases parts : path.parts with
  | nil => exact Or.inl ⟨by rw [below, parts]; rfl, rfl⟩
  | cons part others =>
      obtain ⟨c, rest, text, apart⟩ := normal.part_named part (parts ▸ List.mem_cons_self ..)
      refine Or.inr ?_
      rw [below, parts, List.map_cons, text]
      cases others with
      | nil => exact ⟨c, rest, by simp, apart⟩
      | cons next more => exact ⟨c, _, by rw [List.map_cons, List.intercalate_cons_cons]; rfl, apart⟩

theorem below_slashes : path.below.takeWhile (· = '/') = [] := by
  rcases normal.below_start with ⟨none, _⟩ | ⟨c, rest, text, apart⟩
  · rw [none]
    rfl
  · rw [text, List.takeWhile_cons_of_neg (by simpa using apart)]

theorem below_parts : partsOf path.below = path.parts := by
  by_cases none : path.parts = []
  · rw [below, none]
    rfl
  · rw [partsOf, normal.below_pieces none, List.filter_eq_self.mpr]
    · simp
    · intro piece member
      obtain ⟨part, listed, rfl⟩ := List.mem_map.mp member
      exact (normal.parts part listed).1

theorem toText_pieces (some : path.parts ≠ []) :
    Text.pieces '/' path.toText.toList = List.replicate path.slashes [] ++ path.parts.map String.toList := by
  rw [toText_toList path fun empty => some empty.2, Text.pieces_replicate, normal.below_pieces some]

/-- A path in normal form is read from its text as it was. -/
theorem ofText_toText : ofText path.toText = path := by
  obtain ⟨slashes, parts⟩ := path
  by_cases empty : slashes = 0 ∧ parts = []
  · obtain ⟨rfl, rfl⟩ := empty
    decide
  · have text := toText_toList ⟨slashes, parts⟩ empty
    have known := normal.slashes
    rw [ofText, text, Path.mk.injEq]
    constructor
    · rw [slashesOf, List.takeWhile_append_of_pos (by simp), normal.below_slashes, List.append_nil, List.length_replicate]
      match slashes, known with
      | 0, _ => rfl
      | 1, _ => rfl
      | 2, _ => rfl
    · rw [partsOf, Text.pieces_replicate, List.filter_append, List.filter_eq_nil_iff.mpr (by simp [isPart]), List.nil_append]
      exact normal.below_parts

theorem toText_named : path.toText ≠ "" := by
  intro empty
  have same := normal.ofText_toText
  rw [empty] at same
  rw [← same] at empty
  exact absurd empty (by decide)

/-- The text of a path has no scheme in front. -/
theorem toText_local : Text.beginsWith path.toText "s3://" = false := by
  rw [Bool.eq_false_iff]
  intro remote
  obtain ⟨rest, text⟩ : ['s', '3', ':', '/', '/'] <+: path.toText.toList := List.isPrefixOf_iff_prefix.mp remote
  by_cases empty : path.slashes = 0 ∧ path.parts = []
  · rw [toText, if_pos (by simpa using empty)] at text
    cases text
  · rw [toText_toList path empty] at text
    have relative : path.slashes = 0 := by
      cases slashes : path.slashes with
      | zero => rfl
      | succ n =>
          rw [slashes] at text
          cases text
    rw [relative, List.replicate_zero, List.nil_append] at text
    -- Between the two slashes of the scheme there is an empty piece, and no part is empty.
    have pieces := normal.below_pieces fun none => empty ⟨relative, none⟩
    rw [← text] at pieces
    have among : [] ∈ path.parts.map String.toList := by
      rw [← pieces]
      simp [Text.pieces]
    obtain ⟨part, listed, none⟩ := List.mem_map.mp among
    have proper := (normal.parts part listed).1
    rw [none] at proper
    cases proper

/-- A path that ends in a part does not end in a slash. -/
theorem toText_endsInSlash (some : path.parts ≠ []) : Files.endsInSlash path.toText = false := by
  have last (parts : List String) (each : ∀ part ∈ parts, isPart part.toList = true ∧ '/' ∉ part.toList) (some : parts ≠ []) :
      ∃ c, (['/'].intercalate (parts.map String.toList)).getLast? = Option.some c ∧ c ≠ '/' := by
    induction parts with
    | nil => exact absurd rfl some
    | cons part others ih =>
        obtain ⟨own, rest⟩ := List.forall_mem_cons.mp each
        cases others with
        | nil =>
            have named : part.toList ≠ [] := by
              intro none
              rw [none] at own
              cases own.1
            refine ⟨part.toList.getLast named, ?_, fun slash => own.2 (slash ▸ List.getLast_mem named)⟩
            simp [List.getLast?_eq_some_getLast named]
        | cons next more =>
            obtain ⟨c, final, apart⟩ := ih rest (List.cons_ne_nil _ _)
            refine ⟨c, ?_, apart⟩
            rw [List.map_cons, List.map_cons, List.intercalate_cons_cons, ← List.map_cons, List.getLast?_append, final]
            rfl
  obtain ⟨c, final, apart⟩ := last path.parts normal.parts some
  rw [Files.endsInSlash, toText_toList path fun empty => some empty.2, List.getLast?_append, below, final]
  simpa using apart

end IsNormal

end Path

end FunctionStack
