import FunctionStack.Proofs.Naming

/-!
Ids of different kinds. The id of a resource is the normalized name of its function or layer with the ending of its kind behind
it. No ending is the end of another one, so that an id tells its kind, and the kind tells the normalized name.
-/

namespace FunctionStack.Naming

/-- What templates accept as an id: ASCII letters and digits, one at least. -/
structure IsLogicalId (id : String) : Prop where
  nonEmpty : id ≠ ""
  plain : ∀ c ∈ id.toList, '0' ≤ c ∧ c ≤ '9' ∨ 'A' ≤ c ∧ c ≤ 'Z' ∨ 'a' ≤ c ∧ c ≤ 'z'

theorem isLogicalId_of_minted (id : String) (minted : isMinted id = true) : IsLogicalId id := by
  rw [isMinted, Bool.and_eq_true, decide_eq_true_eq, List.all_eq_true] at minted
  constructor
  · rintro rfl
    exact absurd minted.1 (by decide)
  · intro c member
    exact forall_alphanumeric (fun c => '0' ≤ c ∧ c ≤ '9' ∨ 'A' ≤ c ∧ c ≤ 'Z' ∨ 'a' ≤ c ∧ c ≤ 'z') (by decide +kernel) c
      (minted.2 c member)

/-- The kinds of ids that are a normalized name and an ending. -/
inductive Kind where
  | function
  | logGroup
  | provisionedAlias
  | snapStartAlias
  | url
  | urlPermission
  | eventConfig
  | layer
  deriving DecidableEq

namespace Kind

def id (name : String) : Kind → String
  | function => Naming.function name
  | logGroup => Naming.logGroup name
  | provisionedAlias => Naming.provisionedAlias name
  | snapStartAlias => Naming.snapStartAlias name
  | url => Naming.url name
  | urlPermission => Naming.urlPermission name
  | eventConfig => Naming.eventConfig name
  | layer => Naming.layer name

def ending : Kind → String
  | function => "LambdaFunction"
  | logGroup => "LogGroup"
  | provisionedAlias => "ProvConcLambdaAlias"
  | snapStartAlias => "SnapStartLambdaAlias"
  | url => "LambdaFunctionUrl"
  | urlPermission => "LambdaPermissionFnUrl"
  | eventConfig => "LambdaEventConfig"
  | layer => "LambdaLayer"

theorem id_ending (kind : Kind) (name : String) : kind.id name = normalized name ++ kind.ending := by
  cases kind with
  | url => exact String.append_assoc ..
  | _ => rfl

theorem id_minted (kind : Kind) (name : String) : isMinted (kind.id name) = true := by
  have minted := isMinted_suffix name kind.ending "" (by cases kind <;> decide) (by cases kind <;> decide) rfl
  rwa [String.append_empty, ← id_ending] at minted

/-- The shorter of two endings is not the end of the longer one. -/
theorem ending_apart (kind other : Kind) (differ : kind ≠ other) (a b : String) : a ++ kind.ending ≠ b ++ other.ending := by
  refine endings_apart a b _ _ (min kind.ending.toList.length other.ending.toList.length)
    ⟨Nat.min_le_left .., Nat.min_le_right ..⟩ ?_
  cases kind <;> cases other <;> first | exact absurd rfl differ | decide

/-- An id has one kind and one normalized name. -/
theorem id_iff (kind other : Kind) (n m : String) :
    kind.id n = other.id m ↔ kind = other ∧ normalized n = normalized m := by
  rw [id_ending, id_ending]
  constructor
  · intro same
    by_cases kinds : kind = other
    · subst kinds
      exact ⟨rfl, suffix_cancel _ _ _ same⟩
    · exact absurd same (ending_apart kind other kinds _ _)
  · rintro ⟨rfl, names⟩
    rw [names]

/-- The two ids that are the same in every template end like none that is made from a name. -/
theorem id_ne_shared (kind : Kind) (name : String) :
    kind.id name ≠ defaultExecutionRole ∧ kind.id name ≠ deploymentBucketId := by
  rw [id_ending]
  constructor
  · exact endings_apart _ "" _ defaultExecutionRole 5 (by cases kind <;> decide) (by cases kind <;> decide)
  · exact endings_apart _ "" _ deploymentBucketId 5 (by cases kind <;> decide) (by cases kind <;> decide)

end Kind

theorem replaceChar_absent (old : Char) (new text : List Char) (absent : old ∉ text) :
    Text.replaceChar old new text = text := by
  have kept : ∀ c ∈ text, (if c = old then new else [c]) = [c] := by
    intro c member
    rw [if_neg]
    rintro rfl
    exact absent member
  rw [Text.replaceChar, List.flatMap_congr kept, List.flatMap_singleton']

/-- Nothing is spelled out or dropped of ASCII letters and digits. -/
theorem alphanumericChars_plain (text : List Char) (plain : text.all isAsciiAlphanumeric = true) :
    alphanumericChars text = capitalizeAscii text := by
  rw [List.all_eq_true] at plain
  have absent (c : Char) (dropped : isAsciiAlphanumeric c = false) : c ∉ text := fun member => by
    rw [plain c member] at dropped
    cases dropped
  rw [alphanumericChars, replaceChar_absent _ _ _ (absent '-' rfl), replaceChar_absent _ _ _ (absent '_' rfl),
    List.filter_eq_self.mpr plain]

theorem capitalizeAscii_again (text : List Char) (plain : text.all isAsciiAlphanumeric = true) :
    capitalizeAscii (capitalizeAscii text) = capitalizeAscii text := by
  cases text with
  | nil => rfl
  | cons c rest =>
      rw [List.all_cons, Bool.and_eq_true] at plain
      have upper := forall_alphanumeric (fun c => c.toUpper.toUpper = c.toUpper) (by decide +kernel) c plain.1
      rw [capitalizeAscii, capitalizeAscii, upper]

theorem normalized_again (name : String) : normalized (normalized name) = normalized name := by
  obtain ⟨kept, same, plain⟩ := alphanumericChars_kept name.toList
  rw [normalized, normalized, String.toList_ofList, same,
    alphanumericChars_plain _ (capitalizeAscii_alphanumeric kept plain), capitalizeAscii_again kept plain]

theorem versionOutput_minted (name : String) : isMinted (versionOutput name) = true :=
  isMinted_suffix name "LambdaFunction" "QualifiedArn" (by decide) (by decide) (by decide)

/-- Versions with one digest belong to functions of one normalized name. -/
theorem version_iff (n m digest : String) : version n digest = version m digest ↔ normalized n = normalized m := by
  rw [version, version, function, function]
  constructor
  · intro same
    exact suffix_cancel _ _ _ (suffix_cancel _ _ _ (suffix_cancel _ _ _ same))
  · intro names
    rw [names]

/-- All ids are well formed. An id of one of the kinds is no id of another kind and none that every template shares, and names
have the same id of a kind, or the same version for a digest, exactly if they are normalized to the same; what is normalized
stays as it is. -/
theorem ids_tell_kinds (n m digest : String) :
    ((∀ kind : Kind, IsLogicalId (kind.id n)) ∧ IsLogicalId (version n digest) ∧ IsLogicalId (versionOutput n) ∧
        IsLogicalId (urlOutput n)) ∧
      normalized (normalized n) = normalized n ∧
      (∀ kind : Kind, kind.id n = kind.id m ↔ normalized n = normalized m) ∧
      (∀ kind other : Kind, kind ≠ other → kind.id n ≠ other.id m) ∧
      (∀ kind : Kind, kind.id n ≠ defaultExecutionRole ∧ kind.id n ≠ deploymentBucketId) ∧
      (version n digest = version m digest ↔ normalized n = normalized m) := by
  refine ⟨⟨?_, ?_, ?_, ?_⟩, normalized_again n, ?_, ?_, fun kind => kind.id_ne_shared n, version_iff n m digest⟩
  · exact fun kind => isLogicalId_of_minted _ (kind.id_minted n)
  · exact isLogicalId_of_minted _ (version_minted n digest)
  · exact isLogicalId_of_minted _ (versionOutput_minted n)
  · exact isLogicalId_of_minted _ (url_minted n)
  · intro kind
    rw [Kind.id_iff]
    exact and_iff_right rfl
  · exact fun kind other differ same => differ ((Kind.id_iff kind other n m).mp same).1

end FunctionStack.Naming
