import FunctionStack.Naming
import Mathlib.Tactic

/-!
The ids that are made from names: ASCII letters and digits, and more than one of them.
-/

namespace FunctionStack.Naming

def isMinted (id : String) : Bool := decide (1 < id.toList.length) && id.toList.all isAsciiAlphanumeric

/-- What holds of each ASCII letter and digit holds of all characters that a name keeps. -/
theorem forall_alphanumeric (holds : Char → Prop)
    (each : ∀ n < 128, isAsciiAlphanumeric (Char.ofNat n) = true → holds (Char.ofNat n)) (c : Char)
    (plain : isAsciiAlphanumeric c = true) : holds c := by
  have small : c.toNat < 128 := by
    have bounds := plain
    change ((c.val ≥ 48 && c.val ≤ 57) || decide (c.val ≥ 65 ∧ c.val ≤ 90) || (c.val ≥ 97 && c.val ≤ 122)) = true
      at bounds
    have code : c.val.toNat = c.toNat := rfl
    simp only [Bool.or_eq_true, Bool.and_eq_true, decide_eq_true_eq, ge_iff_le, UInt32.le_iff_toNat_le, code] at bounds
    simp at bounds
    omega
  have same : Char.ofNat c.toNat = c := Char.ofNat_toNat c
  have own := each c.toNat small
  rw [same] at own
  exact own plain

theorem toUpper_alphanumeric (c : Char) (plain : isAsciiAlphanumeric c = true) :
    isAsciiAlphanumeric c.toUpper = true :=
  forall_alphanumeric (fun c => isAsciiAlphanumeric c.toUpper = true) (by decide +kernel) c plain

theorem capitalizeAscii_alphanumeric (text : List Char) (plain : text.all isAsciiAlphanumeric = true) :
    (capitalizeAscii text).all isAsciiAlphanumeric = true := by
  cases text with
  | nil => rfl
  | cons c rest =>
      rw [List.all_cons, Bool.and_eq_true] at plain
      rw [capitalizeAscii, List.all_cons, toUpper_alphanumeric c plain.1, plain.2]
      rfl

/-- A name without what it cannot keep, in capitals where it begins. -/
theorem alphanumericChars_kept (name : List Char) :
    ∃ kept, alphanumericChars name = capitalizeAscii kept ∧ kept.all isAsciiAlphanumeric = true :=
  ⟨_, rfl, List.all_eq_true.mpr fun _ member => (List.mem_filter.mp member).2⟩

theorem normalized_alphanumeric (name : String) : (normalized name).toList.all isAsciiAlphanumeric = true := by
  obtain ⟨kept, same, plain⟩ := alphanumericChars_kept name.toList
  rw [normalized, String.toList_ofList, same]
  exact capitalizeAscii_alphanumeric kept plain

/-- A name with a suffix behind it, and with more behind that. -/
theorem isMinted_suffix (name suffix more : String) (long : 1 < suffix.toList.length)
    (plain : suffix.toList.all isAsciiAlphanumeric = true) (rest : more.toList.all isAsciiAlphanumeric = true) :
    isMinted (normalized name ++ suffix ++ more) = true := by
  simp only [isMinted, String.toList_append, List.length_append, List.all_append, Bool.and_eq_true,
    decide_eq_true_eq]
  exact ⟨by omega, ⟨normalized_alphanumeric name, plain⟩, rest⟩

theorem function_minted (name : String) : isMinted (function name) = true := by
  simpa [function] using isMinted_suffix name "LambdaFunction" "" (by decide) (by decide) (by decide)

theorem logGroup_minted (name : String) : isMinted (logGroup name) = true := by
  simpa [logGroup] using isMinted_suffix name "LogGroup" "" (by decide) (by decide) (by decide)

theorem version_minted (name digest : String) : isMinted (version name digest) = true := by
  have kept : (String.ofList (digest.toList.filter isAsciiAlphanumeric)).toList.all isAsciiAlphanumeric = true := by
    rw [String.toList_ofList, List.all_eq_true]
    exact fun c member => (List.mem_filter.mp member).2
  have more : ("Version" ++ String.ofList (digest.toList.filter isAsciiAlphanumeric)).toList.all isAsciiAlphanumeric =
      true := by
    rw [String.toList_append, List.all_append, kept]
    decide
  have whole := isMinted_suffix name "LambdaFunction" _ (by decide) (by decide) more
  rwa [← String.append_assoc] at whole

theorem provisionedAlias_minted (name : String) : isMinted (provisionedAlias name) = true := by
  simpa [provisionedAlias] using isMinted_suffix name "ProvConcLambdaAlias" "" (by decide) (by decide) (by decide)

theorem snapStartAlias_minted (name : String) : isMinted (snapStartAlias name) = true := by
  simpa [snapStartAlias] using isMinted_suffix name "SnapStartLambdaAlias" "" (by decide) (by decide) (by decide)

theorem url_minted (name : String) : isMinted (url name) = true :=
  isMinted_suffix name "LambdaFunction" "Url" (by decide) (by decide) (by decide)

theorem urlPermission_minted (name : String) : isMinted (urlPermission name) = true := by
  simpa [urlPermission] using isMinted_suffix name "LambdaPermissionFnUrl" "" (by decide) (by decide) (by decide)

theorem eventConfig_minted (name : String) : isMinted (eventConfig name) = true := by
  simpa [eventConfig] using isMinted_suffix name "LambdaEventConfig" "" (by decide) (by decide) (by decide)

theorem suffix_cancel (a b suffix : String) (same : a ++ suffix = b ++ suffix) : a = b := by
  have lists := congrArg String.toList same
  rw [String.toList_append, String.toList_append] at lists
  exact String.toList_injective (List.append_cancel_right lists)

/-- Texts that end in different ways differ. -/
theorem endings_apart (a b first second : String) (count : Nat)
    (long : count ≤ first.toList.length ∧ count ≤ second.toList.length)
    (differ : first.toList.reverse.take count ≠ second.toList.reverse.take count) : a ++ first ≠ b ++ second := by
  intro same
  have ends (text suffix : String) (long : count ≤ suffix.toList.length) :
      (text ++ suffix).toList.reverse.take count = suffix.toList.reverse.take count := by
    rw [String.toList_append, List.reverse_append, List.take_append_of_le_length (by simpa using long)]
  apply differ
  rw [← ends a first long.1, ← ends b second long.2, same]

/-- No layer takes the id of the default role. -/
theorem layer_ne_role (name : String) : layer name ≠ defaultExecutionRole :=
  endings_apart (normalized name) "" "LambdaLayer" defaultExecutionRole 5 (by decide) (by decide)

theorem logGroup_ne_role (name : String) : logGroup name ≠ defaultExecutionRole :=
  endings_apart (normalized name) "" "LogGroup" defaultExecutionRole 5 (by decide) (by decide)

theorem function_ne_role (name : String) : function name ≠ defaultExecutionRole :=
  endings_apart (normalized name) "" "LambdaFunction" defaultExecutionRole 5 (by decide) (by decide)

/-- No id that contains this is the id of the default role. -/
theorem role_apart (before piece after : String) (outside : ¬ piece.toList <:+: defaultExecutionRole.toList) :
    before ++ piece ++ after ≠ defaultExecutionRole := by
  intro same
  apply outside
  rw [← same, String.toList_append, String.toList_append]
  exact ⟨before.toList, after.toList, rfl⟩

theorem suffix_ne_role (name suffix : String) (outside : ¬ suffix.toList <:+: defaultExecutionRole.toList) :
    normalized name ++ suffix ≠ defaultExecutionRole := by
  simpa using role_apart (normalized name) suffix "" outside

end FunctionStack.Naming
