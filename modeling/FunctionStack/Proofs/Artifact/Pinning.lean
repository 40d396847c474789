import FunctionStack.Artifact.Image
import FunctionStack.Proofs.Template.Pattern

/-!
Images that are pinned. However an image has been resolved, its URI tells its digest, and so the URI by itself is resolved to
the same image, without any registry.
-/

namespace FunctionStack

namespace Text

/-- What is cut at is the first occurrence. -/
theorem cutAt_first (piece text before after earlier rest : List Char) (found : cutAt piece text = some (before, after))
    (whole : text = earlier ++ piece ++ rest) : before.length ≤ earlier.length := by
  induction text generalizing before earlier with
  | nil =>
      have lengths := congrArg List.length (cutAt_eq piece [] before after found)
      simp only [List.length_append, List.length_nil] at lengths
      omega
  | cons c text ih =>
      rw [cutAt] at found
      split at found
      case isTrue here =>
        cases found
        exact Nat.zero_le _
      case isFalse apart =>
        obtain ⟨⟨front, last⟩, later, same⟩ := Option.map_eq_some_iff.mp found
        cases same
        cases earlier with
        | nil =>
            have begins : piece <+: c :: text := ⟨rest, whole.symm⟩
            exact absurd (List.isPrefixOf_iff_prefix.mpr begins) apart
        | cons d earlier =>
            have shorter := ih front earlier later (List.cons.inj whole).2
            simpa using shorter

/-- A piece occurs where its first character does. -/
theorem cutAt_spared (c : Char) (piece before after : List Char) (spared : c ∉ before) :
    cutAt (c :: piece) (before ++ c :: piece ++ after) = some (before, after) := by
  induction before with
  | nil =>
      have begins : (c :: piece).isPrefixOf (c :: (piece ++ after)) = true := by
        simp [List.isPrefixOf_iff_prefix]
      simp [cutAt, begins]
  | cons d before ih =>
      have other : c ≠ d := List.ne_of_not_mem_cons spared
      have rest := ih (List.not_mem_of_not_mem_cons spared)
      simp only [List.append_assoc, List.cons_append] at rest
      simp [cutAt, other, rest]

/-- A character that fails a test is in no text of which all characters pass it. -/
theorem spared_of_all (test : Char → Bool) (c : Char) (text : List Char) (holds : ∀ d ∈ text, test d = true)
    (fails : test c = false) : c ∉ text := by
  intro here
  rw [holds c here] at fails
  cases fails

theorem cut_first (text piece before after : String) (found : cut text piece = some (before, after)) :
    text = before ++ piece ++ after ∧
      ∀ earlier rest, text = earlier ++ piece ++ rest → before.toList.length ≤ earlier.toList.length := by
  obtain ⟨⟨front, last⟩, cutting, same⟩ := Option.map_eq_some_iff.mp found
  cases same
  constructor
  · apply String.toList_injective
    simpa using cutAt_eq _ _ _ _ cutting
  · intro earlier rest whole
    rw [String.toList_ofList]
    refine cutAt_first _ _ _ _ earlier.toList rest.toList cutting ?_
    rw [whole, String.toList_append, String.toList_append]

end Text

/-- The URI of an image tells its digest, behind the first marker. -/
def ResolvedImage.IsPinned (image : ResolvedImage) : Prop :=
  ∃ source, image.uri = source ++ Image.digestMarker ++ image.digest ∧
    ∀ earlier rest, image.uri = earlier ++ Image.digestMarker ++ rest → source.toList.length ≤ earlier.toList.length

namespace ImageTag

theorem suffix_spared (text : List Char) : '@' ∉ (suffix text).1 := by
  unfold suffix
  split
  · show '@' ∉ ".cn".toList
    decide
  · exact List.not_mem_nil

/-- What a tag is read from: the digits of an account, a region and a repository, between texts that are always the same. -/
theorem ofUri?_parts (uri : String) (image : ImageTag) (found : ofUri? uri = some image) :
    ∃ account host path name : List Char, (∀ c ∈ account, Text.isDecimalDigit c = true) ∧
      image.registry.toList = account ++ ".dkr.ecr.".toList ++ host.takeWhile isRegionChar ++ ".amazonaws.com".toList ++
        (suffix path).1 ∧ image.repository.toList = name.takeWhile isNamePart := by
  unfold ofUri? at found
  simp only [Option.bind_eq_bind, Option.bind_none] at found
  split at found
  case isTrue => cases found
  case isFalse numbered =>
  obtain ⟨host, -, found⟩ := Option.bind_eq_some_iff.mp found
  split at found
  case isTrue => cases found
  case isFalse =>
  obtain ⟨path, -, found⟩ := Option.bind_eq_some_iff.mp found
  obtain ⟨name, -, found⟩ := Option.bind_eq_some_iff.mp found
  split at found
  case isTrue => cases found
  case isFalse =>
  obtain ⟨tag, -, found⟩ := Option.bind_eq_some_iff.mp found
  split at found
  case isTrue => cases found
  case isFalse =>
  cases found
  have digits : (uri.toList.take 12).length = 12 ∧ ∀ c ∈ uri.toList.take 12, Text.isDecimalDigit c = true := by
    simpa using numbered
  exact ⟨uri.toList.take 12, host, path, name, digits.2, String.toList_ofList, String.toList_ofList⟩

/-- Neither the registry nor the repository of a tag holds the first character of the marker. -/
theorem ofUri?_spared (uri : String) (image : ImageTag) (found : ofUri? uri = some image) :
    '@' ∉ image.registry.toList ∧ '@' ∉ image.repository.toList := by
  obtain ⟨account, host, path, name, digits, registry, repository⟩ := ofUri?_parts uri image found
  have numbered : '@' ∉ account := Text.spared_of_all Text.isDecimalDigit '@' _ digits (by decide +kernel)
  have region : '@' ∉ host.takeWhile isRegionChar :=
    Text.spared_of_all isRegionChar '@' _ (List.all_eq_true.mp List.all_takeWhile) (by decide)
  have service : '@' ∉ ".dkr.ecr.".toList ∧ '@' ∉ ".amazonaws.com".toList := by decide
  constructor
  · rw [registry]
    simp only [List.mem_append, not_or]
    exact ⟨⟨⟨⟨numbered, service.1⟩, region⟩, service.2⟩, suffix_spared path⟩
  · rw [repository]
    exact Text.spared_of_all isNamePart '@' _ (List.all_eq_true.mp List.all_takeWhile) (by decide)

end ImageTag

namespace Image

/-- A pin cuts at its own marker: nothing in front of it holds another. -/
theorem pin_cut (uri : String) (image : ImageTag) (named : ImageTag.ofUri? uri = some image) (described : Value)
    (resolved : ResolvedImage) (pinned : pin image described = .ok resolved) :
    Text.cut resolved.uri digestMarker = some (image.registry ++ "/" ++ image.repository, resolved.digest) := by
  cases described with
  | str text =>
      simp only [pin] at pinned
      split at pinned
      case h_1 algorithm digest _ =>
        cases pinned
        have spared := ImageTag.ofUri?_spared uri image named
        have source : '@' ∉ (image.registry ++ "/" ++ image.repository).toList := by
          simp only [String.toList_append, List.mem_append, not_or]
          exact ⟨⟨spared.1, by decide⟩, spared.2⟩
        have cutting := Text.cutAt_spared '@' "sha256:".toList _ digest.toList source
        have marked : digestMarker.toList = '@' :: "sha256:".toList := by decide
        rw [Text.cut, String.toList_append, String.toList_append, marked, cutting]
        simp only [Option.map_some, String.ofList_toList]
      case h_2 => cases pinned
  | _ => cases pinned

theorem readDescription_pin (function uri : String) (image : ImageTag) (reply : Except String Value)
    (resolved : ResolvedImage) (read : readDescription function uri image reply = .ok resolved) :
    ∃ described, pin image described = .ok resolved := by
  unfold readDescription at read
  split at read
  case h_1 => cases read
  case h_2 =>
    split at read
    case h_1 described _ => exact ⟨described, read⟩
    case h_2 => cases read
    case h_3 => cases read

theorem lookUp_cut (registry : Registry) (function uri : String) (session next : RegistrySession)
    (resolved : ResolvedImage) (done : lookUp registry function uri session = (.ok resolved, next)) :
    ∃ source, Text.cut resolved.uri digestMarker = some (source, resolved.digest) := by
  unfold lookUp at done
  split at done
  case h_1 => cases done
  case h_2 image named =>
    split at done
    case h_1 => cases done
    case h_2 =>
      obtain ⟨described, pinned⟩ := readDescription_pin _ _ _ _ _ (Prod.mk.inj done).1
      exact ⟨_, pin_cut uri image named described resolved pinned⟩

/-- However an image has been resolved, its digest is what its URI has behind the first marker. -/
theorem resolve_cut (registry : Registry) (provider : ProviderConfig) (function : String) (image : ImageConfig)
    (session next : RegistrySession) (resolved : ResolvedImage)
    (done : resolve registry provider function image session = (.ok resolved, next)) :
    ∃ source, Text.cut resolved.uri digestMarker = some (source, resolved.digest) := by
  unfold resolve at done
  split at done
  case h_1 => cases done
  case h_2 uri _ =>
    unfold resolveUri at done
    split at done
    case h_1 source digest cutting =>
      cases done
      exact ⟨source, cutting⟩
    case h_2 => exact lookUp_cut registry function uri session next resolved done

/-- A URI that tells its digest is taken as it is: no registry is asked, whatever has been asked before. -/
theorem resolve_ofUri (uri source digest : String) (cutting : Text.cut uri digestMarker = some (source, digest))
    (registry : Registry) (provider : ProviderConfig) (function : String) (session : RegistrySession) :
    resolve registry provider function (ImageConfig.ofUri uri) session = (.ok ⟨uri, digest⟩, session) := by
  have given : uri ≠ "" := by
    intro empty
    subst empty
    cases cutting
  have named : Image.uri function (ImageConfig.ofUri uri) provider = .ok uri := by
    have found : Text.given (some uri) = some uri := by
      rw [Text.given, Option.filter_some, if_pos (by simpa using given)]
    have unnamed : Text.given (none : Option String) = none := rfl
    simp only [Image.uri, ImageConfig.ofUri, found, unnamed]
  rw [resolve, named]
  simp only [resolveUri, cutting]

theorem isPinned_of_cut (image : ResolvedImage) (source : String)
    (cutting : Text.cut image.uri digestMarker = some (source, image.digest)) : image.IsPinned :=
  ⟨source, Text.cut_first _ _ _ _ cutting⟩

end Image

end FunctionStack
