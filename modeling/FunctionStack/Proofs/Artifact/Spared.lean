import FunctionStack.Proofs.Artifact.Download
import FunctionStack.Proofs.Storage.Spared

/-!
Downloads write into the places of the objects that they deliver and nowhere else, however they end.
-/

namespace FunctionStack.ObjectStore

/-- The files that a download leaves. -/
def Outcome.left : Outcome → Files
  | .delivered left _ => left
  | .failed left _ => left
  | .stalled left => left

variable {store : ObjectStore} {target : Path} {files left : Files}

theorem ensureParents_spares (rooted : files.IsRooted) (path : Path) (made : files.ensureParents path = .ok left) :
    files.Spares left fun _ => False :=
  (Files.Spares.of_writes (Files.ensureDirectories_writes rooted _ made) (Files.ensureDirectories_adds _ made)).mono
    fun _ same => Option.some_ne_none _ same

theorem save_undelivered (uri path : String) (data : FileContent)
    (undelivered : ∀ after there, save files uri path data ≠ .delivered after there) :
    (save files uri path data).left = files := by
  unfold save at undelivered ⊢
  split
  · rfl
  case isFalse readable =>
    split
    case h_1 after written => simp [readable, written] at undelivered
    case h_2 => rfl

/-- A download that does not end well has at most made directories. -/
theorem download_undelivered (rooted : files.IsRooted) (uri : String) (outcome : Outcome)
    (ended : store.download files target uri = outcome) (undelivered : ∀ after there, outcome ≠ .delivered after there) :
    files.Spares outcome.left fun _ => False := by
  rw [download] at ended
  split at ended
  case h_1 =>
    subst ended
    exact .refl files _
  case h_2 location known =>
    dsimp only at ended
    split at ended
    case isTrue =>
      subst ended
      exact .refl files _
    case isFalse =>
      split at ended
      case h_1 =>
        subst ended
        exact .refl files _
      case h_2 made ensured =>
        have spares := ensureParents_spares rooted _ ((attempt_ok ..).mp ensured)
        suffices same : outcome.left = made from same ▸ spares
        split at ended
        case isTrue => exact ended ▸ rfl
        case isFalse =>
          split at ended
          case h_1 data found =>
            subst ended
            exact save_undelivered uri _ data undelivered
          case h_2 => exact ended ▸ rfl
          case h_3 => exact ended ▸ rfl

/-- One that does has written its object, in the place that it leads to. -/
theorem download_spares (rooted : files.IsRooted) (uri path : String)
    (delivered : store.download files target uri = .delivered left path) :
    files.Spares left fun location => left.locate ((RemoteLocation.split uri).place target).toText = .ok location := by
  obtain ⟨made, data, ensured, -, saved⟩ := download_saved delivered
  obtain ⟨-, -, written⟩ := save_ok saved
  have parents := ensureParents_spares rooted _ ensured
  obtain ⟨-, location, leads, -, writes⟩ := Files.writeAt_writes (parents.rooted rooted) _ data written
  obtain ⟨place, found, adds⟩ := Files.writeAt_adds _ data written
  obtain rfl : place = location := Except.ok.inj ((writes.locate _ place found).symm.trans leads)
  refine (parents.mono fun _ none => none.elim).trans ((Files.Spares.of_writes writes adds).mono fun other same => ?_)
  cases same
  exact leads

/-- The places of some downloads, where they have led in the end. -/
def Reached (target : Path) (done : Downloads) (location : List String) : Prop :=
  ∃ uri ∈ done.places.keys, done.files.locate ((RemoteLocation.split uri).place target).toText = .ok location

/-- Whatever downloads in order come to, they spare all but the places of those that have been delivered. -/
theorem downloadEach_spares (seconds : Value) (workers : Nat) (waiting : Bool) (rest : List String) (done : Downloads)
    (rooted : done.files.IsRooted) :
    done.places.keys ⊆ (store.downloadEach target seconds workers waiting rest done).2.places.keys ∧
      done.files.Spares (store.downloadEach target seconds workers waiting rest done).2.files
        (Reached target (store.downloadEach target seconds workers waiting rest done).2) := by
  induction rest generalizing workers waiting done with
  | nil =>
      cases workers with
      | zero =>
          rw [downloadEach_zero]
          exact ⟨List.Subset.refl _, .refl _ _⟩
      | succ workers =>
          rw [downloadEach_nil]
          exact ⟨List.Subset.refl _, .refl _ _⟩
  | cons uri rest ih =>
      cases workers with
      | zero =>
          rw [downloadEach_zero]
          exact ⟨List.Subset.refl _, .refl _ _⟩
      | succ workers =>
          rw [downloadEach_cons]
          split
          case h_1 left path delivered =>
            have first := download_spares rooted uri path delivered
            obtain ⟨grown, later⟩ := ih (workers + 1) waiting ⟨left, done.places.insert uri path⟩ (first.rooted rooted)
            have known (key : String) : key ∈ (done.places.insert uri path).keys ↔ key ∈ done.places.keys ∨ key ∈ [uri] :=
              Table.mem_keys_merge done.places [(uri, path)] key
            refine ⟨fun key member => grown ((known key).mpr (Or.inl member)),
              (first.mono fun location leads => ?_).trans later⟩
            exact ⟨uri, grown ((known uri).mpr (Or.inr (List.mem_singleton_self uri))), later.locate _ location leads⟩
          case h_2 left failure failed =>
            have first := download_undelivered rooted uri _ failed fun _ _ => nofun
            exact ⟨List.Subset.refl _, first.mono fun _ none => none.elim⟩
          case h_3 left stalled =>
            have first := download_undelivered rooted uri _ stalled fun _ _ => nofun
            obtain ⟨grown, later⟩ := ih workers true { done with files := left } (first.rooted rooted)
            exact ⟨grown, (first.mono fun _ none => none.elim).trans later⟩

/-- The URIs that a fetch has delivered by its end. -/
def delivered (store : ObjectStore) (plan : DownloadPlan) (service : ServiceConfig) (files : Files) : List String :=
  (store.downloadEach (plan.target service) plan.seconds plan.workers.toNat false service.remoteArtifacts
    ⟨files, []⟩).2.places.keys

/-- However a fetch ends, it spares all but the places of what it has delivered. -/
theorem fetch_spares (plan : DownloadPlan) (service : ServiceConfig) (rooted : files.IsRooted) :
    files.Spares (store.fetch plan service files).2 fun location => ∃ uri ∈ store.delivered plan service files,
      (store.fetch plan service files).2.locate ((RemoteLocation.split uri).place (plan.target service)).toText =
        .ok location := by
  rw [fetch]
  split_ifs
  · exact .refl files _
  · exact .refl files _
  · exact .refl files _
  · exact (downloadEach_spares plan.seconds plan.workers.toNat false service.remoteArtifacts ⟨files, []⟩ rooted).2

end FunctionStack.ObjectStore
