import FunctionStack.Artifact.Download
import FunctionStack.Proofs.Compile.Inventory
import FunctionStack.Proofs.Storage.Files
import FunctionStack.Proofs.Storage.Path

/-!
What the functions of a service read once its remote artifacts have been fetched. Every artifact is written to a place made
from its bucket and its key; artifacts whose places lead to one file share it, and the last one written is what it holds. The
path by which a function finds the file is relative to the service directory a second time.
-/

namespace FunctionStack

/-- Where an object goes below the directory for artifacts. -/
def RemoteLocation.place (location : RemoteLocation) (target : Path) : Path :=
  (target.child location.bucket).child location.key

namespace RemoteLocation

variable {target : Path}

theorem place_normal (location : RemoteLocation) (normal : target.IsNormal) : (location.place target).IsNormal :=
  (normal.child _).child _

theorem ofUri_ok {uri : String} {location : RemoteLocation} (known : ofUri uri = .ok location) : location = .split uri := by
  rw [ofUri] at known
  split at known
  · cases known
  · exact (Except.ok.inj known).symm

/-- A URI all of whose components stand as they are when they become part of a path. -/
def IsPlain (uri : String) : Prop :=
  ∀ piece ∈ Text.pieces '/' (uri.toList.drop scheme.length), Path.isPart piece = true ∧ piece ≠ ['.', '.']

instance (uri : String) : Decidable (IsPlain uri) :=
  inferInstanceAs (Decidable (∀ piece ∈ Text.pieces '/' (uri.toList.drop scheme.length),
    Path.isPart piece = true ∧ piece ≠ ['.', '.']))

/-- Its components are the parts of its place below the target. -/
theorem place_plain (uri : String) (plain : IsPlain uri) : (split uri).place target =
    ⟨target.slashes, target.parts ++ (Text.pieces '/' (uri.toList.drop scheme.length)).map String.ofList⟩ := by
  have child (path : Path) (text : List Char) (each : ∀ piece ∈ Text.pieces '/' text, Path.isPart piece = true) :
      path.child (.ofList text) = ⟨path.slashes, path.parts ++ (Text.pieces '/' text).map String.ofList⟩ := by
    have read := Path.ofText_pieces (.ofList text) (by rwa [String.toList_ofList])
    rw [Path.child, read, String.toList_ofList]
    rfl
  rw [place, split]
  have pieces := Text.pieces_cutAt '/' (uri.toList.drop scheme.length)
  have bare (text : List Char) (member : text ∈ Text.pieces '/' (uri.toList.drop scheme.length)) :
      Text.pieces '/' text = [text] := Text.pieces_single '/' text (Text.pieces_spared '/' _ text member)
  cases found : Text.cutAt ['/'] (uri.toList.drop scheme.length) with
  | none =>
      rw [found] at pieces
      have own : uri.toList.drop scheme.length ∈ Text.pieces '/' (uri.toList.drop scheme.length) := by
        rw [pieces]
        exact List.mem_singleton_self _
      dsimp only
      rw [child _ _ fun piece member => (plain piece member).1, Path.child, Path.join, if_neg (by decide)]
      rw [show (Path.ofText "").parts = [] by decide, List.append_nil]
  | some cut =>
      obtain ⟨bucket, key⟩ := cut
      rw [found] at pieces
      have first : bucket ∈ Text.pieces '/' (uri.toList.drop scheme.length) := by
        rw [pieces]
        exact List.mem_cons_self ..
      have rest (piece : List Char) (member : piece ∈ Text.pieces '/' key) : Path.isPart piece = true :=
        (plain piece (by rw [pieces]; exact List.mem_cons_of_mem _ member)).1
      dsimp only
      have own (piece : List Char) (member : piece ∈ Text.pieces '/' bucket) : Path.isPart piece = true := by
        rw [bare bucket first, List.mem_singleton] at member
        exact member ▸ (plain bucket first).1
      rw [child target bucket own, child _ key rest, bare bucket first, pieces, Path.mk.injEq]
      exact ⟨rfl, List.append_assoc ..⟩

/-- Plain URIs with places that lead to one file are the same. -/
theorem place_apart {files : Files} (normal : target.IsNormal) (one other : String) (remote : isRemote (some one) = true)
    (also : isRemote (some other) = true) (plain : IsPlain one) (plainOther : IsPlain other)
    (shared : files.Shares ((split one).place target).toText ((split other).place target).toText) : one = other := by
  have steps (uri : String) (each : IsPlain uri) (location : List String)
      (leads : files.locate ((split uri).place target).toText = .ok location) :
      ∃ above, files.walk "" (files.startOf target) target.parts = .ok above ∧
        location = above ++ (Text.pieces '/' (uri.toList.drop scheme.length)).map String.ofList := by
    have proper := (split uri).place_normal normal
    rw [place_plain uri each] at leads proper
    have some : (Text.pieces '/' (uri.toList.drop scheme.length)) ≠ [] := by
      rw [Text.pieces_eq_splitOn]
      exact List.splitOn_ne_nil _ _
    have walked := (Files.Writes.refl files).walk (Files.locate_walk proper (by simp [some]) leads) ""
    rw [Files.walk_append, Result.bind_ok] at walked
    obtain ⟨above, reached, rest⟩ := walked
    refine ⟨above, reached, Files.walk_plain rest fun part member => ?_⟩
    obtain ⟨piece, listed, rfl⟩ := List.mem_map.mp member
    obtain ⟨proper, up⟩ := each piece listed
    constructor
    · intro dot
      rw [show piece = ['.'] from by simpa using congrArg String.toList dot] at proper
      cases proper
    · exact fun dots => up (by simpa using congrArg String.toList dots)
  obtain ⟨location, first, second⟩ := shared
  obtain ⟨above, reached, rfl⟩ := steps one plain location first
  obtain ⟨_, again, same⟩ := steps other plainOther _ second
  cases reached.symm.trans again
  have characters (uri : String) (remote : isRemote (some uri) = true) :
      uri.toList = scheme.toList ++ uri.toList.drop scheme.length := by
    obtain ⟨rest, text⟩ : scheme.toList <+: uri.toList := List.isPrefixOf_iff_prefix.mp remote
    rw [← text]
    rfl
  have pieces := List.map_injective_iff.mpr (fun _ _ => String.ofList_injective) (List.append_cancel_left same)
  rw [← String.toList_inj, characters one remote, characters other also, Text.pieces_injective '/' pieces]

end RemoteLocation

/-- What has come of the downloads of some URIs: each has its place, and what is read there is the object of one of them whose
place leads to the same file. -/
structure Downloads.Fetched (store : ObjectStore) (target : Path) (uris : List String) (done : Downloads) : Prop where
  rooted : done.files.IsRooted
  known : ∀ uri, (done.places.find? uri).isSome → uri ∈ uris
  placed : ∀ uri ∈ uris, done.places.find? uri = some ((RemoteLocation.split uri).place target).toText
  stored : ∀ uri ∈ uris, ∃ other ∈ uris,
    done.files.Shares ((RemoteLocation.split other).place target).toText ((RemoteLocation.split uri).place target).toText ∧
      ∃ data, store.object (.split other) = .content data ∧
        done.files.read ((RemoteLocation.split uri).place target).toText = .ok data

namespace ObjectStore

variable {store : ObjectStore} {target : Path} {files left : Files} {uris : List String} {done final : Downloads}

theorem attempt_ok {α : Type} (uri : String) (step : Except StorageError α) (a : α) :
    attempt uri step = .ok a ↔ step = .ok a := by
  cases step <;> simp [attempt, reject]

theorem save_ok {uri path there : String} {data : FileContent} (saved : save files uri path data = .delivered left there) :
    there = path ∧ Files.holdsNul path = false ∧ files.writeAt path data = .ok left := by
  rw [save] at saved
  split at saved
  · cases saved
  case isFalse readable =>
    split at saved
    case h_2 => cases saved
    case h_1 after written =>
      cases saved
      exact ⟨rfl, by simpa using readable, (attempt_ok ..).mp written⟩

/-- A download that ends well saves the object to its place, below directories that it has made. -/
theorem download_saved {uri path : String} (delivered : store.download files target uri = .delivered left path) :
    ∃ made data, files.ensureParents ((RemoteLocation.split uri).place target) = .ok made ∧
      store.object (.split uri) = .content data ∧
        save made uri ((RemoteLocation.split uri).place target).toText data = .delivered left path := by
  rw [download] at delivered
  split at delivered
  · cases delivered
  case h_2 location known =>
    obtain rfl := RemoteLocation.ofUri_ok known
    dsimp only at delivered
    split at delivered
    · cases delivered
    split at delivered
    · cases delivered
    case h_2 made ensured =>
      split at delivered
      · cases delivered
      split at delivered
      case h_1 data found => exact ⟨made, data, (attempt_ok ..).mp ensured, found, delivered⟩
      all_goals cases delivered

/-- A download goes to the place of its object, whatever else is there. -/
theorem download_place {uri path : String} (delivered : store.download files target uri = .delivered left path) :
    path = ((RemoteLocation.split uri).place target).toText := by
  obtain ⟨_, _, _, _, saved⟩ := download_saved delivered
  exact (save_ok saved).1

/-- In rooted files the object can be read there. -/
theorem download_delivered (rooted : files.IsRooted) (uri path : String)
    (delivered : store.download files target uri = .delivered left path) :
    path = ((RemoteLocation.split uri).place target).toText ∧ ∃ data location, store.object (.split uri) = .content data ∧
      files.Writes left (some location) ∧ left.locate ((RemoteLocation.split uri).place target).toText = .ok location ∧
        left.read ((RemoteLocation.split uri).place target).toText = .ok data := by
  obtain ⟨made, data, ensured, found, saved⟩ := download_saved delivered
  obtain ⟨same, readable, written⟩ := save_ok saved
  have parents := Files.ensureDirectories_writes rooted _ ensured
  obtain ⟨named, location, leads, present, writes⟩ := Files.writeAt_writes (parents.rooted rooted) _ data written
  exact ⟨same, data, location, found, parents.trans writes, leads,
    (Files.read_ok _ data).mpr ⟨readable, named, location, leads, present⟩⟩

/-- One more download. It may have replaced what others had written, and then its URI is the one that leads to their file. -/
theorem fetched_insert (so : done.Fetched store target uris) (uri path : String)
    (delivered : store.download done.files target uri = .delivered left path) :
    Downloads.Fetched store target (uris ++ [uri]) ⟨left, done.places.insert uri path⟩ := by
  obtain ⟨there, data, location, served, writes, leads, held⟩ := download_delivered so.rooted uri path delivered
  have last : uri ∈ uris ++ [uri] := List.mem_append_right _ (List.mem_singleton_self uri)
  constructor
  case rooted => exact writes.rooted so.rooted
  case known =>
    intro key present
    rw [Table.find?_insert] at present
    split_ifs at present with same
    · exact same ▸ last
    · exact List.mem_append_left _ (so.known key present)
  case placed =>
    intro key member
    rw [Table.find?_insert]
    split_ifs with same
    · rw [there, same]
    · have earlier : key ∈ uris := by simpa [same] using member
      exact so.placed key earlier
  case stored =>
    intro key member
    by_cases same : key = uri
    · subst same
      exact ⟨key, last, Files.Shares.refl held, data, served, held⟩
    · have earlier : key ∈ uris := by simpa [same] using member
      obtain ⟨other, among, shared, content, object, present⟩ := so.stored key earlier
      rcases writes.read present with replaced | kept
      · have shares : left.Shares ((RemoteLocation.split key).place target).toText
          ((RemoteLocation.split uri).place target).toText := ⟨location, replaced, leads⟩
        obtain ⟨readable, named, _⟩ := (Files.read_ok _ _).mp present
        exact ⟨uri, last, ⟨location, leads, replaced⟩, data, served, shares.read readable named held⟩
      · exact ⟨other, List.mem_append_left _ among, writes.shares shared, content, object, kept⟩

theorem downloadEach_zero (seconds : Value) (waiting : Bool) (rest : List String) :
    store.downloadEach target seconds 0 waiting rest done = (reject (.downloadTimedOut seconds), done) := by
  cases rest <;> rfl

theorem downloadEach_nil (seconds : Value) (workers : Nat) (waiting : Bool) :
    store.downloadEach target seconds (workers + 1) waiting [] done =
      (if waiting then reject (.downloadTimedOut seconds) else .ok (), done) := by
  cases waiting <;> rfl

theorem downloadEach_cons (seconds : Value) (workers : Nat) (waiting : Bool) (uri : String) (rest : List String) :
    store.downloadEach target seconds (workers + 1) waiting (uri :: rest) done =
      match store.download done.files target uri with
      | .delivered files path =>
        downloadEach store target seconds (workers + 1) waiting rest ⟨files, done.places.insert uri path⟩
      | .failed files failure => (.error failure, { done with files := files })
      | .stalled files => downloadEach store target seconds workers true rest { done with files := files } := by
  cases waiting <;> rfl

/-- Once a download has stalled, the downloads do not end well. -/
theorem downloadEach_waiting (seconds : Value) (workers : Nat) (rest : List String) :
    store.downloadEach target seconds workers true rest done ≠ (.ok (), final) := by
  induction rest generalizing workers done with
  | nil =>
      cases workers with
      | zero => simp [downloadEach_zero, reject]
      | succ workers => simp [downloadEach_nil, reject]
  | cons uri rest ih =>
      cases workers with
      | zero => simp [downloadEach_zero, reject]
      | succ workers =>
          rw [downloadEach_cons]
          split
          · exact ih (workers + 1)
          · simp
          · exact ih workers

/-- Downloads that have ended well have all been made. -/
theorem downloadEach_fetched (seconds : Value) (workers : Nat) (rest : List String) (so : done.Fetched store target uris)
    (ended : store.downloadEach target seconds workers false rest done = (.ok (), final)) :
    final.Fetched store target (uris ++ rest) := by
  induction rest generalizing uris done with
  | nil =>
      cases workers with
      | zero => cases ended
      | succ workers =>
          cases ended
          rwa [List.append_nil]
  | cons uri rest ih =>
      cases workers with
      | zero => cases ended
      | succ workers =>
          rw [downloadEach_cons] at ended
          split at ended
          case h_1 left path delivered =>
            have whole := ih (fetched_insert so uri path delivered) ended
            rwa [List.append_assoc] at whole
          · cases ended
          · exact absurd ended (downloadEach_waiting seconds workers rest)

theorem fetch_fetched (plan : DownloadPlan) (service : ServiceConfig) (places : Table String) (rooted : files.IsRooted)
    (fetched : store.fetch plan service files = (.ok places, left)) :
    Downloads.Fetched store (plan.target service) service.remoteArtifacts ⟨left, places⟩ := by
  have start : Downloads.Fetched store (plan.target service) [] ⟨files, []⟩ :=
    ⟨rooted, fun _ none => (by cases none), fun _ none => (by cases none), fun _ none => (by cases none)⟩
  rw [fetch] at fetched
  split_ifs at fetched with none
  · rw [List.isEmpty_iff.mp none]
    cases fetched
    exact start
  · cases fetched
  · cases fetched
  · dsimp only at fetched
    cases ran : store.downloadEach (plan.target service) plan.seconds plan.workers.toNat false service.remoteArtifacts
      ⟨files, []⟩ with
    | mk outcome done =>
        rw [ran] at fetched
        cases outcome with
        | error _ => cases fetched
        | ok _ =>
            cases fetched
            exact downloadEach_fetched _ _ _ start ran

end ObjectStore

namespace PackageConfig

variable {places : Table String} {package : PackageConfig}

theorem relocate_given (uri path : String) (given : Text.given package.artifact = some uri)
    (placed : places.find? uri = some path) (named : path ≠ "") :
    Text.given (package.relocate places).artifact = some path := by
  have artifact : package.artifact = some uri := (Option.filter_eq_some_iff.mp given).1
  have found : package.artifact.bind places.find? = some path := by rw [artifact, Option.bind_some, placed]
  rw [relocate, found]
  exact Option.filter_eq_some_iff.mpr ⟨rfl, by simpa using named⟩

theorem relocate_none (none : Text.given package.artifact = none) (unnamed : places.find? "" = Option.none) :
    Text.given (package.relocate places).artifact = Option.none := by
  have nothing : package.artifact.bind places.find? = Option.none := by
    cases artifact : package.artifact with
    | none => rfl
    | some text =>
        have empty : text = "" := by simpa [Text.given, artifact] using none
        rw [Option.bind_some, empty, unnamed]
  rw [relocate, nothing]
  exact none

end PackageConfig

namespace ServiceConfig

theorem mem_remoteArtifacts (service : ServiceConfig) (uri : String) : uri ∈ service.remoteArtifacts ↔
    RemoteLocation.isRemote (some uri) = true ∧ ∃ package ∈ service.packages, package.artifact = some uri := by
  rw [remoteArtifacts, Text.sorted, List.mem_mergeSort, Text.mem_distinct, List.mem_filter, List.mem_filterMap, and_comm]

/-- The code artifact that a function is configured with: its own, else that of the service. -/
def codeArtifact (service : ServiceConfig) (function : FunctionConfig) : Option String :=
  Text.given function.package.artifact <|> Text.given service.package.artifact

variable {service : ServiceConfig} {function : FunctionConfig} {places : Table String}

theorem codeArtifact_packages (name uri : String) (declared : service.functions.find? name = some function)
    (handled : function.hasImage = false) (effective : service.codeArtifact function = some uri) :
    ∃ package ∈ service.packages, package.artifact = some uri := by
  have listed : function.package ∈ service.packages := by
    have member := Table.find?_some_mem _ _ _ declared
    refine List.mem_append_left _ (List.mem_append_right _ ?_)
    exact List.mem_map.mpr ⟨(name, function), List.mem_filter.mpr ⟨member, by simp [handled]⟩, rfl⟩
  have common : service.package ∈ service.packages :=
    List.mem_append_left _ (List.mem_append_left _ (List.mem_singleton_self _))
  rw [codeArtifact] at effective
  cases own : Text.given function.package.artifact with
  | some text =>
      rw [own] at effective
      cases effective
      exact ⟨_, listed, (Option.filter_eq_some_iff.mp own).1⟩
  | none =>
      rw [own] at effective
      exact ⟨_, common, (Option.filter_eq_some_iff.mp effective).1⟩

/-- The artifact of a function is where it has been downloaded to. -/
theorem codeArtifact_relocate (uri path : String) (handled : function.hasImage = false)
    (effective : service.codeArtifact function = some uri) (placed : places.find? uri = some path) (named : path ≠ "")
    (unnamed : places.find? "" = none) :
    (service.relocate places).codeArtifact (function.relocate places) = some path := by
  have moved : (function.relocate places).package = function.package.relocate places := by
    rw [FunctionConfig.relocate, handled]
    rfl
  rw [codeArtifact] at effective ⊢
  rw [moved]
  cases own : Text.given function.package.artifact with
  | some text =>
      rw [own] at effective
      cases effective
      rw [PackageConfig.relocate_given uri path own placed named]
      rfl
  | none =>
      rw [own] at effective
      rw [PackageConfig.relocate_none own unnamed]
      exact PackageConfig.relocate_given uri path effective placed named

/-- Where an artifact of the service is downloaded to by default. -/
def place (service : ServiceConfig) (uri : String) : Path :=
  (RemoteLocation.split uri).place (DownloadPlan.default.target service)

theorem place_normal (normal : service.directory.IsNormal) (uri : String) : (service.place uri).IsNormal :=
  RemoteLocation.place_normal _ ((normal.child _).child _)

/-- A relative place lies below the service directory. -/
theorem place_relative (uri : String) (relative : (service.place uri).isAbsolute = false) :
    service.directory.parts ⊆ (service.place uri).parts ∧ (service.place uri).parts ≠ [] := by
  rw [place, RemoteLocation.place] at relative ⊢
  obtain ⟨above, key⟩ := Path.child_relative relative
  obtain ⟨artifacts, bucket⟩ := Path.child_relative above
  obtain ⟨packaging, target⟩ := Path.child_relative artifacts
  obtain ⟨_, directory⟩ := Path.child_relative packaging
  have named : "artifacts" ∈ (DownloadPlan.default.target service).parts := by
    obtain ⟨_, _, parts⟩ := Path.join_relative artifacts
    refine parts ▸ List.mem_append_right _ ?_
    decide
  exact ⟨fun part member => key (bucket (target (directory member))), List.ne_nil_of_mem (key (bucket named))⟩

/-- The path by which a function finds a place can be read if the path of the place can. -/
theorem place_readable (normal : service.directory.IsNormal) (uri : String)
    (readable : Files.holdsNul (service.place uri).toText = false)
    (named : Files.endsInSlash (service.place uri).toText = false) :
    Files.holdsNul (service.directory.join (service.place uri)).toText = false ∧
      Files.endsInSlash (service.directory.join (service.place uri)).toText = false := by
  by_cases absolute : (service.place uri).isAbsolute = true
  · rw [(Path.join_eq_right _ _).mpr (Or.inl absolute)]
    exact ⟨readable, named⟩
  · obtain ⟨above, some⟩ := place_relative uri (by simpa using absolute)
    have joined : (service.directory.join (service.place uri)).parts =
        service.directory.parts ++ (service.place uri).parts := by
      rw [Path.join, if_neg absolute]
    have someJoined : (service.directory.join (service.place uri)).parts ≠ [] := by simp [joined, some]
    constructor
    · rw [Files.holdsNul, Bool.eq_false_iff, ne_eq, List.contains_iff_mem] at readable ⊢
      rw [Path.mem_toText _ _ (by decide) fun empty => some empty.2] at readable
      rw [Path.mem_toText _ _ (by decide) fun empty => someJoined empty.2]
      rintro ⟨part, member, held⟩
      rw [joined, List.mem_append] at member
      exact readable ⟨part, member.elim (fun first => above first) id, held⟩
    · exact (normal.join (place_normal normal uri)).toText_endsInSlash someJoined

end ServiceConfig

/-- After a fetch a function finds its artifact where the path of its place leads from the service directory. What is in the
place itself is an object of the service's, and it is the function's own if no other artifact goes to the same file. -/
theorem ObjectStore.fetch_codeArtifact (store : ObjectStore) (service : ServiceConfig) (files left : Files)
    (places : Table String) (name uri : String) (function : FunctionConfig) (normal : service.directory.IsNormal)
    (rooted : files.IsRooted) (fetched : store.fetch .default service files = (.ok places, left))
    (declared : service.functions.find? name = some function) (handled : function.hasImage = false)
    (effective : service.codeArtifact function = some uri) (remote : RemoteLocation.isRemote (some uri) = true) :
    ∃ moved, (service.relocate places).functions.find? name = some moved ∧
      (service.relocate places).functionArtifact name moved = (service.directory.join (service.place uri)).toText ∧
      ((service.relocate places).functionArtifact name moved = (service.place uri).toText ↔
        (service.place uri).isAbsolute = true ∨ service.directory = .current) ∧
      (∃ other ∈ service.remoteArtifacts, left.Shares (service.place other).toText (service.place uri).toText ∧
        ∃ data, store.object (.split other) = .content data ∧ left.read (service.place uri).toText = .ok data) ∧
      (left.Shares ((service.relocate places).functionArtifact name moved) (service.place uri).toText →
        (∀ other ∈ service.remoteArtifacts, left.Shares (service.place other).toText (service.place uri).toText → other = uri) →
        ∃ data, store.object (.split uri) = .content data ∧
          left.read ((service.relocate places).functionArtifact name moved) = .ok data) := by
  obtain ⟨_, known, placed, stored⟩ := fetch_fetched .default service places rooted fetched
  have among : uri ∈ service.remoteArtifacts :=
    (service.mem_remoteArtifacts uri).mpr ⟨remote, ServiceConfig.codeArtifact_packages name uri declared handled effective⟩
  have proper := ServiceConfig.place_normal normal uri
  have unnamed : places.find? "" = none := by
    cases found : places.find? "" with
    | none => rfl
    | some path => exact absurd ((service.mem_remoteArtifacts "").mp (known "" (by simp [found]))).1 (by decide)
  have artifact := ServiceConfig.codeArtifact_relocate uri _ handled effective (placed uri among) proper.toText_named unnamed
  have anchored : (service.relocate places).functionArtifact name (function.relocate places) =
      (service.directory.join (service.place uri)).toText := by
    rw [ServiceConfig.codeArtifact] at artifact
    rw [ServiceConfig.functionArtifact, artifact]
    change ServiceConfig.anchored _ (service.place uri).toText = _
    rw [ServiceConfig.anchored, proper.toText_local, if_neg Bool.false_ne_true, Path.child, proper.ofText_toText]
    rfl
  obtain ⟨other, listed, shared, data, object, held⟩ := stored uri among
  refine ⟨function.relocate places, ?_, anchored, ?_, ⟨other, listed, shared, data, object, held⟩, ?_⟩
  · rw [ServiceConfig.relocate, Table.find?_mapValues, declared]
    rfl
  · rw [anchored, ← Path.join_eq_right]
    refine ⟨fun same => ?_, fun same => by rw [same]⟩
    rw [← (normal.join proper).ofText_toText, same, proper.ofText_toText]
  · rw [anchored]
    intro leads alone
    obtain rfl := alone other listed shared
    obtain ⟨readable, named, _⟩ := (Files.read_ok _ _).mp held
    obtain ⟨joinedReadable, joinedNamed⟩ := ServiceConfig.place_readable normal other readable named
    exact ⟨data, object, leads.read joinedReadable joinedNamed held⟩

/-- The bytes of a file that is known by them. -/
def FileContent.bytes? : FileContent → Option (List UInt8)
  | .bytes blob => some blob.data.data.toList
  | .document _ => none

/-- A fetch that ends well and leaves a function with something else than the object of its artifact. -/
def ObjectStore.Misleads (store : ObjectStore) (service : ServiceConfig) (files : Files) (name uri : String) : Prop :=
  ∃ places left function moved, store.fetch .default service files = (.ok places, left) ∧
    service.functions.find? name = some function ∧ function.hasImage = false ∧ service.codeArtifact function = some uri ∧
      RemoteLocation.isRemote (some uri) = true ∧ (service.relocate places).functions.find? name = some moved ∧
        ∀ data, store.object (.split uri) = .content data →
          left.read ((service.relocate places).functionArtifact name moved) ≠ .ok data

namespace ObjectStore

theorem fetch_any (store : ObjectStore) (service : ServiceConfig) (files : Files) (p : Table String → Files → Bool)
    (succeeds : (store.fetch .default service files).1.toOption.any
      (fun places => p places (store.fetch .default service files).2) = true) :
    ∃ places left, store.fetch .default service files = (.ok places, left) ∧ p places left = true := by
  cases fetched : store.fetch .default service files with
  | mk outcome left =>
      rw [fetched] at succeeds
      cases outcome with
      | error _ => cases succeeds
      | ok places => exact ⟨places, left, rfl, succeeds⟩

/-- An object storage in which every object names itself. -/
def selfNamed : ObjectStore := ⟨true, fun location => .content (.bytes (.ofText (location.bucket ++ "/" ++ location.key)))⟩

/-- A service with an artifact, and a second function that has one of its own. -/
def mirrored (directory common own : String) : ServiceConfig := .ofFields [
  ("service", .str "s"),
  ("serviceDir", .str directory),
  ("package", .obj [("artifact", .str common)]),
  ("functions", .obj [
    ("api", .obj [("handler", .str "h")]),
    ("worker", .obj [("handler", .str "h"), ("package", .obj [("artifact", .str own)])])])]

/-- In an absolute directory, artifacts with different keys. -/
theorem mirrored_codeArtifact : ∃ places left moved,
    selfNamed.fetch .default (mirrored "/srv" "s3://builds/a.zip" "s3://builds/b.zip") (.empty ["home"]) = (.ok places, left) ∧
      ((mirrored "/srv" "s3://builds/a.zip" "s3://builds/b.zip").relocate places).functions.find? "api" = some moved ∧
        ((mirrored "/srv" "s3://builds/a.zip" "s3://builds/b.zip").relocate places).functionArtifact "api" moved =
          "/srv/.serverless/artifacts/builds/a.zip" ∧
        left.read "/srv/.serverless/artifacts/builds/a.zip" = .ok (.bytes (.ofText "builds/a.zip")) := by
  let service := mirrored "/srv" "s3://builds/a.zip" "s3://builds/b.zip"
  have listed : service.remoteArtifacts = ["s3://builds/a.zip", "s3://builds/b.zip"] :=
    List.mergeSort_of_pairwise (by decide +kernel)
  obtain ⟨places, left, fetched, -⟩ := fetch_any selfNamed service (.empty ["home"]) (fun _ _ => true)
    (by rw [fetch, listed]; decide +kernel)
  obtain ⟨function, declared, configured⟩ := (Option.any_eq_true _ _).mp
    (by decide +kernel : (service.functions.find? "api").any (fun function =>
      !function.hasImage && service.codeArtifact function = some "s3://builds/a.zip") = true)
  rw [Bool.and_eq_true, Bool.not_eq_true', decide_eq_true_eq] at configured
  obtain ⟨moved, found, _, direct, ⟨_, _, _, _, _, held⟩, own⟩ := fetch_codeArtifact selfNamed service (.empty ["home"]) left
    places "api" "s3://builds/a.zip" function (Path.ofText_normal _) (Files.node?_put ..) fetched declared configured.1
    configured.2 (by decide)
  have artifact := direct.mpr (Or.inl (by decide +kernel))
  have plain (uri : String) (member : uri ∈ service.remoteArtifacts) :
      RemoteLocation.isRemote (some uri) = true ∧ RemoteLocation.IsPlain uri := by
    rw [listed] at member
    revert uri
    decide +kernel
  have alone (other : String) (member : other ∈ service.remoteArtifacts)
      (shared : left.Shares (service.place other).toText (service.place "s3://builds/a.zip").toText) :
      other = "s3://builds/a.zip" :=
    RemoteLocation.place_apart (((Path.ofText_normal _).child _).child _) _ _ (plain other member).1 (by decide)
      (plain other member).2 (by decide +kernel) shared
  obtain ⟨data, object, present⟩ := own (by rw [artifact]; exact .refl held) alone
  cases object
  have path : (service.place "s3://builds/a.zip").toText = "/srv/.serverless/artifacts/builds/a.zip" := by decide +kernel
  rw [artifact, path] at present
  exact ⟨places, left, moved, fetched, found, artifact.trans path, present⟩

theorem misleads_of (store : ObjectStore) (service : ServiceConfig) (files : Files) (name uri : String) (own : Blob)
    (object : store.object (.split uri) = .content (.bytes own))
    (configured : (service.functions.find? name).any (fun function =>
      !function.hasImage && service.codeArtifact function = some uri && RemoteLocation.isRemote (some uri)) = true)
    (succeeds : (store.fetch .default service files).1.toOption.any (fun places =>
      ((service.relocate places).functions.find? name).any fun moved =>
        !((store.fetch .default service files).2.read ((service.relocate places).functionArtifact name moved)).toOption.any
          fun content => content.bytes? = some own.data.data.toList) = true) : store.Misleads service files name uri := by
  obtain ⟨places, left, fetched, reads⟩ := fetch_any store service files (fun places left =>
    ((service.relocate places).functions.find? name).any fun moved =>
      !(left.read ((service.relocate places).functionArtifact name moved)).toOption.any
        fun content => content.bytes? = some own.data.data.toList) succeeds
  obtain ⟨moved, found, reads⟩ := (Option.any_eq_true _ _).mp reads
  obtain ⟨function, declared, configured⟩ := (Option.any_eq_true _ _).mp configured
  simp only [Bool.and_eq_true, Bool.not_eq_true', decide_eq_true_eq] at configured
  obtain ⟨⟨handled, effective⟩, remote⟩ := configured
  refine ⟨places, left, function, moved, fetched, declared, handled, effective, remote, found, fun data served held => ?_⟩
  rw [object] at served
  cases served
  rw [held] at reads
  simp [Except.toOption, FileContent.bytes?] at reads

/-- A relative directory is put in front a second time, and a repeated slash in a key is dropped, so that one object replaces
another. -/
theorem mirrored_misleads :
    selfNamed.Misleads (mirrored "svc" "s3://builds/a.zip" "s3://builds/b.zip") (.empty ["home"]) "api" "s3://builds/a.zip" ∧
      selfNamed.Misleads (mirrored "/srv" "s3://builds/x//a.zip" "s3://builds/x/a.zip") (.empty ["home"]) "api"
        "s3://builds/x//a.zip" := by
  have nested : (mirrored "svc" "s3://builds/a.zip" "s3://builds/b.zip").remoteArtifacts =
      ["s3://builds/a.zip", "s3://builds/b.zip"] := List.mergeSort_of_pairwise (by decide +kernel)
  have repeated : (mirrored "/srv" "s3://builds/x//a.zip" "s3://builds/x/a.zip").remoteArtifacts =
      ["s3://builds/x//a.zip", "s3://builds/x/a.zip"] := List.mergeSort_of_pairwise (by decide +kernel)
  constructor
  · refine misleads_of _ _ _ _ _ _ rfl (by decide +kernel) ?_
    rw [fetch, nested]
    decide +kernel
  · refine misleads_of _ _ _ _ _ _ rfl (by decide +kernel) ?_
    rw [fetch, repeated]
    decide +kernel

end ObjectStore

end FunctionStack
