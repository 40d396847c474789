import FunctionStack.Artifact.Location
import FunctionStack.Config.Service
import FunctionStack.Storage.Files
import FunctionStack.Text.Listing

/-!
Retrieval of remote artifacts. Every remote artifact of a service is downloaded once, and the service then
points at the local files. The first download that fails ends it and leaves the service as it was.
-/

namespace FunctionStack

inductive ObjectReply where
  | content (data : FileContent)
  | refused (reason : String)
  | stalled

/-- The object storage as the compiler sees it: whether it can be reached, and what it delivers. -/
structure ObjectStore where
  available : Bool
  object : RemoteLocation → ObjectReply

/-- Where downloads go, how many run at a time, and after how many seconds all of them must have ended. -/
structure DownloadPlan where
  directory : Option String
  workers : Int
  seconds : Value

/-- The files with what has been downloaded to them: a local path for each URI. -/
structure Downloads where
  files : Files
  places : Table String

namespace DownloadPlan

/-- Only numbers limit the time; null does not limit it. -/
def isTimeLimit : Value → Bool
  | .str _ => false
  | .arr _ => false
  | .obj _ => false
  | _ => true

def default : DownloadPlan := ⟨none, 4, .int 300⟩

def target (plan : DownloadPlan) (service : ServiceConfig) : Path :=
  match Text.given plan.directory with
  | some directory => Path.ofText directory
  | none => service.packagingDirectory.child "artifacts"

end DownloadPlan

namespace ServiceConfig

/-- Functions made from images have no code artifact. -/
def packages (service : ServiceConfig) : List PackageConfig :=
  [service.package] ++
    (service.functions.filter fun (_, function) => !function.hasImage).map (fun entry => entry.2.package) ++
    service.layers.map fun entry => entry.2.package

def remoteArtifacts (service : ServiceConfig) : List String :=
  Text.sorted (Text.distinct
    ((service.packages.filterMap PackageConfig.artifact).filter fun uri => RemoteLocation.isRemote (some uri)))

end ServiceConfig

namespace PackageConfig

def relocate (places : Table String) (package : PackageConfig) : PackageConfig :=
  match package.artifact.bind places.find? with
  | some path => { package with artifact := some path }
  | none => package

end PackageConfig

namespace FunctionConfig

def relocate (places : Table String) (function : FunctionConfig) : FunctionConfig :=
  if function.hasImage then function else { function with package := function.package.relocate places }

end FunctionConfig

namespace ServiceConfig

/-- The service with its downloaded artifacts where they are now. -/
def relocate (places : Table String) (service : ServiceConfig) : ServiceConfig :=
  { service with
    package := service.package.relocate places
    functions := service.functions.mapValues (FunctionConfig.relocate places)
    layers := service.layers.mapValues fun layer => { layer with package := layer.package.relocate places } }

end ServiceConfig

namespace ObjectStore

/-- What becomes of one download. -/
inductive Outcome where
  | delivered (files : Files) (path : String)
  | failed (files : Files) (failure : Failure)
  | stalled (files : Files)

def attempt {α : Type} (uri : String) (step : Except StorageError α) : Result α :=
  match step with
  | .ok a => .ok a
  | .error reason => reject (.downloadFailed uri reason.text)

def save (files : Files) (uri path : String) (data : FileContent) : Outcome :=
  if Files.holdsNul path then .failed files (.faulty .badValue)
  else match attempt uri (files.writeAt path data) with
    | .ok files => .delivered files path
    | .error failure => .failed files failure

def download (store : ObjectStore) (files : Files) (target : Path) (uri : String) : Outcome :=
  match RemoteLocation.ofUri uri with
  | .error failure => .failed files failure
  | .ok location =>
    let path := (target.child location.bucket).child location.key
    if Files.holdsNul path.parent.toText then .failed files (.faulty .badValue)
    else match attempt uri (files.ensureParents path) with
      | .error failure => .failed files failure
      | .ok files =>
        if !store.available then .failed files (.because .storageClientMissing)
        else match store.object location with
          | .content data => save files uri path.toText data
          | .refused reason => .failed files (.because (.downloadFailed uri reason))
          | .stalled => .stalled files

/-- Downloads in order. One that stalls keeps its worker, so that nothing more runs once all workers are kept;
the time is up as soon as all that can end has ended. -/
def downloadEach (store : ObjectStore) (target : Path) (seconds : Value) :
    Nat → Bool → List String → Downloads → Result Unit × Downloads
  | 0, _, _, done => (reject (.downloadTimedOut seconds), done)
  | _, false, [], done => (.ok (), done)
  | _, true, [], done => (reject (.downloadTimedOut seconds), done)
  | workers + 1, waiting, uri :: rest, done =>
    match store.download done.files target uri with
    | .delivered files path =>
      downloadEach store target seconds (workers + 1) waiting rest ⟨files, done.places.insert uri path⟩
    | .failed files failure => (.error failure, { done with files := files })
    | .stalled files => downloadEach store target seconds workers true rest { done with files := files }

/-- Fetches the remote artifacts of a service; the files are those that the downloads leave behind. -/
def fetch (store : ObjectStore) (plan : DownloadPlan) (service : ServiceConfig) (files : Files) :
    Result (Table String) × Files :=
  if service.remoteArtifacts.isEmpty then (.ok [], files)
  else if plan.workers ≤ 0 then (fault .badValue, files)
  else if !DownloadPlan.isTimeLimit plan.seconds then (fault .wrongType, files)
  else
    let (outcome, done) := store.downloadEach (plan.target service) plan.seconds plan.workers.toNat false
      service.remoteArtifacts ⟨files, []⟩
    (outcome.map fun _ => done.places, done.files)

end ObjectStore

end FunctionStack
