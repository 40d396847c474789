import FunctionStack.Config.Provider
import FunctionStack.Failure
import FunctionStack.Text.CharacterTable
import FunctionStack.Text.Search

/-!
Container images. An image pinned by its digest is taken as it is; an image named by a tag is looked up in
its registry and pinned.
-/

namespace FunctionStack

/-- A tagged image of a registry. -/
structure ImageTag where
  region : String
  account : String
  repository : String
  tag : String
  registry : String
  deriving DecidableEq, Repr

namespace ImageTag

def isRegionChar (c : Char) : Bool := c.isDigit || c.isLower || c = '-'

def isNamePart (c : Char) : Bool := c ≠ ':' && c ≠ '@'

def after? (piece : String) (text : List Char) : Option (List Char) :=
  if piece.toList.isPrefixOf text then some (text.drop piece.length) else none

/-- The host's suffix for the Chinese partition, which may follow. -/
def suffix (text : List Char) : List Char × List Char :=
  match after? ".cn" text with
  | some rest => (".cn".toList, rest)
  | none => ([], text)

def ofUri? (uri : String) : Option ImageTag := do
  let text := uri.toList
  let account := text.take 12
  if account.length ≠ 12 || !account.all Text.isDecimalDigit then none
  let rest ← after? ".dkr.ecr." (text.drop 12)
  let region := rest.takeWhile isRegionChar
  if region.isEmpty then none
  let rest ← after? ".amazonaws.com" (rest.dropWhile isRegionChar)
  let (ending, rest) := suffix rest
  let rest ← after? "/" rest
  let repository := rest.takeWhile isNamePart
  if repository.isEmpty then none
  let tag ← after? ":" (rest.dropWhile isNamePart)
  if tag.isEmpty || !tag.all isNamePart then none
  let registry := account ++ ".dkr.ecr.".toList ++ region ++ ".amazonaws.com".toList ++ ending
  some ⟨.ofList region, .ofList account, .ofList repository, .ofList tag, .ofList registry⟩

end ImageTag

/-- The registries as the compiler sees them: whether they can be reached, and what they tell of an image,
which is a refusal or a description. -/
structure Registry where
  available : Bool
  describe : ImageTag → Except String Value

/-- What a run has asked of registries: the regions connected to and the images looked up. -/
structure RegistrySession where
  clients : List String
  lookups : List ImageTag

structure ResolvedImage where
  uri : String
  digest : String
  deriving DecidableEq, Repr

namespace Image

def digestMarker : String := "@sha256:"

/-- The URI of an image, by its name among the provider's images or its own. -/
def uri (function : String) (image : ImageConfig) (provider : ProviderConfig) : Result String :=
  match Text.given image.name with
  | some name => match provider.images.find? name with
    | none => reject (.imageNameUnknown name function)
    | some named => match Text.given named with
      | some uri => .ok uri
      | none => reject (.imageNameWithoutUri name function)
  | none => match Text.given image.uri with
    | some uri => .ok uri
    | none => reject (.imageUnspecified function)

/-- A description that does not tell the digest, with the reason where there is one to report. -/
inductive Unreadable where
  | because (reason : String)
  | faulty (fault : Fault)

def fieldOf (key : String) : Value → Except Unreadable Value
  | .obj fields => match Table.find? fields key with
    | some value => .ok value
    | none => .error (.because (Text.quoted key))
  | _ => .error (.faulty .wrongType)

def firstOf : Value → Except Unreadable Value
  | .arr (item :: _) => .ok item
  | .arr [] => .error (.because "list index out of range")
  | .obj _ => .error (.because "0")
  | .str text => match text.toList with
    | [] => .error (.because "string index out of range")
    | c :: _ => .ok (.str (.ofList [c]))
  | _ => .error (.faulty .wrongType)

/-- The digest that a description gives, with its algorithm in front. -/
def describedDigest (description : Value) : Except Unreadable Value := do
  let details ← fieldOf "imageDetails" description
  let first ← firstOf details
  fieldOf "imageDigest" first

def connect (registry : Registry) (region : String) (session : RegistrySession) : Result RegistrySession :=
  if session.clients.contains region then .ok session
  else if registry.available then .ok { session with clients := session.clients ++ [region] }
  else reject .registryClientMissing

/-- The image pinned to the digest after the algorithm's name. -/
def pin (image : ImageTag) : Value → Result ResolvedImage
  | .str text => match Text.cut text ":" with
    | some (_, digest) => .ok ⟨image.registry ++ "/" ++ image.repository ++ digestMarker ++ digest, digest⟩
    | none => fault .indexOutOfRange
  | _ => fault .noSuchMember

def readDescription (function uri : String) (image : ImageTag) (reply : Except String Value) :
    Result ResolvedImage :=
  match reply with
  | .error reason => reject (.imageLookupFailed uri function reason)
  | .ok description => match describedDigest description with
    | .ok digest => pin image digest
    | .error (.because reason) => reject (.imageLookupFailed uri function reason)
    | .error (.faulty f) => fault f

def lookUp (registry : Registry) (function uri : String) (session : RegistrySession) :
    Result ResolvedImage × RegistrySession :=
  match ImageTag.ofUri? uri with
  | none => (reject (.imageUriUnresolvable uri function), session)
  | some image => match connect registry image.region session with
    | .error failure => (.error failure, session)
    | .ok session =>
      (readDescription function uri image (registry.describe image),
        { session with lookups := session.lookups ++ [image] })

def resolveUri (registry : Registry) (function uri : String) (session : RegistrySession) :
    Result ResolvedImage × RegistrySession :=
  match Text.cut uri digestMarker with
  | some (_, digest) => (.ok ⟨uri, digest⟩, session)
  | none => lookUp registry function uri session

def resolve (registry : Registry) (provider : ProviderConfig) (function : String) (image : ImageConfig)
    (session : RegistrySession) : Result ResolvedImage × RegistrySession :=
  match uri function image provider with
  | .error failure => (.error failure, session)
  | .ok uri => resolveUri registry function uri session

end Image

end FunctionStack
