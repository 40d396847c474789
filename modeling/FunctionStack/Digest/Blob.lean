import FunctionStack.Digest.Sha256
import FunctionStack.Digest.Text

/-!
Byte strings that know their content hash. The hash is worked out when it is first asked for, and only once.
-/

namespace FunctionStack

/-- The SHA-256 hash of a byte string, in base 64. -/
def Digest.contentHash (data : Bytes) : String := base64 (sha256 data)

structure Blob where
  data : Bytes
  hash : Thunk String
  hash_eq : hash.get = Digest.contentHash data

namespace Blob

def ofBytes (data : Bytes) : Blob := ⟨data, Thunk.mk fun _ => Digest.contentHash data, rfl⟩

def ofText (text : String) : Blob := ofBytes (Digest.textBytes text)

end Blob

end FunctionStack
