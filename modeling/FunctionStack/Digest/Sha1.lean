import FunctionStack.Digest.Block

/-!
The SHA-1 hash of a byte string.
-/

namespace FunctionStack.Digest.Sha1

structure State where
  a : UInt32
  b : UInt32
  c : UInt32
  d : UInt32
  e : UInt32

def start : State := ⟨0x67452301, 0xefcdab89, 0x98badcfe, 0x10325476, 0xc3d2e1f0⟩

def nextWord (schedule : List UInt32) : UInt32 :=
  rotl (back schedule 3 ^^^ back schedule 8 ^^^ back schedule 14 ^^^ back schedule 16) 1

/-- The mixing function of a round, with its constant. -/
def mix (round : Nat) (b c d : UInt32) : UInt32 :=
  if round < 20 then (b &&& c ||| ~~~b &&& d) + 0x5a827999
  else if round < 40 then (b ^^^ c ^^^ d) + 0x6ed9eba1
  else if round < 60 then (b &&& c ||| b &&& d ||| c &&& d) + 0x8f1bbcdc
  else (b ^^^ c ^^^ d) + 0xca62c1d6

def round (s : State) (input : UInt32 × Nat) : State :=
  ⟨rotl s.a 5 + mix input.2 s.b s.c s.d + s.e + input.1, s.a, rotl s.b 30, s.c, s.d⟩

def compress (s : State) (block : List UInt32) : State :=
  let t := (extend nextWord 64 block).reverse.zipIdx.foldl round s
  ⟨s.a + t.a, s.b + t.b, s.c + t.c, s.d + t.d, s.e + t.e⟩

def State.toBytes (s : State) : Bytes := ([s.a, s.b, s.c, s.d, s.e].flatMap bytesOf).toByteArray

end Sha1

def sha1 (message : Bytes) : Bytes := (foldMessage Sha1.compress Sha1.start message).toBytes

end FunctionStack.Digest
