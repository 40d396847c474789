/-!
Byte strings cut into padded blocks of sixteen big-endian words, as the hash functions read them.
-/

namespace FunctionStack

abbrev Bytes := ByteArray

namespace Digest

/-- The bytes of a number, most significant first. -/
def bigEndian : Nat → Nat → List UInt8
  | 0, _ => []
  | width + 1, n => UInt8.ofNat (n / Nat.pow 256 width) :: bigEndian width n

/-- A one bit, zeros, and the bit length in eight bytes, up to a multiple of 64 bytes. -/
def padding (length : Nat) : List UInt8 :=
  0x80 :: List.replicate ((119 - length % 64) % 64) 0 ++ bigEndian 8 (8 * length)

/-- Reads words of four bytes onto others, so that the last one comes first. -/
def readWords : List UInt8 → List UInt32 → List UInt32
  | a :: b :: c :: d :: rest, words =>
    readWords rest ((a.toUInt32 <<< 24 ||| b.toUInt32 <<< 16 ||| c.toUInt32 <<< 8 ||| d.toUInt32) :: words)
  | _, words => words

def bytesOf (w : UInt32) : List UInt8 :=
  [(w >>> 24).toUInt8, (w >>> 16).toUInt8, (w >>> 8).toUInt8, w.toUInt8]

/-- Folds a step over a number of blocks, each of sixteen words with the last one first. -/
def foldBlocks {σ : Type} (step : σ → List UInt32 → σ) : Nat → List UInt8 → σ → σ
  | 0, _, state => state
  | count + 1, bytes, state => foldBlocks step count (bytes.drop 64) (step state (readWords (bytes.take 64) []))

/-- Folds a step over all blocks of a padded message. -/
def foldMessage {σ : Type} (step : σ → List UInt32 → σ) (start : σ) (message : Bytes) : σ :=
  let padded := message.data.toList ++ padding message.size
  foldBlocks step (padded.length / 64) padded start

@[inline] def rotl (w : UInt32) (n : UInt32) : UInt32 := w <<< n ||| w >>> (32 - n)

@[inline] def rotr (w : UInt32) (n : UInt32) : UInt32 := w >>> n ||| w <<< (32 - n)

/-- The word of a schedule that lies a number of places back. -/
@[inline] def back (schedule : List UInt32) (places : Nat) : UInt32 := schedule.getD (places - 1) 0

/-- The message schedule, the last word first: each further one is made from the sixteen before it. -/
@[specialize] def extend (next : List UInt32 → UInt32) : Nat → List UInt32 → List UInt32
  | 0, schedule => schedule
  | count + 1, schedule => extend next count (next schedule :: schedule)

end Digest

end FunctionStack
