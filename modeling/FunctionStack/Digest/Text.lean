import FunctionStack.Digest.Block
import FunctionStack.Text.Quoted

/-!
Byte strings as text: hexadecimal, base 64, and the bytes of a text itself.
-/

namespace FunctionStack.Digest

def textBytes (text : String) : Bytes := text.toUTF8

def hex (bytes : Bytes) : String := .ofList (bytes.data.toList.flatMap fun byte => Text.hexDigits 2 byte.toNat)

def alphabet : List Char :=
  "ABCDEFGHIJKLMNOPQRSTUVWXYZabcdefghijklmnopqrstuvwxyz0123456789+/".toList

def sextet (n : Nat) : Char := alphabet.getD (n % 64) 'A'

/-- Three bytes make four characters; a shorter last group is filled up with equals signs. -/
def base64Chars : List UInt8 → List Char
  | [] => []
  | [a] =>
    let n := a.toNat * 65536
    [sextet (n / 262144), sextet (n / 4096), '=', '=']
  | [a, b] =>
    let n := a.toNat * 65536 + b.toNat * 256
    [sextet (n / 262144), sextet (n / 4096), sextet (n / 64), '=']
  | a :: b :: c :: rest =>
    let n := a.toNat * 65536 + b.toNat * 256 + c.toNat
    sextet (n / 262144) :: sextet (n / 4096) :: sextet (n / 64) :: sextet n :: base64Chars rest

def base64 (bytes : Bytes) : String := .ofList (base64Chars bytes.data.toList)

def sextetValue (c : Char) : Nat := alphabet.idxOf c

def ofBase64Chars : List Char → List UInt8
  | a :: b :: c :: d :: rest =>
    let n := sextetValue a * 262144 + sextetValue b * 4096 + sextetValue c % 64 * 64 + sextetValue d % 64
    let bytes := [UInt8.ofNat (n / 65536), UInt8.ofNat (n / 256), UInt8.ofNat n]
    (if c = '=' then bytes.take 1 else if d = '=' then bytes.take 2 else bytes) ++ ofBase64Chars rest
  | _ => []

/-- Reads base 64; characters outside the alphabet do not count. -/
def ofBase64 (text : String) : Bytes :=
  (ofBase64Chars (text.toList.filter fun c => c = '=' || alphabet.contains c)).toByteArray

end FunctionStack.Digest
