import OverSync.Library.Guard
import OverSync.Library.Hex
import Mathlib.Algebra.Group.Int.Defs

/-! # The secrets of the SDK

`hashOrderPreimage` with its loop over the bytes of the order id, and `hexToUint8`. -/

namespace OverSync.Secrets

open Library

def maxOrderId : ℤ := 2 ^ 256 - 1

/-- A preimage as a `0x` string or as a byte array. -/
inductive Preimage where
  | hex (text : String)
  | bytes (buf : Bytes)
  deriving DecidableEq, Repr

/-- The text of an `Error`. -/
abbrev SecretError := String

/-! ## Hex strings -/

/-- `parseInt(s, 16)`; `none` is `NaN`. -/
def parseInt16 (s : List Char) : Option ℤ :=
  let s := s.dropWhile isJsSpace
  let negative := s.head? = some '-'
  let s := if s.head? = some '-' ∨ s.head? = some '+' then s.tail else s
  let s := if s.take 2 = ['0', 'x'] ∨ s.take 2 = ['0', 'X'] then s.drop 2 else s
  let digits := s.takeWhile isHexDigit
  if digits = [] then none
  else (parseDigits 16 0 digits).map fun n => if negative then -(n : ℤ) else n

/-- What an entry of a byte array becomes. -/
def toUint8 (value : Option ℤ) : UInt8 := UInt8.ofNat ((value.getD 0) % 256).toNat

/-- Two characters for each byte. -/
def uint8Pairs : List Char → Bytes
  | high :: low :: clean => toUint8 (parseInt16 [high, low]) :: uint8Pairs clean
  | _ => []

def hexToUint8 (hex : String) : Except SecretError Bytes := do
  let clean := if hex.toList.take 2 = ['0', 'x'] then hex.toList.drop 2 else hex.toList
  require (clean.length % 2 = 0) "hex string has odd length"
  return uint8Pairs clean

def uint8ToHex (buf : Bytes) : String := String.ofList ('0' :: 'x' :: encodeHex buf)

/-- `/^0x(?:[0-9a-fA-F]{2})+$/` -/
def isHexBytes (s : String) : Bool :=
  match s.toList with
  | '0' :: 'x' :: hex => hex ≠ [] && hex.length % 2 = 0 && hex.all isHexDigit
  | _ => false

/-! ## Order preimages -/

/-- The passes of the loop with an index below `index`. -/
def encodeOrderId : ℕ → Bytes → ℕ → Bytes
  | 0, encoded, _ => encoded
  | index + 1, encoded, value =>
    encodeOrderId index (encoded.set index (UInt8.ofNat (value &&& 0xff))) (value >>> 8)

/-- `encoded.set(bytes, offset)` -/
def setBytes (encoded bytes : Bytes) (offset : ℕ) : Bytes :=
  encoded.take offset ++ bytes ++ encoded.drop (offset + bytes.length)

/-- The bytes of a preimage; a string is checked first. -/
def Preimage.read : Preimage → Except SecretError Bytes
  | .hex text => do
    require (text ≠ "0x") "preimage must not be empty"
    require (isHexBytes text = true) "preimage must be non-empty, even-length hex bytes"
    hexToUint8 text
  | .bytes buf => .ok buf

/-- The bytes that `hashOrderPreimage` hashes. -/
def orderPreimageBytes (orderId : ℤ) (preimage : Preimage) : Except SecretError Bytes := do
  require (0 ≤ orderId ∧ orderId ≤ maxOrderId) "orderId must fit in an unsigned 256-bit integer"
  let bytes ← preimage.read
  require (bytes.length ≠ 0) "preimage must not be empty"
  let encoded := List.replicate (32 + bytes.length) 0
  let encoded := encodeOrderId 32 encoded orderId.toNat
  return setBytes encoded bytes 32

def hashOrderPreimage (sha256 : Bytes → Bytes) (orderId : ℤ) (preimage : Preimage) :
    Except SecretError String := do
  let encoded ← orderPreimageBytes orderId preimage
  return uint8ToHex (sha256 encoded)

end OverSync.Secrets
