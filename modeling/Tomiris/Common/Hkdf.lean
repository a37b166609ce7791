import Mathlib.Data.Int.Order.Basic

/-!
# HKDF-SHA256

`hkdf_sha256` of `tomiris_common.crypto`, over an HMAC that returns 32 bytes.
-/

namespace Tomiris

/-- `hmac.new(key, message, hashlib.sha256).digest()` -/
abbrev HmacSha256 := List UInt8 → List UInt8 → Vector UInt8 32

/-- The `ValueError`s of `hkdf_sha256`. -/
inductive HkdfError where
  | emptyKeyMaterial
  | invalidLength
  | byteRange
deriving DecidableEq

/-- The message of the `ValueError`. -/
def HkdfError.message : HkdfError → String
  | emptyKeyMaterial => "input key material must not be empty"
  | invalidLength => "invalid HKDF output length"
  | byteRange => "bytes must be in range(0, 256)"

/-- `bytes([n])` -/
def byteOf (n : Nat) : Except HkdfError (List UInt8) :=
  if n < 256 then .ok [UInt8.ofNat n] else .error .byteRange

/-- The variables of the loop of `hkdf_sha256`. -/
structure Expansion where
  output : List UInt8 := []
  previous : List UInt8 := []
  counter : Nat := 1

namespace Expansion

/-- The body of the loop. -/
def turn (hmac : HmacSha256) (pseudoRandomKey info : List UInt8) (e : Expansion) :
    Except HkdfError Expansion :=
  match byteOf e.counter with
  | .error error => .error error
  | .ok byte =>
    let previous := (hmac pseudoRandomKey (e.previous ++ info ++ byte)).toList
    .ok { output := e.output ++ previous, previous := previous, counter := e.counter + 1 }

variable {hmac : HmacSha256} {pseudoRandomKey info : List UInt8} {e e' : Expansion}

/-- Every turn appends the bytes of one digest. -/
theorem turn_length (h : e.turn hmac pseudoRandomKey info = .ok e') :
    e'.output.length = e.output.length + 32 := by
  unfold turn at h
  split at h
  · cases h
  · cases h
    simp

/-- `while len(output) < length` -/
def expand (hmac : HmacSha256) (pseudoRandomKey info : List UInt8) (length : Nat)
    (e : Expansion) : Except HkdfError Expansion :=
  if e.output.length < length then
    match _ : e.turn hmac pseudoRandomKey info with
    | .error error => .error error
    | .ok e' => expand hmac pseudoRandomKey info length e'
  else .ok e
termination_by length - e.output.length
decreasing_by
  have hlength := turn_length ‹_›
  omega

end Expansion

/-- `hkdf_sha256` -/
def hkdfSha256 (hmac : HmacSha256) (inputKeyMaterial salt info : List UInt8)
    (length : Int := 32) : Except HkdfError (List UInt8) :=
  if inputKeyMaterial.isEmpty then .error .emptyKeyMaterial
  else if length < 1 ∨ 255 * 32 < length then .error .invalidLength
  else
    match Expansion.expand hmac (hmac salt inputKeyMaterial).toList info length.toNat {} with
    | .error error => .error error
    | .ok e => .ok (e.output.take length.toNat)

end Tomiris
