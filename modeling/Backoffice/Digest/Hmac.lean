import Backoffice.Digest.Sha256

/-!
# Keyed hashes

HMAC over SHA-256, and the key derivation PBKDF2 that repeats it.  A key is kept as the two
states that its blocks lead to, so each use of it starts after these blocks.
-/

namespace Backoffice

open Sha256 (Words)

/-- A key: the states after its inner and after its outer block. -/
structure HmacKey where
  inner : Words
  outer : Words
deriving Repr, DecidableEq

namespace HmacKey

/-- The block of a key: a long key is hashed first, a short one is filled with zeros. -/
def block (key : List UInt8) : List UInt8 :=
  let short := if 64 < key.length then (Sha256.hash key).octets else key
  short ++ List.replicate (64 - short.length) 0

/-- The state after the block of a key that is masked with an octet. -/
def masked (mask : UInt8) (key : List UInt8) : Words :=
  Sha256.absorb Sha256.initial (Sha256.wordsOf ((block key).map (· ^^^ mask)))

/-- The key of some octets. -/
def ofOctets (key : List UInt8) : HmacKey :=
  ⟨masked 0x36 key, masked 0x5c key⟩

/-- The keyed hash of a message. -/
def tag (key : HmacKey) (message : List UInt8) : Words :=
  Sha256.continued key.outer 64 (Sha256.continued key.inner 64 message).octets

/-- The last block of a message that is one block and eight words long. -/
def lastBlock (x : Words) : Array UInt32 :=
  #[x.a, x.b, x.c, x.d, x.e, x.f, x.g, x.h, 0x80000000, 0, 0, 0, 0, 0, 0, 768]

/-- The keyed hash of eight words. -/
def tagWords (key : HmacKey) (x : Words) : Words :=
  Sha256.compress key.outer (lastBlock (Sha256.compress key.inner (lastBlock x)))

end HmacKey

/-- Adds `n` more keyed hashes to the sum `t`; the hash before was `u`. -/
def stretch (key : HmacKey) : Nat → Words → Words → Words
  | 0, _, t => t
  | n + 1, u, t =>
    let u := key.tagWords u
    stretch key n u (t.xor u)

/-- The first 32 octets that PBKDF2 derives from a secret and a salt, as words. -/
def pbkdf2 (secret salt : List UInt8) (rounds : Nat) : Words :=
  let key := HmacKey.ofOctets secret
  let first := key.tag (salt ++ [0, 0, 0, 1])
  stretch key (rounds - 1) first first

end Backoffice
