import Mathlib
import Backoffice.Account.Password
import Backoffice.Proofs.Outcome
import Backoffice.Proofs.Text.Base64
import Backoffice.Proofs.Text.Digits
import Backoffice.Proofs.Text.Split

/-!
# Passwords that are stored

The text that is stored for a password is taken apart into the digest that it was put together from,
`PasswordDigest.ofText_text`, so that the password is found to be the one of the text:
`Password.verify_hash`.
-/

namespace Backoffice

namespace PasswordDigest

/-- Octets in a digest are read back. -/
theorem readOctets_octetsText (bytes : List UInt8) : readOctets (octetsText bytes) = .ok bytes := by
  have hascii : (octetsText bytes).any (128 ≤ ·.toNat) = false := by
    rw [List.any_eq_false]
    intro c hc
    have := (Text.Base64.isPlain_of_mem_encode_pointed hc).1
    simpa using this
  have hlength : (octetsText bytes).length % 4 ≠ 1 := Text.Base64.length_encode_mod_ne bytes
  unfold readOctets
  rw [hascii, if_neg (by simpa using hlength)]
  unfold octetsText
  rw [Text.Base64.decode?_encode Text.Base64.isReadable_pointed]

/-- There is no dollar sign within the parts of a digest. -/
theorem dollar_notMem_octetsText (bytes : List UInt8) : '$' ∉ octetsText bytes :=
  fun h => (Text.Base64.isPlain_of_mem_encode_pointed h).2 rfl

/-- A digest with the rounds of new ones, a salt that is not too long and a checksum of the right size is
read back from its text. -/
theorem ofText_text {d : PasswordDigest} (hrounds : d.rounds = newRounds)
    (hsalt : d.salt.length ≤ maxSaltSize) (hchecksum : d.checksum.length = checksumSize) :
    ofText d.text = .ok d := by
  have hparts : Text.split '$' d.text.toList = [[], scheme.toList, Nat.toDigits 10 newRounds,
      octetsText d.salt, octetsText d.checksum] := by
    unfold text
    rw [String.toList_ofList, hrounds]
    simp only [List.cons_append, List.append_assoc]
    rw [← List.nil_append ('$' :: _), Text.split_append List.not_mem_nil,
      Text.split_append (by decide), Text.split_append (by decide),
      Text.split_append (dollar_notMem_octetsText _), Text.split_eq_singleton (dollar_notMem_octetsText _)]
  have hread : readRounds (Nat.toDigits 10 newRounds) = .ok newRounds := by
    decide
  have hsizes : 1 ≤ newRounds ∧ newRounds ≤ maxRounds ∧ d.salt.length ≤ maxSaltSize ∧
      d.checksum.length = checksumSize := ⟨by decide, by decide, hsalt, hchecksum⟩
  unfold ofText
  rw [hparts]
  simp only [if_true]
  unfold ofParts
  rw [hread, readOctets_octetsText, readOctets_octetsText]
  simp only [ok_bind, if_pos hsizes]
  rw [← hrounds]
  rfl

end PasswordDigest

namespace Password

variable {password salt stored : String} {digestSalt : List UInt8}

/-- A password that is not too long with its salt can be stored. -/
theorem exists_hash (hshort : (salted password salt).length ≤ maxLength) :
    ∃ stored, hash password salt digestSalt = .ok stored := by
  unfold hash
  rw [if_neg (not_lt.mpr hshort)]
  exact ⟨_, rfl⟩

/-- A password is the one of the text that was stored for it. -/
theorem verify_hash (hsalt : digestSalt.length ≤ PasswordDigest.maxSaltSize)
    (h : hash password salt digestSalt = .ok stored) : verify password salt stored = .ok true := by
  unfold hash at h
  split_ifs at h with hlong
  cases h
  have hread : PasswordDigest.ofText (digest password salt digestSalt PasswordDigest.newRounds).text =
      .ok (digest password salt digestSalt PasswordDigest.newRounds) :=
    PasswordDigest.ofText_text rfl hsalt (Sha256.length_octets _)
  have hrounds : ¬ maxDerivedRounds < PasswordDigest.newRounds := by decide
  unfold verify
  rw [if_neg hlong, hread]
  simp only [digest, if_neg hrounds, beq_self_eq_true]

end Password

end Backoffice
