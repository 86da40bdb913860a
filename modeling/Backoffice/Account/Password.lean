import Backoffice.Digest.Hmac
import Backoffice.Failure
import Backoffice.Text.Base64
import Backoffice.Text.Numeral
import Backoffice.Text.Split
import Backoffice.Text.Utf8

/-!
# Passwords

A password is stored as the text of a digest: the scheme, the number of rounds, the salt and the
checksum, each after a dollar sign.  What is digested is the salt of the user, a colon and the
password; the digest has a salt of its own as well.
-/

namespace Backoffice

-- Powers are those of the standard library, whatever else is imported.
attribute [local instance (high)] instPowNat

/-- A digest of a password. -/
structure PasswordDigest where
  rounds : Nat
  salt : List UInt8
  checksum : List UInt8
deriving Repr, DecidableEq

namespace PasswordDigest

/-- Why the text of a digest is not read. -/
inductive Defect
  | malformed
  /-- The digits of the salt or of the checksum end within a group. -/
  | incomplete
deriving Repr, DecidableEq

/-- The scheme of the digests. -/
def scheme : String := "pbkdf2-sha256"

/-- The octets of a checksum. -/
def checksumSize : Nat := 32

/-- The most octets of a salt. -/
def maxSaltSize : Nat := 1024

/-- The most rounds that a digest can name. -/
def maxRounds : Nat := 2 ^ (32 : Nat) - 1

/-- The rounds of a new digest. -/
def newRounds : Nat := 29000

/-- Octets in the form that a digest has them in. -/
def octetsText (bytes : List UInt8) : List Char :=
  Text.Base64.encode .pointed bytes

/-- The text of a digest. -/
def text (d : PasswordDigest) : String :=
  String.ofList ('$' :: scheme.toList ++ '$' :: Nat.toDigits 10 d.rounds ++
    '$' :: octetsText d.salt ++ '$' :: octetsText d.checksum)

/-- The number of rounds: a numeral that does not begin with a zero.  A negative one counts as
zero rounds, which no digest has. -/
def readRounds (cs : List Char) : Except Defect Nat :=
  if cs.head? = some '0' ∧ cs ≠ ['0'] then .error .malformed
  else
    match Text.int? cs with
    | some n => .ok n.toNat
    | none => .error .malformed

/-- The octets of a text without padding. -/
def readOctets (cs : List Char) : Except Defect (List UInt8) :=
  if cs.any (128 ≤ ·.toNat) ∨ cs.length % 4 = 1 then .error .malformed
  else
    match Text.Base64.decode? .pointed cs with
    | some bytes => .ok bytes
    | none => .error .incomplete

/-- The digest of the parts of its text. -/
def ofParts (rounds salt checksum : List Char) : Except Defect PasswordDigest := do
  let rounds ← readRounds rounds
  let salt ← readOctets salt
  let checksum ← readOctets checksum
  if 1 ≤ rounds ∧ rounds ≤ maxRounds ∧ salt.length ≤ maxSaltSize ∧
      checksum.length = checksumSize then
    return ⟨rounds, salt, checksum⟩
  else .error .malformed

/-- The digest that a text stands for. -/
def ofText (s : String) : Except Defect PasswordDigest :=
  match Text.split '$' s.toList with
  | [[], name, rounds, salt, checksum] =>
    if name = scheme.toList then ofParts rounds salt checksum else .error .malformed
  | [[], name, rounds, salt] =>
    if name = scheme.toList then ofParts rounds salt [] else .error .malformed
  | _ => .error .malformed

end PasswordDigest

namespace Password

/-- What is digested. -/
def salted (password salt : String) : String :=
  salt ++ ":" ++ password

/-- The most characters that are digested. -/
def maxLength : Nat := 4096

/-- The most rounds that a checksum is derived with: their number has to fit 32 bits with a sign. -/
def maxDerivedRounds : Nat := 2 ^ (31 : Nat) - 1

/-- The checksum under a salt and a number of rounds. -/
def checksum (password salt : String) (digestSalt : List UInt8) (rounds : Nat) : List UInt8 :=
  (pbkdf2 (Text.Utf8.encode (salted password salt).toList) digestSalt rounds).octets

/-- The digest of a password with a number of rounds and a salt of its own. -/
def digest (password salt : String) (digestSalt : List UInt8) (rounds : Nat) : PasswordDigest :=
  ⟨rounds, digestSalt, checksum password salt digestSalt rounds⟩

/-- The text to store for a password. -/
def hash (password salt : String) (digestSalt : List UInt8) : Except Failure String :=
  if maxLength < (salted password salt).length then .error .oversizedPassword
  else .ok (digest password salt digestSalt PasswordDigest.newRounds).text

/-- The password is the one of the stored text.  A text that is no digest belongs to no password,
unless it breaks off within a group of digits, which is an error; and so is a digest with more rounds
than a checksum can be derived with. -/
def verify (password salt stored : String) : Except Failure Bool :=
  if maxLength < (salted password salt).length then .ok false
  else
    match PasswordDigest.ofText stored with
    | .ok d =>
      if maxDerivedRounds < d.rounds then .error (.overflow .parameter)
      else .ok (checksum password salt d.salt d.rounds == d.checksum)
    | .error .malformed => .ok false
    | .error .incomplete => .error .wrongType

end Password

end Backoffice
