import Backoffice.Failure
import Backoffice.Json.Reader
import Backoffice.Text.Base64
import Backoffice.Text.Split
import Backoffice.Text.Utf8

/-!
# Keys

What a secret is as a key of keyed hashes.  A text is a key by its octets, unless it looks like a
key of another kind: one in armour, which is text between a line that begins it and a line that
ends it, or one of a secure shell.  To sign, a secret is taken as it is (`textKey`); to check a
signature, a secret that is the text of a JSON value stands for the keys in the value (`keys`).
-/

namespace Backoffice.Token

/-- The octets of a text. -/
def octets (s : String) : List UInt8 :=
  Text.Utf8.encode s.toList

/-- The octets of a segment in base 64. -/
def readSegment (bytes : List UInt8) : Except TokenError (List UInt8) :=
  match Text.Base64.decode? .addressSafe (bytes.map fun b => Char.ofNat b.toNat) with
  | some bytes => .ok bytes
  | none => .error .malformed

/-! ### Keys of other kinds -/

/-- The part occurs in the text. -/
def occursIn (part text : List Char) : Bool :=
  Text.someTail part.isPrefixOf text

/-- What follows the part that the text begins with. -/
def after? : List Char → List Char → Option (List Char)
  | [], cs => some cs
  | p :: ps, c :: cs => if p = c then after? ps cs else none
  | _ :: _, [] => none

/-- What follows a dash, in whose place a blank may stand. -/
def afterDash? : List Char → Option (List Char)
  | '-' :: cs | ' ' :: cs => some cs
  | _ => none

/-- What follows the end of a line. -/
def afterLineEnd? : List Char → Option (List Char)
  | '\r' :: '\n' :: cs | '\n' :: cs => some cs
  | _ => none

/-- What follows a boundary of armour, which is words between five dashes on either side. -/
def afterBoundary? (words : String) (cs : List Char) : Option (List Char) := do
  let cs ← after? "----".toList cs
  let cs ← afterDash? cs
  let cs ← after? words.toList cs
  let cs ← afterDash? cs
  after? "----".toList cs

/-- What can be in armour. -/
def armourLabels : List String :=
  ["CERTIFICATE", "TRUSTED CERTIFICATE", "PRIVATE KEY", "PUBLIC KEY", "ENCRYPTED PRIVATE KEY",
    "OPENSSH PRIVATE KEY", "DSA PRIVATE KEY", "RSA PRIVATE KEY", "RSA PUBLIC KEY",
    "EC PRIVATE KEY", "DH PARAMETERS", "NEW CERTIFICATE REQUEST", "CERTIFICATE REQUEST",
    "SSH2 PUBLIC KEY", "SSH2 ENCRYPTED PRIVATE KEY", "X509 CRL"]

/-- The text begins with armour of the label: a line that begins it, at least one character, and
a line that ends it. -/
def beginsArmour (label : String) (cs : List Char) : Bool :=
  match (afterBoundary? ("BEGIN " ++ label) cs).bind afterLineEnd? with
  | some (_ :: rest) =>
    Text.someTail (fun tail =>
      match tail with
      | '\n' :: tail => (afterBoundary? ("END " ++ label) tail).isSome
      | _ => false) rest
  | _ => false

/-- There is armour in the text. -/
def hasArmour (cs : List Char) : Bool :=
  armourLabels.any fun label => Text.someTail (beginsArmour label) cs

/-- The names of the kinds of keys of a secure shell. -/
def shellKinds : List String :=
  ["ssh-ed25519", "ssh-rsa", "ssh-dss", "ecdsa-sha2-nistp256", "ecdsa-sha2-nistp384",
    "ecdsa-sha2-nistp521"]

/-- The end of the name of a kind of key that comes with a certificate. -/
def certifiedMark : String := "-cert-v01@openssh.com"

/-- ASCII white space. -/
def isAsciiSpace (c : Char) : Bool :=
  c == ' ' || ('\t' ≤ c && c ≤ '\r')

/-- The text begins with the name of a kind of certified key and something after it. -/
def beginsCertified (cs : List Char) : Bool :=
  let name := cs.takeWhile (!isAsciiSpace ·)
  let rest := cs.dropWhile (!isAsciiSpace ·)
  let blank (c : Char) : Bool := c == ' ' || c == '\t'
  certifiedMark.toList.isSuffixOf name && rest.head?.any blank &&
    (rest.dropWhile blank).head?.any (!isAsciiSpace ·)

/-- The text is a key of a secure shell. -/
def isShellKey (cs : List Char) : Bool :=
  shellKinds.any (fun kind => occursIn kind.toList cs) || beginsCertified cs

/-- The secret can be used as it is. -/
def isPlainKey (secret : String) : Bool :=
  !hasArmour secret.toList && !isShellKey secret.toList

/-- The key of a text, if it can be used as one. -/
def textKey (s : String) : Except TokenError (List UInt8) :=
  if isPlainKey s then .ok (octets s) else .error .key

/-! ### Keys in a value -/

/-- The text that a value in a secret stands for.  A number stands for its text. -/
def valueText? : Json → Option String
  | .str s => some s
  | .int n => some (Text.decimal n)
  | .float (.finite negative mantissa exponent) =>
    some (String.ofList (Binary64.finite negative mantissa exponent).text)
  | _ => none

/-- The key of an object that describes one: the octets of its `k`, in base 64. -/
def describedKey (fields : List (String × Json)) : Except TokenError (List UInt8) :=
  match fields.lookup "kty", (fields.lookup "k").bind valueText? with
  | some (.str "oct"), some k => (readSegment (octets k)).mapError fun _ => .keyText
  | some (.str "oct"), none => .error .keyMember
  | _, _ => .error .key

/-- The key of a value in a secret. -/
def valueKey : Json → Except TokenError (List UInt8)
  | .obj fields => describedKey fields
  | v =>
    match valueText? v with
    | some s => textKey s
    | none => .error .key

/-- The keys that a value is a list of: the items of an array, the names of an object, or the
characters of a text. -/
def listedKeys : Json → List (Except TokenError (List UInt8))
  | .arr items => items.map valueKey
  | .obj fields => fields.map fun f => textKey f.1
  | v =>
    match valueText? v with
    | some s => s.toList.map fun c => textKey (String.singleton c)
    | none => [.error .keyList]

/-- The keys that a secret gives to check signatures with.  A secret that happens to be a JSON
text stands for its value: a string for the text in it, a number for its own text, an array for
the keys in it.  An object has a list of keys, or describes a key, or has keys as its values. -/
def keys (secret : String) : List (Except TokenError (List UInt8)) :=
  match Json.parse? secret.toList with
  | none => [textKey secret]
  | some (.arr items) => items.map valueKey
  | some (.int _) | some (.float (.finite ..)) =>
    [textKey (String.ofList (Text.trimBy Json.isBlank secret.toList))]
  | some (.obj fields) =>
    match fields.lookup "keys" with
    | some listed => listedKeys listed
    | none =>
      if fields.isEmpty ∨ (fields.lookup "kty").isSome then [describedKey fields]
      else fields.map fun f => valueKey f.2
  | some v => [valueKey v]

end Backoffice.Token
