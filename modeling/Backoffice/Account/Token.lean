import Backoffice.Account.Key
import Backoffice.Calendar.Moment
import Backoffice.Digest.Hmac
import Backoffice.Json.Writer
import Backoffice.Text.Split

/-!
# Tokens

Signed claims: a header, the claims and a signature over both, each in base 64 and with points
between them.  Header and claims are JSON objects; the signature is the keyed hash of the text in
front of it.  `sign` makes a token, `issue` puts the time of issue and of expiry into it, and
`accept` gives back the claims of a token that is signed with the secret and valid now.
-/

namespace Backoffice.Token

/-- The text in base 64 of octets. -/
def segment (bytes : List UInt8) : List Char :=
  Text.Base64.encode .addressSafe bytes

/-- The header of every token that is signed here. -/
def header : Json :=
  .obj [("alg", .str "HS256"), ("typ", .str "JWT")]

/-- The signature of a text under a secret. -/
def signature (secret : String) (text : List UInt8) : List UInt8 :=
  ((HmacKey.ofOctets (octets secret)).tag text).octets

/-- The text that is signed. -/
def signedText (claims : List (String × Json)) : List Char :=
  segment (octets (header.render .compact)) ++
    '.' :: segment (octets ((Json.obj claims).render .compact))

/-- The token of the claims. -/
def sign (secret : String) (claims : List (String × Json)) : Except TokenError String :=
  if isPlainKey secret then
    let text := signedText claims
    .ok (String.ofList (text ++ '.' :: segment (signature secret (Text.Utf8.encode text))))
  else .error .signingKey

/-- The claims with the times of issue and of expiry, in whole seconds. -/
def withTimes (claims : List (String × Json)) (issued expires : WallTime) :
    List (String × Json) :=
  Json.setField "exp" (.int expires.unixTimestamp)
    (Json.setField "iat" (.int issued.unixTimestamp) claims)

/-- The token of the claims, issued now and valid until `expires`. -/
def issue (secret : String) (claims : List (String × Json)) (now expires : WallTime) :
    Except TokenError String :=
  sign secret (withTimes claims now expires)

/-- The JSON object that octets are the text of. -/
def readObject (bytes : List UInt8) : Except TokenError (List (String × Json)) :=
  match (Text.Utf8.decode? bytes).bind Json.parse? with
  | some (.obj fields) => .ok fields
  | _ => .error .malformed

/-- A token taken apart. -/
structure Parts where
  header : List (String × Json)
  payload : List UInt8
  signature : List UInt8
  /-- What the signature has to be of. -/
  signedText : List UInt8
deriving Repr

/-- The parts of a token. -/
def readParts (token : List UInt8) : Except TokenError Parts := do
  let point : UInt8 := 46
  match Text.splitLast point token with
  | none => .error .malformed
  | some (signedText, signature) =>
    match Text.splitFirst point signedText with
    | none => .error .malformed
    | some (header, payload) =>
      let header ← readObject (← readSegment header)
      let payload ← readSegment payload
      let signature ← readSegment signature
      return ⟨header, payload, signature, signedText⟩

/-- One of the keys has made the signature.  They are tried in turn, and one that is no key ends
the trial. -/
def isSignedWith (text signed : List UInt8) :
    List (Except TokenError (List UInt8)) → Except TokenError Bool
  | [] => .ok false
  | .error e :: _ => .error e
  | .ok key :: rest =>
    if ((HmacKey.ofOctets key).tag text).octets = signed then .ok true
    else isSignedWith text signed rest

/-- The integer of a time claim. -/
def timeOf : Json → Except TokenError Int
  | .bool b => .ok (if b then 1 else 0)
  | .int n => .ok n
  | .float .nan => .error .claims
  | .float (.infinity _) => .error .claimInfinite
  | .float x =>
    match x.truncate? with
    | some n => .ok n
    | none => .error .claims
  | .str s =>
    match Text.int? s.toList with
    | some n => .ok n
    | none => .error .claims
  | .unpaired => .error .claims
  | .null | .arr _ | .obj _ => .error .claimType

/-- The time claim of a name, if there is one. -/
def timeClaim (claims : List (String × Json)) (name : String) : Except TokenError (Option Int) :=
  match claims.lookup name with
  | none => .ok none
  | some v => (timeOf v).map some

/-- Refuses a claim that there must not be. -/
def requireAbsent (claims : List (String × Json)) (name : String) : Except TokenError Unit :=
  if (claims.lookup name).isSome then .error .claims else .ok ()

/-- Refuses a claim that is there and is no string. -/
def requireString (claims : List (String × Json)) (name : String) : Except TokenError Unit :=
  match claims.lookup name with
  | none | some (.str _) | some .unpaired => .ok ()
  | some _ => .error .claims

/-- Refuses claims that are not valid at a time, which is given in whole seconds. -/
def checkClaims (claims : List (String × Json)) (now : Int) : Except TokenError Unit := do
  let _ ← timeClaim claims "iat"
  match ← timeClaim claims "nbf" with
  | some notBefore => if now < notBefore then .error .claims
  | none => pure ()
  match ← timeClaim claims "exp" with
  | some expires => if expires < now then .error .expired
  | none => pure ()
  requireAbsent claims "aud"
  requireString claims "sub"
  requireString claims "jti"
  requireAbsent claims "at_hash"

/-- The claims of a token that was signed with the secret and is valid now. -/
def accept (secret token : String) (now : WallTime) : Except TokenError (List (String × Json)) := do
  let parts ← readParts (octets token)
  match parts.header.lookup "alg" with
  | some (.str "HS256") => pure ()
  | _ => .error .malformed
  if !(← isSignedWith parts.signedText parts.signature (keys secret)) then .error .malformed
  let claims ← readObject parts.payload
  checkClaims claims now.unixSeconds
  return claims

end Backoffice.Token
