import Mathlib
import Backoffice.Account.Access
import Backoffice.Proofs.Calendar.Seconds
import Backoffice.Proofs.Fields
import Backoffice.Proofs.Json.Documents
import Backoffice.Proofs.Json.RoundTrip
import Backoffice.Proofs.Outcome
import Backoffice.Proofs.Text.Base64
import Backoffice.Proofs.Text.Digits
import Backoffice.Proofs.Text.Split
import Backoffice.Proofs.Text.Strip
import Backoffice.Proofs.Text.Utf8

/-!
# Tokens that are accepted

A token that was signed with a plain secret is taken apart into the claims that it was made of, so
whether it is accepted depends on the claims and the time alone: `accept_sign`.  Claims that ask for nothing
are accepted up to the second in which they expire, `accept_issue_eq`, and those of users are such claims.
-/

namespace Backoffice.Token

/-- The secret is a key as it is: it signs with its octets, and they are the only key that it gives to
check with. -/
structure IsPlainSecret (secret : String) : Prop where
  signs : isPlainKey secret = true
  checks : keys secret = [.ok (octets secret)]

/-! ### Segments -/

/-- A segment is in ASCII. -/
theorem encode_segment (bytes : List UInt8) :
    Text.Utf8.encode (segment bytes) = (segment bytes).map fun c => UInt8.ofNat c.toNat :=
  Text.Utf8.encode_of_ascii fun _ hc => Nat.lt_succ_of_lt (Text.Base64.isPlain_of_mem_encode hc).2.1

/-- The octets in a segment are read back. -/
theorem readSegment_segment (bytes : List UInt8) :
    readSegment (Text.Utf8.encode (segment bytes)) = .ok bytes := by
  have hchars : (Text.Utf8.encode (segment bytes)).map (fun b => Char.ofNat b.toNat) =
      segment bytes := by
    rw [encode_segment, List.map_map]
    conv_rhs => rw [← List.map_id (segment bytes)]
    refine List.map_congr_left fun c hc => ?_
    have hascii : c.toNat < 256 := by
      have := (Text.Base64.isPlain_of_mem_encode hc).2.1
      omega
    rw [Function.comp_apply, UInt8.toNat_ofNat_of_lt' hascii, Char.ofNat_toNat, id_eq]
  unfold readSegment
  rw [hchars]
  unfold segment
  rw [Text.Base64.decode?_encode Text.Base64.isReadable_addressSafe]

/-- There is no point in a segment. -/
theorem point_notMem_segment (bytes : List UInt8) : (46 : UInt8) ∉ Text.Utf8.encode (segment bytes) := by
  rw [encode_segment, List.mem_map]
  rintro ⟨c, hc, heq⟩
  obtain ⟨-, hascii, hpoint⟩ := Text.Base64.isPlain_of_mem_encode hc
  have hcode := congrArg UInt8.toNat heq
  rw [UInt8.toNat_ofNat_of_lt' (show c.toNat < 256 by omega)] at hcode
  exact hpoint (Char.toNat_inj.mp hcode)

/-- An object is read back from its text. -/
theorem readObject_render {style : Json.Style} (hstyle : style.IsRegular) {fields : List (String × Json)}
    (hexact : (Json.obj fields).IsExact) :
    readObject (octets ((Json.obj fields).render style)) = .ok fields := by
  unfold readObject octets Json.render
  rw [String.toList_ofList, Text.Utf8.decode?_encode, Option.bind_some, Json.parse?_write hstyle hexact]

/-! ### Signed claims -/

/-- The header is an object that is read back. -/
theorem isExact_header : header.IsExact := by
  refine .obj (by decide) fun f hf => ?_
  simp only [List.mem_cons, List.not_mem_nil, or_false] at hf
  rcases hf with rfl | rfl
  · exact .str _
  · exact .str _

/-- A token is taken apart into what it was put together from. -/
theorem readParts_sign (claims : List (String × Json)) (signed : List UInt8) :
    readParts (Text.Utf8.encode (signedText claims ++ '.' :: segment signed)) =
      .ok ⟨[("alg", .str "HS256"), ("typ", .str "JWT")], octets ((Json.obj claims).render .compact),
        signed, Text.Utf8.encode (signedText claims)⟩ := by
  have hpoint : ∀ front back : List Char, Text.Utf8.encode (front ++ '.' :: back) =
      Text.Utf8.encode front ++ 46 :: Text.Utf8.encode back := by
    intro front back
    rw [Text.Utf8.encode_append]
    rfl
  have hheader : readObject (octets (header.render .compact)) =
      .ok [("alg", .str "HS256"), ("typ", .str "JWT")] :=
    readObject_render Json.Style.isRegular_compact isExact_header
  unfold readParts
  simp only []
  rw [hpoint, Text.splitLast_append (point_notMem_segment signed)]
  simp only []
  unfold signedText
  rw [hpoint, Text.splitFirst_append (point_notMem_segment _)]
  simp only [readSegment_segment, ok_bind, hheader]
  rfl

/-- A token that was signed is the signed text, a point and the signature of the text. -/
theorem toList_sign {secret token : String} {claims : List (String × Json)}
    (hsign : sign secret claims = .ok token) : token.toList = signedText claims ++
      '.' :: segment (signature secret (Text.Utf8.encode (signedText claims))) := by
  unfold sign at hsign
  split at hsign
  · simp only [Except.ok.injEq] at hsign
    rw [← hsign, String.toList_ofList]
  · cases hsign

/-- A token is signed for one object of claims only. -/
theorem claims_eq_of_sign {secret secret' token : String} {claims claims' : List (String × Json)}
    (hexact : (Json.obj claims).IsExact) (hexact' : (Json.obj claims').IsExact)
    (h : sign secret claims = .ok token) (h' : sign secret' claims' = .ok token) : claims = claims' := by
  have hparts := readParts_sign claims (signature secret (Text.Utf8.encode (signedText claims)))
  have hparts' := readParts_sign claims' (signature secret' (Text.Utf8.encode (signedText claims')))
  rw [← toList_sign h] at hparts
  rw [← toList_sign h', hparts] at hparts'
  -- the payload is the same, and either object is read back from it
  have hpayload := congrArg Parts.payload (Except.ok.inj hparts')
  have hread := readObject_render Json.Style.isRegular_compact hexact
  dsimp only at hpayload
  rw [hpayload, readObject_render Json.Style.isRegular_compact hexact'] at hread
  exact (Except.ok.inj hread).symm

/-- Whether a signed token is accepted is told by its claims and the time. -/
theorem accept_sign {secret token : String} (hplain : IsPlainSecret secret)
    {claims : List (String × Json)} (hexact : (Json.obj claims).IsExact)
    (hsign : sign secret claims = .ok token) (now : WallTime) :
    accept secret token now = (fun _ => claims) <$> checkClaims claims now.unixSeconds := by
  have htoken : octets token = Text.Utf8.encode (signedText claims ++
      '.' :: segment (signature secret (Text.Utf8.encode (signedText claims)))) := by
    unfold octets
    rw [toList_sign hsign]
  have hsigned : isSignedWith (Text.Utf8.encode (signedText claims))
      (signature secret (Text.Utf8.encode (signedText claims))) (keys secret) = .ok true := by
    rw [hplain.checks, isSignedWith]
    exact if_pos rfl
  have hpayload := readObject_render Json.Style.isRegular_compact hexact
  unfold accept
  rw [htoken, readParts_sign, ok_bind]
  simp only [List.lookup, beq_self_eq_true, hsigned, ok_bind, hpayload, Bool.not_true, Bool.false_eq_true,
    if_false]
  cases checkClaims claims now.unixSeconds <;> rfl

/-- A secret that gives no key to check with accepts nothing. -/
theorem accept_ne_ok_of_keys {secret : String} (h : keys secret = []) (token : String) (now : WallTime)
    (claims : List (String × Json)) : accept secret token now ≠ .ok claims := by
  intro haccept
  unfold accept at haccept
  obtain ⟨parts, -, haccept⟩ := bind_eq_ok_iff.mp haccept
  rw [h] at haccept
  split at haccept <;> cases haccept

/-- There is a point in a token that is accepted. -/
theorem point_mem_of_accept {secret token : String} {now : WallTime} {claims : List (String × Json)}
    (h : accept secret token now = .ok claims) : '.' ∈ token.toList := by
  unfold accept at h
  obtain ⟨parts, hparts, -⟩ := bind_eq_ok_iff.mp h
  by_contra hpoint
  have hreverse : (46 : UInt8) ∉ (octets token).reverse := by
    rw [List.mem_reverse]
    exact fun hmem => hpoint (Text.Utf8.mem_of_mem_encode (n := 46) (by decide) hmem)
  unfold readParts Text.splitLast at hparts
  dsimp only at hparts
  rw [Text.splitFirst_eq_none hreverse] at hparts
  cases hparts

/-! ### Claims with times -/

section Claims

variable {secret token : String} {claims dated : List (String × Json)} {now expires : WallTime}

/-- The claims ask for nothing that the one who accepts them would have to know or to wait for, and their
subject is a text, if they have one. -/
structure IsUndemanding (claims : List (String × Json)) : Prop where
  subject : ∀ v ∈ claims.lookup "sub", ∃ s, v = .str s
  others : ∀ name ∈ ["nbf", "aud", "jti", "at_hash"], claims.lookup name = none

/-- The claims have the two times in whole seconds, and otherwise are the same as before. -/
structure IsDated (claims dated : List (String × Json)) (issued expires : ℤ) : Prop where
  distinct : (dated.map (·.1)).Nodup
  issued : dated.lookup "iat" = some (.int issued)
  expires : dated.lookup "exp" = some (.int expires)
  others : ∀ name, name ≠ "iat" → name ≠ "exp" → dated.lookup name = claims.lookup name

/-- The claims of a token have the time of its issue and that of its expiry. -/
theorem isDated_withTimes (hdistinct : (claims.map (·.1)).Nodup) (now expires : WallTime) :
    IsDated claims (withTimes claims now expires) now.unixTimestamp expires.unixTimestamp := by
  unfold withTimes
  refine ⟨Json.nodup_setField _ _ (Json.nodup_setField _ _ hdistinct), ?_, ?_, fun name hiat hexp => ?_⟩
  · rw [Json.lookup_setField, if_neg (by decide), Json.lookup_setField, if_pos rfl]
  · rw [Json.lookup_setField, if_pos rfl]
  · rw [Json.lookup_setField, if_neg hexp, Json.lookup_setField, if_neg hiat]

/-- Claims that are read back as they are still are with the two times. -/
theorem isExact_withTimes (h : (Json.obj claims).IsExact) (now expires : WallTime) :
    (Json.obj (withTimes claims now expires)).IsExact := by
  have hnow := now.natAbs_unixTimestamp_lt
  have hexpires := expires.natAbs_unixTimestamp_lt
  cases h with
  | obj hdistinct hfields =>
    refine .obj (isDated_withTimes hdistinct now expires).distinct fun f hf => ?_
    rcases Json.of_mem_setField hf with rfl | hf
    · exact .int_of_lt (by omega)
    · rcases Json.of_mem_setField hf with rfl | hf
      · exact .int_of_lt (by omega)
      · exact hfields f hf

/-- An integer is a time. -/
theorem timeClaim_int {name : String} {n : ℤ} (h : claims.lookup name = some (.int n)) :
    timeClaim claims name = .ok (some n) := by
  unfold timeClaim
  rw [h]
  rfl

/-- Claims with times that ask for nothing are valid up to the time of expiry. -/
theorem IsDated.checkClaims_eq {issued expires : ℤ} (h : IsDated claims dated issued expires)
    (hclaims : IsUndemanding claims) (now : ℤ) :
    checkClaims dated now = if now ≤ expires then .ok () else .error .expired := by
  have hnone : ∀ name ∈ ["nbf", "aud", "jti", "at_hash"], dated.lookup name = none := by
    intro name hname
    rw [← hclaims.others name hname]
    refine h.others name ?_ ?_ <;> rintro rfl <;> simp at hname
  have hbefore : timeClaim dated "nbf" = .ok none := by
    unfold timeClaim
    rw [hnone "nbf" (by simp)]
  have habsent : ∀ name ∈ ["aud", "at_hash"], requireAbsent dated name = .ok () := by
    intro name hname
    unfold requireAbsent
    rw [hnone name (by simp only [List.mem_cons, List.not_mem_nil, or_false] at hname ⊢; tauto)]
    rfl
  have hsubject : requireString dated "sub" = .ok () := by
    unfold requireString
    rw [h.others "sub" (by decide) (by decide)]
    cases hsub : claims.lookup "sub" with
    | none => rfl
    | some v =>
      obtain ⟨s, rfl⟩ := hclaims.subject v hsub
      rfl
  have hname : requireString dated "jti" = .ok () := by
    unfold requireString
    rw [hnone "jti" (by simp)]
  unfold checkClaims
  simp only [timeClaim_int h.issued, hbefore, timeClaim_int h.expires, hsubject, hname, habsent "aud" (by simp),
    habsent "at_hash" (by simp), ok_bind]
  split_ifs with hover hvalid hvalid
  · omega
  · rfl
  · rfl
  · omega

/-- A plain secret gives all claims a token. -/
theorem exists_issue (hplain : IsPlainSecret secret) (claims : List (String × Json)) (now expires : WallTime) :
    ∃ token, issue secret claims now expires = .ok token := by
  unfold issue sign
  rw [if_pos hplain.signs]
  exact ⟨_, rfl⟩

/-- A token of claims with times is accepted up to the time of expiry. -/
theorem accept_issue_eq (hplain : IsPlainSecret secret) (hexact : (Json.obj claims).IsExact)
    (hclaims : IsUndemanding claims) (hissue : issue secret claims now expires = .ok token) (t : WallTime) :
    accept secret token t = if t.unixSeconds ≤ expires.unixTimestamp then
      .ok (withTimes claims now expires) else .error .expired := by
  rw [accept_sign hplain (isExact_withTimes hexact now expires) hissue,
    (isDated_withTimes hexact.nodup now expires).checkClaims_eq hclaims]
  split_ifs <;> rfl

end Claims

/-! ### Tokens of users -/

variable {settings : Settings} {issued expires : WallTime} {user : User} {token : String}

/-- The claims of a user are read back as they are. -/
theorem isExact_userClaims (subject email role : String) :
    (Json.obj [("sub", .str subject), ("email", .str email), ("role", .str role)]).IsExact :=
  .obj (by simp) (by simp [Json.IsExact.str])

/-- Only the subject is looked at among the claims of a user. -/
theorem isUndemanding_userClaims (subject email role : String) :
    IsUndemanding [("sub", .str subject), ("email", .str email), ("role", .str role)] :=
  ⟨fun v hv => ⟨subject, (Option.some.inj hv).symm⟩, by simp [List.lookup]⟩

/-- The token of a user is a signature of the claims of the user. -/
theorem sign_of_userToken (htoken : userToken settings issued expires user = .ok token) :
    sign settings.tokenSecret (withTimes [("sub", .str (Text.decimal user.id)), ("email", .str user.email),
      ("role", .str user.role)] issued expires) = .ok token := by
  unfold userToken issue at htoken
  split at htoken
  · rename_i signed hsign
    cases htoken
    exact hsign
  · cases htoken

/-- Two users have the same token, each under a secret of its own, only if they have the same number,
address and role, and the tokens were issued and expire in the same seconds. -/
theorem userToken_inj {settings' : Settings} {issued' expires' : WallTime} {user' : User}
    (h : userToken settings issued expires user = .ok token)
    (h' : userToken settings' issued' expires' user' = .ok token) :
    user.id = user'.id ∧ user.email = user'.email ∧ user.role = user'.role ∧
      issued.unixTimestamp = issued'.unixTimestamp ∧ expires.unixTimestamp = expires'.unixTimestamp := by
  have hclaims := claims_eq_of_sign (isExact_withTimes (isExact_userClaims _ _ _) _ _)
    (isExact_withTimes (isExact_userClaims _ _ _) _ _)
    (sign_of_userToken h) (sign_of_userToken h')
  simp only [withTimes, Json.setField, String.reduceEq, if_false, List.cons.injEq, Prod.mk.injEq,
    Json.str.injEq, Json.int.injEq, true_and, and_true, Text.decimal_inj] at hclaims
  exact hclaims

/-- The token of a user says nothing more of the user and of the times. -/
theorem userToken_congr {issued' expires' : WallTime} {user' : User} (hid : user.id = user'.id)
    (hemail : user.email = user'.email) (hrole : user.role = user'.role)
    (hissued : issued.unixTimestamp = issued'.unixTimestamp)
    (hexpires : expires.unixTimestamp = expires'.unixTimestamp) :
    userToken settings issued expires user = userToken settings issued' expires' user' := by
  unfold userToken issue withTimes
  rw [hid, hemail, hrole, hissued, hexpires]

/-- The token of a user is accepted up to the second in which it expires. -/
theorem exists_accept_userToken_iff (hplain : IsPlainSecret settings.tokenSecret)
    (htoken : userToken settings issued expires user = .ok token) (now : WallTime) :
    (∃ claims, accept settings.tokenSecret token now = .ok claims) ↔
      now.unixSeconds ≤ expires.unixTimestamp := by
  rw [accept_issue_eq hplain (isExact_userClaims _ _ _) (isUndemanding_userClaims _ _ _)
    (sign_of_userToken htoken)]
  split_ifs with hvalid
  · exact iff_of_true ⟨_, rfl⟩ hvalid
  · exact iff_of_false (fun ⟨claims, hclaims⟩ => nomatch hclaims) hvalid

/-- A secret that signs with its octets gives every user a token. -/
theorem exists_userToken_of_signs (hsigns : isPlainKey settings.tokenSecret = true)
    (issued expires : WallTime) (user : User) :
    ∃ token, userToken settings issued expires user = .ok token := by
  unfold userToken issue sign
  rw [if_pos hsigns]
  exact ⟨_, rfl⟩

/-- A plain secret gives every user a token. -/
theorem exists_userToken (hplain : IsPlainSecret settings.tokenSecret) (issued expires : WallTime)
    (user : User) : ∃ token, userToken settings issued expires user = .ok token :=
  exists_userToken_of_signs hplain.signs issued expires user

/-- The token of a user is the signed text, a point and the signature. -/
theorem toList_userToken (htoken : userToken settings issued expires user = .ok token) :
    ∃ claims signed, token.toList = signedText claims ++ '.' :: segment signed := by
  exact ⟨_, _, toList_sign (sign_of_userToken htoken)⟩

/-- There is a point in the token of a user. -/
theorem point_mem_userToken (htoken : userToken settings issued expires user = .ok token) :
    '.' ∈ token.toList := by
  obtain ⟨claims, signed, htext⟩ := toList_userToken htoken
  rw [htext]
  simp

/-- There is no blank in the token of a user. -/
theorem strip_userToken (htoken : userToken settings issued expires user = .ok token) :
    Text.strip token = token := by
  obtain ⟨claims, signed, htext⟩ := toList_userToken htoken
  have hsegment : ∀ bytes, ∀ c ∈ segment bytes, Text.isBlank c = false := by
    intro bytes c hc
    obtain ⟨hlow, hhigh, -⟩ := Text.Base64.isPlain_of_mem_encode hc
    exact Text.isBlank_of_visible hlow hhigh
  refine Text.strip_eq_self fun c hc => ?_
  rw [htext, signedText, List.append_assoc, List.cons_append] at hc
  simp only [List.mem_append, List.mem_cons] at hc
  rcases hc with hc | rfl | hc | rfl | hc
  · exact hsegment _ c hc
  · rfl
  · exact hsegment _ c hc
  · rfl
  · exact hsegment _ c hc

end Backoffice.Token
