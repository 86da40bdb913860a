import Mathlib
import Backoffice.Proofs.Account.Tokens
import Backoffice.Proofs.Calendar.Spans

/-!
# Issued tokens

To issue a token and to accept it are inverse to each other up to the second in which the token expires: what
is accepted are the claims that were issued, with the two times in them, and afterwards the token has expired
(`Token.accept_issue`).  The times are counted in floating point, which before the year 2514 gives the
whole seconds rounded down, but later may give the next second (`Token.accept_issue_far_from_now`).
-/

namespace Backoffice

namespace Token

variable {secret : String} {claims : List (String × Json)} {now : WallTime}

/-- Claims that a text can stand for and that ask for nothing get a token, if it expires within the calendar.
Whoever knows the plain secret accepts it in each second up to that of its expiry, and gets the claims with
the two times; later the token has expired.  Before the year 2514 the times are whole seconds rounded
down. -/
theorem accept_issue (hplain : IsPlainSecret secret) (hvalue : (Json.obj claims).IsPlain)
    (hdocument : (Json.obj claims).IsDocument) (hclaims : IsUndemanding claims) {ttl : ℤ}
    (hnow : 0 ≤ now.unixMicros) (hsince : 0 ≤ now.unixMicros + ttl)
    (huntil : now.micros + ttl < calendarMicros) :
    ∃ expires token dated, now.after ttl = .ok expires ∧ (expires.micros : ℤ) = now.micros + ttl ∧
      issue secret claims now expires = .ok token ∧
      IsDated claims dated now.unixTimestamp expires.unixTimestamp ∧
      (∀ t, accept secret token t =
        if t.unixSeconds ≤ expires.unixTimestamp then .ok dated else .error .expired) ∧
      ∀ t ∈ [now, expires], t.unixMicros < 2 ^ 34 * secondMicros → t.unixTimestamp = t.unixSeconds := by
  have hexact : (Json.obj claims).IsExact := Json.isExact_iff.mpr ⟨hvalue, hdocument⟩
  have hlow : 0 ≤ now.micros + ttl := by
    unfold WallTime.unixMicros at hsince
    omega
  obtain ⟨expires, hexpires⟩ := WallTime.exists_after_of_mem hlow huntil
  have hmicros : (expires.micros : ℤ) = now.micros + ttl := (WallTime.after_eq_ok_iff.mp hexpires).2.2
  obtain ⟨token, htoken⟩ := exists_issue hplain claims now expires
  refine ⟨expires, token, _, hexpires, hmicros, htoken, isDated_withTimes hexact.nodup now expires,
    accept_issue_eq hplain hexact hclaims htoken, ?_⟩
  have hexpires' : 0 ≤ expires.unixMicros := by
    unfold WallTime.unixMicros at hsince ⊢
    omega
  simp only [List.forall_mem_cons, List.not_mem_nil, false_imp_iff, implies_true, and_true]
  exact ⟨WallTime.unixTimestamp_eq_unixSeconds hnow, WallTime.unixTimestamp_eq_unixSeconds hexpires'⟩

/-- A short secret is a plain one. -/
theorem isPlainSecret_k : IsPlainSecret "k" :=
  ⟨by decide +kernel, by decide +kernel⟩

/-- Claims of a user who already has a time of issue. -/
def renewed : List (String × Json) :=
  [("iat", .arr [.null, .int (-7)]), ("sub", .str "1")]

/-- Nothing is lost of the claims. -/
theorem isExact_renewed : (Json.obj renewed).IsExact := by
  have hitems : (Json.arr [.null, .int (-7)]).IsExact := .arr (by simp [Json.IsExact.null, Json.IsExact.int_of_lt])
  exact .obj (by decide) (by simp [renewed, hitems, Json.IsExact.str])

/-- Only the subject of the claims is looked at. -/
theorem isUndemanding_renewed : IsUndemanding renewed :=
  ⟨fun v hv => ⟨"1", (Option.some.inj hv).symm⟩, by simp [renewed, List.lookup]⟩

/-- A token for a second and a half expires in the middle of a second, and is accepted up to its end. -/
theorem accept_issue_renewed :
    let now : WallTime := ⟨63900000000900000, by decide⟩
    IsPlainSecret "k" ∧ (Json.obj renewed).IsPlain ∧ (Json.obj renewed).IsDocument ∧ IsUndemanding renewed ∧
      0 ≤ now.unixMicros ∧ 0 ≤ now.unixMicros + 1500000 ∧ now.micros + (1500000 : ℤ) < calendarMicros ∧
      ∃ expires token dated, now.after 1500000 = .ok expires ∧
        issue "k" renewed now expires = .ok token ∧ IsDated renewed dated 1764403200 1764403202 ∧
        accept "k" token ⟨63900000002999999, by decide⟩ = .ok dated ∧
        accept "k" token ⟨63900000003000000, by decide⟩ = .error .expired := by
  intro now
  obtain ⟨hvalue, hdocument⟩ := Json.isExact_iff.mp isExact_renewed
  have hnow : 0 ≤ now.unixMicros := by decide
  have hsince : 0 ≤ now.unixMicros + 1500000 := by decide
  have huntil : now.micros + (1500000 : ℤ) < calendarMicros := by decide
  obtain ⟨expires, token, dated, hexpires, hmicros, htoken, hdated, haccept, hfloor⟩ :=
    accept_issue isPlainSecret_k hvalue hdocument isUndemanding_renewed hnow hsince huntil
  have hlast : expires = ⟨63900000002400000, by decide⟩ := by
    obtain ⟨micros, hcalendar⟩ := expires
    have : micros = 63900000002400000 := by
      have : (micros : ℤ) = 63900000000900000 + 1500000 := hmicros
      omega
    subst this
    rfl
  have hissue : now.unixTimestamp = 1764403200 := by
    rw [hfloor now (by simp) (by decide)]
    decide
  have hexpiry : expires.unixTimestamp = 1764403202 := by
    rw [hfloor expires (by simp) (by rw [hlast]; decide), hlast]
    decide
  rw [hissue, hexpiry] at hdated
  rw [hexpiry] at haccept
  refine ⟨isPlainSecret_k, hvalue, hdocument, isUndemanding_renewed, hnow, hsince, huntil, expires, token,
    dated, hexpires, htoken, hdated, ?_, ?_⟩
  · rw [haccept]
    exact if_pos (by decide)
  · rw [haccept]
    exact if_neg (by decide)

/-- A token that is issued in the last microsecond of a second of the year 2600, for a minute: in its claims
both times are one second too late, and it is still accepted one second after that of its expiry. -/
theorem accept_issue_far_from_now :
    let now : WallTime := ⟨82016496000999999, by decide⟩
    let expires : WallTime := ⟨82016496060999999, by decide⟩
    let next : WallTime := ⟨82016496061000000, by decide⟩
    IsPlainSecret "k" ∧ (Json.obj renewed).IsPlain ∧ (Json.obj renewed).IsDocument ∧ IsUndemanding renewed ∧
      now.after 60000000 = .ok expires ∧ expires.unixSeconds < next.unixSeconds ∧
      ∃ token dated, issue "k" renewed now expires = .ok token ∧ accept "k" token now = .ok dated ∧
        ¬ IsDated renewed dated now.unixSeconds expires.unixSeconds ∧
        IsDated renewed dated (now.unixSeconds + 1) (expires.unixSeconds + 1) ∧
        accept "k" token next = .ok dated := by
  intro now expires next
  obtain ⟨hvalue, hdocument⟩ := Json.isExact_iff.mp isExact_renewed
  have hafter : now.after 60000000 = .ok expires := WallTime.after_eq_ok_iff.mpr (by decide)
  have hissued : now.unixTimestamp = now.unixSeconds + 1 := by decide +kernel
  have hexpires : expires.unixTimestamp = expires.unixSeconds + 1 := by decide +kernel
  obtain ⟨token, htoken⟩ := exists_issue isPlainSecret_k renewed now expires
  have haccept := accept_issue_eq isPlainSecret_k isExact_renewed isUndemanding_renewed htoken
  have hdated := isDated_withTimes isExact_renewed.nodup now expires
  rw [hissued, hexpires] at hdated
  refine ⟨isPlainSecret_k, hvalue, hdocument, isUndemanding_renewed, hafter, by decide, token, _, htoken,
    ?_, fun hfloor => ?_, hdated, ?_⟩
  · rw [haccept]
    exact if_pos (by decide +kernel)
  · have hsame := hfloor.issued.symm.trans hdated.issued
    simp only [Option.some.injEq, Json.int.injEq] at hsame
    omega
  · rw [haccept]
    exact if_pos (by decide +kernel)

end Token

end Backoffice
