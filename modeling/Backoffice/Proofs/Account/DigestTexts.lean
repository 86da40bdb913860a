import Mathlib
import Backoffice.Proofs.Account.Passwords
import Backoffice.Proofs.Digest.Derivation
import Backoffice.Proofs.Text.Base64Grammar
import Backoffice.Proofs.Text.Integers

/-!
# Texts that a password is checked against

Which texts stand for a digest, and for which one (`PasswordDigest.ofText_eq_ok_iff`), and which break off
within a group of digits (`PasswordDigest.ofText_eq_incomplete_iff`).  A password is the one of a stored text
exactly if the text stands for a digest and the checksum in it is what is derived from the password; there is
no answer exactly for the texts that break off, and for digests with more rounds than can be derived
(`Password.verify_decides`).
-/

namespace Backoffice

namespace PasswordDigest

/-! ### The parts of a text -/

/-- The text of a digest has the scheme, the number of rounds, the salt and maybe a checksum, each after a dollar
sign and without one in it. -/
structure HasParts (stored : String) (rounds salt : List Char) (checksum : Option (List Char)) : Prop where
  text : stored.toList = '$' :: scheme.toList ++ '$' :: rounds ++ '$' :: salt ++
    (checksum.map ('$' :: ·)).getD []
  rounds : '$' ∉ rounds
  salt : '$' ∉ salt
  checksum : ∀ part ∈ checksum, '$' ∉ part

/-- The text is a number of rounds: a numeral that does not begin with a zero, or a single zero. -/
structure IsRounds (cs : List Char) (n : ℤ) : Prop where
  numeral : Text.IsNumeral cs n
  unpadded : cs.head? = some '0' → cs = ['0']

/-- The text has characters of ASCII, of which as many are left after whole groups as octets can give. -/
structure IsUnpadded (cs : List Char) : Prop where
  ascii : ∀ c ∈ cs, c.toNat < 128
  length : cs.length % 4 ≠ 1

/-- The text stands for the octets. -/
structure Spells (cs : List Char) (bytes : List UInt8) : Prop extends IsUnpadded cs where
  spells : Text.Base64.Spells .pointed (cs ++ Text.Base64.padding cs.length) bytes

/-- The text looks like one of octets, but its digits end within a group. -/
structure IsBroken (cs : List Char) : Prop extends IsUnpadded cs where
  broken : ∀ bytes, ¬ Text.Base64.Spells .pointed (cs ++ Text.Base64.padding cs.length) bytes

/-- The text stands for the digest: it has all the parts, and they are in the bounds of digests. -/
structure IsTextOf (d : PasswordDigest) (stored : String) : Prop where
  parts : ∃ rounds salt checksum, HasParts stored rounds salt (some checksum) ∧ IsRounds rounds d.rounds ∧
    Spells salt d.salt ∧ Spells checksum d.checksum
  rounds : 1 ≤ d.rounds ∧ d.rounds ≤ maxRounds
  salt : d.salt.length ≤ maxSaltSize
  checksum : d.checksum.length = checksumSize

/-- The text breaks off: it has the parts of the text of a digest and a number of rounds, but the digits of the
salt end within a group, or else those of the checksum. -/
def BreaksOff (stored : String) : Prop :=
  ∃ rounds salt checksum, HasParts stored rounds salt checksum ∧ (∃ n, IsRounds rounds n) ∧
    (IsBroken salt ∨ (∃ bytes, Spells salt bytes) ∧ ∃ part ∈ checksum, IsBroken part)

/-! ### Reading the parts -/

/-- A number of rounds is read from a text of it, where a negative one counts as zero. -/
theorem readRounds_eq_ok_iff {cs : List Char} {n : ℕ} :
    readRounds cs = .ok n ↔ ∃ z : ℤ, IsRounds cs z ∧ z.toNat = n := by
  unfold readRounds
  by_cases hzero : cs.head? = some '0' ∧ cs ≠ ['0']
  · rw [if_pos hzero]
    constructor
    · intro h
      cases h
    · rintro ⟨z, hz, -⟩
      exact absurd (hz.unpadded hzero.1) hzero.2
  · rw [if_neg hzero]
    cases hint : Text.int? cs with
    | none =>
      constructor
      · intro h
        cases h
      · rintro ⟨z, hz, -⟩
        rw [Text.int?_eq_some_iff.mpr hz.numeral] at hint
        cases hint
    | some m =>
      have hrounds : IsRounds cs m :=
        ⟨Text.int?_eq_some_iff.mp hint, fun hhead => not_not.mp fun hcs => hzero ⟨hhead, hcs⟩⟩
      constructor
      · intro h
        exact ⟨m, hrounds, Except.ok.inj h⟩
      · rintro ⟨z, hz, rfl⟩
        have := Text.int?_eq_some_iff.mpr hz.numeral
        rw [hint] at this
        rw [Option.some.inj this]

/-- A text that is no number of rounds is malformed. -/
theorem readRounds_ne_incomplete (cs : List Char) : readRounds cs ≠ .error .incomplete := by
  unfold readRounds
  split_ifs
  · simp
  · split <;> simp

/-- Octets are looked for in ASCII texts of the right length only. -/
theorem readOctets_of_isUnpadded {cs : List Char} (h : IsUnpadded cs) :
    readOctets cs = ((Text.Base64.decode? .pointed cs).map .ok).getD (.error .incomplete) := by
  have hascii : cs.any (128 ≤ ·.toNat) = false := by
    rw [List.any_eq_false]
    intro c hc
    simpa using h.ascii c hc
  unfold readOctets
  rw [hascii, if_neg (by simpa using h.length)]
  cases Text.Base64.decode? .pointed cs <;> rfl

/-- Other texts are malformed. -/
theorem readOctets_of_not_isUnpadded {cs : List Char} (h : ¬ IsUnpadded cs) :
    readOctets cs = .error .malformed := by
  unfold readOctets
  refine if_pos ?_
  by_contra hnot
  rw [not_or, List.any_eq_true, not_exists] at hnot
  exact h ⟨fun c hc => by simpa [hc] using hnot.1 c, hnot.2⟩

/-- Octets are read from the texts that stand for them. -/
theorem readOctets_eq_ok_iff {cs : List Char} {bytes : List UInt8} :
    readOctets cs = .ok bytes ↔ Spells cs bytes := by
  have hdecode : Text.Base64.decode? .pointed cs = some bytes ↔
      Text.Base64.Spells .pointed (cs ++ Text.Base64.padding cs.length) bytes :=
    Text.Base64.decode?_eq_some_iff Text.Base64.isReadable_pointed
  by_cases hcs : IsUnpadded cs
  · rw [readOctets_of_isUnpadded hcs]
    constructor
    · intro h
      cases hread : Text.Base64.decode? .pointed cs with
      | none =>
        rw [hread] at h
        cases h
      | some read =>
        rw [hread] at h hdecode
        cases h
        exact ⟨hcs, hdecode.mp rfl⟩
    · intro h
      rw [hdecode.mpr h.spells]
      rfl
  · rw [readOctets_of_not_isUnpadded hcs]
    exact ⟨fun h => (nomatch h), fun h => absurd h.toIsUnpadded hcs⟩

/-- Reading breaks off in the texts whose digits end within a group. -/
theorem readOctets_eq_incomplete_iff {cs : List Char} : readOctets cs = .error .incomplete ↔ IsBroken cs := by
  by_cases hcs : IsUnpadded cs
  · have hread : readOctets cs = .error .incomplete ↔ ∀ bytes, readOctets cs ≠ .ok bytes := by
      rw [readOctets_of_isUnpadded hcs]
      cases Text.Base64.decode? .pointed cs <;> simp
    simp only [hread, ne_eq, readOctets_eq_ok_iff]
    exact ⟨fun h => ⟨hcs, fun bytes hspells => h bytes ⟨hcs, hspells⟩⟩,
      fun h bytes hspells => h.broken bytes hspells.spells⟩
  · rw [readOctets_of_not_isUnpadded hcs]
    exact ⟨fun h => (nomatch h), fun h => absurd h.toIsUnpadded hcs⟩

/-! ### Reading the text -/

/-- The parts of a text are what stands between its dollar signs. -/
theorem hasParts_iff {stored : String} {rounds salt : List Char} {checksum : Option (List Char)} :
    HasParts stored rounds salt checksum ↔
      Text.split '$' stored.toList = [] :: scheme.toList :: rounds :: salt :: checksum.toList := by
  constructor
  · intro h
    rw [h.text]
    have hscheme : '$' ∉ scheme.toList := by decide
    cases hchecksum : checksum with
    | none =>
      simp only [Option.map_none, Option.getD_none, List.append_nil, List.cons_append, List.append_assoc,
        Option.toList_none]
      rw [← List.nil_append ('$' :: _), Text.split_append List.not_mem_nil, Text.split_append hscheme,
        Text.split_append h.rounds, Text.split_eq_singleton h.salt]
    | some part =>
      simp only [Option.map_some, Option.getD_some, List.cons_append, List.append_assoc, Option.toList_some]
      rw [← List.nil_append ('$' :: _), Text.split_append List.not_mem_nil, Text.split_append hscheme,
        Text.split_append h.rounds, Text.split_append h.salt, Text.split_eq_singleton (h.checksum part hchecksum)]
  · intro h
    obtain ⟨rest, htext, -, h⟩ := Text.split_eq_cons_cons_iff.mp h
    obtain ⟨rest, rfl, -, h⟩ := Text.split_eq_cons_cons_iff.mp h
    obtain ⟨rest, rfl, hrounds, h⟩ := Text.split_eq_cons_cons_iff.mp h
    cases checksum with
    | none =>
      obtain ⟨rfl, hsalt⟩ := Text.split_eq_singleton_iff.mp h
      exact ⟨by rw [htext]; simp, hrounds, hsalt, by simp⟩
    | some part =>
      obtain ⟨rest, rfl, hsalt, h⟩ := Text.split_eq_cons_cons_iff.mp h
      obtain ⟨rfl, hpart⟩ := Text.split_eq_singleton_iff.mp h
      exact ⟨by rw [htext]; simp, hrounds, hsalt, by simpa using hpart⟩

/-- A text is read by its parts; a checksum that is left out is an empty one. -/
theorem ofText_of_hasParts {stored : String} {rounds salt : List Char} {checksum : Option (List Char)}
    (h : HasParts stored rounds salt checksum) : ofText stored = ofParts rounds salt (checksum.getD []) := by
  unfold ofText
  rw [hasParts_iff.mp h]
  cases checksum <;> rfl

/-- A text without these parts is malformed. -/
theorem exists_hasParts {stored : String} (h : ofText stored ≠ .error .malformed) :
    ∃ rounds salt checksum, HasParts stored rounds salt checksum := by
  unfold ofText at h
  split at h
  · rename_i name rounds salt checksum hsplit
    split_ifs at h with hname
    · subst hname
      exact ⟨rounds, salt, some checksum, hasParts_iff.mpr hsplit⟩
    · exact absurd rfl h
  · rename_i name rounds salt hsplit
    split_ifs at h with hname
    · subst hname
      exact ⟨rounds, salt, none, hasParts_iff.mpr hsplit⟩
    · exact absurd rfl h
  · exact absurd rfl h

/-- Parts are put together if each can be read, and within the bounds of digests. -/
theorem ofParts_eq_ok_iff {rounds salt checksum : List Char} {d : PasswordDigest} :
    ofParts rounds salt checksum = .ok d ↔
      (IsRounds rounds d.rounds ∧ Spells salt d.salt ∧ Spells checksum d.checksum) ∧
        (1 ≤ d.rounds ∧ d.rounds ≤ maxRounds) ∧ d.salt.length ≤ maxSaltSize ∧
          d.checksum.length = checksumSize := by
  unfold ofParts
  simp only [bind_eq_ok_iff, readRounds_eq_ok_iff, readOctets_eq_ok_iff]
  constructor
  · rintro ⟨n, ⟨z, hz, rfl⟩, saltBytes, hsalt, checksumBytes, hchecksum, h⟩
    split_ifs at h with hbounds
    · cases h
      have hnat : (z.toNat : ℤ) = z := by omega
      exact ⟨⟨hnat ▸ hz, hsalt, hchecksum⟩, ⟨hbounds.1, hbounds.2.1⟩, hbounds.2.2⟩
  · rintro ⟨⟨hrounds, hsalt, hchecksum⟩, hbounds, hsizes⟩
    refine ⟨d.rounds, ⟨d.rounds, hrounds, Int.toNat_natCast _⟩, d.salt, hsalt, d.checksum, hchecksum, ?_⟩
    rw [if_pos ⟨hbounds.1, hbounds.2, hsizes⟩]
    rfl

/-- Reading the parts breaks off in the salt, or else in the checksum, if the number of rounds can be read. -/
theorem ofParts_eq_incomplete_iff {rounds salt checksum : List Char} :
    ofParts rounds salt checksum = .error .incomplete ↔
      (∃ n, IsRounds rounds n) ∧ (IsBroken salt ∨ (∃ bytes, Spells salt bytes) ∧ IsBroken checksum) := by
  have hlast : ∀ (n : ℕ) (saltBytes checksumBytes : List UInt8),
      (if 1 ≤ n ∧ n ≤ maxRounds ∧ saltBytes.length ≤ maxSaltSize ∧ checksumBytes.length = checksumSize then
        (return ⟨n, saltBytes, checksumBytes⟩ : Except Defect PasswordDigest)
      else .error .malformed) ≠ .error .incomplete := by
    intro n saltBytes checksumBytes h
    split_ifs at h <;> cases h
  unfold ofParts
  simp only [bind_eq_error_iff, readRounds_eq_ok_iff, readOctets_eq_ok_iff, readOctets_eq_incomplete_iff]
  constructor
  · rintro (h | ⟨n, ⟨z, hz, -⟩, hsalt | ⟨saltBytes, hsalt, hchecksum | ⟨checksumBytes, -, h⟩⟩⟩)
    · exact absurd h (readRounds_ne_incomplete rounds)
    · exact ⟨⟨z, hz⟩, .inl hsalt⟩
    · exact ⟨⟨z, hz⟩, .inr ⟨⟨saltBytes, hsalt⟩, hchecksum⟩⟩
    · exact absurd h (hlast _ _ _)
  · rintro ⟨⟨z, hz⟩, hsalt | ⟨⟨saltBytes, hsalt⟩, hchecksum⟩⟩
    · exact .inr ⟨z.toNat, ⟨z, hz, rfl⟩, .inl hsalt⟩
    · exact .inr ⟨z.toNat, ⟨z, hz, rfl⟩, .inr ⟨saltBytes, hsalt, .inl hchecksum⟩⟩

/-- An empty text stands for no octets, and breaks off nowhere. -/
theorem spells_nil : Spells [] [] :=
  readOctets_eq_ok_iff.mp rfl

/-- A digest is read from the texts that stand for it. -/
theorem ofText_eq_ok_iff {d : PasswordDigest} {stored : String} : ofText stored = .ok d ↔ IsTextOf d stored := by
  constructor
  · intro h
    have hread : ofText stored ≠ .error .malformed := by simp [h]
    obtain ⟨rounds, salt, checksum, hparts⟩ := exists_hasParts hread
    rw [ofText_of_hasParts hparts, ofParts_eq_ok_iff] at h
    obtain ⟨⟨hrounds, hsalt, hchecksum⟩, hbounds, hsize, hfull⟩ := h
    cases checksum with
    | some part => exact ⟨⟨rounds, salt, part, hparts, hrounds, hsalt, hchecksum⟩, hbounds, hsize, hfull⟩
    | none =>
      -- a checksum that is left out is too short
      have hnil := (readOctets_eq_ok_iff.mpr hchecksum).symm.trans (readOctets_eq_ok_iff.mpr spells_nil)
      rw [Except.ok.inj hnil] at hfull
      cases hfull
  · rintro ⟨⟨rounds, salt, checksum, hparts, hread⟩, hbounds, hsize, hfull⟩
    rw [ofText_of_hasParts hparts, ofParts_eq_ok_iff]
    exact ⟨hread, hbounds, hsize, hfull⟩

/-- Reading stops within a group of digits in the texts that break off. -/
theorem ofText_eq_incomplete_iff {stored : String} : ofText stored = .error .incomplete ↔ BreaksOff stored := by
  have hnil : ¬ IsBroken [] := fun h => h.broken [] spells_nil.spells
  have hmissing : ∀ checksum : Option (List Char),
      IsBroken (checksum.getD []) ↔ ∃ part ∈ checksum, IsBroken part := by
    intro checksum
    cases checksum <;> simp [hnil]
  constructor
  · intro h
    have hread : ofText stored ≠ .error .malformed := by simp [h]
    obtain ⟨rounds, salt, checksum, hparts⟩ := exists_hasParts hread
    rw [ofText_of_hasParts hparts, ofParts_eq_incomplete_iff, hmissing] at h
    exact ⟨rounds, salt, checksum, hparts, h⟩
  · rintro ⟨rounds, salt, checksum, hparts, h⟩
    rw [ofText_of_hasParts hparts, ofParts_eq_incomplete_iff, hmissing]
    exact h

end PasswordDigest

/-! ### Passwords and texts -/

namespace Password

variable {password salt stored : String}

/-- The octets that a password is digested as, with the salt of the user in front. -/
def saltedOctets (password salt : String) : List UInt8 :=
  Text.Utf8.encode (salted password salt).toList

/-- A password that is not too long is checked against the digest that the text stands for, unless it has more
rounds than a checksum can be derived with. -/
theorem verify_of_isTextOf {d : PasswordDigest} (hshort : (salted password salt).length ≤ maxLength)
    (hd : PasswordDigest.IsTextOf d stored) : verify password salt stored =
      if maxDerivedRounds < d.rounds then .error (.overflow .parameter)
      else .ok (derivedOctets (saltedOctets password salt) d.salt d.rounds == d.checksum) := by
  have hchecksum : checksum password salt d.salt d.rounds =
      derivedOctets (saltedOctets password salt) d.salt d.rounds := octets_pbkdf2 _ _ hd.rounds.1
  unfold verify
  rw [if_neg (not_lt.mpr hshort), PasswordDigest.ofText_eq_ok_iff.mpr hd, ← hchecksum]

/-- A password is not the one of any text if it is too long with its salt. -/
theorem verify_of_maxLength_lt (hlong : maxLength < (salted password salt).length) :
    verify password salt stored = .ok false := by
  unfold verify
  rw [if_pos hlong]

/-- A text that stands for no digest is told apart from the password, or breaks off. -/
theorem verify_of_not_isTextOf (hshort : (salted password salt).length ≤ maxLength)
    (hnone : ∀ d, ¬ PasswordDigest.IsTextOf d stored) :
    PasswordDigest.BreaksOff stored ∧ verify password salt stored = .error .wrongType ∨
      ¬ PasswordDigest.BreaksOff stored ∧ verify password salt stored = .ok false := by
  unfold verify
  rw [if_neg (not_lt.mpr hshort), ← PasswordDigest.ofText_eq_incomplete_iff]
  cases hread : PasswordDigest.ofText stored with
  | ok d => exact absurd (PasswordDigest.ofText_eq_ok_iff.mp hread) (hnone d)
  | error defect =>
    cases defect with
    | malformed => exact .inr ⟨by simp, rfl⟩
    | incomplete => exact .inl ⟨rfl, rfl⟩

/-- A text that stands for a digest does not break off. -/
theorem not_breaksOff_of_isTextOf {d : PasswordDigest} (hd : PasswordDigest.IsTextOf d stored) :
    ¬ PasswordDigest.BreaksOff stored := by
  rw [← PasswordDigest.ofText_eq_incomplete_iff, PasswordDigest.ofText_eq_ok_iff.mpr hd]
  simp

/-- A text stands for one digest at most. -/
theorem isTextOf_unique {d e : PasswordDigest} (hd : PasswordDigest.IsTextOf d stored)
    (he : PasswordDigest.IsTextOf e stored) : d = e :=
  Except.ok.inj ((PasswordDigest.ofText_eq_ok_iff.mpr hd).symm.trans (PasswordDigest.ofText_eq_ok_iff.mpr he))

/-- A password is the one of a text if it is not too long with its salt, and the text stands for a digest whose
rounds can be carried out and whose checksum is what they derive from the password with the salt of the
digest. -/
theorem verify_eq_true_iff : verify password salt stored = .ok true ↔
    (salted password salt).length ≤ maxLength ∧ ∃ d, PasswordDigest.IsTextOf d stored ∧
      d.rounds ≤ maxDerivedRounds ∧
      d.checksum = derivedOctets (saltedOctets password salt) d.salt d.rounds := by
  by_cases hshort : (salted password salt).length ≤ maxLength
  · rw [and_iff_right hshort]
    by_cases htext : ∃ d, PasswordDigest.IsTextOf d stored
    · obtain ⟨d, hd⟩ := htext
      rw [verify_of_isTextOf hshort hd]
      constructor
      · intro h
        split_ifs at h with hrounds
        exact ⟨d, hd, not_lt.mp hrounds, (beq_iff_eq.mp (Except.ok.inj h)).symm⟩
      · rintro ⟨e, he, hrounds, hsame⟩
        obtain rfl := isTextOf_unique hd he
        rw [if_neg (not_lt.mpr hrounds), hsame, beq_self_eq_true]
    · rw [not_exists] at htext
      refine iff_of_false ?_ fun ⟨d, hd, _⟩ => htext d hd
      rcases verify_of_not_isTextOf hshort htext with ⟨-, h⟩ | ⟨-, h⟩ <;> rw [h] <;> simp
  · rw [verify_of_maxLength_lt (not_le.mp hshort)]
    exact iff_of_false (by simp) fun h => hshort h.1

/-- There is no answer for a password that is not too long if the text breaks off, or stands for a digest with
more rounds than can be carried out, and otherwise there is one. -/
theorem verify_eq_error_iff {f : Failure} : verify password salt stored = .error f ↔
    (salted password salt).length ≤ maxLength ∧ (f = .wrongType ∧ PasswordDigest.BreaksOff stored ∨
      f = .overflow .parameter ∧ ∃ d, PasswordDigest.IsTextOf d stored ∧ maxDerivedRounds < d.rounds) := by
  by_cases hshort : (salted password salt).length ≤ maxLength
  · rw [and_iff_right hshort]
    by_cases htext : ∃ d, PasswordDigest.IsTextOf d stored
    · obtain ⟨d, hd⟩ := htext
      have hmany : (∃ e, PasswordDigest.IsTextOf e stored ∧ maxDerivedRounds < e.rounds) ↔
          maxDerivedRounds < d.rounds :=
        ⟨fun ⟨_, he, hrounds⟩ => isTextOf_unique hd he ▸ hrounds, fun hrounds => ⟨d, hd, hrounds⟩⟩
      have hwhole := not_breaksOff_of_isTextOf hd
      rw [verify_of_isTextOf hshort hd, hmany]
      split_ifs with hrounds <;> simp [hrounds, hwhole, eq_comm]
    · rw [not_exists] at htext
      have hfew : ¬ ∃ e, PasswordDigest.IsTextOf e stored ∧ maxDerivedRounds < e.rounds :=
        fun ⟨e, he, _⟩ => htext e he
      rcases verify_of_not_isTextOf hshort htext with ⟨hbroken, h⟩ | ⟨hbroken, h⟩ <;>
        rw [h] <;> simp [hfew, hbroken, eq_comm]
  · rw [verify_of_maxLength_lt (not_le.mp hshort)]
    exact iff_of_false (by simp) fun h => hshort h.1

/-- A password is found to be the one of a text exactly if it is not too long with its salt, and the text stands
for a digest whose checksum is what its rounds derive from the password, of which there are less than `2 ^ 31`.
Otherwise it is found not to be, unless the text breaks off within a group of digits or stands for a digest with
more rounds; then there is no answer.  In particular a password is the one of every text that is stored for it. -/
theorem verify_decides (password salt stored : String) :
    (verify password salt stored = .ok true ↔ (salted password salt).length ≤ maxLength ∧
      ∃ d, PasswordDigest.IsTextOf d stored ∧ d.rounds < 2 ^ 31 ∧
        d.checksum = derivedOctets (saltedOctets password salt) d.salt d.rounds) ∧
    (∀ f, verify password salt stored = .error f ↔ (salted password salt).length ≤ maxLength ∧
      (f = .wrongType ∧ PasswordDigest.BreaksOff stored ∨
        f = .overflow .parameter ∧ ∃ d, PasswordDigest.IsTextOf d stored ∧ 2 ^ 31 ≤ d.rounds)) ∧
    ∀ digestSalt, (salted password salt).length ≤ maxLength →
      digestSalt.length ≤ PasswordDigest.maxSaltSize →
        ∃ text, hash password salt digestSalt = .ok text ∧ verify password salt text = .ok true := by
  have hmost : maxDerivedRounds + 1 = 2 ^ 31 := by decide
  simp only [← hmost, Nat.lt_succ_iff, Nat.succ_le_iff]
  refine ⟨verify_eq_true_iff, fun f => verify_eq_error_iff, fun digestSalt hshort hsalt => ?_⟩
  obtain ⟨text, htext⟩ := exists_hash hshort
  exact ⟨text, htext, verify_hash hsalt htext⟩

/-- A password is the one of the text that is stored for it under a salt of three octets. -/
theorem verify_decides_short : (salted "secret" "s").length ≤ maxLength ∧
    [1, 2, 3].length ≤ PasswordDigest.maxSaltSize ∧
      ∃ text, hash "secret" "s" [1, 2, 3] = .ok text ∧ verify "secret" "s" text = .ok true :=
  ⟨by decide, by decide, (verify_decides "secret" "s" "").2.2 [1, 2, 3] (by decide) (by decide)⟩

/-- There is no answer for a text whose salt has three digits, and a character that is none in a place of its
own. -/
theorem verify_unanswered : (salted "secret" "s").length ≤ maxLength ∧ ∀ b, verify "secret" "s"
    "$pbkdf2-sha256$1$a!bc$bKLoHkx.N.SV2IfLC9QCpkxwLdFYVNQSrZexPCk5z/4" ≠ .ok b := by
  have hverify : verify "secret" "s"
      "$pbkdf2-sha256$1$a!bc$bKLoHkx.N.SV2IfLC9QCpkxwLdFYVNQSrZexPCk5z/4" = .error .wrongType := by
    rfl
  refine ⟨by decide, fun b hb => ?_⟩
  rw [hverify] at hb
  cases hb

end Password

end Backoffice
