import Mathlib
import Backoffice.Proofs.Text.Utf8
import Backoffice.Text.Percent

/-!
# Percent coding read back

Whatever a text consists of, reading its percent coding gives the text again: `decode_encode`, and
`decode_quote` for the coding in which slashes stand for themselves.  The coding itself consists of visible
ASCII characters, `visible_of_mem_encode`, so that it has no blanks to lose.  A text without percent signs
is read as it stands, `decode_of_plain`.
-/

namespace Backoffice.Text.Percent

/-- The percent coding of one character where a slash stands for itself. -/
def quoteChar (c : Char) : List Char :=
  if c = '/' then [c] else encodeChar c

/-- The percent coding of a text in which slashes stand for themselves. -/
def quote (s : String) : String :=
  String.ofList (s.toList.flatMap quoteChar)

/-! ### Octets -/

/-- A hexadecimal digit is a visible character. -/
theorem visible_hexDigit {n : ℕ} (h : n < 16) :
    0x20 < (hexDigit 'A' n).toNat ∧ (hexDigit 'A' n).toNat < 0x7F := by
  have key : ∀ m < 16, 0x20 < (hexDigit 'A' m).toNat ∧ (hexDigit 'A' m).toNat < 0x7F := by decide
  exact key n h

/-- Three characters are read as the octet that they stand for. -/
theorem octets_encodeOctet (b : UInt8) (rest : List Char) :
    octets (encodeOctet b ++ rest) = b :: octets rest := by
  have hhigh : hexValue? (hexDigit 'A' (b.toNat / 16)) = some (b.toNat / 16) := by
    have hb := b.toNat_lt
    exact hexValue?_hexDigit (.inr rfl) (by omega)
  have hlow : hexValue? (hexDigit 'A' (b.toNat % 16)) = some (b.toNat % 16) :=
    hexValue?_hexDigit (.inr rfl) (Nat.mod_lt _ (by norm_num))
  have hvalue : 16 * (b.toNat / 16) + b.toNat % 16 = b.toNat := Nat.div_add_mod b.toNat 16
  unfold encodeOctet
  simp only [List.cons_append, List.nil_append, octets, hhigh, hlow, hvalue, UInt8.ofNat_toNat]

/-- Coded octets are read as the octets. -/
theorem octets_flatMap_encodeOctet (bs : List UInt8) (rest : List Char) :
    octets (bs.flatMap encodeOctet ++ rest) = bs ++ octets rest := by
  induction bs with
  | nil => rfl
  | cons b bs ih => rw [List.flatMap_cons, List.append_assoc, octets_encodeOctet, ih, List.cons_append]

/-- A character other than the percent sign is read as itself. -/
theorem octets_cons {c : Char} (h : c ≠ '%') (rest : List Char) :
    octets (c :: rest) = String.utf8EncodeChar c ++ octets rest := by
  rw [octets]
  intro a b rest' hc
  exact absurd hc h

/-! ### Characters and texts -/

/-- The coding of a character is read as its octets. -/
theorem octets_encodeChar (c : Char) (rest : List Char) :
    octets (encodeChar c ++ rest) = String.utf8EncodeChar c ++ octets rest := by
  unfold encodeChar
  split_ifs with hunreserved
  · refine octets_cons ?_ rest
    rintro rfl
    revert hunreserved
    decide
  · exact octets_flatMap_encodeOctet _ rest

/-- The coding of a character is read as its octets, also where a slash stands for itself. -/
theorem octets_quoteChar (c : Char) (rest : List Char) :
    octets (quoteChar c ++ rest) = String.utf8EncodeChar c ++ octets rest := by
  unfold quoteChar
  split_ifs with hslash
  · exact octets_cons (by rw [hslash]; decide) rest
  · exact octets_encodeChar c rest

/-- If what is written for each of some characters is read as its octets, then what is written for all of
them is read as theirs. -/
theorem octets_flatMap {code : Char → List Char} {cs : List Char}
    (h : ∀ c ∈ cs, ∀ rest, octets (code c ++ rest) = String.utf8EncodeChar c ++ octets rest) :
    octets (cs.flatMap code) = Utf8.encode cs := by
  unfold Utf8.encode
  induction cs with
  | nil => rfl
  | cons c cs ih =>
    rw [List.forall_mem_cons] at h
    rw [List.flatMap_cons, h.1, ih h.2, List.flatMap_cons]

/-- What is read as the octets of a text is read as the text. -/
theorem decode_of_octets {coded s : String} (h : octets coded.toList = Utf8.encode s.toList) :
    decode coded = s := by
  have hread : Utf8.decodeLossy (Utf8.encode s.toList) = s.toList := by
    unfold Utf8.decodeLossy
    rw [Utf8.read_encode, List.map_map]
    exact List.map_id _
  unfold decode
  rw [h, hread, String.ofList_toList]

/-- A text is read back from its percent coding. -/
@[simp] theorem decode_encode (s : String) : decode (encode s) = s := by
  apply decode_of_octets
  unfold encode
  rw [String.toList_ofList]
  exact octets_flatMap fun c _ rest => octets_encodeChar c rest

/-- A text is read back from its percent coding, also where slashes stand for themselves. -/
@[simp] theorem decode_quote (s : String) : decode (quote s) = s := by
  apply decode_of_octets
  unfold quote
  rw [String.toList_ofList]
  exact octets_flatMap fun c _ rest => octets_quoteChar c rest

/-- A text without percent signs is read as it stands. -/
theorem decode_of_plain {s : String} (h : '%' ∉ s.toList) : decode s = s := by
  apply decode_of_octets
  rw [← List.flatMap_singleton' s.toList]
  refine (octets_flatMap fun c hc rest => octets_cons ?_ rest).trans ?_
  · rintro rfl
    exact h hc
  · rw [List.flatMap_singleton']

/-- The characters that stand for themselves are visible. -/
theorem visible_of_isUnreserved {c : Char} (h : isUnreserved c = true) :
    0x20 < c.toNat ∧ c.toNat < 0x7F := by
  have hbounds : ∀ {low high : UInt32}, 0x20 < low.toNat → high.toNat < 0x7F →
      low ≤ c.val → c.val ≤ high → 0x20 < c.toNat ∧ c.toNat < 0x7F := by
    intro low high hlow hhigh hge hle
    rw [UInt32.le_iff_toNat_le] at hge hle
    exact ⟨lt_of_lt_of_le hlow hge, lt_of_le_of_lt hle hhigh⟩
  simp only [isUnreserved, Char.isAlphanum, Char.isAlpha, Bool.or_eq_true, beq_iff_eq] at h
  rcases h with ((((((h | h) | h) | rfl) | rfl) | rfl) | rfl)
  · obtain ⟨hge, hle⟩ := of_decide_eq_true h
    exact hbounds (by decide) (by decide) hge hle
  · rw [Char.isLower, Bool.and_eq_true, decide_eq_true_eq, decide_eq_true_eq] at h
    exact hbounds (by decide) (by decide) h.1 h.2
  · rw [Char.isDigit, Bool.and_eq_true, decide_eq_true_eq, decide_eq_true_eq] at h
    exact hbounds (by decide) (by decide) h.1 h.2
  · decide
  · decide
  · decide
  · decide

/-- The characters that stand for an octet are visible. -/
theorem visible_of_mem_encodeOctet {b : UInt8} {c : Char} (h : c ∈ encodeOctet b) :
    0x20 < c.toNat ∧ c.toNat < 0x7F := by
  unfold encodeOctet at h
  simp only [List.mem_cons, List.not_mem_nil, or_false] at h
  rcases h with rfl | rfl | rfl
  · decide
  · have hb := b.toNat_lt
    exact visible_hexDigit (by omega)
  · exact visible_hexDigit (Nat.mod_lt _ (by norm_num))

/-- The coding of a character is visible. -/
theorem visible_of_mem_encodeChar {c d : Char} (h : c ∈ encodeChar d) :
    0x20 < c.toNat ∧ c.toNat < 0x7F := by
  unfold encodeChar at h
  split_ifs at h with hunreserved
  · rw [List.mem_singleton.mp h]
    exact visible_of_isUnreserved hunreserved
  · obtain ⟨b, -, hb⟩ := List.mem_flatMap.mp h
    exact visible_of_mem_encodeOctet hb

/-- The coding of a text is visible. -/
theorem visible_of_mem_encode {s : String} {c : Char} (h : c ∈ (encode s).toList) :
    0x20 < c.toNat ∧ c.toNat < 0x7F := by
  unfold encode at h
  rw [String.toList_ofList] at h
  obtain ⟨d, -, hc⟩ := List.mem_flatMap.mp h
  exact visible_of_mem_encodeChar hc

/-- The coding of a text is visible, also where slashes stand for themselves. -/
theorem visible_of_mem_quote {s : String} {c : Char} (h : c ∈ (quote s).toList) :
    0x20 < c.toNat ∧ c.toNat < 0x7F := by
  unfold quote at h
  rw [String.toList_ofList] at h
  obtain ⟨d, -, hc⟩ := List.mem_flatMap.mp h
  unfold quoteChar at hc
  split_ifs at hc with hslash
  · rw [List.mem_singleton.mp hc, hslash]
    decide
  · exact visible_of_mem_encodeChar hc

end Backoffice.Text.Percent
