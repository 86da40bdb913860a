import Mathlib
import Backoffice.Text.Base64

/-!
# Octets in base 64

Octets that are written in base 64 are read back, `decode?_encode`, and the text has digits only,
`exists_digit_of_mem_encode`.  Writing goes by groups of three octets, and so do the proofs.
-/

namespace Backoffice.Text.Base64

/-- The digits of the alphabet are told apart from each other and from padding. -/
def Alphabet.IsReadable (a : Alphabet) : Prop :=
  ∀ n < 64, a.value? (a.digit n) = some n ∧ a.digit n ≠ '='

/-- The alphabet for addresses can be read. -/
theorem isReadable_addressSafe : Alphabet.addressSafe.IsReadable := by
  unfold Alphabet.IsReadable
  decide

/-- The alphabet of digests can be read. -/
theorem isReadable_pointed : Alphabet.pointed.IsReadable := by
  unfold Alphabet.IsReadable
  decide

variable {a : Alphabet}

/-- Padding is no digit. -/
theorem value?_pad (ha : a.IsReadable) : a.value? '=' = none := by
  have h62 : ¬ ('=' = a.digit62 ∨ '=' = '+') := by
    have := (ha 62 (by decide)).2
    exact not_or.mpr ⟨fun h => this h.symm, by decide⟩
  have h63 : ¬ ('=' = a.digit63 ∨ '=' = '/') := by
    have := (ha 63 (by decide)).2
    exact not_or.mpr ⟨fun h => this h.symm, by decide⟩
  unfold Alphabet.value?
  rw [if_neg (by decide), if_neg (by decide), if_neg (by decide), if_neg h62, if_neg h63]

/-- A digit is taken by its value. -/
theorem readFrom_value (ha : a.IsReadable) {c : Char} {v : ℕ} (hc : a.value? c = some v) (place : Place)
    (pads : ℕ) (cs : List Char) : readFrom a place pads (c :: cs) =
      (readFrom a (place.take v).2 0 cs).map ((place.take v).1 ++ ·) := by
  have hpad : c ≠ '=' := by
    rintro rfl
    rw [value?_pad ha] at hc
    cases hc
  rw [readFrom, if_neg hpad, hc]

/-- What is written for a value is taken for it. -/
theorem readFrom_digit (ha : a.IsReadable) {n : ℕ} (hn : n < 64) (place : Place) (pads : ℕ)
    (cs : List Char) :
    readFrom a place pads (a.digit n :: cs) =
      (readFrom a (place.take n).2 0 cs).map ((place.take n).1 ++ ·) :=
  readFrom_value ha (ha n hn).1 place pads cs

/-- Four digits give three octets. -/
theorem readFrom_group (ha : a.IsReadable) (x y z : UInt8) (cs : List Char) :
    readFrom a .first 0 (a.digit (x.toNat / 4) :: a.digit (x.toNat % 4 * 16 + y.toNat / 16) ::
        a.digit (y.toNat % 16 * 4 + z.toNat / 64) :: a.digit (z.toNat % 64) :: cs) =
      (readFrom a .first 0 cs).map (x :: y :: z :: ·) := by
  have hx : x.toNat < 256 := x.toNat_lt
  have hy : y.toNat < 256 := y.toNat_lt
  have hz : z.toNat < 256 := z.toNat_lt
  have hfirst : x.toNat / 4 * 4 + (x.toNat % 4 * 16 + y.toNat / 16) / 16 = x.toNat := by omega
  have hsecond : (x.toNat % 4 * 16 + y.toNat / 16) % 16 * 16 +
      (y.toNat % 16 * 4 + z.toNat / 64) / 4 = y.toNat := by omega
  have hthird : (y.toNat % 16 * 4 + z.toNat / 64) % 4 * 64 + z.toNat % 64 = z.toNat := by omega
  rw [readFrom_digit ha (by omega), readFrom_digit ha (by omega), readFrom_digit ha (by omega),
    readFrom_digit ha (by omega)]
  simp only [Place.take, hfirst, hsecond, hthird, UInt8.ofNat_toNat, Option.map_map]
  rfl

/-- What is written is read back. -/
@[simp] theorem decode?_encode (ha : a.IsReadable) (bytes : List UInt8) :
    decode? a (encode a bytes) = some bytes := by
  unfold decode?
  fun_induction encode a bytes with
  | case1 => rfl
  | case2 x =>
    have hx : x.toNat < 256 := x.toNat_lt
    have hbits : x.toNat / 4 * 4 + x.toNat % 4 * 16 / 16 = x.toNat := by omega
    rw [List.cons_append, List.cons_append, readFrom_digit ha (by omega), readFrom_digit ha (by omega)]
    simp only [Place.take, hbits, UInt8.ofNat_toNat]
    rfl
  | case3 x y =>
    have hx : x.toNat < 256 := x.toNat_lt
    have hy : y.toNat < 256 := y.toNat_lt
    have hfirst : x.toNat / 4 * 4 + (x.toNat % 4 * 16 + y.toNat / 16) / 16 = x.toNat := by omega
    have hsecond : (x.toNat % 4 * 16 + y.toNat / 16) % 16 * 16 + y.toNat % 16 * 4 / 4 = y.toNat := by
      omega
    rw [List.cons_append, List.cons_append, List.cons_append, readFrom_digit ha (by omega),
      readFrom_digit ha (by omega), readFrom_digit ha (by omega)]
    simp only [Place.take, hfirst, hsecond, UInt8.ofNat_toNat]
    rfl
  | case4 x y z rest ih =>
    have hpadding : padding ((encode a rest).length + 4) = padding (encode a rest).length := by
      unfold padding
      rw [Nat.add_mod_right]
    simp only [List.cons_append, List.length_cons]
    rw [hpadding, readFrom_group ha, ih]
    rfl

/-- The text has digits only. -/
theorem exists_digit_of_mem_encode {bytes : List UInt8} {c : Char} (h : c ∈ encode a bytes) :
    ∃ n < 64, c = a.digit n := by
  fun_induction encode a bytes with
  | case1 => simp at h
  | case2 x =>
    have hx : x.toNat < 256 := x.toNat_lt
    simp only [List.mem_cons, List.not_mem_nil, or_false] at h
    rcases h with h | h <;> exact ⟨_, by omega, h⟩
  | case3 x y =>
    have hx : x.toNat < 256 := x.toNat_lt
    have hy : y.toNat < 256 := y.toNat_lt
    simp only [List.mem_cons, List.not_mem_nil, or_false] at h
    rcases h with h | h | h <;> exact ⟨_, by omega, h⟩
  | case4 x y z rest ih =>
    have hx : x.toNat < 256 := x.toNat_lt
    have hy : y.toNat < 256 := y.toNat_lt
    have hz : z.toNat < 256 := z.toNat_lt
    simp only [List.mem_cons] at h
    rcases h with h | h | h | h | h
    · exact ⟨_, by omega, h⟩
    · exact ⟨_, by omega, h⟩
    · exact ⟨_, by omega, h⟩
    · exact ⟨_, by omega, h⟩
    · exact ih h

/-- A text for addresses has visible characters of ASCII only, and no point. -/
theorem isPlain_of_mem_encode {bytes : List UInt8} {c : Char}
    (h : c ∈ encode .addressSafe bytes) : 0x20 < c.toNat ∧ c.toNat < 0x7F ∧ c ≠ '.' := by
  obtain ⟨n, hn, rfl⟩ := exists_digit_of_mem_encode h
  have hdigits : ∀ n < 64, 0x20 < (Alphabet.addressSafe.digit n).toNat ∧
      (Alphabet.addressSafe.digit n).toNat < 0x7F ∧ Alphabet.addressSafe.digit n ≠ '.' := by decide
  exact hdigits n hn

/-- A text for digests is in ASCII, and has no dollar sign. -/
theorem isPlain_of_mem_encode_pointed {bytes : List UInt8} {c : Char} (h : c ∈ encode .pointed bytes) :
    c.toNat < 128 ∧ c ≠ '$' := by
  obtain ⟨n, hn, rfl⟩ := exists_digit_of_mem_encode h
  have hdigits : ∀ n < 64, (Alphabet.pointed.digit n).toNat < 128 ∧ Alphabet.pointed.digit n ≠ '$' := by
    decide
  exact hdigits n hn

/-- No text ends after the first digit of a group. -/
theorem length_encode_mod_ne (bytes : List UInt8) : (encode a bytes).length % 4 ≠ 1 := by
  fun_induction encode a bytes with
  | case1 | case2 | case3 => simp
  | case4 x y z rest ih =>
    simp only [List.length_cons]
    omega

end Backoffice.Text.Base64
