import Mathlib
import Backoffice.Text.Utf8

/-!
# Octets of a text

The octets that a text is written with are read back as the text, `decode?_encode`.  The reader is a
machine, so the proof goes character by character: from the state between two characters it comes back
to that state, and has read the character.
-/

namespace Backoffice.Text.Utf8

/-! ### One octet -/

/-- An octet that stands for a character by itself. -/
theorem start_single {n : ℕ} (hn : n < 0x80) :
    start (UInt8.ofNat n) = ([some (Char.ofNat n)], .idle) := by
  have hnat : (UInt8.ofNat n).toNat = n := UInt8.toNat_ofNat_of_lt' (show n < 256 by omega)
  unfold start
  simp only [hnat]
  rw [if_pos hn]

/-- The first octet of two. -/
theorem start_two {n : ℕ} (hlow : 0xC2 ≤ n) (hhigh : n < 0xE0) :
    start (UInt8.ofNat n) = ([], .inside (n - 0xC0) 0 0x80 0xBF) := by
  have hnat : (UInt8.ofNat n).toNat = n := UInt8.toNat_ofNat_of_lt' (show n < 256 by omega)
  unfold start
  simp only [hnat]
  rw [if_neg (by omega), if_neg (by omega), if_pos hhigh]

/-- The first octet of three. -/
theorem start_three {n : ℕ} (hlow : 0xE0 ≤ n) (hhigh : n < 0xF0) :
    start (UInt8.ofNat n) =
      ([], .inside (n - 0xE0) 1 (if n = 0xE0 then 0xA0 else 0x80) (if n = 0xED then 0x9F else 0xBF)) := by
  have hnat : (UInt8.ofNat n).toNat = n := UInt8.toNat_ofNat_of_lt' (show n < 256 by omega)
  unfold start
  simp only [hnat]
  rw [if_neg (by omega), if_neg (by omega), if_neg (by omega), if_pos hhigh]

/-- The first octet of four. -/
theorem start_four {n : ℕ} (hlow : 0xF0 ≤ n) (hhigh : n < 0xF5) :
    start (UInt8.ofNat n) =
      ([], .inside (n - 0xF0) 2 (if n = 0xF0 then 0x90 else 0x80) (if n = 0xF4 then 0x8F else 0xBF)) := by
  have hnat : (UInt8.ofNat n).toNat = n := UInt8.toNat_ofNat_of_lt' (show n < 256 by omega)
  unfold start
  simp only [hnat]
  rw [if_neg (by omega), if_neg (by omega), if_neg (by omega), if_neg (by omega), if_pos hhigh]

/-- An octet with others after it. -/
theorem feed_inside {bits due low high n : ℕ} (hlow : low ≤ n) (hhigh : n ≤ high) (hn : n < 256) :
    feed (.inside bits (due + 1) low high) (UInt8.ofNat n) =
      ([], .inside (bits * 64 + (n - 0x80)) due 0x80 0xBF) := by
  have hnat : (UInt8.ofNat n).toNat = n := UInt8.toNat_ofNat_of_lt' hn
  unfold feed
  simp only [hnat]
  rw [if_pos ⟨hlow, hhigh⟩]

/-- The last octet of a character. -/
theorem feed_last {bits low high n : ℕ} (hlow : low ≤ n) (hhigh : n ≤ high) (hn : n < 256) :
    feed (.inside bits 0 low high) (UInt8.ofNat n) =
      ([some (Char.ofNat (bits * 64 + (n - 0x80)))], .idle) := by
  have hnat : (UInt8.ofNat n).toNat = n := UInt8.toNat_ofNat_of_lt' hn
  unfold feed
  simp only [hnat]
  rw [if_pos ⟨hlow, hhigh⟩]

/-! ### One character -/

/-- The octets of a character are read as the character. -/
theorem readFrom_encodeChar (c : Char) (bs : List UInt8) :
    readFrom .idle (String.utf8EncodeChar c ++ bs) = some c :: readFrom .idle bs := by
  obtain ⟨v, hv⟩ : ∃ v, v = c.val.toNat := ⟨_, rfl⟩
  have hvalid : v < 0xD800 ∨ 0xDFFF < v ∧ v < 0x110000 := by
    rw [hv]
    exact c.valid
  have hc : Char.ofNat v = c := by
    rw [hv]
    exact Char.ofNat_toNat c
  unfold String.utf8EncodeChar
  simp only [← hv]
  have hidle : ∀ b, feed .idle b = start b := fun _ => rfl
  -- one case for each count of octets
  split
  · simp only [List.cons_append, List.nil_append, readFrom]
    rw [hidle, start_single (by omega), hc]
    rfl
  · split
    · simp only [List.cons_append, List.nil_append, readFrom]
      have hbits : (v / 64 % 32 + 192 - 192) * 64 + (v % 64 + 128 - 128) = v := by omega
      rw [hidle, start_two (by omega) (by omega)]
      dsimp only
      rw [feed_last (by omega) (by omega) (by omega), hbits, hc]
      rfl
    · split
      · simp only [List.cons_append, List.nil_append, readFrom]
        have hbits : ((v / 4096 % 16 + 224 - 224) * 64 + (v / 64 % 64 + 128 - 128)) * 64 +
            (v % 64 + 128 - 128) = v := by omega
        rw [hidle, start_three (by omega) (by omega)]
        dsimp only
        rw [feed_inside (by split <;> omega) (by split <;> omega) (by omega)]
        dsimp only
        rw [feed_last (by omega) (by omega) (by omega), hbits, hc]
        rfl
      · simp only [List.cons_append, List.nil_append, readFrom]
        have hbits : (((v / 262144 % 8 + 240 - 240) * 64 + (v / 4096 % 64 + 128 - 128)) * 64 +
            (v / 64 % 64 + 128 - 128)) * 64 + (v % 64 + 128 - 128) = v := by omega
        rw [hidle, start_four (by omega) (by omega)]
        dsimp only
        rw [feed_inside (by split <;> omega) (by split <;> omega) (by omega)]
        dsimp only
        rw [feed_inside (by omega) (by omega) (by omega)]
        dsimp only
        rw [feed_last (by omega) (by omega) (by omega), hbits, hc]
        rfl

/-! ### A text -/

/-- The octets of two texts in a row. -/
theorem encode_append (cs ds : List Char) : encode (cs ++ ds) = encode cs ++ encode ds := by
  unfold encode
  exact List.flatMap_append

/-- A text in ASCII has an octet for each of its characters. -/
theorem encode_of_ascii {cs : List Char} (h : ∀ c ∈ cs, c.toNat < 128) :
    encode cs = cs.map fun c => UInt8.ofNat c.toNat := by
  unfold encode
  rw [List.map_eq_flatMap]
  refine List.flatMap_congr fun c hc => ?_
  unfold String.utf8EncodeChar
  exact if_pos (Nat.le_of_lt_succ (h c hc))

/-- An octet of ASCII stands for its character alone. -/
theorem mem_of_mem_encode {cs : List Char} {n : ℕ} (hn : n < 128) (h : UInt8.ofNat n ∈ encode cs) :
    Char.ofNat n ∈ cs := by
  unfold encode at h
  obtain ⟨c, hc, hoctet⟩ := List.mem_flatMap.mp h
  have hnat : (UInt8.ofNat n).toNat = n := UInt8.toNat_ofNat_of_lt' (show n < 256 by omega)
  have hlow : ∀ m < 256, UInt8.ofNat n = UInt8.ofNat m → n = m := by
    intro m hm heq
    rw [← hnat, heq]
    exact UInt8.toNat_ofNat_of_lt' hm
  have hcode : n = c.val.toNat := by
    unfold String.utf8EncodeChar at hoctet
    dsimp only at hoctet
    -- the octets of longer forms are 128 and more
    split_ifs at hoctet
    · exact hlow _ (by omega) (List.mem_singleton.mp hoctet)
    · simp only [List.mem_cons, List.not_mem_nil, or_false] at hoctet
      rcases hoctet with h | h <;> have := hlow _ (by omega) h <;> omega
    · simp only [List.mem_cons, List.not_mem_nil, or_false] at hoctet
      rcases hoctet with h | h | h <;> have := hlow _ (by omega) h <;> omega
    · simp only [List.mem_cons, List.not_mem_nil, or_false] at hoctet
      rcases hoctet with h | h | h | h <;> have := hlow _ (by omega) h <;> omega
  have hchar : Char.ofNat n = c := by
    rw [hcode]
    exact Char.ofNat_toNat c
  rw [hchar]
  exact hc

/-- The octets of a text are read as its characters. -/
theorem read_encode (cs : List Char) : read (encode cs) = cs.map some := by
  unfold read encode
  induction cs with
  | nil => rfl
  | cons c cs ih => rw [List.flatMap_cons, readFrom_encodeChar, ih, List.map_cons]

/-- A text is read back from its octets. -/
@[simp] theorem decode?_encode (cs : List Char) : decode? (encode cs) = some cs := by
  unfold decode?
  rw [read_encode]
  induction cs with
  | nil => rfl
  | cons c cs ih =>
    rw [List.map_cons, List.mapM_cons, ih]
    rfl

end Backoffice.Text.Utf8
