import Mathlib
import Backoffice.Proofs.Text.Strip
import Backoffice.Text.Numeral

/-!
# Numerals

Which texts are taken for an integer, and for which one: `int?_eq_some_iff`.  A numeral is a run of decimal
digits of any scripts, with single underscores between them, after a sign that may be left out, and between
white space.
-/

namespace Backoffice.Text

/-- The character is a decimal digit of some script, with this value. -/
def IsDecimal (c : Char) (d : ℕ) : Prop :=
  d < 10 ∧ ∃ first ∈ decimalZeros, c.toNat = first + d

/-- The digits of a script end before those of the next one begin. -/
theorem decimalZeros_apart : ∀ y ∈ decimalZeros, ∀ z ∈ decimalZeros, y < z → y + 10 ≤ z := by
  decide +kernel

/-- A character has a value as a digit exactly if it is a decimal digit of this value. -/
theorem decimalDigit?_eq_some_iff {c : Char} {d : ℕ} : decimalDigit? c = some d ↔ IsDecimal c d := by
  unfold decimalDigit? IsDecimal
  rw [Option.map_eq_some_iff]
  constructor
  · rintro ⟨first, hfind, rfl⟩
    have hmem := List.mem_of_find?_eq_some hfind
    have hrange := List.find?_some hfind
    rw [Bool.and_eq_true, decide_eq_true_iff, decide_eq_true_iff] at hrange
    exact ⟨by omega, first, hmem, by omega⟩
  · rintro ⟨hd, first, hfirst, hc⟩
    have hfound : (decimalZeros.find? fun z => z ≤ c.toNat && c.toNat < z + 10).isSome = true := by
      rw [List.find?_isSome]
      refine ⟨first, hfirst, ?_⟩
      rw [Bool.and_eq_true, decide_eq_true_iff, decide_eq_true_iff]
      omega
    obtain ⟨other, hother⟩ := Option.isSome_iff_exists.mp hfound
    have hmem := List.mem_of_find?_eq_some hother
    have hrange := List.find?_some hother
    rw [Bool.and_eq_true, decide_eq_true_iff, decide_eq_true_iff] at hrange
    have hless := decimalZeros_apart first hfirst other hmem
    have hgreater := decimalZeros_apart other hmem first hfirst
    exact ⟨other, hother, by omega⟩

/-- A decimal digit is no white space. -/
theorem IsDecimal.isSpace_eq_false {c : Char} {d : ℕ} (h : IsDecimal c d) : isSpace c = false := by
  obtain ⟨hd, first, hfirst, hc⟩ := h
  -- the white space beyond ASCII lies between these places
  have hplaces : ∀ z ∈ decimalZeros, z = 0x30 ∨ 0x660 ≤ z ∧ z < 0x1680 - 10 ∨
      0x1680 < z ∧ z < 0x2000 - 10 ∨ 0x3000 < z := by
    decide
  have hplace := hplaces first hfirst
  unfold isSpace isBlank
  simp only [Bool.and_eq_false_iff, Bool.or_eq_false_iff, decide_eq_false_iff_not, beq_eq_false_iff_ne]
  omega

/-- A run of decimal digits with single underscores between some of them, and the values of the digits. -/
inductive IsDigitRun : List Char → List ℕ → Prop
  | last {c : Char} {d : ℕ} (digit : IsDecimal c d) : IsDigitRun [c] [d]
  | next {c : Char} {d : ℕ} {cs : List Char} {ds : List ℕ} (digit : IsDecimal c d)
      (run : IsDigitRun cs ds) : IsDigitRun (c :: cs) (d :: ds)
  | spaced {c : Char} {d : ℕ} {cs : List Char} {ds : List ℕ} (digit : IsDecimal c d)
      (run : IsDigitRun cs ds) : IsDigitRun (c :: '_' :: cs) (d :: ds)

/-- A character without a value is no digit. -/
theorem not_isDecimal_of_none {c : Char} {d : ℕ} (h : decimalDigit? c = none) : ¬ IsDecimal c d := by
  rw [← decimalDigit?_eq_some_iff, h]
  exact (Option.some_ne_none d).symm

/-- A run of digits begins with a digit. -/
theorem IsDigitRun.exists_cons {cs : List Char} {ds : List ℕ} (h : IsDigitRun cs ds) :
    ∃ c d rest, cs = c :: rest ∧ IsDecimal c d := by
  cases h with
  | last digit => exact ⟨_, _, _, rfl, digit⟩
  | next digit _ => exact ⟨_, _, _, rfl, digit⟩
  | spaced digit _ => exact ⟨_, _, _, rfl, digit⟩

/-- A run of digits does not begin with a sign. -/
theorem IsDigitRun.not_sign {cs : List Char} {ds : List ℕ} (h : IsDigitRun cs ds) :
    ∀ c ∈ cs.head?, c ≠ '-' ∧ c ≠ '+' := by
  obtain ⟨c, d, rest, rfl, hc⟩ := h.exists_cons
  rintro c ⟨⟩
  constructor
  · rintro rfl
    exact not_isDecimal_of_none (by decide) hc
  · rintro rfl
    exact not_isDecimal_of_none (by decide) hc

/-- A run of digits has a digit. -/
theorem IsDigitRun.ne_nil {cs : List Char} {ds : List ℕ} (h : IsDigitRun cs ds) : cs ≠ [] := by
  obtain ⟨c, d, rest, rfl, -⟩ := h.exists_cons
  exact List.cons_ne_nil c rest

/-- A run of digits ends with a digit. -/
theorem IsDigitRun.getLast? {cs : List Char} {ds : List ℕ} (h : IsDigitRun cs ds) :
    ∀ c ∈ cs.getLast?, ∃ d, IsDecimal c d := by
  induction h with
  | last digit =>
    rintro c ⟨⟩
    exact ⟨_, digit⟩
  | next _ run ih =>
    obtain ⟨_, _, _, rfl, -⟩ := run.exists_cons
    rwa [List.getLast?_cons_cons]
  | spaced _ run ih =>
    obtain ⟨_, _, _, rfl, -⟩ := run.exists_cons
    rwa [List.getLast?_cons_cons, List.getLast?_cons_cons]

/-- Digits are read from a text exactly if it is a run of them. -/
theorem groupedDigits?_eq_some_iff {cs : List Char} {ds : List ℕ} :
    groupedDigits? cs = some ds ↔ IsDigitRun cs ds := by
  constructor
  · intro h
    induction cs using groupedDigits?.induct generalizing ds with
    | case1 => cases h
    | case2 c =>
      rw [groupedDigits?, Option.map_eq_some_iff] at h
      obtain ⟨d, hd, rfl⟩ := h
      exact .last (decimalDigit?_eq_some_iff.mp hd)
    | case3 c rest ih =>
      rw [groupedDigits?] at h
      obtain ⟨d, hd, h⟩ := Option.bind_eq_some_iff.mp h
      obtain ⟨more, hmore, h⟩ := Option.bind_eq_some_iff.mp h
      cases h
      exact .spaced (decimalDigit?_eq_some_iff.mp hd) (ih hmore)
    | case4 c rest hnil hspaced ih =>
      rw [groupedDigits?] at h
      · obtain ⟨d, hd, h⟩ := Option.bind_eq_some_iff.mp h
        obtain ⟨more, hmore, h⟩ := Option.bind_eq_some_iff.mp h
        cases h
        exact .next (decimalDigit?_eq_some_iff.mp hd) (ih hmore)
      · exact hnil
      · exact hspaced
  · intro h
    induction h with
    | last digit =>
      rw [groupedDigits?, decimalDigit?_eq_some_iff.mpr digit]
      rfl
    | next digit run ih =>
      obtain ⟨c', d', rest, rfl, hc'⟩ := run.exists_cons
      rw [groupedDigits?, decimalDigit?_eq_some_iff.mpr digit, ih]
      · rfl
      · exact List.cons_ne_nil _ _
      · rintro rest' h
        cases h
        exact absurd hc' (not_isDecimal_of_none (by decide))
    | spaced digit run ih =>
      rw [groupedDigits?, decimalDigit?_eq_some_iff.mpr digit, ih]
      rfl

/-- A sign that may be left out, and whether it is a minus. -/
inductive IsSign : List Char → Bool → Prop
  | absent : IsSign [] false
  | plus : IsSign ['+'] false
  | minus : IsSign ['-'] true

/-- The text is a numeral of the integer: white space, a sign, digits of which there are not too many, and
white space. -/
inductive IsNumeral : List Char → ℤ → Prop
  | mk {before sign digits after : List Char} {negative : Bool} {ds : List ℕ}
      (before_space : ∀ c ∈ before, isSpace c = true) (sign_eq : IsSign sign negative)
      (run : IsDigitRun digits ds) (short : ds.length ≤ maxDigits)
      (after_space : ∀ c ∈ after, isSpace c = true) :
      IsNumeral (before ++ (sign ++ digits) ++ after) (signed negative (Nat.ofDigits 10 ds.reverse))

/-- The number of some digits is the one of the library, which has the least significant digit first. -/
theorem ofDigits_eq (ds : List ℕ) : ofDigits ds = Nat.ofDigits 10 ds.reverse := by
  unfold ofDigits
  induction ds using List.reverseRecOn with
  | nil => rfl
  | append_singleton ds d ih =>
    rw [List.foldl_append, List.foldl_cons, List.foldl_nil, ih, List.reverse_append, List.reverse_singleton,
      List.singleton_append, Nat.ofDigits_cons]
    simp [add_comm]

/-- A sign and what follows it are taken apart, if no other sign follows. -/
theorem takeSign_append {sign body : List Char} {negative : Bool} (hsign : IsSign sign negative)
    (hbody : ∀ c ∈ body.head?, c ≠ '-' ∧ c ≠ '+') : takeSign (sign ++ body) = (negative, body) := by
  cases hsign with
  | plus => rfl
  | minus => rfl
  | absent =>
    rw [List.nil_append]
    unfold takeSign
    split
    · exact absurd rfl (hbody '-' rfl).1
    · exact absurd rfl (hbody '+' rfl).2
    · rfl

/-- What is taken for a sign is one, in front of the rest. -/
theorem exists_sign_of_takeSign {cs body : List Char} {negative : Bool}
    (h : takeSign cs = (negative, body)) : ∃ sign, cs = sign ++ body ∧ IsSign sign negative := by
  unfold takeSign at h
  split at h
  · cases h
    exact ⟨_, rfl, .minus⟩
  · cases h
    exact ⟨_, rfl, .plus⟩
  · cases h
    exact ⟨_, rfl, .absent⟩

/-- Neither a sign nor a digit is white space. -/
theorem isSpace_ends {sign digits : List Char} {negative : Bool} {ds : List ℕ}
    (hsign : IsSign sign negative) (hrun : IsDigitRun digits ds) :
    (∀ c ∈ (sign ++ digits).head?, isSpace c = false) ∧ ∀ c ∈ (sign ++ digits).getLast?, isSpace c = false := by
  obtain ⟨c, d, rest, hdigits, hc⟩ := hrun.exists_cons
  constructor
  · cases hsign with
    | plus =>
      rintro c ⟨⟩
      decide
    | minus =>
      rintro c ⟨⟩
      decide
    | absent =>
      rw [hdigits]
      rintro c ⟨⟩
      exact hc.isSpace_eq_false
  · intro c hlast
    rw [List.getLast?_append_of_ne_nil _ hrun.ne_nil] at hlast
    obtain ⟨d, hd⟩ := hrun.getLast? c hlast
    exact hd.isSpace_eq_false

/-- A text is taken for an integer exactly if it is a numeral of it. -/
theorem int?_eq_some_iff {cs : List Char} {n : ℤ} : int? cs = some n ↔ IsNumeral cs n := by
  constructor
  · intro h
    obtain ⟨before, after, hcs, hbefore, hafter⟩ := exists_append_trimBy isSpace cs
    obtain ⟨⟨negative, body⟩, htake⟩ : ∃ taken, takeSign (trimBy isSpace cs) = taken := ⟨_, rfl⟩
    obtain ⟨sign, hsplit, hsign⟩ := exists_sign_of_takeSign htake
    unfold int? at h
    rw [htake] at h
    obtain ⟨ds, hds, h⟩ := Option.bind_eq_some_iff.mp h
    split_ifs at h with hshort
    cases h
    rw [hcs, hsplit, ofDigits_eq]
    exact .mk hbefore hsign (groupedDigits?_eq_some_iff.mp hds) hshort hafter
  · rintro (@⟨before, sign, digits, after, negative, ds, hbefore, hsign, hrun, hshort, hafter⟩)
    obtain ⟨hhead, hlast⟩ := isSpace_ends hsign hrun
    unfold int?
    rw [trimBy_append hbefore hafter hhead hlast, takeSign_append hsign hrun.not_sign]
    dsimp only
    rw [groupedDigits?_eq_some_iff.mpr hrun]
    dsimp only [Option.bind_eq_bind, Option.bind_some]
    rw [if_pos hshort, ofDigits_eq]

end Backoffice.Text
