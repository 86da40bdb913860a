import Mathlib
import Backoffice.Proofs.Json.RoundTrip
import Backoffice.Proofs.Text.Integers

/-!
# Strings and numbers at the front of a text

A string or a number is read from the front of the characters that it consists of, and what follows does
not matter: a string ends with its quotation mark, and a number is not followed by a digit, a point or the
mark of a power of ten (`exists_front_of_readString`, `exists_front_of_readNumber`).
-/

namespace Backoffice.Json

/-! ### Strings -/

/-- A piece is read from the front of a string if the rest of it is. -/
theorem IsPiece.exists_front {text cs rest : List Char} {p : Piece} {pieces : List Piece}
    (hp : IsPiece text p) (h : readPieces (text ++ cs) = some (pieces, rest))
    (ih : ∀ {more}, readPieces cs = some (more, rest) →
      ∃ front, cs = front ++ rest ∧ ∀ tail, readPieces (front ++ tail) = some (more, tail)) :
    ∃ front, text ++ cs = front ++ rest ∧ ∀ tail, readPieces (front ++ tail) = some (pieces, tail) := by
  rw [hp] at h
  obtain ⟨⟨more, rest'⟩, hmore, heq⟩ := Option.map_eq_some_iff.mp h
  cases heq
  obtain ⟨front, rfl, hfront⟩ := ih hmore
  refine ⟨text ++ front, (List.append_assoc _ _ _).symm, fun tail => ?_⟩
  rw [List.append_assoc, hp, hfront]
  rfl

/-- The pieces of a string are read from its front, whatever follows. -/
theorem exists_front_of_readPieces {cs rest : List Char} {pieces : List Piece}
    (h : readPieces cs = some (pieces, rest)) :
    ∃ front, cs = front ++ rest ∧ ∀ tail, readPieces (front ++ tail) = some (pieces, tail) := by
  induction cs using readPieces.induct generalizing pieces with
  | case1 => cases h
  | case2 rest' =>
    cases h
    exact ⟨['"'], rfl, fun _ => rfl⟩
  | case3 a b c d rest' ih =>
    obtain ⟨n, hn, -⟩ : ∃ n, unit? a b c d = some n ∧ _ := by
      rw [readPieces] at h
      exact Option.bind_eq_some_iff.mp h
    exact (isPiece_unit hn).exists_front h ih
  | case4 e rest' hunit ih =>
    obtain ⟨c, hc, -⟩ : ∃ c, escaped? e = some c ∧ _ := by
      rw [readPieces] at h
      · exact Option.bind_eq_some_iff.mp h
      · exact hunit
    exact (isPiece_escape hc).exists_front h ih
  | case5 c rest' hquote hunit hescape hcontrol =>
    rw [readPieces, if_pos hcontrol] at h
    · cases h
    · exact hquote
    · exact hunit
    · exact hescape
  | case6 c rest' hquote hunit hescape hcontrol ih =>
    have hslash : c ≠ '\\' := by
      -- a backslash at the end of the text is no string
      rintro rfl
      cases rest' with
      | nil => cases h
      | cons e es => exact hescape e es rfl rfl
    exact (isPiece_self hquote hslash hcontrol).exists_front h ih

/-- A string is read from the front of the text, whatever follows. -/
theorem exists_front_of_readString {cs rest : List Char} {s : Option String}
    (h : readString cs = some (s, rest)) :
    ∃ front, cs = front ++ rest ∧ ∀ tail, readString (front ++ tail) = some (s, tail) := by
  unfold readString at h
  obtain ⟨⟨pieces, rest'⟩, hpieces, h⟩ := Option.bind_eq_some_iff.mp h
  cases h
  obtain ⟨front, hcs, hfront⟩ := exists_front_of_readPieces hpieces
  refine ⟨front, hcs, fun tail => ?_⟩
  unfold readString
  rw [hfront]
  rfl

/-! ### Numbers -/

/-- A whole part that does not begin with zero takes all digits. -/
theorem wholePart_cons {c : Char} (h : c ≠ '0') (cs : List Char) :
    wholePart (c :: cs) = (c :: cs).takeWhile Text.isDigit := by
  unfold wholePart
  split
  · rename_i hzero
    cases hzero
    exact absurd rfl h
  · rfl

/-- A whole part is read from the front of the text, whatever follows that is no digit. -/
theorem exists_front_of_wholePart {cs whole : List Char} (h : wholePart cs = whole) (hne : whole ≠ []) :
    ∃ rest, cs = whole ++ rest ∧ (∃ c ∈ whole.head?, Text.isDigit c = true) ∧
      ∀ tail, (∀ c ∈ tail.head?, Text.isDigit c = false) → wholePart (whole ++ tail) = whole := by
  cases cs with
  | nil =>
    cases h
    exact absurd rfl hne
  | cons c cs =>
    by_cases hzero : c = '0'
    · rw [hzero] at h
      cases h
      exact ⟨cs, by rw [hzero]; rfl, ⟨'0', rfl, rfl⟩, fun _ _ => rfl⟩
    · rw [wholePart_cons hzero] at h
      by_cases hc : Text.isDigit c = true
      · rw [List.takeWhile_cons_of_pos hc] at h
        cases h
        refine ⟨cs.dropWhile Text.isDigit, ?_, ⟨c, rfl, hc⟩, fun tail htail => ?_⟩
        · rw [List.cons_append, List.takeWhile_append_dropWhile]
        · have hdigits : ∀ d ∈ c :: cs.takeWhile Text.isDigit, Text.isDigit d = true := by
            rw [List.forall_mem_cons]
            exact ⟨hc, fun d hd => List.mem_takeWhile_imp hd⟩
          rw [List.cons_append, wholePart_cons hzero, ← List.cons_append]
          exact (Text.takeWhile_digits hdigits htail).1
      · rw [List.takeWhile_cons_of_neg hc] at h
        exact absurd h.symm hne

/-- A fraction is read from the front of the text, whatever follows that is neither a digit nor a point. -/
theorem exists_front_of_readFraction {cs fraction rest : List Char}
    (h : readFraction cs = (fraction, rest)) : ∃ front, cs = front ++ rest ∧ (∀ c ∈ front.head?, c = '.') ∧
      ∀ tail, (∀ c ∈ tail.head?, Text.isDigit c = false ∧ c ≠ '.') →
        readFraction (front ++ tail) = (fraction, tail) := by
  have hnone : ∀ tail : List Char, (∀ c ∈ tail.head?, Text.isDigit c = false ∧ c ≠ '.') →
      readFraction tail = ([], tail) := by
    intro tail htail
    unfold readFraction
    split
    · exact absurd rfl (htail '.' rfl).2
    · rfl
  unfold readFraction at h
  split at h
  · rename_i cs
    dsimp only at h
    split_ifs at h with hdigits
    · cases h
      exact ⟨[], rfl, by simp, hnone⟩
    · cases h
      refine ⟨'.' :: cs.takeWhile Text.isDigit, ?_, ?_, fun tail htail => ?_⟩
      · rw [List.cons_append, List.takeWhile_append_dropWhile]
      · rintro c ⟨⟩
        rfl
      · have hrun : ∀ c ∈ cs.takeWhile Text.isDigit, Text.isDigit c = true := fun c hc =>
          List.mem_takeWhile_imp hc
        obtain ⟨htake, hdrop⟩ := Text.takeWhile_digits hrun fun c hc => (htail c hc).1
        rw [List.cons_append, readFraction, htake, hdrop]
        exact if_neg hdigits
  · cases h
    exact ⟨[], rfl, by simp, hnone⟩

/-- A power of ten is read from the front of the text, whatever can follow a value. -/
theorem exists_front_of_readExponent {cs rest : List Char} {exponent : Option ℤ}
    (h : Text.readExponent cs = (exponent, rest)) :
    ∃ front, cs = front ++ rest ∧ (∀ c ∈ front.head?, c = 'e' ∨ c = 'E') ∧
      ∀ tail, EndsValue tail → Text.readExponent (front ++ tail) = (exponent, tail) := by
  have hnone : ∀ tail : List Char, EndsValue tail → Text.readExponent tail = (none, tail) := by
    intro tail htail
    unfold Text.readExponent
    split
    · rename_i mark tail
      obtain ⟨-, -, hlower, hupper⟩ := htail mark rfl
      rw [if_neg (by simp [hlower, hupper])]
    · rfl
  unfold Text.readExponent at h
  split at h
  · rename_i mark tail
    split_ifs at h with hmark
    · dsimp only at h
      split_ifs at h with hdigits
      · cases h
        exact ⟨[], rfl, by simp, hnone⟩
      · obtain ⟨⟨negative, body⟩, htake⟩ : ∃ taken, Text.takeSign tail = taken := ⟨_, rfl⟩
        rw [htake] at h hdigits
        cases h
        obtain ⟨sign, rfl, hsign⟩ := Text.exists_sign_of_takeSign htake
        refine ⟨mark :: (sign ++ body.takeWhile Text.isDigit), ?_, ?_, fun tail htail => ?_⟩
        · rw [List.cons_append, List.append_assoc, List.takeWhile_append_dropWhile]
        · rintro c ⟨⟩
          exact hmark
        · have hall : ∀ c ∈ body.takeWhile Text.isDigit, Text.isDigit c = true :=
            fun c hc => List.mem_takeWhile_imp hc
          obtain ⟨htakes, hdrops⟩ := Text.takeWhile_digits hall fun c hc => (htail c hc).1
          have hsigned : Text.takeSign (sign ++ (body.takeWhile Text.isDigit ++ tail)) =
              (negative, body.takeWhile Text.isDigit ++ tail) := by
            refine Text.takeSign_append hsign fun c hc => ?_
            rw [List.head?_append_of_ne_nil _ hdigits] at hc
            exact Text.not_sign_of_isDigit (hall c (List.mem_of_mem_head? hc))
          rw [List.cons_append, List.append_assoc, Text.readExponent, if_pos hmark, hsigned]
          dsimp only
          rw [htakes, hdrops, if_neg hdigits]
    · cases h
      exact ⟨[], rfl, by simp, hnone⟩
  · cases h
    exact ⟨[], rfl, by simp, hnone⟩

/-- The number of a whole part, a fraction and a power of ten, if it is not too long. -/
def magnitude? (negative : Bool) (whole fraction : List Char) (exponent : Option ℤ) : Option Json :=
  if fraction = [] ∧ exponent = none then
    if whole.length ≤ Text.maxDigits then some (.int (Text.signed negative (Text.natOf whole))) else none
  else
    some (.float (.ofDecimal negative (Text.natOf (whole ++ fraction)) (exponent.getD 0 - fraction.length)))

/-- A number without its sign is read part by part. -/
theorem readMagnitude_eq {negative : Bool} {cs whole fraction afterFraction rest : List Char}
    {exponent : Option ℤ} (hwhole : wholePart cs = whole) (hne : whole ≠ [])
    (hfraction : readFraction (cs.drop whole.length) = (fraction, afterFraction))
    (hexponent : Text.readExponent afterFraction = (exponent, rest)) :
    readMagnitude negative cs = (magnitude? negative whole fraction exponent).map (·, rest) := by
  unfold readMagnitude magnitude?
  dsimp only
  rw [hwhole, if_neg hne, hfraction]
  dsimp only
  rw [hexponent]
  cases fraction with
  | cons d ds => simp
  | nil =>
    cases exponent with
    | some n => simp
    | none =>
      simp only [and_self, if_true]
      split_ifs <;> rfl

/-- A number without its sign is read from the front of the text, whatever can follow a value. -/
theorem exists_front_of_readMagnitude {negative : Bool} {cs rest : List Char} {v : Json}
    (h : readMagnitude negative cs = some (v, rest)) : ∃ front, cs = front ++ rest ∧
      (∃ c ∈ front.head?, Text.isDigit c = true) ∧
        ∀ tail, EndsValue tail → readMagnitude negative (front ++ tail) = some (v, tail) := by
  by_cases hne : wholePart cs = []
  · unfold readMagnitude at h
    dsimp only at h
    rw [if_pos hne] at h
    cases h
  obtain ⟨whole, hwhole⟩ : ∃ whole, wholePart cs = whole := ⟨_, rfl⟩
  rw [hwhole] at hne
  obtain ⟨rest₁, rfl, ⟨d, hd, hdigit⟩, hwholeAgain⟩ := exists_front_of_wholePart hwhole hne
  obtain ⟨⟨fraction, rest₂⟩, hfraction⟩ : ∃ read, readFraction rest₁ = read := ⟨_, rfl⟩
  obtain ⟨⟨exponent, rest₃⟩, hexponent⟩ : ∃ read, Text.readExponent rest₂ = read := ⟨_, rfl⟩
  rw [readMagnitude_eq hwhole hne (by rwa [List.drop_left]) hexponent, Option.map_eq_some_iff] at h
  obtain ⟨value, hvalue, h⟩ := h
  cases h
  obtain ⟨point, rfl, hpoint, hfractionAgain⟩ := exists_front_of_readFraction hfraction
  obtain ⟨power, rfl, hpower, hexponentAgain⟩ := exists_front_of_readExponent hexponent
  refine ⟨whole ++ (point ++ power), by simp only [List.append_assoc], ⟨d, ?_, hdigit⟩, fun tail htail => ?_⟩
  · rw [List.head?_append_of_ne_nil _ hne]
    exact hd
  -- behind the whole part stands no digit, and behind the fraction neither a digit nor a point
  have hafterFraction : ∀ c ∈ (power ++ tail).head?, Text.isDigit c = false ∧ c ≠ '.' := by
    intro c hc
    cases power with
    | nil => exact ⟨(htail c hc).1, (htail c hc).2.1⟩
    | cons e power =>
      rcases hpower c hc with rfl | rfl <;> decide
  have hafterWhole : ∀ c ∈ (point ++ (power ++ tail)).head?, Text.isDigit c = false := by
    intro c hc
    cases point with
    | nil => exact (hafterFraction c hc).1
    | cons e point =>
      rw [hpoint c hc]
      rfl
  have hread : readMagnitude negative _ = _ := readMagnitude_eq (hwholeAgain _ hafterWhole) hne
    (by rw [List.drop_left]; exact hfractionAgain _ hafterFraction) (hexponentAgain tail htail)
  rw [hvalue, Option.map_some] at hread
  rw [List.append_assoc, List.append_assoc]
  exact hread

/-- A number is read from the front of the text, whatever can follow a value. -/
theorem exists_front_of_readNumber {cs rest : List Char} {v : Json}
    (h : readNumber cs = some (v, rest)) : ∃ front, cs = front ++ rest ∧
      (∃ c ∈ front.head?, BeginsNumber c) ∧
        ∀ tail, EndsValue tail → readNumber (front ++ tail) = some (v, tail) := by
  unfold readNumber at h
  split at h
  · cases h
    exact ⟨['N', 'a', 'N'], rfl, ⟨'N', rfl, by simp [BeginsNumber]⟩, fun _ _ => rfl⟩
  · cases h
    exact ⟨['I', 'n', 'f', 'i', 'n', 'i', 't', 'y'], rfl, ⟨'I', rfl, by simp [BeginsNumber]⟩, fun _ _ => rfl⟩
  · cases h
    exact ⟨['-', 'I', 'n', 'f', 'i', 'n', 'i', 't', 'y'], rfl, ⟨'-', rfl, by simp [BeginsNumber]⟩,
      fun _ _ => rfl⟩
  · obtain ⟨front, rfl, ⟨c, hc, hdigit⟩, hagain⟩ := exists_front_of_readMagnitude h
    refine ⟨'-' :: front, rfl, ⟨'-', rfl, by simp [BeginsNumber]⟩, fun tail htail => ?_⟩
    obtain ⟨front, rfl⟩ := List.head?_eq_some_iff.mp hc
    rw [List.cons_append, List.cons_append, readNumber_minus hdigit, ← List.cons_append]
    exact hagain tail htail
  · obtain ⟨front, rfl, ⟨c, hc, hdigit⟩, hagain⟩ := exists_front_of_readMagnitude h
    refine ⟨front, rfl, ⟨c, hc, Or.inl hdigit⟩, fun tail htail => ?_⟩
    obtain ⟨front, rfl⟩ := List.head?_eq_some_iff.mp hc
    rw [List.cons_append, readNumber_digit hdigit, ← List.cons_append]
    exact hagain tail htail

end Backoffice.Json
