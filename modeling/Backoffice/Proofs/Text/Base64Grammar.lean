import Mathlib
import Backoffice.Proofs.Text.Base64

/-!
# Texts that are read as base 64

The reader takes more texts than are ever written: other characters may stand between the digits, and whatever
follows complete padding is ignored.  `Spells` is the grammar of what it takes, group by group of four digits,
and `readFrom_eq_some_iff` says that nothing else is read, and as which octets.
-/

namespace Backoffice.Text.Base64

variable {a : Alphabet}

/-! ### The grammar -/

/-- The characters are no digits, so they are skipped. -/
def Skips (a : Alphabet) (gap : List Char) : Prop :=
  ∀ c ∈ gap, a.value? c = none

/-- The octets of a group of four digits, most significant first. -/
def groupOctets (v₁ v₂ v₃ v₄ : ℕ) : List UInt8 :=
  let n := ((v₁ * 64 + v₂) * 64 + v₃) * 64 + v₄
  [UInt8.ofNat (n / 2 ^ 16), UInt8.ofNat (n / 2 ^ 8), UInt8.ofNat n]

/-- The first two digits of a group, each after characters that are skipped. -/
inductive IsPair (a : Alphabet) : List Char → ℕ → ℕ → Prop
  | mk {gap₁ gap₂ : List Char} {c₁ c₂ : Char} {v₁ v₂ : ℕ} (skips₁ : Skips a gap₁)
      (digit₁ : a.value? c₁ = some v₁) (skips₂ : Skips a gap₂) (digit₂ : a.value? c₂ = some v₂) :
      IsPair a (gap₁ ++ c₁ :: gap₂ ++ [c₂]) v₁ v₂

/-- The first three digits of a group; in front of the third one there is not enough padding to end the text. -/
inductive IsTriple (a : Alphabet) : List Char → ℕ → ℕ → ℕ → Prop
  | mk {front gap : List Char} {c : Char} {v₁ v₂ v₃ : ℕ} (pair : IsPair a front v₁ v₂) (skips : Skips a gap)
      (few : gap.count '=' ≤ 1) (digit : a.value? c = some v₃) : IsTriple a (front ++ gap ++ [c]) v₁ v₂ v₃

/-- The text spells the octets: four digits give three octets, and the last group may have three digits and a
padding character, or two digits and two padding characters, after which anything may follow.  Digits that are
missing count as zeros, and the octets they would belong to are left out. -/
inductive Spells (a : Alphabet) : List Char → List UInt8 → Prop
  | done {gap : List Char} (skips : Skips a gap) : Spells a gap []
  | two {front gap rest : List Char} {v₁ v₂ : ℕ} (pair : IsPair a front v₁ v₂) (skips : Skips a gap)
      (pads : gap.count '=' = 1) : Spells a (front ++ gap ++ '=' :: rest) ((groupOctets v₁ v₂ 0 0).take 1)
  | three {front gap rest : List Char} {v₁ v₂ v₃ : ℕ} (triple : IsTriple a front v₁ v₂ v₃)
      (skips : Skips a gap) (pads : gap.count '=' = 0) :
      Spells a (front ++ gap ++ '=' :: rest) ((groupOctets v₁ v₂ v₃ 0).take 2)
  | four {front gap rest : List Char} {c : Char} {v₁ v₂ v₃ v₄ : ℕ} {bytes : List UInt8}
      (triple : IsTriple a front v₁ v₂ v₃) (skips : Skips a gap) (pads : gap.count '=' = 0)
      (digit : a.value? c = some v₄) (spells : Spells a rest bytes) :
      Spells a (front ++ gap ++ c :: rest) (groupOctets v₁ v₂ v₃ v₄ ++ bytes)

/-! ### What the reader skips and takes -/

/-- A digit stands for less than 64. -/
theorem value?_lt {c : Char} {v : ℕ} (h : a.value? c = some v) : v < 64 := by
  unfold Alphabet.value? at h
  split_ifs at h with hupper hlower hdigit
  · have hle : c.toNat ≤ 90 := hupper.2
    cases h
    omega
  · have hle : c.toNat ≤ 122 := hlower.2
    cases h
    omega
  · have hle : c.toNat ≤ 57 := hdigit.2
    cases h
    omega
  · cases h
    decide
  · cases h
    decide

/-- Before the third digit of a group everything that is no digit is skipped. -/
theorem readFrom_skips {gap : List Char} (h : Skips a gap) {place : Place} (hplace : place.missing = none)
    (pads : ℕ) (cs : List Char) : readFrom a place pads (gap ++ cs) = readFrom a place pads cs := by
  induction gap with
  | nil => rfl
  | cons c gap ih =>
    rw [Skips, List.forall_mem_cons] at h
    rw [List.cons_append, readFrom, hplace, h.1]
    simp only [ite_self]
    exact ih h.2

/-- Later padding is counted, as long as it does not end the text. -/
theorem readFrom_gap {gap : List Char} (h : Skips a gap) {place : Place} {n pads : ℕ}
    (hplace : place.missing = some n) (hpads : pads + gap.count '=' < n) (cs : List Char) :
    readFrom a place pads (gap ++ cs) = readFrom a place (pads + gap.count '=') cs := by
  induction gap generalizing pads with
  | nil => rfl
  | cons c gap ih =>
    rw [Skips, List.forall_mem_cons] at h
    rw [List.cons_append, readFrom, hplace, h.1]
    by_cases hc : c = '='
    · rw [hc, List.count_cons_self] at hpads ⊢
      rw [if_pos rfl]
      dsimp only
      rw [if_neg (by omega), ih h.2 (by omega)]
      congr 1
      omega
    · rw [List.count_cons_of_ne hc] at hpads ⊢
      rw [if_neg hc]
      exact ih h.2 hpads

/-- Padding that completes the group ends the text. -/
theorem readFrom_close {place : Place} {n pads : ℕ} (hplace : place.missing = some n) (hpads : n ≤ pads + 1)
    (cs : List Char) : readFrom a place pads ('=' :: cs) = some [] := by
  rw [readFrom, if_pos rfl, hplace]
  exact if_pos hpads

/-- The first two digits of a group give an octet. -/
theorem IsPair.readFrom_append (ha : a.IsReadable) {front : List Char} {v₁ v₂ : ℕ} (h : IsPair a front v₁ v₂)
    (cs : List Char) : readFrom a .first 0 (front ++ cs) =
      (readFrom a (.third (v₂ % 16)) 0 cs).map ([UInt8.ofNat (v₁ * 4 + v₂ / 16)] ++ ·) := by
  cases h with
  | mk skips₁ digit₁ skips₂ digit₂ =>
    simp only [List.append_assoc, List.cons_append, List.nil_append]
    rw [readFrom_skips skips₁ rfl, readFrom_value ha digit₁]
    simp only [Place.take]
    rw [readFrom_skips skips₂ rfl, readFrom_value ha digit₂]
    simp only [Place.take, List.nil_append, Option.map_id']
    rfl

/-- The first three digits of a group give two octets. -/
theorem IsTriple.readFrom_append (ha : a.IsReadable) {front : List Char} {v₁ v₂ v₃ : ℕ}
    (h : IsTriple a front v₁ v₂ v₃) (cs : List Char) : readFrom a .first 0 (front ++ cs) =
      (readFrom a (.fourth (v₃ % 4)) 0 cs).map
        ([UInt8.ofNat (v₁ * 4 + v₂ / 16), UInt8.ofNat (v₂ % 16 * 16 + v₃ / 4)] ++ ·) := by
  cases h with
  | mk pair skips few digit =>
    simp only [List.append_assoc, List.cons_append, List.nil_append]
    rw [pair.readFrom_append ha, readFrom_gap skips rfl (by omega), readFrom_value ha digit]
    simp only [Place.take, Option.map_map]
    rfl

/-! ### Octets of groups -/

/-- The third digit of a group stands for less than 64. -/
theorem IsTriple.lt {front : List Char} {v₁ v₂ v₃ : ℕ} (h : IsTriple a front v₁ v₂ v₃) : v₃ < 64 := by
  cases h with
  | mk _ _ _ digit => exact value?_lt digit

/-- The octets of a group, each from the two digits that its bits are in. -/
theorem groupOctets_eq {v₁ v₂ v₃ v₄ : ℕ} (h₃ : v₃ < 64) (h₄ : v₄ < 64) :
    groupOctets v₁ v₂ v₃ v₄ = [UInt8.ofNat (v₁ * 4 + v₂ / 16), UInt8.ofNat (v₂ % 16 * 16 + v₃ / 4),
      UInt8.ofNat (v₃ % 4 * 64 + v₄)] := by
  unfold groupOctets
  simp only [List.cons.injEq, and_true, ← UInt8.toNat_inj, UInt8.toNat_ofNat']
  omega

/-! ### The reader and the grammar -/

/-- A text that spells octets is read as these. -/
theorem Spells.readFrom (ha : a.IsReadable) {cs : List Char} {bytes : List UInt8} (h : Spells a cs bytes) :
    readFrom a .first 0 cs = some bytes := by
  induction h with
  | @done gap skips =>
    rw [← List.append_nil gap, readFrom_skips skips rfl]
    rfl
  | two pair skips pads =>
    rw [List.append_assoc, pair.readFrom_append ha, readFrom_gap skips rfl (by omega), pads,
      readFrom_close rfl le_rfl, groupOctets_eq (by decide) (by decide)]
    rfl
  | three triple skips pads =>
    rw [List.append_assoc, triple.readFrom_append ha, readFrom_gap skips rfl (by omega), pads,
      readFrom_close rfl le_rfl, groupOctets_eq triple.lt (by decide)]
    rfl
  | four triple skips pads digit _ ih =>
    rw [List.append_assoc, triple.readFrom_append ha, readFrom_gap skips rfl (by omega), readFrom_value ha digit,
      groupOctets_eq triple.lt (value?_lt digit)]
    simp only [Place.take, ih, Option.map_some]
    rfl

/-- A text that spells octets and is read spells the octets that it is read as. -/
theorem Spells.of_readFrom (ha : a.IsReadable) {cs : List Char} {bytes bytes' : List UInt8}
    (hspells : Spells a cs bytes') (h : Base64.readFrom a .first 0 cs = some bytes) : Spells a cs bytes := by
  rwa [Option.some.inj (h.symm.trans (hspells.readFrom ha))]

/-- A text has no digit, or begins with characters that are skipped and a digit. -/
theorem skips_or_exists_digit (a : Alphabet) (cs : List Char) : Skips a cs ∨
    ∃ gap c v rest, cs = gap ++ c :: rest ∧ Skips a gap ∧ a.value? c = some v := by
  induction cs with
  | nil => exact .inl (by simp [Skips])
  | cons c cs ih =>
    cases hc : a.value? c with
    | some v => exact .inr ⟨[], c, v, cs, rfl, by simp [Skips], hc⟩
    | none =>
      rcases ih with hskips | ⟨gap, d, v, rest, rfl, hskips, hd⟩
      · exact .inl (List.forall_mem_cons.mpr ⟨hc, hskips⟩)
      · exact .inr ⟨c :: gap, d, v, rest, rfl, List.forall_mem_cons.mpr ⟨hc, hskips⟩, hd⟩

/-- Where more than so many padding characters stand, the next one has exactly so many before it. -/
theorem exists_pad {n : ℕ} {gap : List Char} (h : n < gap.count '=') :
    ∃ front back, gap = front ++ '=' :: back ∧ front.count '=' = n := by
  induction gap generalizing n with
  | nil => exact absurd h (Nat.not_lt_zero n)
  | cons c gap ih =>
    by_cases hc : c = '='
    · subst hc
      cases n with
      | zero => exact ⟨[], gap, rfl, rfl⟩
      | succ n =>
        rw [List.count_cons_self, Nat.succ_lt_succ_iff] at h
        obtain ⟨front, back, rfl, hfront⟩ := ih h
        exact ⟨'=' :: front, back, rfl, by rw [List.count_cons_self, hfront]⟩
    · rw [List.count_cons_of_ne hc] at h
      obtain ⟨front, back, rfl, hfront⟩ := ih h
      exact ⟨c :: front, back, rfl, by rw [List.count_cons_of_ne hc, hfront]⟩

/-- Between two digits a text goes on from a place where padding counts: the padding ends it, or a digit
follows in time. -/
theorem exists_pad_or_digit {place : Place} {n : ℕ} (hplace : place.missing = some (n + 1)) {cs : List Char}
    {bytes : List UInt8} (h : readFrom a place 0 cs = some bytes) :
    (∃ gap rest, cs = gap ++ '=' :: rest ∧ Skips a gap ∧ gap.count '=' = n) ∨
      ∃ gap c v rest, cs = gap ++ c :: rest ∧ Skips a gap ∧ gap.count '=' ≤ n ∧ a.value? c = some v := by
  have hpad : ∀ gap rest, Skips a gap → n < gap.count '=' →
      ∃ front back, gap ++ rest = front ++ '=' :: back ∧ Skips a front ∧ front.count '=' = n := by
    intro gap rest hgap hcount
    obtain ⟨front, back, rfl, hfront⟩ := exists_pad hcount
    exact ⟨front, back ++ rest, by simp, fun c hc => hgap c (List.mem_append_left _ hc), hfront⟩
  rcases skips_or_exists_digit a cs with hskips | ⟨gap, c, v, rest, rfl, hskips, hc⟩
  · left
    rw [← List.append_nil cs] at h ⊢
    by_cases hcount : n < cs.count '='
    · exact hpad cs [] hskips hcount
    · -- with too little padding the text would end within the group
      rw [readFrom_gap hskips hplace (by omega), readFrom, if_neg (by rintro rfl; cases hplace)] at h
      cases h
  · by_cases hcount : n < gap.count '='
    · exact .inl (hpad gap (c :: rest) hskips hcount)
    · exact .inr ⟨gap, c, v, rest, rfl, hskips, Nat.not_lt.mp hcount, hc⟩

/-- A digit follows where padding does not count. -/
theorem exists_digit_of_readFrom {place : Place} (hplace : place.missing = none) (hfirst : place ≠ .first)
    {cs : List Char} {bytes : List UInt8} (h : readFrom a place 0 cs = some bytes) :
    ∃ gap c v rest, cs = gap ++ c :: rest ∧ Skips a gap ∧ a.value? c = some v := by
  refine (skips_or_exists_digit a cs).resolve_left fun hskips => ?_
  rw [← List.append_nil cs, readFrom_skips hskips hplace, readFrom, if_neg hfirst] at h
  cases h

/-- A text that is read has no digits, or begins with two of them. -/
theorem skips_or_exists_pair (ha : a.IsReadable) {cs : List Char} {bytes : List UInt8}
    (h : readFrom a .first 0 cs = some bytes) :
    Skips a cs ∨ ∃ front v₁ v₂ rest, cs = front ++ rest ∧ IsPair a front v₁ v₂ := by
  refine (skips_or_exists_digit a cs).imp_right ?_
  rintro ⟨gap₁, c₁, v₁, rest, rfl, skips₁, digit₁⟩
  rw [readFrom_skips skips₁ rfl, readFrom_value ha digit₁] at h
  obtain ⟨_, hrest, -⟩ := Option.map_eq_some_iff.mp h
  obtain ⟨gap₂, c₂, v₂, rest, rfl, skips₂, digit₂⟩ :=
    exists_digit_of_readFrom rfl (by simp [Place.take]) hrest
  exact ⟨_, v₁, v₂, rest, by simp, .mk skips₁ digit₁ skips₂ digit₂⟩

/-- A text that is read spells the octets it is read as. -/
theorem spells_of_readFrom (ha : a.IsReadable) {cs : List Char} {bytes : List UInt8}
    (h : readFrom a .first 0 cs = some bytes) : Spells a cs bytes := by
  -- by the length of the text, group by group
  induction hn : cs.length using Nat.strong_induction_on generalizing cs bytes with
  | _ n ih =>
    rcases skips_or_exists_pair ha h with hskips | ⟨front, v₁, v₂, rest, rfl, pair⟩
    · rw [← List.append_nil cs, readFrom_skips hskips rfl] at h
      cases h
      exact .done hskips
    · have hpair := h
      rw [pair.readFrom_append ha] at hpair
      obtain ⟨_, hthird, -⟩ := Option.map_eq_some_iff.mp hpair
      rcases exists_pad_or_digit rfl hthird with ⟨gap, rest, rfl, hskips, hpads⟩ |
        ⟨gap, c, v₃, rest, rfl, hskips, hfew, hdigit⟩
      · rw [← List.append_assoc] at h ⊢
        exact (Spells.two pair hskips hpads).of_readFrom ha h
      · have triple : IsTriple a (front ++ gap ++ [c]) v₁ v₂ v₃ := .mk pair hskips hfew hdigit
        have hfront : front ++ (gap ++ c :: rest) = front ++ gap ++ [c] ++ rest := by simp
        rw [hfront] at h hn ⊢
        have htriple := h
        rw [triple.readFrom_append ha] at htriple
        obtain ⟨_, hfourth, -⟩ := Option.map_eq_some_iff.mp htriple
        rcases exists_pad_or_digit rfl hfourth with ⟨gap', rest, rfl, hskips', hpads⟩ |
          ⟨gap', c', v₄, rest, rfl, hskips', hnone, hdigit'⟩
        · rw [← List.append_assoc] at h ⊢
          exact (Spells.three triple hskips' hpads).of_readFrom ha h
        · rw [readFrom_gap hskips' rfl (by omega), readFrom_value ha hdigit'] at hfourth
          obtain ⟨bytes', hrest, -⟩ := Option.map_eq_some_iff.mp hfourth
          have hlength : rest.length < n := by
            rw [← hn]
            simp only [List.length_append, List.length_cons]
            omega
          rw [← List.append_assoc] at h ⊢
          exact (Spells.four triple hskips' (by omega) hdigit' (ih _ hlength hrest rfl)).of_readFrom ha h

/-- Octets are read from a text exactly if it spells them. -/
theorem readFrom_eq_some_iff (ha : a.IsReadable) {cs : List Char} {bytes : List UInt8} :
    readFrom a .first 0 cs = some bytes ↔ Spells a cs bytes :=
  ⟨spells_of_readFrom ha, Spells.readFrom ha⟩

/-- A text stands for octets exactly if it spells them, once it is filled up to whole groups. -/
theorem decode?_eq_some_iff (ha : a.IsReadable) {cs : List Char} {bytes : List UInt8} :
    decode? a cs = some bytes ↔ Spells a (cs ++ padding cs.length) bytes :=
  readFrom_eq_some_iff ha

end Backoffice.Text.Base64
