import Mathlib
import Backoffice.Proofs.Json.Strings
import Backoffice.Proofs.Text.Digits

/-!
# JSON read back

A value is read back as it was written, `parse?_write`, in every style with a comma and a colon for
separators.  Numbers with a point are left out, and so are strings that are no text, whole numbers that
are too long for the reader, and objects that name a field twice.
-/

namespace Backoffice.Json

/-! ### Blanks -/

/-- Blanks are passed over up to what follows them. -/
theorem skip_append {blanks cs : List Char} (hblanks : ∀ c ∈ blanks, isBlank c = true)
    (hcs : ∀ c ∈ cs.head?, isBlank c = false) : skip (blanks ++ cs) = cs := by
  unfold skip
  rw [List.dropWhile_append_of_pos hblanks]
  cases cs with
  | nil => rfl
  | cons c cs =>
    have hc : isBlank c = false := hcs c rfl
    rw [List.dropWhile_cons_of_neg (by simp [hc])]

/-- Where no blank stands, none is passed over. -/
theorem skip_cons {c : Char} {cs : List Char} (h : isBlank c = false) : skip (c :: cs) = c :: cs := by
  unfold skip
  rw [List.dropWhile_cons_of_neg (by simp [h])]

/-! ### Styles and values -/

/-- The separators are a comma and a colon, with nothing but blanks behind them. -/
structure Style.IsRegular (style : Style) : Prop where
  item : ∃ blanks, style.itemSeparator.toList = ',' :: blanks ∧ ∀ c ∈ blanks, isBlank c = true
  field : ∃ blanks, style.fieldSeparator.toList = ':' :: blanks ∧ ∀ c ∈ blanks, isBlank c = true

/-- The style without blanks is regular. -/
theorem Style.isRegular_compact : Style.compact.IsRegular :=
  ⟨⟨[], rfl, by simp⟩, ⟨[], rfl, by simp⟩⟩

/-- The style with a blank after each separator is regular. -/
theorem Style.isRegular_readable : Style.readable.IsRegular :=
  ⟨⟨[' '], rfl, by simp [isBlank]⟩, ⟨[' '], rfl, by simp [isBlank]⟩⟩

/-- The style with a blank after each separator and all in ASCII is regular. -/
theorem Style.isRegular_spaced : Style.spaced.IsRegular :=
  ⟨⟨[' '], rfl, by simp [isBlank]⟩, ⟨[' '], rfl, by simp [isBlank]⟩⟩

/-- Nothing is lost when the value is written. -/
inductive IsExact : Json → Prop
  | null : IsExact .null
  | bool (b : Bool) : IsExact (.bool b)
  | int {n : ℤ} (short : (Nat.toDigits 10 n.natAbs).length ≤ Text.maxDigits) : IsExact (.int n)
  | str (s : String) : IsExact (.str s)
  | arr {items : List Json} (exact : ∀ v ∈ items, IsExact v) : IsExact (.arr items)
  | obj {fields : List (String × Json)} (distinct : (fields.map (·.1)).Nodup)
      (exact : ∀ f ∈ fields, IsExact f.2) : IsExact (.obj fields)

/-- A number that fits 64 bits is short enough. -/
theorem IsExact.int_of_lt {n : ℤ} (h : n.natAbs < 2 ^ 64) : IsExact (.int n) := by
  have hlength : (Nat.toDigits 10 n.natAbs).length ≤ 20 :=
    (Nat.length_toDigits_le_iff (by norm_num) (by norm_num)).mpr (lt_trans h (by norm_num))
  exact .int (le_trans hlength (by decide))

/-- What can follow a value. -/
def EndsValue (rest : List Char) : Prop :=
  ∀ c ∈ rest.head?, Text.isDigit c = false ∧ c ≠ '.' ∧ c ≠ 'e' ∧ c ≠ 'E'

/-- A value in this style is read, whatever follows it. -/
def Reads (style : Style) (v : Json) : Prop :=
  ∀ fuel rest, (write style v).length ≤ fuel → EndsValue rest →
    readValue fuel (write style v ++ rest) = some (v, rest)

variable {style : Style}

/-! ### Numbers -/

/-- The digits of a number are its whole part. -/
theorem wholePart_toDigits (n : ℕ) {rest : List Char} (hrest : EndsValue rest) :
    wholePart (Nat.toDigits 10 n ++ rest) = Nat.toDigits 10 n := by
  rcases Nat.eq_zero_or_pos n with hzero | hpos
  · rw [hzero]
    rfl
  · have hhead := Text.head?_toDigits_ne_zero hpos
    have htake := (Text.takeWhile_digits (fun c hc => Text.isDigit_of_mem_toDigits (n := n) hc)
      fun c hc => (hrest c hc).1).1
    unfold wholePart
    split
    · rename_i cs h
      rw [List.head?_eq_some_head Nat.toDigits_ne_nil] at hhead
      have hfirst := congrArg List.head? h
      rw [List.head?_append_of_ne_nil _ Nat.toDigits_ne_nil,
        List.head?_eq_some_head Nat.toDigits_ne_nil] at hfirst
      exact absurd hfirst hhead
    · exact htake

/-- The digits of a number are read as the number. -/
theorem readMagnitude_toDigits (negative : Bool) {n : ℕ} {rest : List Char}
    (hshort : (Nat.toDigits 10 n).length ≤ Text.maxDigits) (hrest : EndsValue rest) :
    readMagnitude negative (Nat.toDigits 10 n ++ rest) = some (.int (Text.signed negative n), rest) := by
  have hfraction : readFraction rest = ([], rest) := by
    unfold readFraction
    split
    · exact absurd rfl (hrest '.' rfl).2.1
    · rfl
  have hexponent : Text.readExponent rest = (none, rest) := by
    unfold Text.readExponent
    split
    · rename_i mark tail
      obtain ⟨-, -, hlower, hupper⟩ := hrest mark rfl
      rw [if_neg (by simp [hlower, hupper])]
    · rfl
  unfold readMagnitude
  simp only [wholePart_toDigits n hrest]
  rw [if_neg Nat.toDigits_ne_nil, List.drop_left, hfraction, hexponent]
  simp only []
  rw [if_pos hshort, Text.natOf_toDigits]

/-- A digit begins a number. -/
theorem readNumber_digit {c : Char} (hc : Text.isDigit c = true) (cs : List Char) :
    readNumber (c :: cs) = readMagnitude false (c :: cs) := by
  unfold readNumber
  split
  · rename_i h
    cases h
    exact absurd hc (by decide)
  · rename_i h
    cases h
    exact absurd hc (by decide)
  · rename_i h
    cases h
    exact absurd hc (by decide)
  · rename_i h
    cases h
    exact absurd hc (by decide)
  · rfl

/-- A minus sign and a digit begin a number. -/
theorem readNumber_minus {c : Char} (hc : Text.isDigit c = true) (cs : List Char) :
    readNumber ('-' :: c :: cs) = readMagnitude true (c :: cs) := by
  unfold readNumber
  split
  · rename_i h
    cases h
  · rename_i h
    cases h
  · rename_i h
    cases h
    exact absurd hc (by decide)
  · rename_i h
    cases h
    rfl
  · rename_i h
    exact absurd rfl (h _)

/-- The character can begin a number. -/
def BeginsNumber (c : Char) : Prop :=
  Text.isDigit c = true ∨ c = '-' ∨ c = 'N' ∨ c = 'I'

instance : DecidablePred BeginsNumber := fun c =>
  inferInstanceAs (Decidable (Text.isDigit c = true ∨ c = '-' ∨ c = 'N' ∨ c = 'I'))

/-- What begins as a number does is a number. -/
theorem readValue_number {c : Char} (hc : BeginsNumber c) (fuel : ℕ) (cs : List Char) :
    readValue (fuel + 1) (c :: cs) = readNumber (c :: cs) := by
  unfold readValue
  split
  case h_7 => rfl
  all_goals
    rename_i h
    cases h
    exact absurd hc (by decide)

/-- A number is written as its digits, after a minus sign if it is negative. -/
theorem write_int (style : Style) (n : ℤ) :
    write style (.int n) =
      if n < 0 then '-' :: Nat.toDigits 10 n.natAbs else Nat.toDigits 10 n.natAbs := by
  unfold write
  exact Text.toList_decimal n

/-- Whole numbers are read. -/
theorem reads_int {n : ℤ} (hshort : (Nat.toDigits 10 n.natAbs).length ≤ Text.maxDigits) :
    Reads style (.int n) := by
  intro fuel rest hfuel hrest
  obtain ⟨d, ds, hds⟩ := List.exists_cons_of_ne_nil (Nat.toDigits_ne_nil (b := 10) (n := n.natAbs))
  have hd : Text.isDigit d = true := Text.isDigit_of_mem_toDigits (n := n.natAbs) (by simp [hds])
  have hread := fun negative => readMagnitude_toDigits negative hshort hrest
  rw [hds] at hread
  have hpositive : fuel ≠ 0 := by
    rintro rfl
    rw [write_int] at hfuel
    split at hfuel <;> simp [Nat.toDigits_ne_nil] at hfuel
  obtain ⟨fuel, rfl⟩ := Nat.exists_eq_succ_of_ne_zero hpositive
  rw [write_int, hds]
  by_cases hn : n < 0
  · rw [if_pos hn, List.cons_append, List.cons_append, readValue_number (.inr (.inl rfl)), readNumber_minus hd,
      ← List.cons_append, hread]
    have hvalue : Text.signed true n.natAbs = n := by
      unfold Text.signed
      rw [if_pos rfl]
      omega
    rw [hvalue]
  · rw [if_neg hn, List.cons_append, readValue_number (.inl hd), readNumber_digit hd,
      ← List.cons_append, hread]
    have hvalue : Text.signed false n.natAbs = n := by
      unfold Text.signed
      rw [if_neg Bool.false_ne_true]
      omega
    rw [hvalue]

/-! ### Words and strings -/

/-- A value that is written without parts is read, if it is read with one step. -/
theorem reads_of_step {v : Json} (hne : write style v ≠ [])
    (hstep : ∀ fuel rest, readValue (fuel + 1) (write style v ++ rest) = some (v, rest)) :
    Reads style v := by
  intro fuel rest hfuel hrest
  have hpositive : fuel ≠ 0 := by
    rintro rfl
    exact hne (List.eq_nil_of_length_eq_zero (Nat.le_zero.mp hfuel))
  obtain ⟨fuel, rfl⟩ := Nat.exists_eq_succ_of_ne_zero hpositive
  exact hstep fuel rest

/-- Null is read. -/
theorem reads_null : Reads style .null :=
  reads_of_step (List.cons_ne_nil _ _) fun _ _ => rfl

/-- The truth values are read. -/
theorem reads_bool (b : Bool) : Reads style (.bool b) := by
  cases b
  · exact reads_of_step (List.cons_ne_nil _ _) fun _ _ => rfl
  · exact reads_of_step (List.cons_ne_nil _ _) fun _ _ => rfl

/-- Strings are read. -/
theorem reads_str (s : String) : Reads style (.str s) := by
  refine reads_of_step (List.cons_ne_nil _ _) fun fuel rest => ?_
  simp only [write, writeString, List.cons_append, List.append_assoc, List.nil_append]
  rw [readValue, readString_writeString]
  rfl

/-! ### Arrays -/

/-- A value begins with neither a blank nor a closing bracket. -/
theorem exists_write_eq_cons (style : Style) {v : Json} (hv : IsExact v) :
    ∃ c cs, write style v = c :: cs ∧ isBlank c = false ∧ c ≠ ']' := by
  cases hv with
  | null => exact ⟨'n', _, rfl, rfl, by decide⟩
  | bool b => cases b <;> exact ⟨_, _, rfl, rfl, by decide⟩
  | @int n hshort =>
    rw [write_int]
    split
    · exact ⟨'-', _, rfl, rfl, by decide⟩
    · obtain ⟨d, ds, hds⟩ := List.exists_cons_of_ne_nil (Nat.toDigits_ne_nil (b := 10) (n := n.natAbs))
      have hd : Text.isDigit d = true := Text.isDigit_of_mem_toDigits (n := n.natAbs) (by simp [hds])
      refine ⟨d, ds, hds, ?_, ?_⟩
      · unfold isBlank
        simp only [Bool.or_eq_false_iff, beq_eq_false_iff_ne]
        refine ⟨⟨⟨?_, ?_⟩, ?_⟩, ?_⟩ <;> rintro rfl <;> exact absurd hd (by decide)
      · rintro rfl
        exact absurd hd (by decide)
  | str s => exact ⟨'"', _, rfl, rfl, by decide⟩
  | arr _ => exact ⟨'[', _, rfl, rfl, by decide⟩
  | obj _ _ => exact ⟨'\x7b', _, rfl, rfl, by decide⟩

/-- Items begin as the first of them does. -/
theorem exists_writeItems_eq_cons (style : Style) {v : Json} (hv : IsExact v) (items : List Json) :
    ∃ c cs, writeItems style (v :: items) = c :: cs ∧ isBlank c = false ∧ c ≠ ']' := by
  obtain ⟨c, cs, hwrite, hc⟩ := exists_write_eq_cons style hv
  cases items with
  | nil => exact ⟨c, cs, hwrite, hc⟩
  | cons w items =>
    refine ⟨c, cs ++ (style.itemSeparator.toList ++ writeItems style (w :: items)), ?_, hc⟩
    rw [writeItems, hwrite, List.append_assoc, List.cons_append]

/-- The items of an array are read, if each of them is. -/
theorem readItems_writeItems (hstyle : style.IsRegular) {v : Json} {items : List Json}
    (hexact : ∀ w ∈ v :: items, IsExact w) (hread : ∀ w ∈ v :: items, Reads style w) (fuel : ℕ)
    (rest : List Char) (hfuel : (writeItems style (v :: items)).length ≤ fuel) :
    readItems (fuel + 1) (writeItems style (v :: items) ++ ']' :: rest) = some (v :: items, rest) := by
  have hbracket : EndsValue (']' :: rest) := by
    rintro c ⟨⟩
    decide
  induction items generalizing v fuel with
  | nil =>
    rw [writeItems] at hfuel ⊢
    rw [readItems, hread v (by simp) fuel _ hfuel hbracket]
    simp only [Option.bind_eq_bind, Option.bind_some, skip_cons (show isBlank ']' = false from rfl)]
    rfl
  | cons w items ih =>
    obtain ⟨blanks, hcomma, hblanks⟩ := hstyle.item
    obtain ⟨c, cs, hitems, hc, -⟩ := exists_writeItems_eq_cons style (hexact w (by simp)) items
    have hsep : EndsValue (',' :: (blanks ++ (writeItems style (w :: items) ++ ']' :: rest))) := by
      rintro c ⟨⟩
      decide
    rw [writeItems, hcomma] at hfuel ⊢
    simp only [List.length_append, List.length_cons] at hfuel
    have hfirst := hread v (by simp) fuel _ (by omega) hsep
    obtain ⟨fuel, rfl⟩ : ∃ n, fuel = n + 1 := ⟨fuel - 1, by omega⟩
    have hskip : skip (blanks ++ (writeItems style (w :: items) ++ ']' :: rest)) =
        writeItems style (w :: items) ++ ']' :: rest := by
      refine skip_append hblanks fun c' hc' => ?_
      rw [hitems, List.cons_append] at hc'
      cases hc'
      exact hc
    have hnext := ih (fun u hu => hexact u (List.mem_cons_of_mem v hu))
      (fun u hu => hread u (List.mem_cons_of_mem v hu)) fuel (by omega)
    rw [List.append_assoc, List.append_assoc, List.cons_append, readItems, hfirst]
    simp only [Option.bind_eq_bind, Option.bind_some, skip_cons (show isBlank ',' = false from rfl)]
    rw [hskip, hnext]
    rfl

/-- Arrays are read, if each of their items is. -/
theorem reads_arr (hstyle : style.IsRegular) {items : List Json} (hexact : ∀ v ∈ items, IsExact v)
    (hread : ∀ v ∈ items, Reads style v) : Reads style (.arr items) := by
  intro fuel rest hfuel hrest
  rw [write] at hfuel ⊢
  simp only [List.cons_append, List.length_cons, List.length_append, List.length_nil] at hfuel
  obtain ⟨fuel, rfl⟩ : ∃ n, fuel = n + 2 := ⟨fuel - 2, by omega⟩
  simp only [List.cons_append, List.append_assoc, List.nil_append]
  cases items with
  | nil => rfl
  | cons v items =>
    obtain ⟨c, cs, hitems, hc, hclose⟩ := exists_writeItems_eq_cons style (hexact v (by simp)) items
    have hnext := readItems_writeItems hstyle hexact hread fuel rest (by omega)
    rw [hitems, List.cons_append] at hnext ⊢
    rw [readValue, skip_cons hc]
    split
    · rename_i h
      cases h
      exact absurd rfl hclose
    · rw [hnext]
      rfl

/-! ### Objects -/

/-- A field is read up to the mark behind it, which tells whether there are more. -/
theorem readFields_field (hstyle : style.IsRegular) {v : Json} (hv : IsExact v) (hread : Reads style v)
    (k : String) (fuel : ℕ) (rest : List Char) (hfuel : (write style v).length ≤ fuel) :
    readFields (fuel + 1) (writeString style k ++ (style.fieldSeparator.toList ++
        (write style v ++ '\x7d' :: rest))) = some ([(k, v)], rest) ∧
      readFields (fuel + 1) (writeString style k ++ (style.fieldSeparator.toList ++
        (write style v ++ ',' :: rest))) =
          (readFields fuel (skip rest)).map fun r => ((k, v) :: r.1, r.2) := by
  obtain ⟨blanks, hcolon, hblanks⟩ := hstyle.field
  obtain ⟨c, cs, hwrite, hc, -⟩ := exists_write_eq_cons style hv
  have hskip : ∀ tail, skip (blanks ++ (write style v ++ tail)) = write style v ++ tail := by
    intro tail
    refine skip_append hblanks fun c' hc' => ?_
    rw [hwrite, List.cons_append] at hc'
    cases hc'
    exact hc
  have hbrace : EndsValue ('\x7d' :: rest) := by
    rintro c ⟨⟩
    decide
  have hcomma : EndsValue (',' :: rest) := by
    rintro c ⟨⟩
    decide
  rw [hcolon, writeString]
  simp only [List.cons_append, List.append_assoc, List.nil_append]
  constructor
  · rw [readFields, readString_writeString]
    simp only [Option.bind_eq_bind, Option.bind_some, skip_cons (show isBlank ':' = false from rfl)]
    rw [hskip, hread fuel _ hfuel hbrace, Option.bind_some, skip_cons (show isBlank '\x7d' = false from rfl)]
    rfl
  · rw [readFields, readString_writeString]
    simp only [Option.bind_eq_bind, Option.bind_some, skip_cons (show isBlank ':' = false from rfl)]
    rw [hskip, hread fuel _ hfuel hcomma, Option.bind_some, skip_cons (show isBlank ',' = false from rfl)]
    change ((readFields fuel (skip rest)).bind fun r => some ([(k, v)] ++ r.1, r.2)) =
      (readFields fuel (skip rest)).map fun r => ((k, v) :: r.1, r.2)
    cases readFields fuel (skip rest) <;> rfl

/-- Fields begin with a quotation mark. -/
theorem exists_writeFields_eq_cons (style : Style) (f : String × Json) (fields : List (String × Json)) :
    ∃ cs, writeFields style (f :: fields) = '"' :: cs := by
  cases fields with
  | nil => exact ⟨_, rfl⟩
  | cons g fields => exact ⟨_, rfl⟩

/-- The fields of an object are read, if each of them is. -/
theorem readFields_writeFields (hstyle : style.IsRegular) {f : String × Json}
    {fields : List (String × Json)} (hexact : ∀ g ∈ f :: fields, IsExact g.2)
    (hread : ∀ g ∈ f :: fields, Reads style g.2) (fuel : ℕ) (rest : List Char)
    (hfuel : (writeFields style (f :: fields)).length ≤ fuel) :
    readFields (fuel + 1) (writeFields style (f :: fields) ++ '\x7d' :: rest) =
      some (f :: fields, rest) := by
  obtain ⟨k, v⟩ := f
  induction fields generalizing k v fuel with
  | nil =>
    rw [writeFields] at hfuel ⊢
    simp only [List.length_append] at hfuel
    rw [List.append_assoc, List.append_assoc]
    exact (readFields_field (v := v) hstyle (hexact (k, v) (by simp)) (hread (k, v) (by simp)) k fuel rest
      (by omega)).1
  | cons g fields ih =>
    obtain ⟨l, w⟩ := g
    obtain ⟨blanks, hcomma, hblanks⟩ := hstyle.item
    obtain ⟨cs, hfields⟩ := exists_writeFields_eq_cons style (l, w) fields
    have hskip : skip (blanks ++ (writeFields style ((l, w) :: fields) ++ '\x7d' :: rest)) =
        writeFields style ((l, w) :: fields) ++ '\x7d' :: rest := by
      refine skip_append hblanks fun c' hc' => ?_
      rw [hfields, List.cons_append] at hc'
      cases hc'
      rfl
    rw [writeFields, hcomma] at hfuel ⊢
    simp only [List.length_append, List.length_cons] at hfuel
    obtain ⟨fuel, rfl⟩ : ∃ n, fuel = n + 1 := ⟨fuel - 1, by omega⟩
    have hnext := ih fuel l w (fun h hh => hexact h (List.mem_cons_of_mem _ hh))
      (fun h hh => hread h (List.mem_cons_of_mem _ hh)) (by omega)
    simp only [List.append_assoc, List.cons_append]
    rw [(readFields_field (v := v) hstyle (hexact (k, v) (by simp)) (hread (k, v) (by simp)) k (fuel + 1) _
      (by omega)).2, hskip, hnext]
    rfl

/-- Setting a field that is not there adds it at the end. -/
theorem setField_of_notMem {k : String} {v : Json} {fields : List (String × Json)}
    (h : k ∉ fields.map (·.1)) : setField k v fields = fields ++ [(k, v)] := by
  induction fields with
  | nil => rfl
  | cons f fields ih =>
    simp only [List.map_cons, List.mem_cons, not_or] at h
    rw [setField, if_neg (Ne.symm h.1), ih h.2]
    rfl

/-- Fields with names of their own stay as they are. -/
theorem ofPairs_of_nodup {pairs : List (String × Json)} (h : (pairs.map (·.1)).Nodup) :
    ofPairs pairs = pairs := by
  unfold ofPairs
  induction pairs using List.reverseRecOn with
  | nil => rfl
  | append_singleton pairs p ih =>
    rw [List.map_append, List.nodup_append] at h
    obtain ⟨hpairs, -, hapart⟩ := h
    have hnew : p.1 ∉ pairs.map (·.1) := fun hmem => hapart _ hmem p.1 (by simp) rfl
    rw [List.foldl_append, ih hpairs, List.foldl_cons, List.foldl_nil, setField_of_notMem hnew]

/-- Objects are read, if each of their fields is. -/
theorem reads_obj (hstyle : style.IsRegular) {fields : List (String × Json)}
    (hdistinct : (fields.map (·.1)).Nodup) (hexact : ∀ f ∈ fields, IsExact f.2)
    (hread : ∀ f ∈ fields, Reads style f.2) : Reads style (.obj fields) := by
  intro fuel rest hfuel hrest
  rw [write] at hfuel ⊢
  simp only [List.cons_append, List.length_cons, List.length_append, List.length_nil] at hfuel
  obtain ⟨fuel, rfl⟩ : ∃ n, fuel = n + 2 := ⟨fuel - 2, by omega⟩
  simp only [List.cons_append, List.append_assoc, List.nil_append]
  cases fields with
  | nil => rfl
  | cons f fields =>
    obtain ⟨cs, hfields⟩ := exists_writeFields_eq_cons style f fields
    have hnext := readFields_writeFields hstyle hexact hread fuel rest (by omega)
    rw [hfields, List.cons_append] at hnext ⊢
    rw [readValue, skip_cons (by decide)]
    split
    · rename_i h
      cases h
    · rw [hnext]
      exact congrArg (fun fs => some (Json.obj fs, rest)) (ofPairs_of_nodup hdistinct)

/-! ### Values -/

/-- A value of which nothing is lost is read. -/
theorem reads_of_isExact (hstyle : style.IsRegular) {v : Json} (hv : IsExact v) : Reads style v := by
  induction hv with
  | null => exact reads_null
  | bool b => exact reads_bool b
  | int hshort => exact reads_int hshort
  | str s => exact reads_str s
  | arr hexact ih => exact reads_arr hstyle hexact ih
  | obj hdistinct hexact ih => exact reads_obj hstyle hdistinct hexact ih

/-- A value of which nothing is lost is read back from its text. -/
theorem parse?_write (hstyle : style.IsRegular) {v : Json} (hv : IsExact v) :
    parse? (write style v) = some v := by
  obtain ⟨c, cs, hwrite, hc, -⟩ := exists_write_eq_cons style hv
  have hread := reads_of_isExact hstyle hv (2 * (write style v).length + 2) [] (by omega)
    (by rintro _ ⟨⟩)
  have hskip : skip (write style v) = write style v := by
    rw [hwrite, skip_cons hc]
  rw [List.append_nil] at hread
  unfold parse?
  rw [hskip, hread]
  rfl

end Backoffice.Json
