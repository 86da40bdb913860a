import Mathlib
import Backoffice.Proofs.Fields
import Backoffice.Proofs.Form.Errors
import Backoffice.Proofs.Query.Offsets
import Backoffice.Proofs.Query.PageSizes
import Backoffice.Proofs.Text.Numerals

/-!
# Texts in place of numbers

A query string has texts where a caller in the program has integers and a truth value.  Numerals and the
words `true` and `false` are read as what they stand for, so both ways lead to the same parameters, or to a
refusal that names the same faults in the order of the fields (`ListQuery.params_of_typed`).
-/

namespace Backoffice

/-! ### Words for values -/

namespace Text

/-- The decimal text of an integer consists of visible characters. -/
theorem isBlank_of_mem_decimal {n : ℤ} {c : Char} (h : c ∈ (decimal n).toList) : isBlank c = false := by
  have hdigit : ∀ {d}, d ∈ Nat.toDigits 10 n.natAbs → isBlank d = false := by
    intro d hd
    have hrange := isDigit_of_mem_toDigits hd
    rw [isDigit_eq, Char.isDigit_iff_toNat] at hrange
    have hfirst : '0'.toNat = 48 := rfl
    have hlast : '9'.toNat = 57 := rfl
    exact isBlank_of_visible (by omega) (by omega)
  rw [toList_decimal] at h
  split_ifs at h
  · rcases List.mem_cons.mp h with rfl | h
    · rfl
    · exact hdigit h
  · exact hdigit h

/-- The decimal text of an integer is not empty. -/
theorem decimal_ne_empty (n : ℤ) : decimal n ≠ "" := by
  intro h
  have hchars := congrArg String.toList h
  rw [toList_decimal] at hchars
  split_ifs at hchars
  · cases hchars
  · exact Nat.toDigits_ne_nil hchars

/-- The small word for a truth value. -/
def boolWord (b : Bool) : String :=
  if b then "true" else "false"

/-- The word is that of the truth value, each of its letters small or capital. -/
def WritesBool (b : Bool) (word : String) : Prop :=
  List.Forall₂ (fun letter c => c = letter ∨ c = letter.toUpper) (boolWord b).toList word.toList

/-- A word for a truth value has no blanks and is lowered to the small word. -/
theorem WritesBool.spec {b : Bool} {word : String} (h : WritesBool b word) :
    (∀ c ∈ word.toList, isBlank c = false) ∧ asciiLower word = boolWord b := by
  have hletters : ∀ letter ∈ (boolWord b).toList,
      (isBlank letter = false ∧ asciiLowerChar letter = letter) ∧
        isBlank letter.toUpper = false ∧ asciiLowerChar letter.toUpper = letter := by
    -- over the list, since to decide it over the type would go through all characters
    rw [← List.all_iff_forall_prop]
    cases b <;> decide
  have hpairs : List.Forall₂ (fun c letter => isBlank c = false ∧ asciiLowerChar c = letter)
      word.toList (boolWord b).toList := by
    refine ((List.forall₂_and_left _ _).mpr ⟨hletters, h⟩).flip.imp ?_
    rintro c letter ⟨⟨hsmall, hcapital⟩, rfl | rfl⟩
    · exact hsmall
    · exact hcapital
  obtain ⟨hblank, hlower⟩ := (List.forall₂_and_left _ _).mp hpairs
  refine ⟨hblank, ?_⟩
  rw [← List.forall₂_map_left_iff (f := asciiLowerChar) (R := (· = ·)), List.forall₂_eq_eq_eq] at hlower
  rw [← String.toList_inj]
  unfold asciiLower
  rw [String.toList_map]
  exact hlower

end Text

namespace Form

/-- A decimal text is taken for its integer, if it does not have too many digits. -/
theorem asInt_decimal {n : ℤ} (h : n.natAbs < 10 ^ Text.maxDigits) :
    asInt (.str (Text.decimal n)) = asInt (.int n) := by
  change textAsInt (Text.decimal n) = .ok n
  unfold textAsInt
  rw [Text.plainInt_decimal, if_pos h]

/-- A word for a truth value is taken for it. -/
theorem asBool_word {b : Bool} {word : String} (h : Text.WritesBool b word) :
    asBool (.str word) = asBool (.bool b) := by
  change textAsBool word = .ok b
  unfold textAsBool
  rw [h.spec.2]
  cases b <;> decide

end Form

namespace ListParams

variable {settings : Settings} {fields : List (String × Json)} {text : Option String}

/-- The names of the flag for the direction of the order. -/
def sortAscendingNames : List String := ["sortAscending", "sort_ascending"]

/-- The places of the fields of list parameters, in the order in which they are read. -/
def places (fields : List (String × Json)) : List (List String) :=
  [pageIndexNames, pageSizeNames, ["sort"], sortAscendingNames, ["search"], ["lookups"], ["ranges"]].map
    fun names => [(Form.find names fields).name]

/-- Errors of list parameters are in the order of the fields, and a field has one at most. -/
theorem places_read (settings : Settings) (fields : List (String × Json)) :
    ((read settings fields).errors.map (·.place)).Sublist (places fields) := by
  unfold read
  simp only [Form.Checked.errors_seq, Form.Checked.errors_map, List.map_append, List.append_assoc]
  exact Form.Slot.places_default.append <| Form.Slot.places_default.append <|
    Form.Slot.places_default.append <| Form.Slot.places_default.append <|
    Form.Slot.places_default.append <| Form.Slot.places_default.append Form.Slot.places_default

/-- Forms with the same page and direction, each up to the way of writing it, and with the same texts give the
same parameters or have the same faults. -/
theorem faults_read_congr {fields' : List (String × Json)}
    (hindex : ((Form.find pageIndexNames fields).default 1 (asPageIndex settings)).faults =
      ((Form.find pageIndexNames fields').default 1 (asPageIndex settings)).faults)
    (hsize : ((Form.find pageSizeNames fields).default settings.defaultPageSize
      (asPageSize settings)).faults =
        ((Form.find pageSizeNames fields').default settings.defaultPageSize (asPageSize settings)).faults)
    (hascending : ((Form.find sortAscendingNames fields).default true Form.asBool).faults =
      ((Form.find sortAscendingNames fields').default true Form.asBool).faults)
    (htexts : ∀ name ∈ ["sort", "search", "lookups", "ranges"],
      (fields.lookup name).getD .null = (fields'.lookup name).getD .null) :
    (read settings fields).faults = (read settings fields').faults := by
  have htext : ∀ name ∈ ["sort", "search", "lookups", "ranges"],
      ∀ read : Json → Except Form.Fault (Option String), read .null = .ok none →
        ((Form.find [name] fields).default none read).faults =
          ((Form.find [name] fields').default none read).faults := by
    intro name hname read hnull
    rw [Form.Slot.faults_default_optional hnull, Form.Slot.faults_default_optional hnull, htexts name hname]
  have hword : asOptionalWord .null = .ok none := rfl
  have hraw : Form.orNull Form.asText .null = .ok none := rfl
  unfold read
  refine Form.Checked.faults_seq_congr (Form.Checked.faults_seq_congr (Form.Checked.faults_seq_congr
    (Form.Checked.faults_seq_congr (Form.Checked.faults_seq_congr (Form.Checked.faults_seq_congr
      (Form.Checked.faults_map_congr _ hindex) hsize) ?_) hascending) ?_) ?_) ?_
  · exact htext "sort" (by simp) _ hword
  · exact htext "search" (by simp) _ hword
  · exact htext "lookups" (by simp) _ hraw
  · exact htext "ranges" (by simp) _ hraw

end ListParams

namespace ListQuery

open ListParams

variable {settings : Settings} {q : ListQuery} {i s : ℤ} {b : Bool} {fields : List (String × Json)}

/-- The index of a page is looked for under its public name only. -/
theorem find_pageIndex (q : ListQuery) : Form.find pageIndexNames q.toFields =
    ⟨"pageIndex", (Text.nonBlank? q.pageIndex).map .str⟩ := by
  unfold toFields wordField
  cases Text.nonBlank? q.pageIndex <;> cases Text.nonBlank? q.pageSize <;>
    cases Text.nonBlank? q.sortAscending <;> rfl

/-- The direction of the order is looked for under its public name only. -/
theorem find_sortAscending (q : ListQuery) : Form.find sortAscendingNames q.toFields =
    ⟨"sortAscending", (Text.nonBlank? q.sortAscending).map .str⟩ := by
  unfold toFields wordField
  cases Text.nonBlank? q.pageIndex <;> cases Text.nonBlank? q.pageSize <;>
    cases Text.nonBlank? q.sortAscending <;> rfl

/-- The query string names a page and a direction: decimal texts and a word for a truth value, each between
blanks. -/
structure Writes (q : ListQuery) (i s : ℤ) (b : Bool) : Prop where
  pageIndex : ∃ text, q.pageIndex = some text ∧ Text.Pads (Text.decimal i) text
  pageSize : ∃ text, q.pageSize = some text ∧ Text.Pads (Text.decimal s) text
  sortAscending : ∃ text word, q.sortAscending = some text ∧ Text.Pads word text ∧ Text.WritesBool b word

/-- The fields have the page and the direction as integers and as a truth value, under any of their names, and
the texts of the query string, of which null ones may be left out. -/
structure IsTyped (q : ListQuery) (i s : ℤ) (b : Bool) (fields : List (String × Json)) : Prop where
  pageIndex : (Form.find pageIndexNames fields).value = some (.int i)
  pageSize : (Form.find pageSizeNames fields).value = some (.int s)
  sortAscending : (Form.find sortAscendingNames fields).value = some (.bool b)
  sort : (fields.lookup "sort").getD .null = Json.ofText? q.sort
  search : (fields.lookup "search").getD .null = Json.ofText? q.search
  lookups : (fields.lookup "lookups").getD .null = Json.ofText? q.lookups
  ranges : (fields.lookup "ranges").getD .null = Json.ofText? q.ranges

/-- What stands between the blanks of a query string that names a page and a direction. -/
theorem Writes.nonBlank? (h : q.Writes i s b) : Text.nonBlank? q.pageIndex = some (Text.decimal i) ∧
    Text.nonBlank? q.pageSize = some (Text.decimal s) ∧
    ∃ word, Text.nonBlank? q.sortAscending = some word ∧ Text.WritesBool b word := by
  obtain ⟨⟨index, hindex, hpads⟩, ⟨size, hsize, hpads'⟩, ascending, word, hascending, hpads'', hword⟩ := h
  have hnumeral : ∀ {n : ℤ} {text}, Text.Pads (Text.decimal n) text →
      Text.nonBlank? (some text) = some (Text.decimal n) := fun hpads =>
    hpads.nonBlank? (Text.decimal_ne_empty _) fun _ => Text.isBlank_of_mem_decimal
  have hne : word ≠ "" := by
    rintro rfl
    exact absurd hword.length_eq (by cases b <;> decide)
  rw [hindex, hsize, hascending]
  exact ⟨hnumeral hpads, hnumeral hpads', word, hpads''.nonBlank? hne hword.spec.1, hword⟩

/-- Parameters with faults are refused for these. -/
theorem orRefuse_eq (x : Form.Checked ListParams) : orRefuse x = x.faults.mapError .badParams := by
  cases x <;> rfl

/-- The texts of a query string are read as the values that they stand for. -/
theorem faults_read_toFields (hwrites : q.Writes i s b) (hi : i.natAbs < 10 ^ Text.maxDigits)
    (hs : s.natAbs < 10 ^ Text.maxDigits) (htyped : q.IsTyped i s b fields) :
    (ListParams.read settings q.toFields).faults = (ListParams.read settings fields).faults := by
  obtain ⟨hindex, hsize, word, hascending, hword⟩ := hwrites.nonBlank?
  have hvalue : (Form.find pageIndexNames q.toFields).value = some (.str (Text.decimal i)) := by
    rw [find_pageIndex, hindex]
    rfl
  have hvalue' : (Form.find pageSizeNames q.toFields).value = some (.str (Text.decimal s)) := by
    unfold pageSizeNames
    rw [find_pageSize, hsize]
    rfl
  have hvalue'' : (Form.find sortAscendingNames q.toFields).value = some (.str word) := by
    rw [find_sortAscending, hascending]
    rfl
  refine faults_read_congr ?_ ?_ ?_ ?_
  · rw [Form.Slot.faults_default hvalue, Form.Slot.faults_default htyped.pageIndex]
    unfold asPageIndex
    rw [Form.asInt_decimal hi]
  · rw [Form.Slot.faults_default hvalue', Form.Slot.faults_default htyped.pageSize]
    unfold asPageSize
    rw [Form.asInt_decimal hs]
  · rw [Form.Slot.faults_default hvalue'', Form.Slot.faults_default htyped.sortAscending,
      Form.asBool_word hword]
  · simp only [List.forall_mem_cons, List.not_mem_nil, false_imp_iff, implies_true, and_true]
    exact ⟨htyped.sort.symm, htyped.search.symm, htyped.lookups.symm, htyped.ranges.symm⟩

/-- Integers in decimal texts and a truth value in words, with blanks around them, give the same parameters as
the values themselves; and where these have errors, the query string is refused as a bad request, in the
words of these errors and in the order of the fields. -/
theorem params_of_typed (hwrites : q.Writes i s b) (hi : i.natAbs < 10 ^ Text.maxDigits)
    (hs : s.natAbs < 10 ^ Text.maxDigits) (htyped : q.IsTyped i s b fields) (settings : Settings) :
    (∀ p, ListParams.read settings fields = .ok p → q.params settings = .ok p) ∧
      ∀ errors, ListParams.read settings fields = .failed errors →
        ∃ r, q.params settings = .error r ∧ r.status = 400 ∧
          r.detail = "; ".intercalate (errors.map fun e => e.fault.message) ∧
          (errors.map (·.place)).Sublist (places fields) := by
  have hsame : q.params settings = orRefuse (ListParams.read settings fields) := by
    unfold params
    rw [orRefuse_eq, orRefuse_eq, faults_read_toFields hwrites hi hs htyped]
  refine ⟨fun p hp => ?_, fun errors herrors => ?_⟩
  · rw [hsame, hp]
    rfl
  · refine ⟨.badParams (errors.map (·.fault)), ?_, rfl, ?_, ?_⟩
    · rw [hsame, herrors]
      rfl
    · change "; ".intercalate ((errors.map (·.fault)).map (·.message)) = _
      rw [List.map_map]
      rfl
    · have horder := places_read settings fields
      rwa [herrors] at horder

/-- A query string for a page that does not exist, of fewer rows than none. -/
def nowhere : ListQuery :=
  { (default : ListQuery) with
    pageIndex := some "\u2003 0\t", pageSize := some "-5", sortAscending := some " FaLsE\x1c" }

/-- Both faults of a page are named, whether they are in texts or in numbers. -/
theorem params_of_typed_nowhere :
    let fields : List (String × Json) :=
      [("page_size", .int (-5)), ("sort_ascending", .bool false), ("search", .null), ("pageIndex", .int 0)]
    nowhere.Writes 0 (-5) false ∧ nowhere.IsTyped 0 (-5) false fields ∧
      ∃ r, nowhere.params (Settings.standard "" "") = .error r ∧ r.status = 400 ∧
        r.detail = "Value error, pageIndex must be >= 1; Value error, pageSize must not be negative" := by
  intro fields
  have hword : Text.WritesBool false "FaLsE" :=
    .cons (.inr rfl) (.cons (.inl rfl) (.cons (.inr rfl) (.cons (.inl rfl) (.cons (.inr rfl) .nil))))
  have hwrites : nowhere.Writes 0 (-5) false :=
    ⟨⟨_, rfl, ['\u2003', ' '], ['\t'], rfl, by simp [Text.isBlank], by simp [Text.isBlank]⟩,
      ⟨_, rfl, [], [], rfl, by simp, by simp⟩,
      ⟨_, "FaLsE", rfl, ⟨[' '], ['\x1c'], rfl, by simp [Text.isBlank], by simp [Text.isBlank]⟩, hword⟩⟩
  have htyped : nowhere.IsTyped 0 (-5) false fields := ⟨rfl, rfl, rfl, rfl, rfl, rfl, rfl⟩
  have herrors : ListParams.read (Settings.standard "" "") fields = .failed
      [⟨["pageIndex"], .broken .pageIndexPositive⟩, ⟨["page_size"], .broken .pageSizeNotNegative⟩] := rfl
  have hdigits : (-5 : ℤ).natAbs < 10 ^ Text.maxDigits :=
    lt_of_lt_of_le (by decide : 5 < 10 ^ 1) (Nat.pow_le_pow_right (by decide) (by decide))
  obtain ⟨r, hr, hstatus, hdetail, -⟩ := (params_of_typed hwrites (Nat.pow_pos (by decide))
    hdigits htyped _).2 _ herrors
  exact ⟨hwrites, htyped, r, hr, hstatus, hdetail.trans (by decide)⟩

end ListQuery

end Backoffice
