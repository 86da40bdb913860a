import Mathlib
import Backoffice.Proofs.Json.Texts
import Backoffice.Proofs.Query.ClientErrors
import Backoffice.Proofs.Text.Percent
import Backoffice.Proofs.Text.Strip

/-!
# Plain and percent-coded filters

The filters of a request may be written in percent coding or not.  What counts is the text that is left
when the coding is read and blanks are stripped (`FilterKind.items_eq`); so a text without percent signs
is decoded to the same filters as its percent coding, or refused for the same reason, whether it is JSON or
not: `decodedAlike_coding`.
-/

namespace Backoffice

open Text (strip)
open Text.Percent (encode quote)

namespace FilterKind

variable {kind : FilterKind}

/-- The items of what a text was read as, if it is JSON at all. -/
def itemsOfValue (kind : FilterKind) : Option Json → Except Refusal (List Json)
  | none => .error (.badFilter kind .malformedJson)
  | some .null => .ok []
  | some (.arr items) => .ok items
  | some _ => .error (.badFilter kind .notArray)

/-- The items of a text that is neither coded nor padded with blanks. -/
def itemsOf (kind : FilterKind) (text : String) : Except Refusal (List Json) :=
  if text = "" then .ok [] else kind.itemsOfValue (Json.parse? text.toList)

/-- The items of the text of an array are those of the array. -/
theorem itemsOf_strip {text : String} {items : List Json} (h : Json.parse? text.toList = some (.arr items)) :
    kind.itemsOf (strip text) = .ok items := by
  have harray := Json.parse?_strip_of_arr h
  have hne : strip text ≠ "" := by
    intro hempty
    have hnone : Json.parse? "".toList = none := by decide
    rw [hempty, hnone] at harray
    cases harray
  unfold itemsOf
  rw [if_neg hne, harray]
  rfl

/-- A coded filter is stripped, decoded and stripped again. -/
theorem items_eq (kind : FilterKind) (raw : Option String) :
    kind.items raw = kind.itemsOf (strip (Text.Percent.decode (strip (Text.orEmpty raw)))) := by
  have hempty : strip (Text.Percent.decode "") = "" := by decide
  have htext : ∀ text : String, (if text = "" then "" else strip (Text.Percent.decode text)) =
      strip (Text.Percent.decode text) := by
    intro text
    split_ifs with h
    · rw [h, hempty]
    · rfl
  unfold items itemsOf
  simp only [htext]
  generalize strip (Text.Percent.decode (strip (Text.orEmpty raw))) = text
  generalize Json.parse? text.toList = value
  rfl

/-- A text without percent signs is stripped. -/
theorem items_of_plain {text : String} (h : '%' ∉ text.toList) :
    kind.items (some text) = kind.itemsOf (strip text) := by
  have hplain : '%' ∉ (strip text).toList := fun hmem => h (Text.mem_of_mem_strip hmem)
  have hor : Text.orEmpty (some text) = text := rfl
  rw [items_eq, hor, Text.Percent.decode_of_plain hplain, Text.strip_strip]

/-- Of a coded text without blanks the text that it codes is stripped. -/
theorem items_of_coding {coded text : String} (hblank : ∀ c ∈ coded.toList, Text.isBlank c = false)
    (hdecode : Text.Percent.decode coded = text) : kind.items (some coded) = kind.itemsOf (strip text) := by
  have hor : Text.orEmpty (some coded) = coded := rfl
  rw [items_eq, hor, Text.strip_eq_self hblank, hdecode]

/-- Percent coding does not change the items of a text. -/
theorem items_encode (text : String) : kind.items (some (encode text)) = kind.itemsOf (strip text) := by
  refine items_of_coding (fun c hc => ?_) (Text.Percent.decode_encode text)
  obtain ⟨hlow, hhigh⟩ := Text.Percent.visible_of_mem_encode hc
  exact Text.isBlank_of_visible hlow hhigh

/-- Percent coding in which slashes stand for themselves does not change the items of a text. -/
theorem items_quote (text : String) : kind.items (some (quote text)) = kind.itemsOf (strip text) := by
  refine items_of_coding (fun c hc => ?_) (Text.Percent.decode_quote text)
  obtain ⟨hlow, hhigh⟩ := Text.Percent.visible_of_mem_quote hc
  exact Text.isBlank_of_visible hlow hhigh

/-- The items of a text without percent signs are those of its coding. -/
theorem items_coding_of_plain {coded text : String} (hcoded : coded ∈ [encode text, quote text])
    (hplain : '%' ∉ text.toList) : kind.items (some coded) = kind.items (some text) := by
  rw [items_of_plain hplain]
  rw [List.mem_pair] at hcoded
  rcases hcoded with rfl | rfl
  · exact items_encode text
  · exact items_quote text

end FilterKind

/-- Two texts are decoded to the same filters, or both are refused for the same reason, as bad requests. -/
def DecodedAlike {α : Type} (decode : Option String → Except Refusal (List α)) (s t : String) : Prop :=
  (∃ filters, decode (some s) = .ok filters ∧ decode (some t) = .ok filters) ∨
    ∃ r : Refusal, r.status = 400 ∧ decode (some s) = .error r ∧ decode (some t) = .error r

/-- Texts with the same outcome are decoded alike, if nothing but bad requests is refused. -/
theorem decodedAlike_of_eq {α : Type} {decode : Option String → Except Refusal (List α)} {kind : FilterKind}
    {s t : String} (hrefused : ∀ {raw r}, decode raw = .error r → ∃ reason, r = .badFilter kind reason)
    (h : decode (some s) = decode (some t)) : DecodedAlike decode s t := by
  unfold DecodedAlike
  rw [h]
  cases hdecode : decode (some t) with
  | ok filters => exact Or.inl ⟨filters, rfl, rfl⟩
  | error r =>
    obtain ⟨reason, rfl⟩ := hrefused hdecode
    exact Or.inr ⟨_, rfl, rfl, rfl⟩

/-- A text without percent signs and its percent coding are decoded alike, for every kind of filter and for
every text: a JSON array or anything else, with any blanks around it. -/
theorem decodedAlike_coding {coded text : String} (hcoded : coded ∈ [encode text, quote text])
    (hplain : '%' ∉ text.toList) :
    DecodedAlike decodeEqualityFilters coded text ∧ DecodedAlike decodeDateRanges coded text ∧
      DecodedAlike decodeSelectedIds coded text := by
  refine ⟨?_, ?_, ?_⟩
  · apply decodedAlike_of_eq exists_badFilter_of_decodeEqualityFilters
    unfold decodeEqualityFilters
    rw [FilterKind.items_coding_of_plain hcoded hplain]
  · apply decodedAlike_of_eq exists_badFilter_of_decodeDateRanges
    unfold decodeDateRanges
    rw [FilterKind.items_coding_of_plain hcoded hplain]
  · apply decodedAlike_of_eq exists_badFilter_of_decodeSelectedIds
    unfold decodeSelectedIds
    rw [FilterKind.items_coding_of_plain hcoded hplain]

/-- An array between blanks of which one is no blank of JSON, with a letter beyond ASCII in it. -/
def paddedLookups : String :=
  "\u2003\n[\x7b\"name\": \"né/\", \"id\": 2\x7d]\t\u3000"

/-- The padded array and its percent coding are decoded to the same filter. -/
theorem decodedAlike_coding_paddedLookups :
    encode paddedLookups ∈ [encode paddedLookups, quote paddedLookups] ∧ '%' ∉ paddedLookups.toList ∧
      decodeEqualityFilters (some (encode paddedLookups)) = .ok [⟨"né/", some 2⟩] ∧
      decodeEqualityFilters (some paddedLookups) = .ok [⟨"né/", some 2⟩] := by
  have hplain : '%' ∉ paddedLookups.toList := by decide
  have hread : decodeEqualityFilters (some paddedLookups) = .ok [⟨"né/", some 2⟩] := by decide +kernel
  obtain ⟨filters, hcoded, htext⟩ | ⟨r, -, -, hrefused⟩ :=
    (decodedAlike_coding List.mem_cons_self hplain).1
  · rw [hread] at htext
    cases htext
    exact ⟨List.mem_cons_self, hplain, hcoded, hread⟩
  · rw [hread] at hrefused
    cases hrefused

end Backoffice
