import Mathlib
import Backoffice.Proofs.Query.JoinedFilters
import Backoffice.Proofs.Text.Integers

/-!
# Selected row numbers

What the row numbers of a request are: `decodeSelectedIds_of_carries`.  Every item of the array denotes an
integer, as a number or as a numeral of it, or the request is refused.  The integers that are denoted are
listed once, in the order in which they occur first.
-/

namespace Backoffice

/-- The item denotes the integer: it is the number, or a text that is a numeral of it. -/
inductive Denotes : Json → ℤ → Prop
  | int (n : ℤ) : Denotes (.int n) n
  | str {s : String} {n : ℤ} (numeral : Text.IsNumeral s.toList n) : Denotes (.str s) n

/-- An item is read as the integer that it denotes. -/
theorem selectedId?_eq_some_iff {v : Json} {n : ℤ} : selectedId? v = some n ↔ Denotes v n := by
  constructor
  · intro h
    cases v with
    | int m =>
      cases h
      exact .int n
    | str s => exact .str (Text.int?_eq_some_iff.mp h)
    | _ => cases h
  · intro h
    cases h with
    | int => rfl
    | str numeral => exact Text.int?_eq_some_iff.mpr numeral

/-- An item denotes one integer at most. -/
theorem Denotes.unique {v : Json} {m n : ℤ} (hm : Denotes v m) (hn : Denotes v n) : m = n := by
  rw [← selectedId?_eq_some_iff] at hm hn
  exact Option.some_inj.mp (hm.symm.trans hn)

/-- An item is accepted as the integer that it denotes. -/
theorem decodeSelectedId_eq_ok_iff {v : Json} {n : ℤ} : decodeSelectedId v = .ok n ↔ Denotes v n := by
  rw [← selectedId?_eq_some_iff]
  unfold decodeSelectedId
  cases selectedId? v <;> simp

/-- An item is refused exactly if it denotes no integer. -/
theorem decodeSelectedId_eq_error_iff {v : Json} {r : Refusal} :
    decodeSelectedId v = .error r ↔ r = .badFilter .selectedIds .notIntegers ∧ ∀ n, ¬ Denotes v n := by
  simp only [← selectedId?_eq_some_iff]
  unfold decodeSelectedId
  cases selectedId? v with
  | none => simp [eq_comm]
  | some n => simp

/-! ### In the order of first occurrence -/

/-- Among the items the one integer occurs before the other: in some front of them the one is denoted and the
other is not. -/
def DenotedBefore (items : List Json) (m n : ℤ) : Prop :=
  ∃ front, front <+: items ∧ (∃ v ∈ front, Denotes v m) ∧ ∀ v ∈ front, ¬ Denotes v n

/-- The integers that the items denote, each once and in the order of first occurrence. -/
structure ListsIds (items : List Json) (ids : List ℤ) : Prop where
  nodup : ids.Nodup
  mem_iff : ∀ n, n ∈ ids ↔ ∃ v ∈ items, Denotes v n
  ordered : ids.Pairwise (DenotedBefore items)

/-- Of two integers only one occurs before the other. -/
theorem DenotedBefore.asymm {items : List Json} {m n : ℤ} (h : DenotedBefore items m n) :
    ¬ DenotedBefore items n m := by
  obtain ⟨front, hfront, ⟨v, hv, hm⟩, hn⟩ := h
  rintro ⟨front', hfront', ⟨v', hv', hn'⟩, hm'⟩
  rcases List.prefix_or_prefix_of_prefix hfront hfront' with hle | hle
  · exact hm' v (hle.subset hv) hm
  · exact hn v' (hle.subset hv') hn'

/-- What occurs before stays before when items are added. -/
theorem DenotedBefore.append {items : List Json} {m n : ℤ} (h : DenotedBefore items m n) (more : List Json) :
    DenotedBefore (items ++ more) m n := by
  obtain ⟨front, hfront, hm, hn⟩ := h
  exact ⟨front, hfront.trans (List.prefix_append items more), hm, hn⟩

namespace ListsIds

variable {items : List Json} {ids : List ℤ}

/-- The items determine the list. -/
theorem unique {others : List ℤ} (h : ListsIds items ids) (h' : ListsIds items others) : ids = others := by
  have hperm : ids.Perm others :=
    (List.perm_ext_iff_of_nodup h.nodup h'.nodup).mpr fun n => (h.mem_iff n).trans (h'.mem_iff n).symm
  exact hperm.eq_of_pairwise (fun m n _ _ hmn hnm => absurd hnm hmn.asymm) h.ordered h'.ordered

/-- Without items there are no integers. -/
theorem nil : ListsIds [] [] where
  nodup := List.nodup_nil
  mem_iff := by simp
  ordered := .nil

/-- After one more item its integer is listed, too, unless it is there already. -/
theorem concat {v : Json} {n : ℤ} (h : ListsIds items ids) (hv : Denotes v n) :
    ListsIds (items ++ [v]) (if n ∈ ids then ids else ids ++ [n]) := by
  have hdenoted : ∀ k, (∃ w ∈ items ++ [v], Denotes w k) ↔ k ∈ ids ∨ k = n := by
    intro k
    simp only [List.mem_append, List.mem_singleton, or_and_right, exists_or, exists_eq_left, h.mem_iff]
    refine or_congr_right ⟨fun hk => hk.unique hv, ?_⟩
    rintro rfl
    exact hv
  have hbefore : ids.Pairwise (DenotedBefore (items ++ [v])) := h.ordered.imp fun hmn => hmn.append [v]
  split_ifs with hn
  · refine ⟨h.nodup, fun k => ?_, hbefore⟩
    rw [hdenoted, or_iff_left_of_imp]
    rintro rfl
    exact hn
  · have hnew : ∀ w ∈ items, ¬ Denotes w n := fun w hw hwn => hn ((h.mem_iff n).mpr ⟨w, hw, hwn⟩)
    refine ⟨List.nodup_append.mpr ⟨h.nodup, List.nodup_singleton n, ?_⟩, fun k => ?_,
      List.pairwise_append.mpr ⟨hbefore, List.pairwise_singleton _ _, ?_⟩⟩
    · rintro m hm _ hmem rfl
      rw [List.mem_singleton.mp hmem] at hm
      exact hn hm
    · rw [hdenoted, List.mem_append, List.mem_singleton]
    · rintro m hm _ hmem
      rw [List.mem_singleton.mp hmem]
      exact ⟨items, List.prefix_append items [v], (h.mem_iff m).mp hm, hnew⟩

/-- The integers of further items are added one by one. -/
theorem foldl {more : List Json} {ns : List ℤ} (h : ListsIds items ids) (hmore : List.Forall₂ Denotes more ns) :
    ListsIds (items ++ more) (ns.foldl (fun seen n => if n ∈ seen then seen else seen ++ [n]) ids) := by
  induction hmore generalizing items ids with
  | nil =>
    rw [List.append_nil]
    exact h
  | cons hv _ ih =>
    rw [List.foldl_cons, List.append_cons]
    exact ih (h.concat hv)

end ListsIds

/-- The integers that items denote, one each, are listed when repetitions are left out. -/
theorem listsIds_distinct {items : List Json} {ns : List ℤ} (h : List.Forall₂ Denotes items ns) :
    ListsIds items (distinct ns) :=
  ListsIds.nil.foldl h

/-! ### Arrays -/

section Arrays

variable {items : List Json} {raw : String}

/-- The row numbers of a text are those of the items that it carries. -/
theorem decodeSelectedIds_eq (h : Carries items raw) :
    decodeSelectedIds (some raw) = distinct <$> items.mapM decodeSelectedId := by
  unfold decodeSelectedIds
  rw [h.items_eq, ok_bind]
  cases items.mapM decodeSelectedId <;> rfl

/-- Items that denote an integer each are read as these integers. -/
theorem mapM_decodeSelectedId_eq_ok_iff {ns : List ℤ} :
    items.mapM decodeSelectedId = .ok ns ↔ List.Forall₂ Denotes items ns := by
  simp only [mapM_eq_ok_iff, decodeSelectedId_eq_ok_iff]

/-- All items are read exactly if each denotes an integer. -/
theorem exists_mapM_decodeSelectedId_eq_ok_iff :
    (∃ ns, items.mapM decodeSelectedId = .ok ns) ↔ ∀ v ∈ items, ∃ n, Denotes v n := by
  simp only [exists_mapM_eq_ok_iff, decodeSelectedId_eq_ok_iff]

/-- The row numbers are the integers that the items denote, if each denotes one. -/
theorem decodeSelectedIds_eq_ok_iff (h : Carries items raw) {ids : List ℤ} :
    decodeSelectedIds (some raw) = .ok ids ↔ (∀ v ∈ items, ∃ n, Denotes v n) ∧ ListsIds items ids := by
  rw [decodeSelectedIds_eq h, map_eq_ok_iff, ← exists_mapM_decodeSelectedId_eq_ok_iff]
  constructor
  · rintro ⟨ns, hns, rfl⟩
    exact ⟨⟨ns, hns⟩, listsIds_distinct (mapM_decodeSelectedId_eq_ok_iff.mp hns)⟩
  · rintro ⟨⟨ns, hns⟩, hids⟩
    exact ⟨ns, hns, (listsIds_distinct (mapM_decodeSelectedId_eq_ok_iff.mp hns)).unique hids⟩

/-- Row numbers are refused exactly if an item denotes no integer. -/
theorem decodeSelectedIds_eq_error_iff (h : Carries items raw) {r : Refusal} :
    decodeSelectedIds (some raw) = .error r ↔
      r = .badFilter .selectedIds .notIntegers ∧ ∃ v ∈ items, ∀ n, ¬ Denotes v n := by
  have hrefused : ∀ {e}, items.mapM decodeSelectedId = .error e →
      e = .badFilter .selectedIds .notIntegers ∧ ∃ v ∈ items, ∀ n, ¬ Denotes v n := by
    intro e he
    obtain ⟨v, hv, hitem⟩ := exists_mem_of_mapM_eq_error he
    obtain ⟨hreason, hno⟩ := decodeSelectedId_eq_error_iff.mp hitem
    exact ⟨hreason, v, hv, hno⟩
  rw [decodeSelectedIds_eq h]
  cases hread : items.mapM decodeSelectedId with
  | error e =>
    obtain ⟨rfl, hbad⟩ := hrefused hread
    rw [and_iff_left hbad]
    constructor
    · rintro ⟨⟩
      rfl
    · rintro rfl
      rfl
  | ok ns =>
    constructor
    · rintro ⟨⟩
    · rintro ⟨-, v, hv, hno⟩
      obtain ⟨n, hn⟩ := exists_mapM_decodeSelectedId_eq_ok_iff.mp ⟨ns, hread⟩ v hv
      exact absurd hn (hno n)

/-- Row numbers are refused, as a bad request, exactly if an item of the array denotes no integer; otherwise
they are the integers that the items denote, each once and in the order of first occurrence. -/
theorem decodeSelectedIds_of_carries (h : Carries items raw) :
    (∀ r, decodeSelectedIds (some raw) = .error r ↔
        r = .badFilter .selectedIds .notIntegers ∧ ∃ v ∈ items, ∀ n, ¬ Denotes v n) ∧
      (Refusal.badFilter .selectedIds .notIntegers).status = 400 ∧
      ∀ ids, decodeSelectedIds (some raw) = .ok ids ↔
        (∀ v ∈ items, ∃ n, Denotes v n) ∧ ListsIds items ids :=
  ⟨fun _ => decodeSelectedIds_eq_error_iff h, rfl, fun _ => decodeSelectedIds_eq_ok_iff h⟩

end Arrays

/-- A number, the same number in three ways of writing it and another one are two row numbers. -/
theorem decodeSelectedIds_of_carries_numerals :
    let items := [Json.int 5, .str "5", .str " +05 ", .str "-1_0", .str "٥"]
    Carries items (coded (.arr items)) ∧ decodeSelectedIds (some (coded (.arr items))) = .ok [5, -10] ∧
      ListsIds items [5, -10] := by
  intro items
  have hexact : ∀ v ∈ items, v.IsExact := by
    simp only [items, List.forall_mem_cons, List.not_mem_nil, false_imp_iff, implies_true, and_true]
    exact ⟨.int (by decide), .str _, .str _, .str _, .str _⟩
  have hcarries : Carries items (coded (.arr items)) := .of_isExact hexact
  have hids : decodeSelectedIds (some (coded (.arr items))) = .ok [5, -10] := by
    rw [decodeSelectedIds_eq hcarries]
    decide
  exact ⟨hcarries, hids, (((decodeSelectedIds_of_carries hcarries).2.2 _).mp hids).2⟩

end Backoffice
