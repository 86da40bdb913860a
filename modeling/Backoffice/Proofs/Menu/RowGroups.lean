import Mathlib
import Backoffice.Proofs.Menu.Grouping
import Backoffice.Proofs.Query.Params

/-!
# Rows under their modules

Checked rows in any order are put under the modules that they name: `group_of_forall_entry`.  Rows name one
module by equal values, such as the number one and the truth value true, but not its text; for the values that
are accepted this is an equivalence (`Json.Names`).  The first row of each module gives its data, and its
items are those of its rows in their order.
-/

namespace Backoffice

/-! ### What a module is named by -/

namespace Json

/-- The value names a module by a number or by a text, or names none. -/
inductive Names : Json → Option (ℤ ⊕ String) → Prop
  | none : Names .null none
  | text (s : String) : Names (.str s) (some (.inr s))
  | number {v : Json} {n : ℤ} (counts : v.number? = some (.inl n)) : Names v (some (.inl n))

/-- Values are equal exactly if they name the same. -/
theorem Names.same_iff {v w : Json} {k l : Option (ℤ ⊕ String)} (hv : Names v k) (hw : Names w l) :
    same v w = true ↔ k = l := by
  cases hv with
  | none =>
    cases hw with
    | none => simp [same]
    | text t => simp [same, number?]
    | number hw => cases w <;> simp_all [same, number?]
  | text s =>
    cases hw with
    | none => simp [same, number?]
    | text t => simp [same]
    | number hw => cases w <;> simp_all [same, number?]
  | number hv =>
    cases hw with
    | none => cases v <;> simp_all [same, number?]
    | text t => cases v <;> simp_all [same, number?]
    | number hw => cases v <;> cases w <;> simp_all [same, number?]

/-- A value that is accepted for the number of a module names one, or none. -/
theorem exists_names_of_orNull_asInt {v : Json} {m : Option ℤ} (h : Form.orNull Form.asInt v = .ok m) :
    ∃ k, Names v k := by
  cases v with
  | null => exact ⟨_, .none⟩
  | bool b => exact ⟨_, .number rfl⟩
  | int n => exact ⟨_, .number rfl⟩
  | str s => exact ⟨_, .text s⟩
  | float x =>
    cases hx : x.int? with
    | some n =>
      have hcounts : (float x).number? = some (.inl n) := by simp [number?, hx]
      exact ⟨_, .number hcounts⟩
    | none =>
      unfold Form.orNull Form.asInt Form.floatAsInt at h
      cases hratio : x.ratio? <;> simp [hx, hratio, Except.map] at h
  | unpaired => cases h
  | arr items => cases h
  | obj fields => cases h

end Json

namespace MenuRow

open MenuGroup (headed ofEntries)

/-- The rows name one module. -/
def sameModule (r s : MenuRow) : Bool :=
  Json.same r.moduleId s.moduleId

/-- The value that names the module of the row can be compared. -/
def IsComparable (r : MenuRow) : Prop :=
  ∃ k, Json.Names r.moduleId k

variable {r s t : MenuRow} {rows : List MenuRow} {item : MenuRow → MenuEntry}

/-- The module of a checked row can be compared. -/
theorem isComparable_of_entry {e : MenuEntry} (h : r.entry = .ok e) : r.IsComparable := by
  unfold entry at h
  -- the module is the innermost of the six fields
  obtain ⟨_, _, h, -, -⟩ := Form.Checked.seq_eq_ok_iff.mp h
  obtain ⟨_, _, h, -, -⟩ := Form.Checked.seq_eq_ok_iff.mp h
  obtain ⟨_, _, h, -, -⟩ := Form.Checked.seq_eq_ok_iff.mp h
  obtain ⟨_, _, h, -, -⟩ := Form.Checked.seq_eq_ok_iff.mp h
  obtain ⟨_, _, h, -, -⟩ := Form.Checked.seq_eq_ok_iff.mp h
  obtain ⟨m, hm, -⟩ := Form.Checked.map_eq_ok_iff.mp h
  exact Json.exists_names_of_orNull_asInt (Form.Slot.required_eq_ok_iff.mp hm)

namespace IsComparable

/-- A row names the same module as itself. -/
theorem sameModule_self (hr : r.IsComparable) : r.sameModule r = true := by
  obtain ⟨k, hk⟩ := hr
  exact (hk.same_iff hk).mpr rfl

/-- It does not matter which row comes first. -/
theorem sameModule_comm (hr : r.IsComparable) (hs : s.IsComparable) : r.sameModule s = s.sameModule r := by
  obtain ⟨k, hk⟩ := hr
  obtain ⟨l, hl⟩ := hs
  unfold sameModule
  rw [Bool.eq_iff_iff, hk.same_iff hl, hl.same_iff hk]
  exact eq_comm

/-- Rows that name one module name the same as a third row or both another. -/
theorem sameModule_congr (hr : r.IsComparable) (hs : s.IsComparable) (ht : t.IsComparable)
    (h : s.sameModule t = true) : r.sameModule s = r.sameModule t := by
  obtain ⟨k, hk⟩ := hr
  obtain ⟨l, hl⟩ := hs
  obtain ⟨m, hm⟩ := ht
  obtain rfl : l = m := (hl.same_iff hm).mp h
  unfold sameModule
  rw [Bool.eq_iff_iff, hk.same_iff hl, hk.same_iff hm]

end IsComparable

/-! ### The rows that open a module -/

/-- The rows that name a module for the first time. -/
def leads (rows : List MenuRow) : List MenuRow :=
  rows.eraseDupsBy fun later earlier => earlier.sameModule later

/-- The rows module by module. -/
def arranged (rows : List MenuRow) : List MenuRow :=
  (leads rows).flatMap fun r => rows.filter r.sameModule

/-- The rows without those of the module of a row. -/
def without (r : MenuRow) (rows : List MenuRow) : List MenuRow :=
  rows.filter fun s => !r.sameModule s

/-- For each module that is named there is one row, the first that names it, and these rows stand in the order
in which the modules are named first. -/
structure AreLeads (rows leads : List MenuRow) : Prop where
  covers : ∀ s ∈ rows, ∃ r ∈ leads, r.sameModule s = true
  first : ∀ r ∈ leads, rows.find? r.sameModule = some r
  ordered : leads.Pairwise fun r s => rows.findIdx r.sameModule < rows.findIdx s.sameModule

theorem mem_without : s ∈ without r rows ↔ s ∈ rows ∧ r.sameModule s = false := by
  simp [without]

/-- The first row opens a module, and the others are opened by the rows of other modules. -/
theorem leads_cons (r : MenuRow) (rows : List MenuRow) : leads (r :: rows) = r :: leads (without r rows) := by
  unfold leads without
  rw [List.eraseDupsBy_cons]
  simp

/-- A row that opens a module is one of the rows. -/
theorem mem_of_mem_leads (h : r ∈ leads rows) : r ∈ rows := by
  induction rows using rest_induction sameModule with
  | hnil => cases h
  | hcons a as ih =>
    rw [leads_cons, List.mem_cons] at h
    rcases h with rfl | h
    · exact List.mem_cons_self
    · exact List.mem_cons_of_mem a (mem_without.mp (ih h)).1

/-- Comparable rows stay so when some are left out. -/
theorem isComparable_without (hrows : ∀ s ∈ r :: rows, s.IsComparable) :
    ∀ s ∈ without r rows, s.IsComparable :=
  fun s hs => hrows s (List.mem_cons_of_mem r (mem_without.mp hs).1)

/-- A row that is not left out names another module. -/
theorem sameModule_of_mem_without (hrows : ∀ s ∈ r :: rows, s.IsComparable) (hs : s ∈ without r rows) :
    s.sameModule r = false := by
  obtain ⟨hmem, hother⟩ := mem_without.mp hs
  rw [(hrows s (List.mem_cons_of_mem r hmem)).sameModule_comm (hrows r List.mem_cons_self), hother]

/-- A row of the same module as one that is not left out is not left out. -/
theorem kept_of_mem_without (hrows : ∀ s ∈ r :: rows, s.IsComparable) (hs : s ∈ without r rows) :
    ∀ t ∈ rows, s.sameModule t = true → (!r.sameModule t) = true := by
  intro t ht hst
  obtain ⟨hmem, hother⟩ := mem_without.mp hs
  have hrt := (hrows r List.mem_cons_self).sameModule_congr (hrows s (List.mem_cons_of_mem r hmem))
    (hrows t (List.mem_cons_of_mem r ht)) hst
  rw [← hrt, hother]
  rfl

/-- The rows of another module than the first are found without the rows of the first. -/
theorem filter_cons_eq (hrows : ∀ s ∈ r :: rows, s.IsComparable) (hs : s ∈ without r rows) :
    (r :: rows).filter s.sameModule = (without r rows).filter s.sameModule := by
  have hfirst := sameModule_of_mem_without hrows hs
  unfold without
  rw [List.filter_cons_of_neg (by simp [hfirst]), List.filter_filter]
  refine List.filter_congr fun t ht => ?_
  cases hst : s.sameModule t with
  | false => rfl
  | true =>
    rw [kept_of_mem_without hrows hs t ht hst]
    rfl

/-- If the one is found before the other among the items that are kept, then also among all. -/
theorem findIdx_lt_of_filter {α : Type} {keep p q : α → Bool} {as : List α}
    (hp : ∀ a ∈ as, p a = true → keep a = true) (hq : ∀ a ∈ as, q a = true → keep a = true)
    (h : (as.filter keep).findIdx p < (as.filter keep).findIdx q) : as.findIdx p < as.findIdx q := by
  induction as with
  | nil => cases h
  | cons a as ih =>
    rw [List.forall_mem_cons] at hp hq
    rw [List.filter_cons] at h
    rw [List.findIdx_cons, List.findIdx_cons]
    cases hkeep : keep a with
    | true =>
      rw [if_pos hkeep, List.findIdx_cons, List.findIdx_cons] at h
      cases hqa : q a with
      | true => simp [hqa] at h
      | false =>
        cases hpa : p a with
        | true => simp
        | false =>
          simp only [hpa, hqa, cond_false, Nat.add_lt_add_iff_right] at h ⊢
          exact ih hp.2 hq.2 h
    | false =>
      -- what is left out is neither of the two
      have hpa : p a = false := by
        rw [← Bool.not_eq_true]
        exact fun hpa => by simp [hp.1 hpa] at hkeep
      have hqa : q a = false := by
        rw [← Bool.not_eq_true]
        exact fun hqa => by simp [hq.1 hqa] at hkeep
      rw [if_neg (by simp [hkeep])] at h
      simp only [hpa, hqa, cond_false, Nat.add_lt_add_iff_right]
      exact ih hp.2 hq.2 h

/-- Every row belongs to a module that is opened. -/
theorem exists_mem_leads (hrows : ∀ r ∈ rows, r.IsComparable) (hs : s ∈ rows) :
    ∃ r ∈ leads rows, r.sameModule s = true := by
  induction rows using rest_induction sameModule with
  | hnil => cases hs
  | hcons r rows ih =>
    rw [leads_cons]
    cases hsame : r.sameModule s with
    | true => exact ⟨r, List.mem_cons_self, hsame⟩
    | false =>
      rcases List.mem_cons.mp hs with rfl | hs
      · rw [(hrows s List.mem_cons_self).sameModule_self] at hsame
        cases hsame
      · obtain ⟨t, ht, hts⟩ := ih (isComparable_without hrows) (mem_without.mpr ⟨hs, hsame⟩)
        exact ⟨t, List.mem_cons_of_mem r ht, hts⟩

/-- A row that opens a module is the first of it. -/
theorem find?_of_mem_leads (hrows : ∀ r ∈ rows, r.IsComparable) (hs : s ∈ leads rows) :
    rows.find? s.sameModule = some s := by
  induction rows using rest_induction sameModule with
  | hnil => cases hs
  | hcons r rows ih =>
    rw [leads_cons, List.mem_cons] at hs
    rcases hs with rfl | hs
    · exact List.find?_cons_of_pos (hrows s List.mem_cons_self).sameModule_self
    · rw [← List.head?_filter, filter_cons_eq hrows (mem_of_mem_leads hs), List.head?_filter]
      exact ih (isComparable_without hrows) hs

/-- Modules are opened in the order of their first rows. -/
theorem pairwise_leads (hrows : ∀ r ∈ rows, r.IsComparable) :
    (leads rows).Pairwise fun r s => rows.findIdx r.sameModule < rows.findIdx s.sameModule := by
  induction rows using rest_induction sameModule with
  | hnil => exact .nil
  | hcons r rows ih =>
    have hself := (hrows r List.mem_cons_self).sameModule_self
    have hapart : ∀ s ∈ leads (without r rows), s.sameModule r = false := fun s hs =>
      sameModule_of_mem_without hrows (mem_of_mem_leads hs)
    rw [leads_cons, List.pairwise_cons]
    constructor
    · intro s hs
      simp [List.findIdx_cons, hself, hapart s hs]
    · refine (ih (isComparable_without hrows)).imp_of_mem fun {s t} hs ht hlt => ?_
      simp only [List.findIdx_cons, hapart s hs, hapart t ht, cond_false, Nat.add_lt_add_iff_right]
      exact findIdx_lt_of_filter (kept_of_mem_without hrows (mem_of_mem_leads hs))
        (kept_of_mem_without hrows (mem_of_mem_leads ht)) hlt

/-- The rows that open a module are the first of the modules, in their order. -/
theorem areLeads_leads (hrows : ∀ r ∈ rows, r.IsComparable) : AreLeads rows (leads rows) where
  covers _ hs := exists_mem_leads hrows hs
  first _ hr := find?_of_mem_leads hrows hr
  ordered := pairwise_leads hrows

/-! ### The modules -/

/-- The rows of the first module come first. -/
theorem arranged_cons (hrows : ∀ s ∈ r :: rows, s.IsComparable) :
    arranged (r :: rows) = r :: (rows.filter r.sameModule ++ arranged (without r rows)) := by
  have hself := (hrows r List.mem_cons_self).sameModule_self
  have hothers := List.flatMap_congr fun s (hs : s ∈ leads (without r rows)) =>
    filter_cons_eq hrows (mem_of_mem_leads hs)
  unfold arranged
  rw [leads_cons, List.flatMap_cons, List.filter_cons_of_pos hself, hothers]
  rfl

/-- Module by module the rows are the same rows. -/
theorem arranged_perm (hrows : ∀ r ∈ rows, r.IsComparable) : (arranged rows).Perm rows := by
  induction rows using rest_induction sameModule with
  | hnil => exact .nil
  | hcons r rows ih =>
    rw [arranged_cons hrows]
    refine List.Perm.cons r (((ih (isComparable_without hrows)).append_left _).trans ?_)
    exact List.filter_append_perm r.sameModule rows

/-- The modules of rows with these entries. -/
def modules (item : MenuRow → MenuEntry) (rows : List MenuRow) : List MenuGroup :=
  ofEntries Json.same (rows.map fun r => (r.moduleId, item r))

/-- The first row gives the data of its module, and the other modules are those of the other rows. -/
theorem modules_cons (r : MenuRow) (rows : List MenuRow) :
    modules item (r :: rows) =
      headed (item r) (item r :: (rows.filter r.sameModule).map item) :: modules item (without r rows) := by
  unfold modules without
  rw [List.map_cons, MenuGroup.ofEntries_cons, List.filter_map, List.filter_map, List.map_map]
  rfl

/-- Each row that opens a module gives the data of it, and its items are those of the rows of the module. -/
theorem modules_eq (hrows : ∀ r ∈ rows, r.IsComparable) : modules item rows =
    (leads rows).map fun r => headed (item r) ((rows.filter r.sameModule).map item) := by
  induction rows using rest_induction sameModule with
  | hnil => rfl
  | hcons r rows ih =>
    have hself := (hrows r List.mem_cons_self).sameModule_self
    rw [modules_cons, leads_cons, List.map_cons, List.filter_cons_of_pos hself, List.map_cons]
    refine congrArg _ ((ih (isComparable_without hrows)).trans (List.map_congr_left fun s hs => ?_))
    rw [filter_cons_eq hrows (mem_of_mem_leads hs)]
    rfl

section Block

variable {block others : List MenuRow} (hblock : ∀ s ∈ block, r.sameModule s = true)
  (hapart : ∀ s ∈ others, r.sameModule s = false)

include hblock hapart

/-- Of rows of one module and rows of others those of the one are found. -/
theorem filter_append_of_apart : (block ++ others).filter r.sameModule = block := by
  rw [List.filter_append, List.filter_eq_self.mpr hblock, List.filter_eq_nil_iff.mpr (by simpa using hapart),
    List.append_nil]

/-- Of rows of one module and rows of others those of the others are left. -/
theorem without_append_of_apart : without r (block ++ others) = others := by
  unfold without
  rw [List.filter_append, List.filter_eq_nil_iff.mpr (by simpa using hblock),
    List.filter_eq_self.mpr (by simpa using hapart), List.nil_append]

end Block

/-- The rows module by module have the same modules. -/
theorem modules_arranged (hrows : ∀ r ∈ rows, r.IsComparable) :
    modules item (arranged rows) = modules item rows := by
  induction rows using rest_induction sameModule with
  | hnil => rfl
  | hcons r rows ih =>
    have hothers := isComparable_without hrows
    have hapart : ∀ s ∈ arranged (without r rows), r.sameModule s = false := fun s hs =>
      (mem_without.mp ((arranged_perm hothers).subset hs)).2
    have hblock : ∀ s ∈ rows.filter r.sameModule, r.sameModule s = true := fun s hs => (List.mem_filter.mp hs).2
    rw [arranged_cons hrows, modules_cons, modules_cons, filter_append_of_apart hblock hapart,
      without_append_of_apart hblock hapart]
    exact congrArg _ (ih hothers)

/-- Checked rows are grouped by their modules. -/
theorem group_eq_ok (hvalid : ∀ r ∈ rows, r.entry = .ok (item r)) :
    group rows = .ok (modules item rows) := by
  have hentries : entries rows = .ok (rows.map fun r => (r.moduleId, item r)) := by
    unfold entries
    rw [mapM_eq_ok_iff, List.forall₂_map_right_iff, List.forall₂_same]
    intro r hr
    rw [hvalid r hr]
    rfl
  unfold group
  rw [hentries]
  rfl

/-- Checked rows in any order are put under their modules: one for each value that names a module, in the
order of the rows that name them first, with the data of this row and the items of all rows of the module in
their order.  No row is lost or doubled, and the rows module by module give the same modules. -/
theorem group_of_forall_entry (hvalid : ∀ r ∈ rows, r.entry = .ok (item r)) :
    AreLeads rows (leads rows) ∧ ∃ groups, group rows = .ok groups ∧
      groups = (leads rows).map (fun r => headed (item r) ((rows.filter r.sameModule).map item)) ∧
      groups.flatMap (·.entries) = (arranged rows).map item ∧ (arranged rows).Perm rows ∧
      group (arranged rows) = .ok groups := by
  have hrows : ∀ r ∈ rows, r.IsComparable := fun r hr => isComparable_of_entry (hvalid r hr)
  have hperm := arranged_perm hrows
  have hagain : group (arranged rows) = .ok (modules item rows) := by
    rw [group_eq_ok fun r hr => hvalid r (hperm.subset hr), modules_arranged hrows]
  refine ⟨areLeads_leads hrows, _, group_eq_ok hvalid, modules_eq hrows, ?_, hperm, hagain⟩
  rw [modules_eq hrows]
  unfold arranged
  rw [List.flatMap_map, List.map_flatMap]
  rfl

/-- A row of an item of this number under a module of this text, which the value names. -/
def plain (moduleId : Json) (moduleText : String) (n : ℤ) : MenuRow where
  moduleId := moduleId
  itemId := .int n
  sidebarClass := .null
  sortOrder := .null
  moduleSortOrder := .null
  icon := .null
  moduleIcon := .null
  text := .null
  moduleText := .str moduleText
  link := .null
  moduleLink := .null

/-- The number one, the truth value true and a floating-point one name a single module, the text another, and
no value a third. -/
theorem group_of_forall_entry_ones :
    let rows := [plain (.int 1) "A" 10, plain .null "B" 11, plain (.bool true) "C" 12, plain (.str "1") "D" 13,
      plain (.float (.finite false 1 0)) "E" 14, plain .null "F" 15]
    let item := fun r : MenuRow => match r.entry with
      | .ok e => e
      | .failed _ => ⟨none, 0, none, none, none, "", "", "", "", "", none⟩
    (∀ r ∈ rows, r.entry = .ok (item r)) ∧ ∃ groups, group rows = .ok groups ∧
      groups.map (fun g => (g.name, g.entries.map (·.itemId))) =
        [("A", [10, 12, 14]), ("B", [11, 15]), ("D", [13])] ∧
      group (arranged rows) = .ok groups := by
  intro rows item
  have hvalid : ∀ r ∈ rows, r.entry = .ok (item r) := by
    simp only [rows, List.forall_mem_cons, List.not_mem_nil, false_imp_iff, implies_true, and_true]
    exact ⟨rfl, rfl, rfl, rfl, rfl, rfl⟩
  obtain ⟨-, groups, hgroup, rfl, -, -, hagain⟩ := group_of_forall_entry hvalid
  refine ⟨hvalid, _, hgroup, ?_, hagain⟩
  decide +kernel

end MenuRow

end Backoffice
