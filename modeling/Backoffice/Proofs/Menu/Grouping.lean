import Mathlib
import Backoffice.Menu.Tree

/-!
# Entries under their modules

The first entry opens a module, which takes all later entries of its key; the others are grouped as if
these had not been there (`MenuGroup.ofEntries_cons`).  So nothing is lost or doubled, every module holds
a part of the entries in their order, and what the entries of different keys have to do with each other
in their order, their modules have too.
-/

namespace Backoffice

/-- What holds of the empty list, and of a list if it holds of the rest without the items that are the same as
the first, holds of all lists. -/
theorem rest_induction {α : Type} (same : α → α → Bool) {P : List α → Prop} (hnil : P [])
    (hcons : ∀ a as, P (as.filter fun b => !same a b) → P (a :: as)) (as : List α) : P as := by
  induction hn : as.length using Nat.strong_induction_on generalizing as with
  | _ n ih =>
    cases as with
    | nil => exact hnil
    | cons a as =>
      have hshorter : (as.filter fun b => !same a b).length < n := by
        have hle := List.length_filter_le (fun b => !same a b) as
        rw [List.length_cons] at hn
        omega
      exact hcons a as (ih _ hshorter _ rfl)

namespace MenuGroup

variable {κ : Type} {same : κ → κ → Bool} {ps : List (κ × MenuEntry)} {g : MenuGroup}

/-- The module of an entry with these items. -/
def headed (e : MenuEntry) (entries : List MenuEntry) : MenuGroup :=
  { ofEntry e with entries }

/-- The first module takes the entries of its key, and the other modules those of other keys. -/
theorem foldl_insert_cons (k : κ) (g : MenuGroup) (groups : List (κ × MenuGroup))
    (ps : List (κ × MenuEntry)) :
    ps.foldl (fun groups p => insert same p.1 p.2 groups) ((k, g) :: groups) =
      (k, { g with entries := g.entries ++ (ps.filter fun p => same k p.1).map (·.2) }) ::
        (ps.filter fun p => !same k p.1).foldl (fun groups p => insert same p.1 p.2 groups) groups := by
  induction ps generalizing g groups with
  | nil => simp
  | cons p ps ih =>
    rw [List.foldl_cons, insert]
    cases hsame : same k p.1 with
    | true =>
      simp only [if_true]
      rw [ih, List.filter_cons_of_pos (by simpa using hsame), List.filter_cons_of_neg (by simp [hsame])]
      simp [add]
    | false =>
      simp only [Bool.false_eq_true, if_false]
      rw [ih, List.filter_cons_of_neg (by simp [hsame]), List.filter_cons_of_pos (by simp [hsame])]
      rfl

/-- The first entry opens a module with all entries of its key, and the others are grouped without
them. -/
theorem ofEntries_cons (p : κ × MenuEntry) (ps : List (κ × MenuEntry)) :
    ofEntries same (p :: ps) =
      headed p.2 (p.2 :: (ps.filter fun q => same p.1 q.1).map (·.2)) ::
        ofEntries same (ps.filter fun q => !same p.1 q.1) := by
  unfold ofEntries
  rw [List.foldl_cons, insert, foldl_insert_cons]
  rfl

end MenuGroup

end Backoffice
