import Mathlib
import Backoffice.Proofs.Fields

/-!
# The errors of a form

A form collects the errors of its fields in the order in which it reads them, `Checked.errors_seq`.  What is
wrong with the values (`Checked.faults`) does not depend on the names under which they were found.
-/

namespace Backoffice.Form

variable {α β : Type}

namespace Checked

/-- The value of a form, or what is wrong with its fields, whatever their names are. -/
def faults : Checked α → Except (List Fault) α
  | ok a => .ok a
  | failed es => .error (es.map (·.fault))

/-- The errors of a function come before those of its argument. -/
theorem errors_seq (f : Checked (α → β)) (x : Checked α) : (f <*> x).errors = f.errors ++ x.errors := by
  change (f.seq x).errors = _
  cases f <;> cases x <;> simp [seq, errors]

/-- A function that is applied to the value adds no errors. -/
theorem errors_map (g : α → β) (x : Checked α) : (g <$> x).errors = x.errors :=
  errors_seq (.ok g) x

/-- What is wrong with the parts of a form is wrong with the form. -/
theorem faults_seq_congr {f g : Checked (α → β)} {x y : Checked α} (hf : f.faults = g.faults)
    (hx : x.faults = y.faults) : (f <*> x).faults = (g <*> y).faults := by
  change (f.seq x).faults = (g.seq y).faults
  cases f <;> cases g <;> cases x <;> cases y <;> simp_all [faults, seq]

/-- What is wrong with the argument of a function is wrong with the outcome. -/
theorem faults_map_congr (g : α → β) {x y : Checked α} (hx : x.faults = y.faults) :
    (g <$> x).faults = (g <$> y).faults :=
  faults_seq_congr (f := .ok g) (g := .ok g) rfl hx

end Checked

namespace Slot

variable {slot : Slot} {absent : α} {read : Json → Except Fault α}

/-- A field that is there has at most the fault of its value. -/
theorem faults_default {v : Json} (hv : slot.value = some v) :
    (slot.default absent read).faults = (read v).mapError fun fault => [fault] := by
  obtain ⟨name, value⟩ := slot
  cases hv
  unfold default required
  dsimp only
  cases read v <;> rfl

/-- A field that may be null has the same faults whether it is null or is left out. -/
theorem faults_default_optional {name : String} {fields : List (String × Json)}
    {read : Json → Except Fault (Option α)} (hnull : read .null = .ok none) :
    ((find [name] fields).default none read).faults =
      (read ((fields.lookup name).getD .null)).mapError fun fault => [fault] := by
  rw [find_singleton]
  cases hlookup : fields.lookup name with
  | none =>
    rw [Option.getD_none, hnull]
    rfl
  | some v => exact faults_default rfl

/-- A field has one error at most, in its own place. -/
theorem places_default : ((slot.default absent read).errors.map (·.place)).Sublist [[slot.name]] := by
  obtain ⟨name, value⟩ := slot
  cases value with
  | none => exact List.nil_sublist _
  | some v =>
    unfold default required
    dsimp only
    cases read v with
    | error fault => exact List.Sublist.refl _
    | ok a => exact List.nil_sublist _

end Slot

end Backoffice.Form
