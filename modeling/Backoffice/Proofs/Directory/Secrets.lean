import Mathlib
import Backoffice.Proofs.Directory.Serving
import Backoffice.Proofs.Table.Unseen
import Backoffice.Web.View

/-!
# Columns that are never shown

The digest of the password with its salt, the token of the last login, and who wrote a row are kept for
the service itself.  No list sees them, whatever its directive, and no view shows them: the tables read
the same with these columns blanked.
-/

namespace Backoffice

/-- The user with the columns blanked that are never shown. -/
def User.redacted (u : User) : User :=
  { u with
    password := ""
    salt := ""
    authToken := none
    tokenExpiresAt := none
    createdBy := none
    updatedBy := none
    deletedBy := none
    deletedAt := none }

/-- The tables with the columns of users blanked that are never shown. -/
def Tables.redacted (t : Tables) : Tables :=
  { t with users := t.users.map User.redacted }

/-- A list of users has no column that is never shown. -/
theorem User.overlooks_columns : User.columns.Overlooks User.redacted := by
  unfold ColumnMap.Overlooks User.columns
  simp only [List.forall_mem_cons, List.not_mem_nil, false_imp_iff, implies_true, and_true]
  refine ⟨?_, ?_, ?_, ?_, ?_, ?_, ?_, ?_, ?_, ?_, ?_, ?_, ?_⟩ <;> exact fun _ => rfl

/-- A picker of users has no column that is never shown. -/
theorem User.overlooks_pickerColumns : User.pickerColumns.Overlooks User.redacted := by
  unfold ColumnMap.Overlooks User.pickerColumns
  simp only [List.forall_mem_cons, List.not_mem_nil, false_imp_iff, implies_true, and_true]
  refine ⟨?_, ?_, ?_, ?_, ?_, ?_, ?_⟩ <;> exact fun _ => rfl

namespace Tables

/-- A list of users shows the same without the secrets. -/
theorem listUsers_redacted (t : Tables) (params : ListParams) (d : Directive) (path : AccessPath) :
    t.redacted.usersView params <$> t.redacted.listUsers d path =
      t.usersView params <$> t.listUsers d path := by
  unfold listUsers redacted
  rw [path.list_map User.overlooks_columns fun _ => rfl]
  cases path.list User.id User.columns d t.users with
  | error e => rfl
  | ok l =>
    change Except.ok (t.redacted.usersView params ⟨l.rows.map User.redacted, l.total⟩) =
      Except.ok (t.usersView params l)
    unfold usersView
    rw [List.map_map]
    rfl

/-- The user of a number is shown the same without the secrets. -/
theorem userById_redacted (t : Tables) (n : ℤ) :
    t.redacted.userView <$> t.redacted.userById n = t.userView <$> t.userById n := by
  unfold userById userById?
  cases requireStorable n with
  | error e => rfl
  | ok _ =>
    have hfind : t.redacted.users.find? (fun u => u.id = n && u.isLive) =
        (t.users.find? fun u => u.id = n && u.isLive).map User.redacted := by
      unfold redacted
      rw [List.find?_map]
      rfl
    simp only [ok_bind, hfind]
    cases t.users.find? fun u => u.id = n && u.isLive <;> rfl

/-- The rows of a picker are the same without the secrets. -/
theorem lookup_redacted (t : Tables) (source : LookupSource) (d : Directive) (path : AccessPath) :
    t.redacted.lookup source d path = t.lookup source d path := by
  cases source with
  | userStatus => rfl
  | menuModule => rfl
  | user =>
    rw [lookup_user_eq, lookup_user_eq]
    unfold redacted
    rw [path.list_map User.overlooks_pickerColumns fun _ => rfl]
    cases path.list User.id User.pickerColumns d t.users with
    | error e => rfl
    | ok l =>
      have hentries : (l.rows.map User.redacted).map User.entry = l.rows.map User.entry :=
        List.map_map
      exact congrArg (fun rows => Except.ok (Listing.mk rows l.total)) hentries

end Tables

end Backoffice
