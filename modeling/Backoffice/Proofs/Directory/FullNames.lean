import Mathlib
import Backoffice.Proofs.Directory.Serving
import Backoffice.Proofs.Directory.UserSelection
import Backoffice.Proofs.Table.Pages
import Backoffice.Proofs.Text.Strip

/-!
# Full names in pickers

The full name of a user leaves out the parts that are empty; the picker of users joins name and surname by a
space, whether they are there or not, and trims the result.  The two differ by spaces at the ends only, so
they have the same core, and the picker lists every user by the core of the full name
(`Tables.lookup_user_fullName`).
-/

namespace Backoffice

namespace User

/-- The full name is the part that is not empty, or both with a space between them. -/
theorem fullName_eq (u : User) : u.fullName =
    if Text.orEmpty u.name = "" then Text.orEmpty u.surname
    else if Text.orEmpty u.surname = "" then Text.orEmpty u.name
    else u.spacedName := by
  have hpart : ∀ part : Option String, part.filter (· ≠ "") =
      if Text.orEmpty part = "" then none else some (Text.orEmpty part) := by
    rintro (_ | s)
    · rfl
    · by_cases hs : s = "" <;> simp [Text.orEmpty, hs]
  unfold fullName spacedName
  simp only [List.filterMap_cons, List.filterMap_nil, hpart]
  by_cases hname : Text.orEmpty u.name = "" <;> by_cases hsurname : Text.orEmpty u.surname = "" <;>
    simp [hname, hsurname]

/-- Name and surname joined by a space are the full name between spaces. -/
theorem exists_spacedName_eq (u : User) : ∃ m n,
    u.spacedName.toList = List.replicate m ' ' ++ u.fullName.toList ++ List.replicate n ' ' := by
  rw [fullName_eq]
  by_cases hname : Text.orEmpty u.name = ""
  · refine ⟨1, 0, ?_⟩
    rw [if_pos hname]
    simp [spacedName, hname]
  · rw [if_neg hname]
    by_cases hsurname : Text.orEmpty u.surname = ""
    · refine ⟨0, 1, ?_⟩
      rw [if_pos hsurname]
      simp [spacedName, hsurname]
    · refine ⟨0, 0, ?_⟩
      rw [if_neg hsurname]
      simp

/-- The name in a picker is the core of the full name, if that is not empty. -/
theorem pickerName_eq {u : User} {core : String} (h : Text.IsCoreOf core u.fullName) :
    u.pickerName = if core = "" then none else some core := by
  obtain ⟨m, n, hspaced⟩ := u.exists_spacedName_eq
  have hcore := Text.isCoreOf_iff.mp (h.pad hspaced)
  unfold pickerName
  rw [← hcore]

example : (named 1 " Ann  Lee " "a@b.c" none).pickerName = some "Ann  Lee" := by decide

/-- A column of the names in a picker holds the core of the full name, or null if that is empty. -/
theorem cell_pickerName {u : User} {core : String} (h : Text.IsCoreOf core u.fullName) :
    (Column.textExpression pickerName).cell u = if core = "" then .null else .text core := by
  simp only [Column.textExpression, pickerName_eq h]
  split <;> rfl

/-- The user is listed under the core of the full name, or as having no name if that is empty. -/
def IsListedAs (u : User) (e : LookupEntry) : Prop :=
  e.id = u.id ∧ ∃ core, Text.IsCoreOf core u.fullName ∧ e.name = if core = "" then "No Name" else core

/-- The entry of a user in a picker is the one that the user is listed as. -/
theorem isListedAs_iff {u : User} {e : LookupEntry} : u.IsListedAs e ↔ u.entry = e := by
  have hname : ∀ {core}, Text.IsCoreOf core u.fullName →
      u.entry = ⟨u.id, if core = "" then "No Name" else core⟩ := by
    intro core hcore
    unfold entry
    rw [pickerName_eq hcore]
    split <;> rfl
  constructor
  · rintro ⟨hid, core, hcore, hlisted⟩
    rw [hname hcore, ← hid, ← hlisted]
  · rintro rfl
    obtain ⟨core, hcore⟩ := Text.exists_isCoreOf u.fullName
    exact ⟨rfl, core, hcore, congrArg LookupEntry.name (hname hcore)⟩

/-- Entries list users exactly if they are the entries of these users, in the same order. -/
theorem forall₂_isListedAs_iff {users : List User} {entries : List LookupEntry} :
    List.Forall₂ IsListedAs users entries ↔ entries = users.map entry := by
  have hrel : IsListedAs = fun u e => u.entry = e := by
    funext u e
    exact propext isListedAs_iff
  rw [hrel, ← List.forall₂_map_left_iff (f := entry) (R := Eq), List.forall₂_eq_eq_eq]
  exact eq_comm

end User

/-! ### The picker of all users -/

/-- A request without filters, for pages of one row. -/
def ListParams.unfiltered : ListParams :=
  ⟨1, 1, none, true, none, none, none, none⟩

/-- The directive of a request without filters to the picker of users. -/
def User.unfilteredPicker : Directive :=
  ⟨[.notDeleted], "name", true, 1, 0, []⟩

/-- A request without filters is compiled. -/
theorem User.compile_unfiltered (settings : Settings) :
    LookupSource.user.listSpec.compile settings .unfiltered = .ok unfilteredPicker := by
  have hchain : LookupSource.user.listSpec.chain .unfiltered = .ok [.notDeleted] :=
    ListSpec.chain_eq_ok_iff.mpr ⟨[], [], [], rfl, rfl, by simp, by simp, .nil, rfl⟩
  exact (ListSpec.compile_eq_ok_iff Scope.noConfusion).mpr ⟨"name", [.notDeleted], rfl,
    (ListSpec.predicates_eq_ok_iff rfl).mpr ⟨_, [], hchain, rfl, rfl⟩, rfl⟩

/-- A picker without filters keeps the users that are not deleted. -/
theorem User.keeps_unfilteredPicker (u : User) :
    unfilteredPicker.keeps pickerColumns u = u.isLive := by
  have hdeleted : Node.notDeleted.holds pickerColumns u = true ↔ u.deleted ≠ some true :=
    Column.meets_bool_isNot_true
  unfold Directive.keeps isLive
  rw [Bool.eq_iff_iff, bne_iff_ne, ← hdeleted]
  simp [unfilteredPicker]

namespace Tables

variable {t : Tables}

/-- The picker gives a listing exactly if the table of users does, and then lists the same users. -/
theorem lookup_user_eq_ok_iff {d : Directive} {path : AccessPath} {listing : Listing LookupEntry} :
    t.lookup .user d path = .ok listing ↔
      ∃ l, path.list User.id User.pickerColumns d t.users = .ok l ∧ listing.total = l.total ∧
        List.Forall₂ User.IsListedAs l.rows listing.rows := by
  rw [lookup_user_eq, map_eq_ok_iff]
  refine exists_congr fun l => and_congr_right fun _ => ?_
  rw [User.forall₂_isListedAs_iff]
  obtain ⟨rows, total⟩ := listing
  constructor
  · rintro ⟨⟩
    exact ⟨rfl, rfl⟩
  · rintro ⟨rfl, rfl⟩
    rfl

/-- Without filters the users that are not deleted are found, each page showing its part of them. -/
theorem exists_unfiltered (t : Tables) (path : AccessPath) :
    ∃ found : List User, found.Perm (t.users.filter User.isLive) ∧
      ∀ limit offset, fitsWord limit = true → fitsWord offset = true →
        path.list User.id User.pickerColumns { User.unfilteredPicker with limit, offset } t.users =
          .ok ⟨Directive.page limit offset found, found.length⟩ := by
  have hlist : ∃ l, path.list User.id User.pickerColumns User.unfilteredPicker t.users = .ok l :=
    ⟨_, Directive.list_eq_ok_iff.mpr ⟨_, _, ⟨rfl, rfl, rfl, rfl, rfl⟩, rfl⟩⟩
  obtain ⟨l, hl⟩ := hlist
  obtain ⟨found, ⟨hfound, -⟩, -, hpages⟩ := AccessPath.exists_found hl
  refine ⟨found, ?_, hpages⟩
  rwa [funext User.keeps_unfilteredPicker] at hfound

/-- The names of users in pickers.  In every listing each user is listed under the full name without the
spaces at its ends, or as "No Name" if nothing is left of it.  The column of names by which users are
searched and sorted holds the same text, or null.  A picker without filters lists every user that is not
deleted, each page its part of them. -/
theorem lookup_user_fullName (t : Tables) (path : AccessPath) :
    (∀ d listing, t.lookup .user d path = .ok listing ↔
      ∃ l, path.list User.id User.pickerColumns d t.users = .ok l ∧ listing.total = l.total ∧
        List.Forall₂ User.IsListedAs l.rows listing.rows) ∧
    (∃ column, User.pickerColumns.lookup "name" = some column ∧ ∀ u, ∃ core,
      Text.IsCoreOf core u.fullName ∧ column.cell u = if core = "" then .null else .text core) ∧
    ∀ settings, ∃ d found, LookupSource.user.listSpec.compile settings .unfiltered = .ok d ∧
      found.Perm (t.users.filter User.isLive) ∧
      ∀ limit offset, fitsWord limit = true → fitsWord offset = true →
        ∃ listing, t.lookup .user { d with limit, offset } path = .ok listing ∧
          listing.total = found.length ∧
          List.Forall₂ User.IsListedAs (Directive.page limit offset found) listing.rows := by
  refine ⟨fun d listing => lookup_user_eq_ok_iff,
    ⟨.textExpression User.pickerName, rfl, fun u => ?_⟩, fun settings => ?_⟩
  · obtain ⟨core, hcore⟩ := Text.exists_isCoreOf u.fullName
    exact ⟨core, hcore, User.cell_pickerName hcore⟩
  · obtain ⟨found, hfound, hpages⟩ := exists_unfiltered t path
    refine ⟨_, found, User.compile_unfiltered settings, hfound, fun limit offset hlimit hoffset => ?_⟩
    let shown := (Directive.page limit offset found).map User.entry
    have hlisted : List.Forall₂ User.IsListedAs (Directive.page limit offset found) shown :=
      User.forall₂_isListedAs_iff.mpr rfl
    exact ⟨⟨shown, found.length⟩,
      lookup_user_eq_ok_iff.mpr ⟨_, hpages limit offset hlimit hoffset, rfl, hlisted⟩, rfl, hlisted⟩

/-- A user without a name, and with spaces around the surname, is listed by the surname alone. -/
theorem lookup_user_fullName_surname :
    let u : User := { User.named 1 "" "a@b.c" none with name := none, surname := some " Lee " }
    fitsWord 10 = true ∧ fitsWord 0 = true ∧ u.fullName = " Lee " ∧
      ∃ d listing, LookupSource.user.listSpec.compile (Settings.standard "" "") .unfiltered = .ok d ∧
        lookup ⟨[], [u], [], []⟩ .user { d with limit := 10, offset := 0 } = .ok listing ∧
        listing.rows = [⟨1, "Lee"⟩] := by
  intro u
  have hlimit : fitsWord 10 = true := by decide
  have hoffset : fitsWord 0 = true := by decide
  obtain ⟨d, found, hd, hfound, hpages⟩ :=
    (lookup_user_fullName ⟨[], [u], [], []⟩ .byNumber).2.2 (Settings.standard "" "")
  obtain ⟨listing, hlisting, -, hrows⟩ := hpages 10 0 hlimit hoffset
  have hsingle : found = [u] := List.perm_singleton.mp hfound
  rw [hsingle, User.forall₂_isListedAs_iff] at hrows
  exact ⟨hlimit, hoffset, by decide, d, listing, hd, hlisting, hrows.trans (by decide)⟩

end Tables

end Backoffice
