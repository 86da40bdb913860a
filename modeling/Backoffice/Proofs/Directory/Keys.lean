import Mathlib
import Backoffice.Proofs.Outcome
import Backoffice.Proofs.Text.Case
import Backoffice.Account.Access

/-!
# Numbers and addresses of users

No two users share a number or an e-mail address, deleted ones included, and every stored address is in
the form in which addresses are compared (`Tables.Keyed`).  Every write keeps it so.  As a consequence
the user of an address is the only live one that has it stored.
-/

namespace Backoffice

/-- An address that is normalized stays as it is: stripping finds no blanks at the ends of a stripped
text after lowering, and lowering twice is lowering once. -/
theorem normalizeEmail_normalizeEmail (raw : Option String) :
    normalizeEmail (some (normalizeEmail raw)) = normalizeEmail raw := by
  unfold normalizeEmail
  have hstrip : Text.strip (Text.lower (Text.strip (Text.orEmpty raw))) =
      Text.lower (Text.strip (Text.orEmpty raw)) := Text.strip_lower (Text.strip_strip _)
  change Text.lower (Text.strip (Text.lower (Text.strip (Text.orEmpty raw)))) = _
  rw [hstrip, Text.lower_lower]

namespace Tables

/-- Two users have different numbers and different addresses. -/
def Differ (u v : User) : Prop :=
  u.id ≠ v.id ∧ u.email ≠ v.email

instance : Std.Symm Differ :=
  ⟨fun _ _ h => ⟨h.1.symm, h.2.symm⟩⟩

/-- Different users differ, and stored addresses are normalized. -/
structure Keyed (t : Tables) : Prop where
  distinct : t.users.Pairwise Differ
  normal : ∀ u ∈ t.users, normalizeEmail (some u.email) = u.email

/-- Two users that are not the same differ. -/
theorem Keyed.differ {t : Tables} (h : t.Keyed) {u v : User} (hu : u ∈ t.users) (hv : v ∈ t.users)
    (hne : u ≠ v) : Differ u v :=
  h.distinct.forall hu hv hne

/-- A user passes the check if it differs from all the others. -/
theorem requireUnique_eq_ok_iff {others : List User} {u : User} :
    requireUnique others u = .ok () ↔ ∀ v ∈ others, Differ v u := by
  unfold requireUnique
  split
  · rename_i hid
    rw [List.any_eq_true] at hid
    obtain ⟨v, hv, heq⟩ := hid
    constructor
    · intro h
      cases h
    · intro h
      exact absurd (of_decide_eq_true heq) (h v hv).1
  · rename_i hid
    split
    · rename_i hemail
      rw [List.any_eq_true] at hemail
      obtain ⟨v, hv, heq⟩ := hemail
      constructor
      · intro h
        cases h
      · intro h
        exact absurd (of_decide_eq_true heq) (h v hv).2
    · rename_i hemail
      rw [Bool.not_eq_true, List.any_eq_false] at hid hemail
      refine iff_of_true rfl fun v hv => ⟨?_, ?_⟩
      · simpa using hid v hv
      · simpa using hemail v hv

/-- A user whose number is new but whose address is taken is refused for the address. -/
theorem requireUnique_of_taken {others : List User} {u : User} (hid : ∀ v ∈ others, v.id ≠ u.id)
    (htaken : ∃ v ∈ others, v.email = u.email) :
    requireUnique others u = .error (.refused .duplicateEmail) := by
  obtain ⟨v, hv, hemail⟩ := htaken
  unfold requireUnique
  rw [if_neg, if_pos]
  · exact List.any_eq_true.mpr ⟨v, hv, decide_eq_true hemail⟩
  · rw [List.any_eq_true]
    rintro ⟨w, hw, heq⟩
    exact hid w hw (of_decide_eq_true heq)

/-! ### Writes -/

/-- A new user has a normalized address. -/
theorem normal_of_toUser {draft : UserDraft} {id : Int} {now : WallTime} {actor : Option String}
    {u : User} (h : draft.toUser id now actor = .ok u) :
    u.email = normalizeEmail draft.email ∧ u.id = id := by
  unfold UserDraft.toUser at h
  simp only [bind_eq_ok_iff, pure_eq_ok_iff] at h
  obtain ⟨_, -, _, -, rfl⟩ := h
  exact ⟨rfl, rfl⟩

/-- A user that is added is a new row, which differs from all the others. -/
theorem of_createUser {t t' : Tables} {now : WallTime} {actor : Option String} {draft : UserDraft}
    {u : User} (h : t.createUser now actor draft = .ok (u, t')) :
    t' = { t with users := t.users ++ [u] } ∧ (∀ v ∈ t.users, Differ v u) ∧
      u.email = normalizeEmail draft.email := by
  unfold createUser at h
  simp only [bind_eq_ok_iff, pure_eq_ok_iff, Prod.mk.injEq] at h
  obtain ⟨_, -, user, huser, _, hunique, rfl, rfl⟩ := h
  exact ⟨rfl, requireUnique_eq_ok_iff.mp hunique, (normal_of_toUser huser).1⟩

/-- Adding a user keeps the users apart. -/
theorem keyed_createUser {t t' : Tables} {now : WallTime} {actor : Option String} {draft : UserDraft}
    {u : User} (hk : t.Keyed) (h : t.createUser now actor draft = .ok (u, t')) : t'.Keyed := by
  obtain ⟨rfl, hdiffer, hemail⟩ := of_createUser h
  refine ⟨?_, ?_⟩
  · refine List.pairwise_append.mpr ⟨hk.distinct, List.pairwise_singleton _ _, ?_⟩
    intro v hv w hw
    rw [List.mem_singleton] at hw
    rw [hw]
    exact hdiffer v hv
  · intro v hv
    rcases List.mem_append.mp hv with hv | hv
    · exact hk.normal v hv
    · rw [List.mem_singleton] at hv
      rw [hv, hemail]
      exact normalizeEmail_normalizeEmail _

/-- Putting a user in the place of the one with a number keeps the users apart, if it differs from all
the others. -/
theorem keyed_replaceUser {t : Tables} {id : Int} {changed : User} (hk : t.Keyed)
    (hdiffer : ∀ v ∈ t.users, v.id ≠ id → Differ v changed)
    (hnormal : normalizeEmail (some changed.email) = changed.email) :
    (t.replaceUser id changed).Keyed := by
  refine ⟨?_, ?_⟩
  · refine List.pairwise_map.mpr (hk.distinct.imp_of_mem ?_)
    intro u v hu hv huv
    by_cases hid : u.id = id
    · have hvid : v.id ≠ id := fun h => huv.1 (hid.trans h.symm)
      rw [if_pos hid, if_neg hvid]
      obtain ⟨hne, hne'⟩ := hdiffer v hv hvid
      exact ⟨hne.symm, hne'.symm⟩
    · rw [if_neg hid]
      by_cases hvid : v.id = id
      · rw [if_pos hvid]
        exact hdiffer u hu hid
      · rw [if_neg hvid]
        exact huv
  · intro v hv
    obtain ⟨u, hu, rfl⟩ := List.mem_map.mp hv
    split
    · exact hnormal
    · exact hk.normal u hu

/-- Changing a column or two of a user other than its number and address keeps the users apart. -/
theorem keyed_replaceUser_same {t : Tables} {user changed : User} (hk : t.Keyed)
    (hmem : user ∈ t.users) (hid : changed.id = user.id) (hemail : changed.email = user.email) :
    (t.replaceUser user.id changed).Keyed := by
  refine keyed_replaceUser hk (fun v hv hne => ?_) ?_
  · obtain ⟨hid', hemail'⟩ := hk.differ hv hmem fun h => hne (congrArg User.id h)
    exact ⟨hid ▸ hid', hemail ▸ hemail'⟩
  · rw [hemail]
    exact hk.normal user hmem

/-- Changes to a user leave a normalized address. -/
theorem normal_of_applyTo {p : UserPatch} {u changed : User} {now : WallTime} {actor : Option String}
    (h : p.applyTo u now actor = .ok changed) (hu : normalizeEmail (some u.email) = u.email) :
    normalizeEmail (some changed.email) = changed.email := by
  unfold UserPatch.applyTo at h
  simp only [bind_eq_ok_iff, pure_eq_ok_iff] at h
  obtain ⟨_, -, _, -, _, -, _, -, _, -, _, -, rfl⟩ := h
  cases p.email with
  | none => exact hu
  | some email => exact normalizeEmail_normalizeEmail email

/-- A user that is changed takes the place of its row, and differs from all the others. -/
theorem of_updateUser {t t' : Tables} {now : WallTime} {actor : Option String} {user changed : User}
    {patch : UserPatch} (h : t.updateUser now actor user patch = .ok (changed, t')) :
    t' = t.replaceUser user.id changed ∧ (∀ v ∈ t.users, v.id ≠ user.id → Differ v changed) ∧
      patch.applyTo user now actor = .ok changed := by
  unfold updateUser at h
  simp only [bind_eq_ok_iff, pure_eq_ok_iff, Prod.mk.injEq] at h
  obtain ⟨_, -, user', hchanged, _, hunique, rfl, rfl⟩ := h
  rw [requireUnique_eq_ok_iff] at hunique
  refine ⟨rfl, fun v hv hne => hunique v ?_, hchanged⟩
  exact List.mem_filter.mpr ⟨hv, decide_eq_true hne⟩

/-- Changing a user keeps the users apart. -/
theorem keyed_updateUser {t t' : Tables} {now : WallTime} {actor : Option String} {user changed : User}
    {patch : UserPatch} (hk : t.Keyed) (hmem : user ∈ t.users)
    (h : t.updateUser now actor user patch = .ok (changed, t')) : t'.Keyed := by
  obtain ⟨rfl, hdiffer, hchanged⟩ := of_updateUser h
  exact keyed_replaceUser hk hdiffer (normal_of_applyTo hchanged (hk.normal user hmem))

/-- The user of a number is a user. -/
theorem mem_of_userById {t : Tables} {n : Int} {user : User} (h : t.userById n = .ok user) :
    user ∈ t.users ∧ user.id = n ∧ user.isLive = true := by
  unfold userById userById? at h
  simp only [bind_eq_ok_iff, pure_eq_ok_iff] at h
  obtain ⟨o, ⟨_, -, rfl⟩, h⟩ := h
  split at h
  · rename_i u hu
    cases h
    have hprop := List.find?_some hu
    rw [Bool.and_eq_true, decide_eq_true_eq] at hprop
    exact ⟨List.mem_of_find?_eq_some hu, hprop.1, hprop.2⟩
  · cases h

/-- The user of an address is a user. -/
theorem mem_of_userByEmail? {t : Tables} {email : Option String} {user : User}
    (h : t.userByEmail? email = some user) : user ∈ t.users := by
  unfold userByEmail? at h
  simp only [] at h
  split at h
  · cases h
  · exact (List.mergeSort_perm t.users _).mem_iff.mp (List.mem_of_find?_eq_some h)

/-- The user of credentials is the user of the address. -/
theorem userByEmail?_of_userByCredentials {t : Tables} {email password : String} {user : User}
    (h : t.userByCredentials email password = .ok user) : t.userByEmail? (some email) = some user := by
  unfold userByCredentials at h
  split at h
  · cases h
  · rename_i u hu
    have hsame : u = user := by
      cases hactive : u.isActive with
      | false => simp [hactive, bind, Except.bind] at h
      | true =>
        simp only [hactive, Bool.not_true, Bool.false_eq_true, if_false, bind_eq_ok_iff] at h
        obtain ⟨verified, -, h⟩ := h
        cases verified with
        | false => simp [bind, Except.bind] at h
        | true =>
          cases h
          rfl
    rw [hu, hsame]

/-- The user of credentials is a user. -/
theorem mem_of_userByCredentials {t : Tables} {email password : String} {user : User}
    (h : t.userByCredentials email password = .ok user) : user ∈ t.users :=
  mem_of_userByEmail? (userByEmail?_of_userByCredentials h)

/-- Registering adds a user. -/
theorem createUser_of_register {t t' : Tables} {now : WallTime} {salts : FreshSalts}
    {form : RegisterForm} {u : User} (h : t.register now salts form = .ok (u, t')) :
    ∃ actor draft, t.createUser now actor draft = .ok (u, t') := by
  unfold register at h
  simp only [] at h
  split at h
  · rw [bind_eq_ok_iff] at h
    obtain ⟨_, h, -⟩ := h
    cases h
  · rw [bind_eq_ok_iff] at h
    obtain ⟨_, -, h⟩ := h
    exact ⟨_, _, h⟩

/-- An administrator's form adds a user. -/
theorem createUser_of_addUser {t t' : Tables} {now : WallTime} {salts : FreshSalts}
    {actor : Option String} {form : NewUserForm} {u : User}
    (h : t.addUser now salts actor form = .ok (u, t')) :
    ∃ draft, t.createUser now actor draft = .ok (u, t') := by
  unfold addUser at h
  rw [bind_eq_ok_iff] at h
  obtain ⟨_, -, h⟩ := h
  exact ⟨_, h⟩

/-- Registering keeps the users apart. -/
theorem keyed_register {t t' : Tables} {now : WallTime} {salts : FreshSalts} {form : RegisterForm}
    {u : User} (hk : t.Keyed) (h : t.register now salts form = .ok (u, t')) : t'.Keyed := by
  obtain ⟨actor, draft, hcreate⟩ := createUser_of_register h
  exact keyed_createUser hk hcreate

/-- Adding a user by an administrator's form keeps the users apart. -/
theorem keyed_addUser {t t' : Tables} {now : WallTime} {salts : FreshSalts} {actor : Option String}
    {form : NewUserForm} {u : User} (hk : t.Keyed)
    (h : t.addUser now salts actor form = .ok (u, t')) : t'.Keyed := by
  obtain ⟨draft, hcreate⟩ := createUser_of_addUser h
  exact keyed_createUser hk hcreate

/-! ### The user of an address -/

/-- The user of an address is the live one that has the address stored in its normal form. -/
theorem Keyed.userByEmail?_eq_some_iff {t : Tables} (hk : t.Keyed) {email : Option String} {u : User} :
    t.userByEmail? email = some u ↔
      normalizeEmail email ≠ "" ∧ u ∈ t.users ∧ u.isLive = true ∧ u.email = normalizeEmail email := by
  have hperm : (inOrder User.id t.users).Perm t.users := List.mergeSort_perm _ _
  have hstored : ∀ v ∈ t.users, Text.asciiLower v.email = v.email := by
    intro v hv
    rw [← hk.normal v hv]
    exact Text.asciiLower_lower _
  unfold userByEmail?
  simp only []
  by_cases hblank : normalizeEmail email = ""
  · rw [if_pos hblank]
    exact iff_of_false (Option.some_ne_none u).symm fun h => h.1 hblank
  · rw [if_neg hblank]
    constructor
    · intro h
      have hu := hperm.mem_iff.mp (List.mem_of_find?_eq_some h)
      have hprop := List.find?_some h
      rw [Bool.and_eq_true, beq_iff_eq, hstored u hu] at hprop
      exact ⟨hblank, hu, hprop.2, hprop.1⟩
    · rintro ⟨-, hu, hlive, hemail⟩
      have hfound : ∃ v, (inOrder User.id t.users).find? (fun u =>
          Text.asciiLower u.email == normalizeEmail email && u.isLive) = some v := by
        rw [← Option.isSome_iff_exists, List.find?_isSome]
        refine ⟨u, hperm.mem_iff.mpr hu, ?_⟩
        rw [Bool.and_eq_true, beq_iff_eq, hstored u hu]
        exact ⟨hemail, hlive⟩
      obtain ⟨v, hfind⟩ := hfound
      have hv := hperm.mem_iff.mp (List.mem_of_find?_eq_some hfind)
      have hprop := List.find?_some hfind
      rw [Bool.and_eq_true, beq_iff_eq, hstored v hv] at hprop
      have hsame : v = u := by
        by_contra hne
        exact (hk.differ hv hu hne).2 (hprop.1.trans hemail.symm)
      rw [hfind, hsame]

/-- The number of a new user is new. -/
theorem ne_nextUserId {t : Tables} {u : User} (hu : u ∈ t.users) : u.id ≠ t.nextUserId := by
  have hid : u.id ∈ t.users.map (·.id) := List.mem_map_of_mem hu
  unfold nextUserId
  split
  · rename_i n hmax
    have hle := (List.max?_eq_some_iff.mp hmax).2 _ hid
    omega
  · rename_i hmax
    rw [List.max?_eq_none_iff] at hmax
    rw [hmax] at hid
    cases hid

end Tables

end Backoffice
