import Mathlib
import Backoffice.Proofs.Directory.Keys

/-!
# Single rows

As long as users have different numbers, a write concerns one row: it adds a row behind the others, or
puts a changed row in the place of one (`Tables.changes_replaceUser`).  Every write keeps the numbers
different.
-/

namespace Backoffice

namespace Tables

variable {t t' : Tables} {now : WallTime} {actor : Option String} {u user changed : User}

/-- Different users have different numbers. -/
def HasDistinctNumbers (t : Tables) : Prop :=
  (t.users.map (·.id)).Nodup

/-- The new rows are the old ones with one row changed. -/
def Changes (user changed : User) (rows rows' : List User) : Prop :=
  ∃ before after, rows = before ++ user :: after ∧ rows' = before ++ changed :: after

/-- Among users with different numbers, none of the others has the number of a user. -/
theorem ne_of_nodup_middle {before after : List User}
    (h : ((before ++ user :: after).map (·.id)).Nodup) : ∀ v ∈ before ++ after, v.id ≠ user.id := by
  rw [List.map_append, List.map_cons, List.nodup_middle, List.nodup_cons, ← List.map_append] at h
  intro v hv heq
  exact h.1 (List.mem_map.mpr ⟨v, hv, heq⟩)

/-- Putting a user in the place of another changes the row of that user and no other. -/
theorem changes_replaceUser (h : t.HasDistinctNumbers) (hmem : user ∈ t.users) (changed : User) :
    Changes user changed t.users (t.replaceUser user.id changed).users := by
  obtain ⟨before, after, hrows⟩ := List.append_of_mem hmem
  unfold HasDistinctNumbers at h
  rw [hrows] at h
  have hothers := ne_of_nodup_middle h
  have hkept : ∀ rows : List User, (∀ v ∈ rows, v.id ≠ user.id) →
      (rows.map fun v => if v.id = user.id then changed else v) = rows := by
    intro rows hne
    rw [List.map_congr_left fun v hv => if_neg (hne v hv), List.map_id']
  refine ⟨before, after, hrows, ?_⟩
  unfold replaceUser
  simp only [hrows, List.map_append, List.map_cons, if_true]
  rw [hkept before fun v hv => hothers v (List.mem_append_left _ hv),
    hkept after fun v hv => hothers v (List.mem_append_right _ hv)]

/-- A change keeps the numbers different if the changed row takes the number of no other. -/
theorem HasDistinctNumbers.of_changes {rows : List User} (h : t.HasDistinctNumbers)
    (hchanges : Changes user changed t.users rows)
    (hdiffer : ∀ v ∈ t.users, v.id ≠ user.id → v.id ≠ changed.id) :
    (rows.map (·.id)).Nodup := by
  obtain ⟨before, after, hrows, rfl⟩ := hchanges
  unfold HasDistinctNumbers at h
  rw [hrows] at h hdiffer
  have hothers := ne_of_nodup_middle h
  rw [List.map_append, List.map_cons, List.nodup_middle, List.nodup_cons, ← List.map_append] at h ⊢
  refine ⟨?_, h.2⟩
  intro hmem
  obtain ⟨v, hv, heq⟩ := List.mem_map.mp hmem
  refine hdiffer v ?_ (hothers v hv) heq
  rcases List.mem_append.mp hv with hv | hv
  · exact List.mem_append_left _ hv
  · exact List.mem_append_right _ (List.mem_cons_of_mem _ hv)

/-- Adding a user keeps the numbers different. -/
theorem HasDistinctNumbers.createUser {draft : UserDraft} (h : t.HasDistinctNumbers)
    (hcreate : t.createUser now actor draft = .ok (u, t')) : t'.HasDistinctNumbers := by
  obtain ⟨rfl, hdiffer, -⟩ := of_createUser hcreate
  unfold HasDistinctNumbers
  rw [List.map_append, List.nodup_append']
  refine ⟨h, List.nodup_singleton _, ?_⟩
  intro n hn hn'
  obtain ⟨v, hv, rfl⟩ := List.mem_map.mp hn
  exact (hdiffer v hv).1 (List.mem_singleton.mp hn')

/-- Changing columns of a user other than its number keeps the numbers different. -/
theorem HasDistinctNumbers.replaceUser_same (h : t.HasDistinctNumbers) (hmem : user ∈ t.users)
    (hid : changed.id = user.id) : (t.replaceUser user.id changed).HasDistinctNumbers :=
  h.of_changes (changes_replaceUser h hmem changed) fun _ _ hne => hid ▸ hne

/-- Changing a user keeps the numbers different. -/
theorem HasDistinctNumbers.updateUser {patch : UserPatch} (h : t.HasDistinctNumbers)
    (hmem : user ∈ t.users) (hupdate : t.updateUser now actor user patch = .ok (changed, t')) :
    t'.HasDistinctNumbers := by
  obtain ⟨rfl, hdiffer, -⟩ := of_updateUser hupdate
  exact h.of_changes (changes_replaceUser h hmem changed) fun v hv hne => (hdiffer v hv hne).1

end Tables

end Backoffice
