import Mathlib
import Backoffice.Proofs.Directory.WordSizes
import Backoffice.Proofs.Query.CodedRanges
import Backoffice.Proofs.Query.Exchange

/-!
# Ranges between the same instants

The bounds of a date range filter are moments, and whether it selects anything is told from their instants.
The times of users are stored without an offset, though, and a bound is compared with them by what the clock
shows at it.  So ranges between the same instants stand for each other only if they are written with the same
offsets, or if both end, on the clock, before they begin (`Tables.interchangeable_iff`).
-/

namespace Backoffice

/-! ### Clocks and instants -/

/-- The times between two times are those between two others exactly if these are the same, or neither two
have times between them. -/
theorem WallTime.between_iff {a b a' b' : WallTime} :
    (∀ w : WallTime, (a.micros ≤ w.micros ∧ w.micros ≤ b.micros) ↔
      (a'.micros ≤ w.micros ∧ w.micros ≤ b'.micros)) ↔
      (a = a' ∧ b = b') ∨ (b.micros < a.micros ∧ b'.micros < a'.micros) := by
  constructor
  · intro h
    -- the four ends tell the stretches apart
    have hcorners := And.intro (h a) (And.intro (h b) (And.intro (h a') (h b')))
    obtain ⟨m, hm⟩ := a
    obtain ⟨n, hn⟩ := b
    obtain ⟨m', hm'⟩ := a'
    obtain ⟨n', hn'⟩ := b'
    simp only [mk.injEq] at hcorners ⊢
    omega
  · rintro (⟨rfl, rfl⟩ | ⟨hempty, hempty'⟩) w
    · exact Iff.rfl
    · omega

/-- Moments of the same instant have the same offset exactly if their clocks show the same. -/
theorem Moment.offset_eq_iff {m n : Moment} (hm : m.offset.isSome = true) (hn : n.offset.isSome = true)
    (h : m.instant = n.instant) : m.offset = n.offset ↔ m.wall = n.wall := by
  obtain ⟨⟨t, ht⟩, o⟩ := m
  obtain ⟨⟨u, hu⟩, q⟩ := n
  obtain ⟨⟨x, hx⟩, rfl⟩ := Option.isSome_iff_exists.mp hm
  obtain ⟨⟨y, hy⟩, rfl⟩ := Option.isSome_iff_exists.mp hn
  simp only [instant, Offset.micros, secondMicros] at h
  simp only [Option.some.injEq, Offset.mk.injEq, WallTime.mk.injEq]
  omega

/-- A moment with an offset keeps it. -/
theorem Moment.withOffsetOf_of_isSome {m : Moment} (h : m.offset.isSome = true) (other : Option Moment) :
    m.withOffsetOf other = m := by
  obtain ⟨wall, offset⟩ := m
  obtain ⟨o, rfl⟩ := Option.isSome_iff_exists.mp h
  rfl

/-! ### Ranges with offsets -/

namespace DateRangeFilter

/-- The filter is a range that selects something, and its bounds are these moments, which have offsets. -/
structure Spans (f : DateRangeFilter) (a b : Moment) : Prop where
  isRange : f.isRange = true
  isApplicable : f.isApplicable = true
  start_eq : f.startDate = some a
  end_eq : f.endDate = some b
  start_aware : a.offset.isSome = true
  end_aware : b.offset.isSome = true

/-- The predicate of a range with offsets names its bounds as they are. -/
theorem Spans.predicate_eq {f : DateRangeFilter} {a b : Moment} (h : f.Spans a b) :
    f.predicate = .ok (.range f.fieldName a b) := by
  refine predicate_of_range h.isRange ?_ ?_
  · unfold lower
    rw [h.start_eq, Option.map_some, Moment.withOffsetOf_of_isSome h.start_aware]
  · unfold upper
    rw [h.end_eq, Option.map_some, Moment.withOffsetOf_of_isSome h.end_aware]

end DateRangeFilter

/-- Ranges with the same times between their bounds ask alike of a column of times, and of one that is not
there. -/
theorem Node.askAlike_of_between {ρ : Type} {columns : ColumnMap ρ} {field : String} {a b a' b' : Moment}
    (hcolumn : ∀ c, columns.lookup field = some c → ∃ read, c = .time read)
    (h : ∀ w : WallTime, (a.wall.micros ≤ w.micros ∧ w.micros ≤ b.wall.micros) ↔
      (a'.wall.micros ≤ w.micros ∧ w.micros ≤ b'.wall.micros)) :
    AskAlike columns (.range field a b) (.range field a' b') := by
  refine ⟨rfl, rfl, fun row => ?_, rfl, rfl, rfl⟩
  cases hc : columns.lookup field with
  | none => simp only [range, holds, holdAll, hc, Option.any_none, Bool.false_and]
  | some c =>
    obtain ⟨read, rfl⟩ := hcolumn c hc
    rw [Bool.eq_iff_iff, holds_range hc, holds_range hc]
    exact exists_congr fun w => and_congr_right fun _ => h w

/-! ### Requests -/

/-- Statements with the predicates of a request need the same whatever its date range filters are. -/
theorem ListSpec.exists_needsOnly_exchange {ρ : Type} {spec : ListSpec} {columns : ColumnMap ρ}
    (hserved : spec.IsServed columns) (hscope : spec.scope ≠ .fixed) (p : ListParams) (raw : Option String) :
    ∃ fits, ∀ ns, spec.predicates p = .ok ns ∨ spec.predicates { p with ranges := raw } = .ok ns →
      Directive.NeedsOnly columns ns fits := by
  refine ⟨FiltersFit p ∧ spec.SelectionFits p, ?_⟩
  rintro ns (hns | hns)
  · exact needsOnly_predicates hserved hscope hns
  · -- neither condition looks at the date range filters
    have hneeds : Directive.NeedsOnly columns ns (FiltersFit { p with ranges := raw } ∧
        spec.SelectionFits { p with ranges := raw }) := needsOnly_predicates hserved hscope hns
    exact hneeds

/-- The predicates of a list of users do not depend on its default sort. -/
theorem User.predicates_listSpecSortedBy (defaultSort : String) (p : ListParams) :
    (listSpecSortedBy defaultSort).predicates p = listSpec.predicates p := rfl

/-- In the list of users a field of times is a column of times. -/
theorem User.exists_time_of_columns {field : String} {c : Column User}
    (hfield : field ∈ ["login_date", "created_at", "updated_at"]) (hc : columns.lookup field = some c) :
    ∃ read, c = .time read := by
  obtain ⟨read, hread, -⟩ := lookup_time hfield
  exact ⟨read, Option.some.inj (hc.symm.trans hread)⟩

/-- In the picker of users a field of times is a column of times, if there is one. -/
theorem User.exists_time_of_pickerColumns {field : String} {c : Column User}
    (hfield : field ∈ ["login_date", "created_at", "updated_at"])
    (hc : pickerColumns.lookup field = some c) : ∃ read, c = .time read := by
  simp only [List.mem_cons, List.not_mem_nil, or_false] at hfield
  rcases hfield with rfl | rfl | rfl
  · cases hc
  · cases hc
    exact ⟨_, rfl⟩
  · cases hc

/-- A user all of whose times are the same. -/
def User.everAt (w : WallTime) : User :=
  { named 1 "Anna" "a@b.c" (some w) with loginDate := some w, updatedAt := some w }

/-- Any time of the user is that time. -/
theorem User.time?_everAt (w : WallTime) {field : String}
    (hfield : field ∈ ["login_date", "created_at", "updated_at"]) : (everAt w).time? field = some w := by
  simp only [List.mem_cons, List.not_mem_nil, or_false] at hfield
  rcases hfield with rfl | rfl | rfl <;> rfl

namespace Tables

/-- One filter can stand for the other beside any other filters: whatever the tables, the path and the
request, the list of users and the picker of users show the same and count the same, or fail in the same
way. -/
def Interchangeable (f g : DateRangeFilter) : Prop :=
  ∀ (t : Tables) (path : AccessPath) (settings : Settings) (p : ListParams) (raw : Option String)
    (before after : List DateRangeFilter),
    decodeDateRanges p.ranges = .ok (before ++ f :: after) →
    decodeDateRanges raw = .ok (before ++ g :: after) →
    (∀ defaultSort,
      (do t.listUsers (← (User.listSpecSortedBy defaultSort).compile settings p) path) =
        do t.listUsers
            (← (User.listSpecSortedBy defaultSort).compile settings { p with ranges := raw }) path) ∧
    (do t.lookup .user (← LookupSource.user.listSpec.compile settings p) path) =
      do t.lookup .user (← LookupSource.user.listSpec.compile settings { p with ranges := raw }) path

/-- Filters whose predicates ask alike can stand for each other. -/
theorem interchangeable_of_askAlike {f g : DateRangeFilter} {n m : Node} (hf : f.predicate = .ok n)
    (hg : g.predicate = .ok m) (hfield : g.fieldName = f.fieldName)
    (hlist : Node.AskAlike User.columns n m) (hpicker : Node.AskAlike User.pickerColumns n m) :
    Interchangeable f g := by
  intro t path settings p raw before after hp hraw
  constructor
  · intro defaultSort
    refine ListSpec.list_exchange Scope.noConfusion hf hg hlist hfield hp hraw ?_ _
    simp only [User.predicates_listSpecSortedBy]
    exact ListSpec.exists_needsOnly_exchange User.isServed_listSpec Scope.noConfusion p raw
  · have hscope := LookupSource.user.scope_ne_fixed
    simp only [lookup_user_eq, ← map_bind]
    refine congrArg _ ?_
    exact ListSpec.list_exchange hscope hf hg hpicker hfield hp hraw
      (ListSpec.exists_needsOnly_exchange User.isServed_picker hscope p raw) _

/-! ### Lists with one filter -/

/-- The request for the users of a filter, one on each page. -/
def onlyRange (f : DateRangeFilter) : ListParams where
  pageIndex := 1
  pageSize := 1
  sort := none
  sortAscending := true
  search := none
  lookups := none
  ranges := some (coded (.arr [.obj (f.toFields false)]))
  selectedIds := none

/-- The tables with one user, all of whose times are the same. -/
def onlyUser (w : WallTime) : Tables :=
  ⟨[], [User.everAt w], [], []⟩

/-- The filter of the request is read back. -/
theorem decodeDateRanges_onlyRange {f : DateRangeFilter} (h : f.isApplicable = true) :
    decodeDateRanges (onlyRange f).ranges = .ok [f] := by
  refine (decodeDateRanges_toFields false [f]).trans ?_
  rw [List.filter_singleton, h]
  rfl

/-- The only user is counted if the time is between those that clocks show at the bounds of the range. -/
theorem listUsers_onlyRange {f : DateRangeFilter} {a b : Moment} (h : f.Spans a b)
    (hfield : f.fieldName ∈ ["login_date", "created_at", "updated_at"]) (path : AccessPath)
    (settings : Settings) (w : WallTime) :
    ∃ l, (do (onlyUser w).listUsers (← User.listSpec.compile settings (onlyRange f)) path) = .ok l ∧
      l.total = if a.wall.micros ≤ w.micros ∧ w.micros ≤ b.wall.micros then 1 else 0 := by
  have hknown : ∀ name ∈ ["login_date", "created_at", "updated_at"], name ∈ User.listSpec.fields := by
    decide
  have hranges := decodeDateRanges_onlyRange h.isApplicable
  have hchain : User.listSpec.chain (onlyRange f) = .ok [.notDeleted, .range f.fieldName a b] :=
    ListSpec.chain_eq_ok_iff.mpr ⟨[], [f], _, rfl, hranges, by simp,
      by simpa using hknown _ hfield, .cons h.predicate_eq .nil, rfl⟩
  have hcompile : User.listSpec.compile settings (onlyRange f) = .ok _ :=
    (ListSpec.compile_eq_ok_iff Scope.noConfusion).mpr ⟨"name", _, rfl, hchain, rfl⟩
  have hfits : User.listSpec.NumbersFit (onlyRange f) := by
    refine ⟨⟨?_, nofun⟩, (by decide : fitsWord 1 = true), (by decide : fitsWord 0 = true)⟩
    intro equality hequality
    cases hequality
    exact nofun
  obtain ⟨l, hl⟩ := (ListSpec.list_resultsIf User.isServed_listSpec Scope.noConfusion hcompile
    (path.visit User.id User.columns _ (onlyUser w).users)).1 hfits
  rw [hcompile]
  refine ⟨l, hl, ?_⟩
  obtain ⟨read, hread, htime⟩ := User.lookup_time hfield
  have hlive : Node.notDeleted.holds User.columns (User.everAt w) = true :=
    (User.holds_notDeleted _).mpr (by simp [User.everAt, User.named])
  have hcovers : (Node.range f.fieldName a b).holds User.columns (User.everAt w) = true ↔
      a.wall.micros ≤ w.micros ∧ w.micros ≤ b.wall.micros := by
    rw [Node.holds_range hread, htime, User.time?_everAt w hfield]
    simp only [Option.mem_some_iff, exists_eq_left']
  obtain ⟨conditions, keys, -, rfl⟩ := Directive.list_eq_ok_iff.mp hl
  rw [((path.visit_perm User.id User.columns _ (onlyUser w).users).filter _).length_eq, onlyUser,
    List.filter_singleton]
  unfold Directive.keeps
  simp only [List.all_cons, List.all_nil, Bool.and_true, hlive, Bool.true_and, ← hcovers]
  cases (Node.range f.fieldName a b).holds User.columns (User.everAt w) <;> rfl

/-! ### The main result -/

/-- Two ranges between the same instants can stand for each other exactly if they are written with the same
offsets, or if both of them end on the clock before they begin, and so select nobody. -/
theorem interchangeable_iff {f g : DateRangeFilter} {a b a' b' : Moment} (hf : f.Spans a b)
    (hg : g.Spans a' b') (hfield : g.fieldName = f.fieldName)
    (htime : f.fieldName ∈ ["login_date", "created_at", "updated_at"])
    (hstart : a.instant = a'.instant) (hend : b.instant = b'.instant) :
    Interchangeable f g ↔ (a.offset = a'.offset ∧ b.offset = b'.offset) ∨
      (b.wall.micros < a.wall.micros ∧ b'.wall.micros < a'.wall.micros) := by
  rw [Moment.offset_eq_iff hf.start_aware hg.start_aware hstart,
    Moment.offset_eq_iff hf.end_aware hg.end_aware hend, ← WallTime.between_iff]
  constructor
  · intro h w
    obtain ⟨l, hl, htotal⟩ := listUsers_onlyRange hf htime .byNumber (Settings.standard "" "") w
    obtain ⟨l', hl', htotal'⟩ := listUsers_onlyRange hg (hfield ▸ htime) .byNumber (Settings.standard "" "") w
    have hsame := (h (onlyUser w) .byNumber (Settings.standard "" "") (onlyRange f) (onlyRange g).ranges [] []
      (decodeDateRanges_onlyRange hf.isApplicable) (decodeDateRanges_onlyRange hg.isApplicable)).1 "name"
    have heq : l = l' := Except.ok.inj (hl.symm.trans (hsame.trans hl'))
    rw [heq, htotal'] at htotal
    split_ifs at htotal with hout hin hin
    · exact iff_of_true hin hout
    · exact iff_of_false hin hout
  · intro h
    have hpredicate := hg.predicate_eq
    rw [hfield] at hpredicate
    exact interchangeable_of_askAlike hf.predicate_eq hpredicate hfield
      (Node.askAlike_of_between (fun _ => User.exists_time_of_columns htime) h)
      (Node.askAlike_of_between (fun _ => User.exists_time_of_pickerColumns htime) h)

/-- The filter for the users who were created from one moment to another. -/
def createdBetween (start stop : Moment) : DateRangeFilter :=
  ⟨"created_at", some start, some stop, true, true⟩

/-- The second of January 2024 in UTC, and the same stretch on a clock two hours ahead, cannot stand for each
other.  Two ranges from midnight to one o'clock in UTC can whose ends are written with a smaller offset than
their beginnings, so that both go back on the clock. -/
theorem interchangeable_iff_secondOfJanuary :
    let midnight : Moment := ⟨⟨63839750400000000, by decide⟩, some .utc⟩
    let nextMidnight : Moment := ⟨⟨63839836800000000, by decide⟩, some .utc⟩
    let twoAhead : Moment := ⟨⟨63839757600000000, by decide⟩, some ⟨120, by decide⟩⟩
    let nextTwoAhead : Moment := ⟨⟨63839844000000000, by decide⟩, some ⟨120, by decide⟩⟩
    let threeAhead : Moment := ⟨⟨63839761200000000, by decide⟩, some ⟨180, by decide⟩⟩
    let one : Moment := ⟨⟨63839754000000000, by decide⟩, some .utc⟩
    let oneOneAhead : Moment := ⟨⟨63839757600000000, by decide⟩, some ⟨60, by decide⟩⟩
    midnight.instant = twoAhead.instant ∧ nextMidnight.instant = nextTwoAhead.instant ∧
      ¬ Interchangeable (createdBetween midnight nextMidnight) (createdBetween twoAhead nextTwoAhead) ∧
      Interchangeable (createdBetween twoAhead one) (createdBetween threeAhead oneOneAhead) := by
  intro midnight nextMidnight twoAhead nextTwoAhead threeAhead one oneOneAhead
  have hday : (createdBetween midnight nextMidnight).Spans midnight nextMidnight :=
    ⟨rfl, by decide, rfl, rfl, rfl, rfl⟩
  have hahead : (createdBetween twoAhead nextTwoAhead).Spans twoAhead nextTwoAhead :=
    ⟨rfl, by decide, rfl, rfl, rfl, rfl⟩
  have hback : (createdBetween twoAhead one).Spans twoAhead one := ⟨rfl, by decide, rfl, rfl, rfl, rfl⟩
  have hback' : (createdBetween threeAhead oneOneAhead).Spans threeAhead oneOneAhead :=
    ⟨rfl, by decide, rfl, rfl, rfl, rfl⟩
  refine ⟨by decide, by decide, ?_, ?_⟩
  · exact (interchangeable_iff hday hahead rfl (by decide) (by decide) (by decide)).not.mpr (by decide)
  · exact (interchangeable_iff hback hback' rfl (by decide) (by decide) (by decide)).mpr (by decide)

/-- Of the two stretches of the second of January the first has half past midnight, and the second has not: a
user who was created then is counted by the one filter only. -/
theorem listUsers_secondOfJanuary :
    let midnight : Moment := ⟨⟨63839750400000000, by decide⟩, some .utc⟩
    let nextMidnight : Moment := ⟨⟨63839836800000000, by decide⟩, some .utc⟩
    let twoAhead : Moment := ⟨⟨63839757600000000, by decide⟩, some ⟨120, by decide⟩⟩
    let nextTwoAhead : Moment := ⟨⟨63839844000000000, by decide⟩, some ⟨120, by decide⟩⟩
    let f := createdBetween midnight nextMidnight
    let g := createdBetween twoAhead nextTwoAhead
    let t := onlyUser ⟨63839752200000000, by decide⟩
    let settings := Settings.standard "" ""
    f.Spans midnight nextMidnight ∧ g.Spans twoAhead nextTwoAhead ∧ g.fieldName = f.fieldName ∧
      midnight.instant = twoAhead.instant ∧ nextMidnight.instant = nextTwoAhead.instant ∧
      ∃ l l', l.total = 1 ∧ l'.total = 0 ∧
        (do t.listUsers (← User.listSpec.compile settings (onlyRange f))) = .ok l ∧
        (do t.listUsers (← User.listSpec.compile settings (onlyRange g))) = .ok l' := by
  intro midnight nextMidnight twoAhead nextTwoAhead f g t settings
  have hf : f.Spans midnight nextMidnight := ⟨rfl, by decide, rfl, rfl, rfl, rfl⟩
  have hg : g.Spans twoAhead nextTwoAhead := ⟨rfl, by decide, rfl, rfl, rfl, rfl⟩
  obtain ⟨l, hl, htotal⟩ :=
    listUsers_onlyRange hf (by decide) .byNumber settings ⟨63839752200000000, by decide⟩
  obtain ⟨l', hl', htotal'⟩ :=
    listUsers_onlyRange hg (by decide) .byNumber settings ⟨63839752200000000, by decide⟩
  exact ⟨hf, hg, rfl, by decide, by decide, l, l', htotal.trans (by decide), htotal'.trans (by decide), hl, hl'⟩

end Tables

end Backoffice
