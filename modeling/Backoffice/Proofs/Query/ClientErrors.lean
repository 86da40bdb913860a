import Mathlib
import Backoffice.Directory.UserList
import Backoffice.Proofs.Calendar.Spans
import Backoffice.Proofs.Query.Compile

/-!
# How compiling a request ends

A request that cannot be compiled is refused as the client's error: a coded filter that cannot be
decoded, or a field that is not known.  There is one exception in what a client can send: a filter for
the day after a date, where the calendar ends before that day does (`ListSpec.compile_answered_iff`).
-/

namespace Backoffice

/-- The outcome is an answer to the client: a result, or a refusal as a bad request. -/
def Answered {α : Type} (x : Except Failure α) : Prop :=
  (∃ a, x = .ok a) ∨ ∃ r : Refusal, x = .error (.refused r) ∧ r.status = 400

namespace Answered

variable {α β : Type}

/-- A result is an answer. -/
theorem ok (a : α) : Answered (.ok a) :=
  Or.inl ⟨a, rfl⟩

/-- Steps that all end with an answer end with an answer together. -/
theorem bind {x : Except Failure α} {f : α → Except Failure β} (hx : Answered x)
    (hf : ∀ a, x = .ok a → Answered (f a)) : Answered (x >>= f) := by
  rcases hx with ⟨a, rfl⟩ | ⟨r, rfl, hr⟩
  · exact hf a rfl
  · exact Or.inr ⟨r, rfl, hr⟩

/-- A failure that is no refusal is not an answer. -/
theorem not_of_error {x : Except Failure α} {e : Failure} (h : x = .error e)
    (he : ∀ r, e ≠ .refused r) : ¬ Answered x := by
  rintro (⟨a, ha⟩ | ⟨r, hr, -⟩)
  · rw [h] at ha
    cases ha
  · rw [h] at hr
    exact he r (Except.error.inj hr)

end Answered

/-! ### Coded filters -/

/-- The items of a coded filter are refused as such a filter. -/
theorem exists_badFilter_of_items {kind : FilterKind} {raw : Option String} {r : Refusal}
    (h : kind.items raw = .error r) : ∃ reason, r = .badFilter kind reason := by
  unfold FilterKind.items at h
  dsimp only at h
  generalize (if Text.strip (Text.orEmpty raw) = "" then ""
    else Text.strip (Text.Percent.decode (Text.strip (Text.orEmpty raw)))) = text at h
  split at h
  · cases h
  · split at h
    · cases h
      exact ⟨_, rfl⟩
    · cases h
    · cases h
    · cases h
      exact ⟨_, rfl⟩

/-- An item of a coded filter is refused as part of such a filter. -/
theorem exists_badFilter_of_decodeItem {α : Type} {kind : FilterKind} {reason : BadFilter}
    {read : List (String × Json) → Form.Checked α} {v : Json} {r : Refusal}
    (h : decodeItem kind reason read v = .error r) : ∃ reason, r = .badFilter kind reason := by
  unfold decodeItem at h
  split at h
  · split at h
    · cases h
    · cases h
      exact ⟨_, rfl⟩
  · cases h
    exact ⟨_, rfl⟩

/-- A selected row is refused as part of the selected rows. -/
theorem exists_badFilter_of_decodeSelectedId {v : Json} {r : Refusal}
    (h : decodeSelectedId v = .error r) : ∃ reason, r = .badFilter .selectedIds reason := by
  unfold decodeSelectedId at h
  split at h
  · cases h
  · cases h
    exact ⟨_, rfl⟩

/-- A coded filter whose items are decoded one by one is refused as such a filter. -/
theorem exists_badFilter_of_decode {α β : Type} {kind : FilterKind} {raw : Option String}
    {decode : Json → Except Refusal α} {finish : List α → β} {r : Refusal}
    (hdecode : ∀ v r, decode v = .error r → ∃ reason, r = .badFilter kind reason)
    (h : (do
      let items ← kind.items raw
      return finish (← items.mapM decode)) = .error r) : ∃ reason, r = .badFilter kind reason := by
  rcases bind_eq_error_iff.mp h with hitems | ⟨items, -, h⟩
  · exact exists_badFilter_of_items hitems
  · rcases bind_eq_error_iff.mp h with hdecoded | ⟨decoded, -, hpure⟩
    · obtain ⟨v, -, hv⟩ := exists_mem_of_mapM_eq_error hdecoded
      exact hdecode v r hv
    · cases hpure

/-- Equality filters are refused as such. -/
theorem exists_badFilter_of_decodeEqualityFilters {raw : Option String} {r : Refusal}
    (h : decodeEqualityFilters raw = .error r) : ∃ reason, r = .badFilter .lookups reason :=
  exists_badFilter_of_decode (fun _ _ => exists_badFilter_of_decodeItem) h

/-- Date range filters are refused as such. -/
theorem exists_badFilter_of_decodeDateRanges {raw : Option String} {r : Refusal}
    (h : decodeDateRanges raw = .error r) : ∃ reason, r = .badFilter .ranges reason :=
  exists_badFilter_of_decode (fun _ _ => exists_badFilter_of_decodeItem) h

/-- Selected rows are refused as such. -/
theorem exists_badFilter_of_decodeSelectedIds {raw : Option String} {r : Refusal}
    (h : decodeSelectedIds raw = .error r) : ∃ reason, r = .badFilter .selectedIds reason :=
  exists_badFilter_of_decode (fun _ _ => exists_badFilter_of_decodeSelectedId) h

/-! ### The end of the calendar -/

namespace DateRangeFilter

/-- The filter selects the day after a date, and the calendar ends before that day does. -/
def LeavesCalendar (f : DateRangeFilter) : Prop :=
  f.isRange = false ∧ ∃ m ∈ f.startDate, calendarDays ≤ m.wall.micros / dayMicros + 2

instance (f : DateRangeFilter) : Decidable f.LeavesCalendar :=
  inferInstanceAs (Decidable
    (f.isRange = false ∧ ∃ m ∈ f.startDate, calendarDays ≤ m.wall.micros / dayMicros + 2))

/-- A stretch of time cannot be selected if one of its ends is missing. -/
theorem between_eq_error_iff {field : String} {x y : Option Moment} {o : Overflow} :
    between field x y = .error o ↔ o = .date ∧ (x = none ∨ y = none) := by
  cases x <;> cases y <;> simp [between, eq_comm]

/-- A date range filter gives no predicate exactly if it leaves the calendar. -/
theorem predicate_eq_error_iff {f : DateRangeFilter} {o : Overflow} :
    f.predicate = .error o ↔ o = .date ∧ f.LeavesCalendar := by
  unfold predicate LeavesCalendar
  cases hrange : f.isRange with
  | true => simp
  | false =>
    cases hstart : f.startDate with
    | none => simp
    | some start =>
      have hends : (start.startOfDay.addDays? 1 = none ∨ start.startOfDay.addDays? 2 = none) ↔
          calendarDays ≤ start.wall.micros / dayMicros + 2 := by
        rw [← Nat.cast_one, ← Nat.cast_two, WallTime.startOfDay_addDays?_eq_none_iff,
          WallTime.startOfDay_addDays?_eq_none_iff]
        omega
      simp [between_eq_error_iff, hends]

/-- Date range filters give their predicates if none of them leaves the calendar. -/
theorem exists_mapM_predicate {ranges : List DateRangeFilter}
    (h : ∀ f ∈ ranges, ¬ f.LeavesCalendar) : ∃ days, ranges.mapM (·.predicate) = .ok days := by
  refine exists_mapM_eq_ok_iff.mpr fun f hf => ?_
  cases hpredicate : f.predicate with
  | ok day => exact ⟨day, rfl⟩
  | error o => exact absurd (predicate_eq_error_iff.mp hpredicate).2 (h f hf)

/-- Date range filters of which one leaves the calendar give no predicates. -/
theorem mapM_predicate_eq_error {ranges : List DateRangeFilter} {f : DateRangeFilter}
    (hf : f ∈ ranges) (h : f.LeavesCalendar) : ranges.mapM (·.predicate) = .error .date := by
  cases hdays : ranges.mapM (·.predicate) with
  | ok days =>
    obtain ⟨day, hday⟩ := exists_mapM_eq_ok_iff.mp ⟨days, hdays⟩ f hf
    rw [predicate_eq_error_iff.mpr ⟨rfl, h⟩] at hday
    cases hday
  | error o =>
    obtain ⟨f', -, hpredicate⟩ := exists_mem_of_mapM_eq_error hdays
    rw [(predicate_eq_error_iff.mp hpredicate).1]

end DateRangeFilter

namespace ListSpec

variable {spec : ListSpec} {settings : Settings} {p : ListParams}

/-! ### The steps of compiling -/

/-- A step that can only be refused as a bad request is an answer. -/
theorem answered_refuse {α : Type} {x : Except Refusal α}
    (h : ∀ r, x = .error r → ∃ kind reason, r = .badFilter kind reason) : Answered (refuse x) := by
  cases hx : x with
  | ok a => exact .ok a
  | error r =>
    obtain ⟨kind, reason, rfl⟩ := h r hx
    exact Or.inr ⟨_, rfl, rfl⟩

/-- Decoding equality filters ends with an answer. -/
theorem answered_equality (raw : Option String) : Answered (refuse (decodeEqualityFilters raw)) :=
  answered_refuse fun _ h => ⟨_, exists_badFilter_of_decodeEqualityFilters h⟩

/-- Decoding date range filters ends with an answer. -/
theorem answered_ranges (raw : Option String) : Answered (refuse (decodeDateRanges raw)) :=
  answered_refuse fun _ h => ⟨_, exists_badFilter_of_decodeDateRanges h⟩

/-- Decoding selected rows ends with an answer. -/
theorem answered_selectedIds (raw : Option String) : Answered (refuse (decodeSelectedIds raw)) :=
  answered_refuse fun _ h => ⟨_, exists_badFilter_of_decodeSelectedIds h⟩

/-- Checking fields ends with an answer. -/
theorem answered_checkFields (use : FieldUse) (names : List String) :
    Answered (spec.checkFields use names) := by
  unfold checkFields
  split
  · exact Or.inr ⟨_, rfl, rfl⟩
  · exact .ok ()

/-- If there is a default, the choice of the sort field ends with an answer. -/
theorem answered_sortField (hdefault : Text.nonBlank? (some spec.defaultSort) ≠ none)
    (requested : Option String) : Answered (spec.sortField requested) := by
  unfold sortField
  split
  · split
    · exact .ok _
    · exact Or.inr ⟨_, rfl, rfl⟩
  · split
    · exact .ok _
    · rename_i hblank
      exact absurd hblank hdefault

/-- If there is a default, a sort field is found exactly if the requested one is known. -/
theorem exists_sortField_iff (hdefault : Text.nonBlank? (some spec.defaultSort) ≠ none)
    {requested : Option String} : (∃ field, spec.sortField requested = .ok field) ↔
      ∀ name, Text.nonBlank? requested = some name → name ∈ spec.fields := by
  unfold sortField
  cases hrequested : Text.nonBlank? requested with
  | some name =>
    by_cases hname : name ∈ spec.fields
    · simp [hname]
    · simp [hname]
  | none =>
    cases hfield : Text.nonBlank? (some spec.defaultSort) with
    | some field => simp
    | none => exact absurd hfield hdefault

/-! ### Requests beyond the calendar -/

/-- The filters of the request can be decoded and are on known fields, but one of them leaves the
calendar. -/
structure FilterLeavesCalendar (spec : ListSpec) (p : ListParams) (equality : List EqualityFilter)
    (ranges : List DateRangeFilter) : Prop where
  equality_eq : decodeEqualityFilters p.lookups = .ok equality
  ranges_eq : decodeDateRanges p.ranges = .ok ranges
  equality_known : ∀ f ∈ equality, f.fieldName ∈ spec.fields
  ranges_known : ∀ f ∈ ranges, f.fieldName ∈ spec.fields
  leaves : ∃ f ∈ ranges, f.LeavesCalendar

/-- The request is fine in all respects but that one of its filters leaves the calendar. -/
def AsksBeyondCalendar (spec : ListSpec) (p : ListParams) : Prop :=
  (∀ name, Text.nonBlank? p.sort = some name → name ∈ spec.fields) ∧
    ∃ equality ranges, spec.FilterLeavesCalendar p equality ranges

/-- The predicates of filters that stay in the calendar can be built, and only those. -/
theorem buildPredicates_outcome {base : List Node} {searchFields : List String}
    {equality : List EqualityFilter} {ranges : List DateRangeFilter} {search : Option String}
    (hranges : ∀ f ∈ ranges, f.isApplicable = true) :
    ((∀ f ∈ ranges, ¬ f.LeavesCalendar) →
      ∃ nodes, buildPredicates base searchFields equality ranges search = .ok nodes) ∧
    ((∃ f ∈ ranges, f.LeavesCalendar) →
      buildPredicates base searchFields equality ranges search = .error .date) := by
  unfold buildPredicates
  rw [List.filter_eq_self.mpr hranges]
  constructor
  · intro hstay
    obtain ⟨days, hdays⟩ := DateRangeFilter.exists_mapM_predicate hstay
    rw [hdays]
    exact ⟨_, rfl⟩
  · rintro ⟨f, hf, hleaves⟩
    rw [DateRangeFilter.mapM_predicate_eq_error hf hleaves]
    rfl

/-- Unless a filter leaves the calendar, the filters and the search of a request end with an answer. -/
theorem answered_chain (h : ∀ equality ranges, ¬ spec.FilterLeavesCalendar p equality ranges) :
    Answered (spec.chain p) := by
  unfold chain
  refine (answered_equality _).bind fun equality hequality => ?_
  refine (answered_ranges _).bind fun ranges hranges => ?_
  refine (answered_checkFields _ _).bind fun _ hlookup => ?_
  refine (answered_checkFields _ _).bind fun _ hrange => ?_
  rw [refuse_eq_ok_iff] at hequality hranges
  have hknown := List.forall_mem_map.mp (checkFields_eq_ok_iff.mp hlookup)
  have hknown' := List.forall_mem_map.mp (checkFields_eq_ok_iff.mp hrange)
  have hstay : ∀ f ∈ ranges, ¬ f.LeavesCalendar := fun f hf hleaves =>
    h equality ranges ⟨hequality, hranges, hknown, hknown', f, hf, hleaves⟩
  obtain ⟨nodes, hnodes⟩ :=
    (buildPredicates_outcome (isApplicable_of_decodeDateRanges hranges)).1 hstay
  rw [hnodes]
  exact .ok nodes

/-- A filter that leaves the calendar ends the building of predicates with an overflow. -/
theorem chain_eq_overflow {equality : List EqualityFilter} {ranges : List DateRangeFilter}
    (h : spec.FilterLeavesCalendar p equality ranges) : spec.chain p = .error (.overflow .date) := by
  have hlookup : spec.checkFields .lookup (equality.map (·.fieldName)) = .ok () :=
    checkFields_eq_ok_iff.mpr (List.forall_mem_map.mpr h.equality_known)
  have hrange : spec.checkFields .range (ranges.map (·.fieldName)) = .ok () :=
    checkFields_eq_ok_iff.mpr (List.forall_mem_map.mpr h.ranges_known)
  unfold chain
  rw [h.equality_eq, h.ranges_eq]
  simp only [refuse, ok_bind]
  rw [hlookup, hrange, ok_bind, ok_bind,
    (buildPredicates_outcome (isApplicable_of_decodeDateRanges h.ranges_eq)).2 h.leaves]

/-- Unless a filter leaves the calendar, the predicates of a list end with an answer. -/
theorem answered_predicates (h : ∀ equality ranges, ¬ spec.FilterLeavesCalendar p equality ranges) :
    Answered (spec.predicates p) := by
  unfold predicates
  split
  · exact answered_chain h
  · exact .ok _
  · refine (answered_chain h).bind fun nodes _ => ?_
    refine (answered_selectedIds _).bind fun ids _ => ?_
    split
    · exact .ok _
    · exact .ok _

/-- A request beyond the calendar does not compile. -/
theorem compile_eq_overflow (hscope : spec.scope ≠ .fixed)
    (hdefault : Text.nonBlank? (some spec.defaultSort) ≠ none) (h : spec.AsksBeyondCalendar p) :
    spec.compile settings p = .error (.overflow .date) := by
  obtain ⟨hsort, equality, ranges, hleaves⟩ := h
  obtain ⟨field, hfield⟩ := (exists_sortField_iff hdefault).mpr hsort
  have hpredicates : spec.predicates p = .error (.overflow .date) := by
    unfold predicates
    split
    · exact chain_eq_overflow hleaves
    · rename_i hfixed
      exact absurd hfixed hscope
    · rw [chain_eq_overflow hleaves]
      rfl
  unfold compile
  rw [if_neg hscope]
  simp only [ok_bind, hfield, hpredicates]
  rfl

/-- The parameters of the list that is always the same can be read unless the largest page is
negative. -/
theorem exists_fixedParams_iff : (∃ q, fixedParams settings = .ok q) ↔ 0 ≤ settings.maxPageSize := by
  refine ⟨?_, fun hnonneg => ⟨_, fixedParams_eq hnonneg⟩⟩
  rintro ⟨q, hq⟩
  unfold fixedParams at hq
  split at hq
  · rename_i p hp
    have hsize := Form.Slot.default_eq_ok_iff.mp (ListParams.read_eq_ok_iff.mp hp).pageSize
    by_contra hneg
    unfold ListParams.asPageSize Form.asInt at hsize
    rw [ok_bind, if_pos (by omega)] at hsize
    cases hsize
  · cases hq

/-- A failure to read the parameters of the list that is always the same is not the client's. -/
theorem answered_fixedParams_iff : Answered (fixedParams settings) ↔ 0 ≤ settings.maxPageSize := by
  rw [← exists_fixedParams_iff]
  constructor
  · rintro (h | ⟨r, hr, -⟩)
    · exact h
    · unfold fixedParams at hr
      split at hr <;> cases hr
  · exact Or.inl

/-! ### Compiling -/

/-- How compiling ends, for a specification with a default sort field.  Where the caller chooses, any
request ends with a directive or a refusal as a bad request, unless it is fine in all respects but that
a filter leaves the calendar: then it ends with an overflow.  The list that is always the same compiles
unless the settings ask for a page of negative size. -/
theorem compile_answered_iff (hdefault : Text.nonBlank? (some spec.defaultSort) ≠ none) :
    (spec.scope ≠ .fixed →
      (Answered (spec.compile settings p) ↔ ¬ spec.AsksBeyondCalendar p) ∧
      (spec.AsksBeyondCalendar p → spec.compile settings p = .error (.overflow .date))) ∧
    (spec.scope = .fixed → (Answered (spec.compile settings p) ↔ 0 ≤ settings.maxPageSize)) := by
  refine ⟨fun hscope => ⟨⟨?_, ?_⟩, compile_eq_overflow hscope hdefault⟩, fun hscope => ?_⟩
  · intro hanswered hbeyond
    exact Answered.not_of_error (compile_eq_overflow hscope hdefault hbeyond)
      (fun _ => Failure.noConfusion) hanswered
  · intro hwithin
    unfold compile
    rw [if_neg hscope, ok_bind]
    refine (answered_sortField hdefault _).bind fun field hfield => ?_
    have hsort := (exists_sortField_iff hdefault).mp ⟨field, hfield⟩
    have hstay : ∀ equality ranges, ¬ spec.FilterLeavesCalendar p equality ranges :=
      fun equality ranges hleaves => hwithin ⟨hsort, equality, ranges, hleaves⟩
    exact (answered_predicates hstay).bind fun nodes _ => .ok _
  · rw [← answered_fixedParams_iff]
    unfold compile predicates
    rw [if_pos hscope, hscope]
    constructor
    · intro hanswered
      cases hfixed : fixedParams settings with
      | ok q => exact .ok q
      | error e =>
        rw [hfixed] at hanswered
        rcases hanswered with ⟨d, hd⟩ | ⟨r, hr, hstatus⟩
        · cases hd
        · cases hr
          exact Or.inr ⟨r, rfl, hstatus⟩
    · intro hanswered
      refine hanswered.bind fun q _ => ?_
      exact (answered_sortField hdefault _).bind fun field _ => .ok _

/-- A request for the users of the day after a date. -/
def dayAfter (date : String) : ListParams where
  pageIndex := 1
  pageSize := 1
  sort := none
  sortAscending := true
  search := none
  lookups := none
  ranges := some ("[\x7b\"name\": \"created_at\", \"startDate\": \"" ++ date ++
    "\", \"active\": true\x7d]")
  selectedIds := none

/-- The request for the last day of the calendar but one is answered. -/
theorem compile_answered_iff_dayAfter :
    Text.nonBlank? (some User.listSpec.defaultSort) ≠ none ∧
      Answered (User.listSpec.compile (Settings.standard "" "") (dayAfter "9999-12-29")) := by
  have hdefault : Text.nonBlank? (some User.listSpec.defaultSort) ≠ none := by decide
  have hranges : decodeDateRanges (dayAfter "9999-12-29").ranges =
      .ok [⟨"created_at", some ⟨⟨315537638400000000, by decide⟩, none⟩, none, false, true⟩] := by
    decide +kernel
  refine ⟨hdefault, ((compile_answered_iff hdefault).1 Scope.noConfusion).1.mpr ?_⟩
  rintro ⟨-, equality, ranges, hleaves⟩
  have heq := hleaves.ranges_eq
  rw [hranges] at heq
  cases heq
  exact absurd hleaves.leaves (by decide)

/-- The request for the last day of the calendar is not answered: it ends with an overflow. -/
theorem compile_not_answered_lastDay :
    let p := dayAfter "9999-12-30"
    User.listSpec.compile (Settings.standard "" "") p = .error (.overflow .date) ∧
      ¬ Answered (User.listSpec.compile (Settings.standard "" "") p) := by
  intro p
  have hranges : decodeDateRanges p.ranges =
      .ok [⟨"created_at", some ⟨⟨315537724800000000, by decide⟩, none⟩, none, false, true⟩] := by
    decide +kernel
  have hbeyond : User.listSpec.AsksBeyondCalendar p := by
    refine ⟨fun name hname => ?_, [], _, ⟨rfl, hranges, by simp, by decide, by decide⟩⟩
    have hsort : Text.nonBlank? p.sort = none := by decide
    rw [hsort] at hname
    cases hname
  have hoverflow : User.listSpec.compile (Settings.standard "" "") p = .error (.overflow .date) :=
    compile_eq_overflow Scope.noConfusion (by decide) hbeyond
  exact ⟨hoverflow, Answered.not_of_error hoverflow fun _ => Failure.noConfusion⟩

end ListSpec

end Backoffice
