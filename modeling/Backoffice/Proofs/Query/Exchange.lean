import Mathlib
import Backoffice.Proofs.Query.Compile
import Backoffice.Proofs.Table.AccessPath
import Backoffice.Proofs.Table.Listing

/-!
# One filter in place of another

Two requests that differ in one date range filter compile to directives that differ in its predicate, or
fail alike.  If the two predicates hold of the same rows and are written alike, then the rows are reached
alike and the same is listed (`ListSpec.list_exchange`).
-/

namespace Backoffice

/-! ### Trees -/

namespace Node

variable {ρ : Type} {columns : ColumnMap ρ}

/-- The lists of trees are the same but for one place, where the first has `n` and the second has `m`. -/
def DifferIn (n m : Node) (ns ms : List Node) : Prop :=
  ∃ before after, ns = before ++ n :: after ∧ ms = before ++ m :: after

/-- Both trees ask something, they hold of the same rows, and a statement shows the same of them.  Neither is
an alternative of others. -/
structure AskAlike (columns : ColumnMap ρ) (n m : Node) : Prop where
  left_asks : n.isVacant = false
  right_asks : m.isVacant = false
  holds_eq : ∀ row, n.holds columns row = m.holds columns row
  written_eq : n.written = m.written
  left_alternatives : n.alternatives = []
  right_alternatives : m.alternatives = []

/-- Lists that differ in trees that ask alike hold of the same rows. -/
theorem DifferIn.holdAll_eq {n m : Node} {ns ms : List Node} (h : DifferIn n m ns ms)
    (hask : AskAlike columns n m) (row : ρ) : holdAll columns row ns = holdAll columns row ms := by
  obtain ⟨before, after, rfl, rfl⟩ := h
  rw [Bool.eq_iff_iff, holdAll_eq_true_iff, holdAll_eq_true_iff]
  simp only [List.forall_mem_append, List.forall_mem_cons, hask.holds_eq]

/-- Beside selected rows, lists that differ in trees that ask alike are the same alternative. -/
theorem DifferIn.holds_orSelected_eq {n m selected : Node} {ns ms : List Node} (h : DifferIn n m ns ms)
    (hask : AskAlike columns n m) (row : ρ) :
    (Node.any [.all ns, selected]).holds columns row = (Node.any [.all ms, selected]).holds columns row := by
  have hrows := h.holdAll_eq hask row
  obtain ⟨before, after, rfl, rfl⟩ := h
  have hns : areVacant (before ++ n :: after) = false := areVacant_of_mem (by simp) hask.left_asks
  have hms : areVacant (before ++ m :: after) = false := areVacant_of_mem (by simp) hask.right_asks
  simp only [holds, holdSome, areVacant, isVacant, hns, hms, hrows]

/-- Trees are written one after the other. -/
theorem writtenAll_eq_map (ns : List Node) : writtenAll ns = ns.map (·.written) := by
  induction ns with
  | nil => rfl
  | cons n ns ih => rw [writtenAll, ih, List.map_cons]

/-- Lists that differ in trees that ask alike are written alike. -/
theorem DifferIn.writtenAll_eq {n m : Node} {ns ms : List Node} (h : DifferIn n m ns ms)
    (hask : AskAlike columns n m) : writtenAll ns = writtenAll ms := by
  obtain ⟨before, after, rfl, rfl⟩ := h
  simp only [writtenAll_eq_map, List.map_append, List.map_cons, hask.written_eq]

/-- The predicates ask for the same rows, and no path can tell the ones from the others. -/
structure SelectAlike (columns : ColumnMap ρ) (ns ms : List Node) : Prop where
  holdAll_eq : ∀ row, holdAll columns row ns = holdAll columns row ms
  written_eq : writtenAll ns = writtenAll ms
  alternatives_eq : ∀ row, (ns.flatMap (·.alternatives)).map (·.holds columns row) =
    (ms.flatMap (·.alternatives)).map (·.holds columns row)

/-- Lists that differ in trees that ask alike select alike. -/
theorem DifferIn.selectAlike {n m : Node} {ns ms : List Node} (h : DifferIn n m ns ms)
    (hask : AskAlike columns n m) : SelectAlike columns ns ms := by
  refine ⟨h.holdAll_eq hask, h.writtenAll_eq hask, fun row => ?_⟩
  obtain ⟨before, after, rfl, rfl⟩ := h
  simp only [List.flatMap_append, List.flatMap_cons, hask.left_alternatives, hask.right_alternatives]

/-- Beside selected rows, too, lists that differ in trees that ask alike select alike. -/
theorem DifferIn.selectAlike_orSelected {n m selected : Node} {ns ms : List Node} (h : DifferIn n m ns ms)
    (hask : AskAlike columns n m) :
    SelectAlike columns [.any [.all ns, selected]] [.any [.all ms, selected]] := by
  refine ⟨fun row => ?_, ?_, fun row => ?_⟩
  · rw [holdAll, holdAll, h.holds_orSelected_eq hask]
    rfl
  · simp only [writtenAll, written, h.writtenAll_eq hask]
  · have hrows : (Node.all ns).holds columns row = (Node.all ms).holds columns row := by
      rw [holds, holds, h.holdAll_eq hask]
    simp only [List.flatMap_singleton, alternatives, List.map_cons, hrows]

/-- The alternatives of trees that have conditions have conditions. -/
theorem isRendered_of_mem_alternatives {ns : List Node} (h : ∀ n ∈ ns, n.IsRendered columns) {n : Node}
    (hn : n ∈ ns.flatMap (·.alternatives)) : n.IsRendered columns := by
  obtain ⟨group, hgroup, hn⟩ := List.mem_flatMap.mp hn
  cases group with
  | any items => exact isRendered_any_iff.mp (h _ hgroup) n hn
  | test field op value => cases hn
  | all items => cases hn
  | foreign kind => cases hn

/-- The alternatives of trees that have conditions select the rows that satisfy them. -/
theorem map_selects_alternatives {ns : List Node} (h : ∀ n ∈ ns, n.IsRendered columns) (row : ρ) :
    (ns.flatMap (·.alternatives)).map (·.selects columns row) =
      (ns.flatMap (·.alternatives)).map (·.holds columns row) := by
  refine List.map_congr_left fun n hn => ?_
  obtain ⟨o, ho⟩ := isRendered_of_mem_alternatives h hn
  exact selects_of_condition ho row

end Node

/-- Predicates that select alike and need the same can be exchanged. -/
theorem AccessPath.list_predicates_congr {ρ : Type} {columns : ColumnMap ρ} {path : AccessPath}
    {number : ρ → ℤ} {d : Directive} {ms : List Node} {fits : Prop}
    (h : Directive.NeedsOnly columns d.predicates fits) (h' : Directive.NeedsOnly columns ms fits)
    (halike : Node.SelectAlike columns d.predicates ms) (rows : List ρ) :
    path.list number columns d rows = path.list number columns { d with predicates := ms } rows := by
  have halternatives : ∀ row, d.alternatives.map (·.selects columns row) =
      (ms.flatMap (·.alternatives)).map (·.selects columns row) := by
    intro row
    rw [Directive.alternatives, Node.map_selects_alternatives h.rendered, halike.alternatives_eq,
      Node.map_selects_alternatives h'.rendered]
  have hwritten : d.written = ({ d with predicates := ms } : Directive).written := by
    rw [Directive.written, Directive.written, halike.written_eq]
  have hvisit : path.visit number columns d rows =
      path.visit number columns { d with predicates := ms } rows :=
    path.visit_congr hwritten halternatives rows
  unfold list
  rw [hvisit]
  exact Directive.list_predicates_congr h h' halike.holdAll_eq _

/-! ### Requests -/

section Exchange

variable {f g : DateRangeFilter} {n m : Node} {before after : List DateRangeFilter}

/-- The predicates of date range filters differ in that of the filter that they differ in. -/
theorem mapM_predicate_exchange (hf : f.predicate = .ok n) (hg : g.predicate = .ok m) :
    Alike (Node.DifferIn n m) ((before ++ f :: after).mapM (·.predicate))
      ((before ++ g :: after).mapM (·.predicate)) := by
  rw [List.mapM_append, List.mapM_append, List.mapM_cons, List.mapM_cons, hf, hg, ok_bind, ok_bind]
  refine .after _ fun front => ?_
  simp only [bind_assoc, pure_bind]
  exact .after _ fun back => .ok ⟨front, back, rfl, rfl⟩

/-- The predicates of a list differ in that of the filter. -/
theorem buildPredicates_exchange {base : List Node} {searchFields : List String}
    {equality : List EqualityFilter} {search : Option String} (hf : f.predicate = .ok n)
    (hg : g.predicate = .ok m) (hranges : ∀ r ∈ before ++ f :: after, r.isApplicable = true)
    (hranges' : ∀ r ∈ before ++ g :: after, r.isApplicable = true) :
    Alike (Node.DifferIn n m)
      (buildPredicates base searchFields equality (before ++ f :: after) search)
      (buildPredicates base searchFields equality (before ++ g :: after) search) := by
  unfold buildPredicates
  rw [List.filter_eq_self.mpr hranges, List.filter_eq_self.mpr hranges']
  refine (mapM_predicate_exchange hf hg).bind ?_
  rintro _ _ - - ⟨front, back, rfl, rfl⟩
  refine .ok ⟨base ++ (equality.filter (·.isSet)).map (·.predicate) ++ front,
    back ++ ((Text.nonBlank? search).bind (Node.containsAny searchFields)).toList, ?_, ?_⟩
  all_goals simp only [List.append_assoc, List.cons_append]

namespace ListSpec

variable {ρ : Type} {columns : ColumnMap ρ} {spec : ListSpec} {settings : Settings} {p : ListParams}
  {raw : Option String}

/-- The filters and the search of two requests that differ in a filter give trees that differ in its
predicate. -/
theorem chain_exchange (hf : f.predicate = .ok n) (hg : g.predicate = .ok m)
    (hfield : g.fieldName = f.fieldName) (hp : decodeDateRanges p.ranges = .ok (before ++ f :: after))
    (hraw : decodeDateRanges raw = .ok (before ++ g :: after)) :
    Alike (Node.DifferIn n m) (spec.chain p) (spec.chain { p with ranges := raw }) := by
  have hnames : (before ++ g :: after).map (·.fieldName) = (before ++ f :: after).map (·.fieldName) := by
    rw [List.map_append, List.map_append, List.map_cons, List.map_cons, hfield]
  unfold chain
  simp only [hp, hraw, refuse, ok_bind, hnames]
  refine .after _ fun equality => .after _ fun _ => .after _ fun _ => ?_
  have hbuilt : Alike (Node.DifferIn n m)
      (buildPredicates spec.base spec.searchFields equality (before ++ f :: after) p.search)
      (buildPredicates spec.base spec.searchFields equality (before ++ g :: after) p.search) :=
    buildPredicates_exchange hf hg (isApplicable_of_decodeDateRanges hp)
      (isApplicable_of_decodeDateRanges hraw)
  generalize buildPredicates spec.base spec.searchFields equality (before ++ f :: after) p.search = x
    at hbuilt ⊢
  generalize buildPredicates spec.base spec.searchFields equality (before ++ g :: after) p.search = y
    at hbuilt ⊢
  cases hbuilt with
  | error o => exact .error _
  | ok h => exact .ok h

/-- If the predicates of the filters ask alike, then those of the requests select alike. -/
theorem predicates_exchange (hscope : spec.scope ≠ .fixed) (hf : f.predicate = .ok n)
    (hg : g.predicate = .ok m) (hask : Node.AskAlike columns n m) (hfield : g.fieldName = f.fieldName)
    (hp : decodeDateRanges p.ranges = .ok (before ++ f :: after))
    (hraw : decodeDateRanges raw = .ok (before ++ g :: after)) :
    Alike (Node.SelectAlike columns) (spec.predicates p) (spec.predicates { p with ranges := raw }) := by
  have hchain : Alike (Node.DifferIn n m) (spec.chain p) (spec.chain { p with ranges := raw }) :=
    chain_exchange hf hg hfield hp hraw
  unfold predicates
  cases hkind : spec.scope with
  | fixed => exact absurd hkind hscope
  | free => exact hchain.mono fun _ _ h => h.selectAlike hask
  | picker key =>
    refine hchain.bind fun ns ms _ _ h => .after _ fun selected => ?_
    split
    · exact .ok (h.selectAlike hask)
    · exact .ok (h.selectAlike_orSelected hask)

/-- If the predicates of the filters ask alike, and statements with the predicates of either request need
the same, then the same is listed. -/
theorem list_exchange {path : AccessPath} {number : ρ → ℤ} (hscope : spec.scope ≠ .fixed)
    (hf : f.predicate = .ok n) (hg : g.predicate = .ok m) (hask : Node.AskAlike columns n m)
    (hfield : g.fieldName = f.fieldName)
    (hp : decodeDateRanges p.ranges = .ok (before ++ f :: after))
    (hraw : decodeDateRanges raw = .ok (before ++ g :: after))
    (hneeds : ∃ fits, ∀ ns, spec.predicates p = .ok ns ∨ spec.predicates { p with ranges := raw } = .ok ns →
      Directive.NeedsOnly columns ns fits) (rows : List ρ) :
    (do path.list number columns (← spec.compile settings p) rows) =
      (do path.list number columns (← spec.compile settings { p with ranges := raw }) rows) := by
  obtain ⟨fits, hneeds⟩ := hneeds
  refine Alike.eq_iff.mp ?_
  unfold compile
  rw [if_neg hscope, if_neg hscope]
  simp only [bind_assoc, pure_bind, ok_bind]
  refine .after _ fun field => ?_
  refine (predicates_exchange hscope hf hg hask hfield hp hraw).bind fun ns ms hns hms halike => ?_
  refine Alike.eq_iff.mpr ?_
  exact AccessPath.list_predicates_congr (hneeds _ (Or.inl hns)) (hneeds _ (Or.inr hms)) halike rows

end ListSpec

end Exchange

end Backoffice
