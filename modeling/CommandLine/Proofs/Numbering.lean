import CommandLine.Proofs.Extension
import Mathlib.Data.List.Sort

/-!
# The numbering of parameters

The index of a parameter is declared or, where none is, its place. Parameters are put in order
exactly if their indexes count up from zero and the required ones come first, and then every one
stands at its index. If declared indexes leave something out, the least number that is left out is
reported. A run that gives too few parameters misses those from the first one that it leaves empty
to the last one that is required.
-/

namespace CommandLine

namespace Interface

/-! ### Sorting by index -/

lemma pairwise_insertIndexed (entry : ParameterField × Nat) {entries : List (ParameterField × Nat)}
    (h : entries.Pairwise fun first second => first.2 ≤ second.2) :
    (insertIndexed entry entries).Pairwise fun first second => first.2 ≤ second.2 := by
  induction entries with
  | nil => exact List.pairwise_singleton _ _
  | cons first rest ih =>
    obtain ⟨hfirst, hrest⟩ := List.pairwise_cons.mp h
    rw [insertIndexed]
    split_ifs with hle
    · refine .cons (List.forall_mem_cons.mpr ⟨hle, fun other hother => ?_⟩) h
      exact hle.trans (hfirst other hother)
    · refine .cons (fun other hother => ?_) (ih hrest)
      rcases List.mem_cons.mp ((perm_insertIndexed entry rest).mem_iff.mp hother) with rfl | hother
      · exact (Nat.lt_of_not_le hle).le
      · exact hfirst other hother

lemma pairwise_sortIndexed (entries : List (ParameterField × Nat)) :
    (sortIndexed entries).Pairwise fun first second => first.2 ≤ second.2 := by
  induction entries with
  | nil => exact .nil
  | cons first rest ih => exact pairwise_insertIndexed first ih

/-- Indexes that are all different grow from one entry to the next. -/
lemma pairwise_lt_sortIndexed {entries : List (ParameterField × Nat)}
    (hnodup : (entries.map (·.2)).Nodup) :
    (sortIndexed entries).Pairwise fun first second => first.2 < second.2 := by
  have hdistinct : ((sortIndexed entries).map (·.2)).Nodup :=
    ((perm_sortIndexed entries).map _).nodup_iff.mpr hnodup
  rw [List.Nodup, List.pairwise_map] at hdistinct
  exact ((pairwise_sortIndexed entries).and hdistinct).imp fun h => lt_of_le_of_ne h.1 h.2

/-! ### Gaps -/

lemma gap?_eq_none_iff {first : Nat} {entries : List (ParameterField × Nat)} :
    gap? first entries = none ↔ entries.map (·.2) = List.range' first entries.length := by
  induction entries generalizing first with
  | nil => simp [gap?]
  | cons entry rest ih =>
    obtain ⟨field, index⟩ := entry
    by_cases h : index = first <;> simp [gap?, h, ih, List.range'_succ]

/-- Where indexes grow, the first gap is the least number that is left out. -/
lemma least_of_gap? {first gap : Nat} {entries : List (ParameterField × Nat)}
    (hgrow : entries.Pairwise fun entry other => entry.2 < other.2)
    (hfirst : ∀ entry ∈ entries, first ≤ entry.2) (h : gap? first entries = some gap) :
    first ≤ gap ∧ gap ∉ entries.map (·.2) ∧
      ∀ index, first ≤ index → index < gap → index ∈ entries.map (·.2) := by
  induction entries generalizing first with
  | nil => simp [gap?] at h
  | cons entry rest ih =>
    obtain ⟨hless, hrest⟩ := List.pairwise_cons.mp hgrow
    have hfrom := hfirst entry (List.mem_cons_self ..)
    rw [gap?] at h
    split_ifs at h with hindex
    · have hnext : ∀ other ∈ rest, first + 1 ≤ other.2 := fun other hother =>
        hindex ▸ hless other hother
      obtain ⟨hle, hout, hin⟩ := ih hrest hnext h
      refine ⟨by omega, ?_, fun index hge hlt => ?_⟩
      · rw [List.map_cons, List.mem_cons, not_or]
        exact ⟨by omega, hout⟩
      · rw [List.map_cons, List.mem_cons]
        by_cases hnow : index = first
        · exact .inl (hnow.trans hindex.symm)
        · exact .inr (hin index (by omega) hlt)
    · obtain rfl := Option.some.inj h
      refine ⟨le_refl _, fun hmem => ?_, fun index hge hlt => by omega⟩
      obtain ⟨other, hother, hsame⟩ := List.mem_map.mp hmem
      rcases List.mem_cons.mp hother with rfl | hother
      · exact hindex hsame
      · have hlater := hless other hother
        omega

/-- Sorted entries have no gap exactly if their indexes are the numbers below their count. -/
lemma gap?_sortIndexed_eq_none_iff {entries : List (ParameterField × Nat)} :
    gap? 0 (sortIndexed entries) = none ↔
      (entries.map (·.2)).Nodup ∧ ∀ index, index ∈ entries.map (·.2) ↔ index < entries.length := by
  have hperm := perm_sortIndexed entries
  rw [gap?_eq_none_iff, hperm.length_eq, ← List.range_eq_range', ← (hperm.map _).nodup_iff]
  simp only [← (hperm.map (·.2)).mem_iff]
  constructor
  · intro h
    rw [h]
    exact ⟨List.nodup_range, fun index => List.mem_range⟩
  · rintro ⟨hnodup, hmem⟩
    have hgrow := pairwise_lt_sortIndexed ((hperm.map _).nodup_iff.mp hnodup)
    refine List.Pairwise.eq_of_mem_iff (r := (· < ·)) ?_ List.pairwise_lt_range fun index => ?_
    · exact List.pairwise_map.mpr hgrow
    · rw [hmem, List.mem_range]

/-- Without a gap every entry stands at its index. -/
lemma sortIndexed_getElem?_iff {entries : List (ParameterField × Nat)}
    (h : gap? 0 (sortIndexed entries) = none) {place : Nat} {entry : ParameterField × Nat} :
    (sortIndexed entries)[place]? = some entry ↔ entry ∈ entries ∧ entry.2 = place := by
  have hindex (place : Nat) (entry : ParameterField × Nat)
      (hentry : (sortIndexed entries)[place]? = some entry) : entry.2 = place := by
    have hmap := congrArg (·[place]?) (gap?_eq_none_iff.mp h)
    simp only [List.getElem?_map, hentry, ← List.range_eq_range', Option.map_some] at hmap
    obtain ⟨hlt, hget⟩ := List.getElem?_eq_some_iff.mp hmap.symm
    simpa using hget.symm
  constructor
  · intro hentry
    exact ⟨(perm_sortIndexed entries).mem_iff.mp (List.mem_of_getElem? hentry),
      hindex place entry hentry⟩
  · rintro ⟨hmem, rfl⟩
    obtain ⟨place, hplace⟩ :=
      List.mem_iff_getElem?.mp ((perm_sortIndexed entries).mem_iff.mpr hmem)
    rwa [hindex place entry hplace]

/-! ### Indexes of parameters -/

variable {parameters : List (ParameterField × Option Nat)}

/-- A field is a parameter with an index: the declared one or, without one, its place. -/
def HasIndex (parameters : List (ParameterField × Option Nat)) (field : ParameterField)
    (index : Nat) : Prop :=
  ∃ (place : Nat) (declared : Option Nat), parameters[place]? = some (field, declared) ∧
    declared.getD place = index

/-- No index is declared, or all are, and they are the numbers below the count of parameters, each
used once. -/
def CountsUp (parameters : List (ParameterField × Option Nat)) : Prop :=
  (∀ parameter ∈ parameters, parameter.2 = none) ∨
    ∃ indexes : List Nat, parameters.map (·.2) = indexes.map some ∧ indexes.Nodup ∧
      ∀ index, index ∈ indexes ↔ index < parameters.length

/-- No required parameter has a greater index than one that is not required. -/
def RequiredFirst (parameters : List (ParameterField × Option Nat)) : Prop :=
  ∀ field other index later, HasIndex parameters field index → HasIndex parameters other later →
    index < later → other.base.required = true → field.base.required = true

/-- Parameters that all declare an index are kept with it. -/
lemma map_filterMap_of_declared (h : ∀ parameter ∈ parameters, parameter.2 ≠ none) :
    (parameters.filterMap fun (field, index) => index.map fun index => (field, index)).map
      (fun entry => (entry.1, some entry.2)) = parameters := by
  induction parameters with
  | nil => rfl
  | cons first rest ih =>
    obtain ⟨hfirst, hrest⟩ := List.forall_mem_cons.mp h
    obtain ⟨field, index⟩ := first
    cases index with
    | none => exact absurd rfl hfirst
    | some index => simp [ih hrest]

/-- Entries are the parameters with their places if no index is declared, or with the declared
indexes if all are declared and no two are the same. -/
lemma indexed_eq_ok_iff {entries : List (ParameterField × Nat)} :
    indexed parameters = .ok entries ↔
      (∀ parameter ∈ parameters, parameter.2 = none) ∧
          entries = (parameters.map (·.1)).zipIdx ∨
        parameters = entries.map (fun entry => (entry.1, some entry.2)) ∧
          (entries.map (·.2)).Nodup := by
  rw [indexed]
  split_ifs with hnone hsome
  · have hall : ∀ parameter ∈ parameters, parameter.2 = none := by simpa using hnone
    rw [Except.ok.injEq, eq_comm, and_iff_right hall, iff_self_or]
    rintro ⟨rfl, -⟩
    cases entries with
    | nil => rfl
    | cons first rest => exact absurd (hall _ (List.mem_cons_self ..)) (by simp)
  · obtain ⟨parameter, hparameter, hindex⟩ := List.any_eq_true.mp hsome
    refine iff_of_false (by simp) ?_
    rintro (⟨hall, -⟩ | ⟨rfl, -⟩)
    · exact hnone (by simpa using hall)
    · obtain ⟨entry, -, rfl⟩ := List.mem_map.mp hparameter
      simp at hindex
  · have hall : ∀ parameter ∈ parameters, parameter.2 ≠ none := by
      rintro ⟨field, index⟩ hparameter rfl
      exact hsome (List.any_eq_true.mpr ⟨_, hparameter, rfl⟩)
    have hkept := map_filterMap_of_declared hall
    generalize parameters.filterMap (fun (field, index) => index.map fun index => (field, index)) =
      numbered at hkept ⊢
    have hsome : ¬ ∀ parameter ∈ parameters, parameter.2 = none := by simpa using hnone
    rw [or_iff_right fun h => hsome h.1]
    have hrepeated : firstRepeated? [] (numbered.map (·.2)) = none ↔
        (numbered.map (·.2)).Nodup := by
      simp [firstRepeated?_eq_none_iff]
    constructor
    · intro h
      dsimp only at h
      split at h
      · simp at h
      · next hnone =>
        obtain rfl := Except.ok.inj h
        exact ⟨hkept.symm, hrepeated.mp hnone⟩
    · rintro ⟨rfl, hnodup⟩
      have hinjective : Function.Injective fun entry : ParameterField × Nat =>
          (entry.1, some entry.2) := by
        rintro ⟨field, index⟩ ⟨other, later⟩ h
        simpa using h
      obtain rfl := List.map_injective_iff.mpr hinjective hkept
      dsimp only
      rw [hrepeated.mpr hnodup]

lemma mem_entries_iff {entries : List (ParameterField × Nat)}
    (h : indexed parameters = .ok entries) {field : ParameterField} {index : Nat} :
    (field, index) ∈ entries ↔ HasIndex parameters field index := by
  rcases indexed_eq_ok_iff.mp h with ⟨hnone, rfl⟩ | ⟨rfl, -⟩
  · rw [List.mem_zipIdx_iff_getElem?, List.getElem?_map]
    constructor
    · intro hfield
      obtain ⟨⟨found, declared⟩, hplace, rfl⟩ := Option.map_eq_some_iff.mp hfield
      obtain rfl : declared = none := hnone _ (List.mem_of_getElem? hplace)
      exact ⟨index, none, hplace, rfl⟩
    · rintro ⟨place, declared, hplace, rfl⟩
      obtain rfl : declared = none := hnone _ (List.mem_of_getElem? hplace)
      simp [hplace]
  · constructor
    · intro hentry
      obtain ⟨place, hplace⟩ := List.mem_iff_getElem?.mp hentry
      exact ⟨place, some index, by simp [hplace], rfl⟩
    · rintro ⟨place, declared, hplace, rfl⟩
      rw [List.getElem?_map, Option.map_eq_some_iff] at hplace
      obtain ⟨⟨found, number⟩, hentry, hpair⟩ := hplace
      obtain ⟨rfl, rfl⟩ := Prod.mk.inj hpair
      exact List.mem_of_getElem? hentry

/-- Declared indexes that are all different are those of the entries. -/
lemma exists_indexed_of_declared {indexes : List Nat}
    (hdeclared : parameters.map (·.2) = indexes.map some) (hnodup : indexes.Nodup) :
    ∃ entries, indexed parameters = .ok entries ∧ entries.map (·.2) = indexes ∧
      entries.length = parameters.length := by
  have hall : ∀ parameter ∈ parameters, parameter.2 ≠ none := by
    intro parameter hparameter hnone
    have hmem : none ∈ indexes.map some := by
      rw [← hdeclared, ← hnone]
      exact List.mem_map_of_mem hparameter
    simp at hmem
  have hkept := map_filterMap_of_declared hall
  generalize parameters.filterMap (fun (field, index) => index.map fun index => (field, index)) =
    entries at hkept
  subst hkept
  have hindexes : entries.map (·.2) = indexes :=
    List.map_injective_iff.mpr (Option.some_injective Nat) (by rw [← hdeclared]; simp)
  refine ⟨entries, indexed_eq_ok_iff.mpr (.inr ⟨rfl, by rwa [hindexes]⟩), hindexes, by simp⟩

/-- The parameters can be numbered without a gap exactly if they count up. -/
lemma countsUp_iff :
    CountsUp parameters ↔
      ∃ entries, indexed parameters = .ok entries ∧ gap? 0 (sortIndexed entries) = none := by
  constructor
  · rintro (hnone | ⟨indexes, hdeclared, hnodup, hbelow⟩)
    · refine ⟨_, indexed_eq_ok_iff.mpr (.inl ⟨hnone, rfl⟩), gap?_sortIndexed_eq_none_iff.mpr ?_⟩
      rw [List.zipIdx_map_snd]
      exact ⟨List.nodup_range', by simp⟩
    · obtain ⟨entries, hentries, rfl, hlength⟩ := exists_indexed_of_declared hdeclared hnodup
      exact ⟨entries, hentries,
        gap?_sortIndexed_eq_none_iff.mpr ⟨hnodup, by simpa only [hlength] using hbelow⟩⟩
  · rintro ⟨entries, hentries, hgap⟩
    obtain ⟨hnodup, hbelow⟩ := gap?_sortIndexed_eq_none_iff.mp hgap
    rcases indexed_eq_ok_iff.mp hentries with ⟨hnone, -⟩ | ⟨rfl, -⟩
    · exact .inl hnone
    · refine .inr ⟨entries.map (·.2), by simp, hnodup, ?_⟩
      simpa using hbelow

/-! ### Parameters in order -/

lemma resolveParameters_eq_ok_iff {ordered : List ParameterField} :
    resolveParameters parameters = .ok ordered ↔
      ∃ entries, indexed parameters = .ok entries ∧ gap? 0 (sortIndexed entries) = none ∧
        (sortIndexed entries).map (·.1) = ordered ∧ hasMisplaced ordered = false := by
  rw [resolveParameters, Except.bind_eq_ok_iff]
  refine exists_congr fun entries => and_congr_right fun _ => ?_
  dsimp only
  cases hgap : gap? 0 (sortIndexed entries) with
  | some gap => simp
  | none =>
    dsimp only
    split_ifs with hmisplaced
    · simp only [false_iff, true_and, not_and]
      rintro rfl
      simpa using hmisplaced
    · simp only [Except.ok.injEq, true_and, iff_self_and]
      rintro rfl
      simpa using hmisplaced

/-- Every parameter stands at its index. -/
lemma getElem?_iff_hasIndex {entries : List (ParameterField × Nat)}
    (hentries : indexed parameters = .ok entries) (hgap : gap? 0 (sortIndexed entries) = none)
    {index : Nat} {field : ParameterField} :
    ((sortIndexed entries).map (·.1))[index]? = some field ↔ HasIndex parameters field index := by
  rw [← mem_entries_iff hentries, List.getElem?_map, Option.map_eq_some_iff]
  constructor
  · rintro ⟨entry, hentry, rfl⟩
    obtain ⟨hmem, rfl⟩ := (sortIndexed_getElem?_iff hgap).mp hentry
    exact hmem
  · intro hmem
    exact ⟨(field, index), (sortIndexed_getElem?_iff hgap).mpr ⟨hmem, rfl⟩, rfl⟩

/-- Nothing is lost or added by sorting. -/
lemma perm_of_indexed {entries : List (ParameterField × Nat)}
    (hentries : indexed parameters = .ok entries) :
    ((sortIndexed entries).map (·.1)).Perm (parameters.map (·.1)) := by
  refine ((perm_sortIndexed entries).map _).trans (.of_eq ?_)
  rcases indexed_eq_ok_iff.mp hentries with ⟨-, rfl⟩ | ⟨rfl, -⟩
  · rw [List.zipIdx_map_fst]
  · rw [List.map_map]
    rfl

/-- The fault about declared indexes that leave something out names the least such number. -/
lemma exists_gap {indexes : List Nat} (hdeclared : parameters.map (·.2) = indexes.map some)
    (hnodup : indexes.Nodup) (hcounts : ¬ CountsUp parameters) :
    ∃ least, least ∉ indexes ∧ (∀ index < least, index ∈ indexes) ∧
      resolveParameters parameters = .error (.indexGap least) := by
  obtain ⟨entries, hentries, rfl, -⟩ := exists_indexed_of_declared hdeclared hnodup
  cases hgap : gap? 0 (sortIndexed entries) with
  | none => exact absurd (countsUp_iff.mpr ⟨entries, hentries, hgap⟩) hcounts
  | some gap =>
    obtain ⟨-, hout, hin⟩ := least_of_gap? (pairwise_lt_sortIndexed hnodup)
      (fun entry _ => Nat.zero_le entry.2) hgap
    have hmem {index : Nat} := ((perm_sortIndexed entries).map (·.2)).mem_iff (a := index)
    refine ⟨gap, mt hmem.mpr hout, fun index hlt => hmem.mp (hin index (Nat.zero_le _) hlt), ?_⟩
    rw [resolveParameters, hentries]
    simp only [bind, Except.bind, hgap]

lemma hasMisplaced_iff_requiredFirst {entries : List (ParameterField × Nat)}
    (hentries : indexed parameters = .ok entries) (hgap : gap? 0 (sortIndexed entries) = none) :
    hasMisplaced ((sortIndexed entries).map (·.1)) = false ↔ RequiredFirst parameters := by
  have hplaces {index : Nat} {field : ParameterField} :
      ((sortIndexed entries).map (·.1))[index]? = some field ↔ HasIndex parameters field index :=
    getElem?_iff_hasIndex hentries hgap
  rw [hasMisplaced_eq_false_iff, List.pairwise_iff_getElem]
  constructor
  · intro h field other index later hfield hother hlt
    obtain ⟨hindex, rfl⟩ := List.getElem?_eq_some_iff.mp (hplaces.mpr hfield)
    obtain ⟨hlater, rfl⟩ := List.getElem?_eq_some_iff.mp (hplaces.mpr hother)
    exact h index later hindex hlater hlt
  · intro h index later hindex hlater hlt
    exact h _ _ index later (hplaces.mp (List.getElem?_eq_getElem hindex))
      (hplaces.mp (List.getElem?_eq_getElem hlater)) hlt

end Interface

/-! ### Missing parameters -/

/-- The index of the parameter that an error reports as missing. -/
def ParseError.missingIndex? : ParseError → Option Nat
  | .missingParameter _ index => some index
  | _ => none

lemma ParseError.missingIndex?_eq_none {error : ParseError} (h : error.kind ≠ .missingParameter) :
    error.missingIndex? = none := by
  cases error <;> first | rfl | exact absurd rfl h

namespace Interface

variable {α : Type} {interface : Interface} {environment : Environment α}

lemma map_index_parameters :
    (interface.model environment).parameters.map (·.index) =
      List.range interface.parameters.length := by
  rw [model, List.map_map, List.range_eq_range']
  exact List.zipIdx_map_snd 0 interface.parameters

def requiredCount (interface : Interface) : Nat :=
  (interface.parameters.filter (·.base.required)).length

lemma requiredCount_le (interface : Interface) :
    interface.requiredCount ≤ interface.parameters.length :=
  List.length_filter_le ..

/-- The required parameters are the first ones. -/
lemma required_iff_lt (hsound : interface.Sound) {parameter : ParameterSpec}
    (h : parameter ∈ (interface.model environment).parameters) :
    parameter.required = true ↔ parameter.index < interface.requiredCount := by
  obtain ⟨place, hplace⟩ := List.mem_iff_getElem?.mp h
  obtain ⟨field, hfield, rfl⟩ := parameter_eq_some_iff.mp hplace
  exact (lt_length_filter_iff hsound.requiredFirst hfield).symm

/-- Of the required parameters those are omitted whose index is not below the number that is
given. -/
lemma missingIndex?_omittedParameters (hsound : interface.Sound) (given : Nat) :
    ((interface.model environment).omittedParameters given).filterMap ParseError.missingIndex? =
      List.range' given (interface.requiredCount - given) := by
  have hview : ((interface.model environment).omittedParameters given).filterMap
      ParseError.missingIndex? =
        ((interface.model environment).parameters.filter fun parameter =>
          parameter.required && given ≤ parameter.index).map (·.index) := by
    rw [Model.omittedParameters, List.filterMap_map, ← List.filterMap_eq_map]
    rfl
  have hrequired : ((interface.model environment).parameters.filter fun parameter =>
      parameter.required && given ≤ parameter.index).map (·.index) =
        (List.range interface.parameters.length).filter fun index =>
          index < interface.requiredCount && given ≤ index := by
    have hindexes : (interface.model environment).parameters.map (·.index) = _ :=
      map_index_parameters
    rw [← hindexes, List.filter_map]
    congr 1
    refine List.filter_congr fun parameter hparameter => ?_
    have hsame : parameter.required = decide (parameter.index < interface.requiredCount) := by
      rw [Bool.eq_iff_iff, required_iff_lt hsound hparameter, decide_eq_true_eq]
    rw [Function.comp_apply, hsame]
  rw [hview, hrequired]
  refine List.Pairwise.eq_of_mem_iff (r := (· < ·)) (List.pairwise_lt_range.filter _)
    List.pairwise_lt_range' fun index => ?_
  have hle := interface.requiredCount_le
  simp only [List.mem_filter, List.mem_range, Bool.and_eq_true, decide_eq_true_eq,
    List.mem_range'_1]
  omega

/-- The parameters that a run reports as missing begin at the first one that it did not fill. -/
lemma missingIndex?_reported (hsound : interface.Sound) {arguments : List String}
    {reader : Reader} {events : List Event}
    (run : Reader.readAll (interface.model environment) .initial arguments =
      .ok (reader, events)) :
    ((interface.program environment).parse arguments).reported.filterMap
        ParseError.missingIndex? =
      List.range' reader.filled (interface.requiredCount - reader.filled) := by
  have hcount : (events.filterMap Event.parameter?).length = reader.filled := by
    rw [(Reader.consistent_of_readAll run).parameters, List.length_range]
  have hnone {errors : List ParseError}
      (h : ∀ error ∈ errors, error.kind ≠ .missingParameter) :
      errors.filterMap ParseError.missingIndex? = [] :=
    List.filterMap_eq_nil_iff.mpr fun error herror =>
      ParseError.missingIndex?_eq_none (h error herror)
  rw [reported_eq hsound run, List.filterMap_append, List.filterMap_append, hnone, hnone, hcount,
    missingIndex?_omittedParameters hsound]
  · rfl
  · intro error herror
    simp [Model.kind_of_mem_omittedOptions herror]
  · intro error herror
    exact (kind_of_blamed (mem_faults_iff.mp (mem_distinct.mp herror))).2

/-- The parameters among some fields can be put in order exactly if no index is declared or the
declared ones are the numbers below their count, each used once, and no required parameter comes
behind one that is not. Then they are the same parameters, each standing at its index. If the
declared indexes are all different but leave something out, the fault names the least number that
they leave out. So the required parameters of an accepted declaration are the first ones, and a run
that does not give all of them misses exactly those from the first one that it does not give to the
last one that is required. -/
theorem parameters_in_order :
    (∀ fields : List Field,
      let parameters := fields.filterMap Field.parameter?
      ((∃ ordered, resolveParameters parameters = .ok ordered) ↔
        CountsUp parameters ∧ RequiredFirst parameters) ∧
      (∀ ordered, resolveParameters parameters = .ok ordered →
        ordered.Perm (parameters.map (·.1)) ∧
        ∀ index field, ordered[index]? = some field ↔ HasIndex parameters field index) ∧
      ∀ indexes : List Nat, parameters.map (·.2) = indexes.map some → indexes.Nodup →
        ¬ CountsUp parameters →
        ∃ least, least ∉ indexes ∧ (∀ index < least, index ∈ indexes) ∧
          resolveParameters parameters = .error (.indexGap least)) ∧
    ∀ (declaration : Declaration) (interface : Interface) (α : Type) (environment : Environment α),
      ofDeclaration declaration = .ok interface →
      let program := interface.program environment
      ∃ count ≤ program.model.parameters.length,
        (∀ parameter ∈ program.model.parameters,
          parameter.required = true ↔ parameter.index < count) ∧
        ∀ arguments : List String,
          (∀ argument ∈ arguments.head?, program.model.findCommand argument = none) →
          ∃ reader events,
            Reader.readAll program.model .initial arguments = .ok (reader, events) ∧
            (program.parse arguments).reported.filterMap ParseError.missingIndex? =
              List.range' reader.filled (count - reader.filled) := by
  refine ⟨fun fields => ⟨?_, ?_, ?_⟩, ?_⟩
  · constructor
    · rintro ⟨ordered, hordered⟩
      obtain ⟨entries, hentries, hgap, rfl, hfirst⟩ := resolveParameters_eq_ok_iff.mp hordered
      exact ⟨countsUp_iff.mpr ⟨entries, hentries, hgap⟩,
        (hasMisplaced_iff_requiredFirst hentries hgap).mp hfirst⟩
    · rintro ⟨hcounts, hfirst⟩
      obtain ⟨entries, hentries, hgap⟩ := countsUp_iff.mp hcounts
      exact ⟨_, resolveParameters_eq_ok_iff.mpr ⟨entries, hentries, hgap, rfl,
        (hasMisplaced_iff_requiredFirst hentries hgap).mpr hfirst⟩⟩
  · intro ordered hordered
    obtain ⟨entries, hentries, hgap, rfl, -⟩ := resolveParameters_eq_ok_iff.mp hordered
    exact ⟨perm_of_indexed hentries, fun index field => getElem?_iff_hasIndex hentries hgap⟩
  · intro indexes hdeclared hnodup hcounts
    exact exists_gap hdeclared hnodup hcounts
  · intro declaration interface α environment accepted
    have hsound := sound_of_ofDeclaration accepted
    refine ⟨interface.requiredCount, ?_, fun parameter => required_iff_lt hsound, ?_⟩
    · simpa [program, model] using interface.requiredCount_le
    · intro arguments start
      obtain ⟨⟨reader, events⟩, hread⟩ := Reader.exists_readAll start
      exact ⟨reader, events, hread, missingIndex?_reported hsound hread⟩

/-- Declared indexes overrule the places, a gap is reported, and a parameter is missing. -/
theorem parameters_in_order_archive :
    let parameters := (Sample.copyFields 1).filterMap Field.parameter?
    let apart := (Sample.copyFields 2).filterMap Field.parameter?
    let arguments := ["-l", "3"]
    resolveParameters parameters = .ok [Sample.copySource, Sample.copyTarget] ∧
      HasIndex parameters Sample.copyTarget 1 ∧ CountsUp parameters ∧ RequiredFirst parameters ∧
      apart.map (·.2) = [2, 0].map some ∧ [2, 0].Nodup ∧ ¬ CountsUp apart ∧
      (∃ least, least ∉ [2, 0] ∧ (∀ index < least, index ∈ [2, 0]) ∧
        resolveParameters apart = .error (.indexGap least)) ∧
      ofDeclaration Sample.archive = .ok Sample.archiveInterface ∧
      (∀ argument ∈ arguments.head?, Sample.archiveProgram.model.findCommand argument = none) ∧
      ∃ count ≤ Sample.archiveProgram.model.parameters.length, ∃ reader events,
        Reader.readAll Sample.archiveProgram.model .initial arguments = .ok (reader, events) ∧
        (Sample.archiveProgram.parse arguments).reported.filterMap ParseError.missingIndex? =
          List.range' reader.filled (count - reader.filled) := by
  intro parameters apart arguments
  obtain ⟨hfields, hruns⟩ := parameters_in_order
  obtain ⟨hresolves, hordered, -⟩ := hfields (Sample.copyFields 1)
  obtain ⟨-, -, hgap⟩ := hfields (Sample.copyFields 2)
  have hresult : resolveParameters parameters = .ok [Sample.copySource, Sample.copyTarget] := rfl
  obtain ⟨hcounts, hfirst⟩ := hresolves.mp ⟨_, hresult⟩
  have hindex := ((hordered _ hresult).2 1 Sample.copyTarget).mp rfl
  have hapart : ¬ CountsUp apart := by
    rintro (hnone | ⟨indexes, hdeclared, -, hbelow⟩)
    · exact absurd (hnone (Sample.copyTarget, some 2) (List.mem_cons_self ..)) (by simp)
    · obtain rfl : [2, 0] = indexes :=
        List.map_injective_iff.mpr (Option.some_injective Nat) hdeclared
      exact absurd ((hbelow 1).mpr (by decide)) (by decide)
  have start : ∀ argument ∈ arguments.head?,
      Sample.archiveProgram.model.findCommand argument = none := by
    intro argument hargument
    obtain rfl := Option.some.inj hargument
    decide +kernel
  obtain ⟨count, hcount, -, hmissing⟩ := hruns _ _ Scalar Sample.archiveEnvironment
    Sample.ofDeclaration_archive
  exact ⟨hresult, hindex, hcounts, hfirst, rfl, by decide, hapart,
    hgap [2, 0] rfl (by decide) hapart, Sample.ofDeclaration_archive, start, count, hcount,
    hmissing arguments start⟩

end Interface

end CommandLine
