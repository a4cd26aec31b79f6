import CommandLine.Declaration.Program
import CommandLine.Proofs.Traversal

/-!
# Records of storages

Building a record fails at a required field without a value and nowhere else. If it does not fail,
the record shows every field by its values.
-/

namespace CommandLine

/-! ### Fields -/

namespace FieldBase

variable {α : Type} {base : FieldBase} {environment : Environment α}

/-- What a field shows of the values that it was given: the last one of them, or all of them if it
is a sequence. If it was given none, it shows its default, or what its type provides. -/
def shown (base : FieldBase) (environment : Environment α) (values : List α) : FieldValue α :=
  match values.getLast? with
  | some last => base.present environment values last
  | none =>
    match base.default with
    | .expression expression => environment.value expression
    | .initial | .none => base.initial environment

lemma eq_shown_of_entry {values : List α} {missing : Option ParseError}
    {pair : String × FieldValue α} (h : base.entry environment values missing = .ok pair) :
    pair = (base.name, base.shown environment values) := by
  rw [entry] at h
  rw [shown]
  cases hlast : values.getLast? with
  | some last =>
    rw [hlast] at h
    exact (Except.ok.inj h).symm
  | none =>
    rw [hlast] at h
    simp only [absent] at h
    cases hdefault : base.default with
    | expression expression =>
      rw [hdefault] at h
      exact (Except.ok.inj h).symm
    | initial =>
      rw [hdefault] at h
      exact (Except.ok.inj h).symm
    | none =>
      rw [hdefault] at h
      cases missing with
      | none => exact (Except.ok.inj h).symm
      | some error =>
        cases hrequired : base.required with
        | true => simp [hrequired, Except.map] at h
        | false =>
          rw [hrequired] at h
          exact (Except.ok.inj h).symm

/-- Only a required field without a value is missing. -/
lemma entry_eq_ok {values : List α} {missing : Option ParseError}
    (h : base.required = true → missing.isSome = true → values ≠ []) :
    base.entry environment values missing = .ok (base.name, base.shown environment values) := by
  suffices hok : ∃ pair, base.entry environment values missing = .ok pair by
    obtain ⟨pair, hpair⟩ := hok
    rw [hpair, eq_shown_of_entry hpair]
  rw [entry]
  cases hlast : values.getLast? with
  | some last => exact ⟨_, rfl⟩
  | none =>
    have hnil : values = [] := List.getLast?_eq_none_iff.mp hlast
    unfold absent
    cases base.default with
    | expression expression => exact ⟨_, rfl⟩
    | initial => exact ⟨_, rfl⟩
    | none =>
      cases missing with
      | none => exact ⟨_, rfl⟩
      | some error =>
        have hrequired : ¬ base.required = true := fun hrequired => h hrequired rfl hnil
        simp [hrequired, Except.map]

end FieldBase

/-! ### Records -/

namespace Interface

variable {α : Type} {interface : Interface} {environment : Environment α}

/-- The options of a model are those of the fields. -/
lemma option_eq_some_iff {place : Nat} {option : OptionSpec} :
    (interface.model environment).options[place]? = some option ↔
      ∃ field, interface.options[place]? = some field ∧ field.spec environment = option := by
  simp [model, Option.map_eq_some_iff]

/-- The parameters of a model are those of the fields, with their places. -/
lemma parameter_eq_some_iff {place : Nat} {parameter : ParameterSpec} :
    (interface.model environment).parameters[place]? = some parameter ↔
      ∃ field, interface.parameters[place]? = some field ∧
        field.spec place environment = parameter := by
  simp [model, Option.map_eq_some_iff]

/-- All fields with their slots, in the order of the record. -/
def fields (interface : Interface) : List (Slot × FieldBase) :=
  (interface.options.zipIdx.map fun (field, place) => (.option place, field.base)) ++
  (interface.parameters.zipIdx.map fun (field, place) => (.parameter place, field.base)) ++
  interface.remaining.toList.map fun field => (.remaining, field.base)

lemma base?_of_mem_fields {slot : Slot} {base : FieldBase} (h : (slot, base) ∈ interface.fields) :
    interface.base? slot = some base := by
  simp only [fields, List.mem_append, List.mem_map, Prod.mk.injEq] at h
  rcases h with (⟨⟨field, place⟩, hmem, rfl, rfl⟩ | ⟨⟨field, place⟩, hmem, rfl, rfl⟩) |
    ⟨field, hmem, rfl, rfl⟩
  · simp [base?, List.mem_zipIdx_iff_getElem?.mp hmem]
  · simp [base?, List.mem_zipIdx_iff_getElem?.mp hmem]
  · simp [base?, Option.mem_toList.mp hmem]

/-- The record that shows every field by its values. -/
def record (interface : Interface) (environment : Environment α) (values : Slot → List α) :
    Record α :=
  interface.fields.map fun (slot, base) => (base.name, base.shown environment (values slot))

/-- Only the values of the fields are shown. -/
lemma record_congr (environment : Environment α) {first second : Slot → List α}
    (h : ∀ slot base, interface.base? slot = some base → first slot = second slot) :
    interface.record environment first = interface.record environment second := by
  apply List.map_congr_left
  rintro ⟨slot, base⟩ hmem
  dsimp only
  rw [h slot base (base?_of_mem_fields hmem)]

/-- Building does not fail if every required field has a value. -/
lemma build_eq_ok {storage : Storage α}
    (hoptions : ∀ (place : Nat) (field : OptionField), interface.options[place]? = some field →
      field.base.required = true → storage (.option place) ≠ [])
    (hparameters : ∀ (place : Nat) (field : ParameterField),
      interface.parameters[place]? = some field → field.base.required = true →
        storage (.parameter place) ≠ []) :
    interface.build environment storage = .ok (interface.record environment storage) := by
  have hall : interface.options.zipIdx.mapM (fun (field, place) =>
      field.base.entry environment (storage (.option place)) (some (.missingOption field.tags))) =
        .ok (interface.options.zipIdx.map fun (field, place) =>
          (field.base.name, field.base.shown environment (storage (.option place)))) := by
    apply mapM_eq_ok_map
    rintro ⟨field, place⟩ hmem
    exact FieldBase.entry_eq_ok fun hrequired _ =>
      hoptions place field (List.mem_zipIdx_iff_getElem?.mp hmem) hrequired
  have hmany : interface.parameters.zipIdx.mapM (fun (field, place) =>
      field.base.entry environment (storage (.parameter place))
        (some (.missingParameter field.name place))) =
        .ok (interface.parameters.zipIdx.map fun (field, place) =>
          (field.base.name, field.base.shown environment (storage (.parameter place)))) := by
    apply mapM_eq_ok_map
    rintro ⟨field, place⟩ hmem
    exact FieldBase.entry_eq_ok fun hrequired _ =>
      hparameters place field (List.mem_zipIdx_iff_getElem?.mp hmem) hrequired
  have hrest : interface.remaining.toList.mapM (fun field =>
      field.base.entry environment (storage .remaining) none) =
        .ok (interface.remaining.toList.map fun field =>
          (field.base.name, field.base.shown environment (storage .remaining))) :=
    mapM_eq_ok_map fun field _ => FieldBase.entry_eq_ok fun _ hmissing => by simp at hmissing
  rw [build]
  rw [hall, hmany, hrest]
  simp [record, fields, bind, Except.bind, pure, Except.pure, Function.comp_def]

lemma eq_record_of_build {storage : Storage α} {found : Record α}
    (h : interface.build environment storage = .ok found) :
    found = interface.record environment storage := by
  rw [build] at h
  obtain ⟨options, hoptions, h⟩ := Except.bind_eq_ok_iff.mp h
  obtain ⟨parameters, hparameters, h⟩ := Except.bind_eq_ok_iff.mp h
  obtain ⟨remaining, hremaining, h⟩ := Except.bind_eq_ok_iff.mp h
  rw [← Except.ok.inj h, eq_map_of_mapM hoptions fun _ _ => FieldBase.eq_shown_of_entry,
    eq_map_of_mapM hparameters fun _ _ => FieldBase.eq_shown_of_entry,
    eq_map_of_mapM hremaining fun _ _ => FieldBase.eq_shown_of_entry]
  simp [Interface.record, fields, Function.comp_def]

/-- A required field without a default has a value wherever a record is built. -/
lemma ne_nil_of_build {storage : Storage α} {found : Record α}
    (h : interface.build environment storage = .ok found) {slot : Slot} {base : FieldBase}
    (hbase : interface.base? slot = some base) (hslot : slot ≠ .remaining)
    (hrequired : base.required = true) (hdefault : base.default = .none) :
    storage slot ≠ [] := by
  have hentry {missing : ParseError} {pair : String × FieldValue α}
      (hok : base.entry environment (storage slot) (some missing) = .ok pair) :
      storage slot ≠ [] := by
    intro hnil
    simp [FieldBase.entry, FieldBase.absent, hnil, hrequired, hdefault, Except.map] at hok
  rw [build] at h
  obtain ⟨options, hoptions, h⟩ := Except.bind_eq_ok_iff.mp h
  obtain ⟨parameters, hparameters, h⟩ := Except.bind_eq_ok_iff.mp h
  cases slot with
  | remaining => exact absurd rfl hslot
  | option place =>
    obtain ⟨field, hfield, rfl⟩ := Option.map_eq_some_iff.mp hbase
    have hmem : (field, place) ∈ interface.options.zipIdx :=
      List.mem_zipIdx_iff_getElem?.mpr hfield
    obtain ⟨pair, -, hok⟩ := exists_of_mem_list hoptions hmem
    exact hentry hok
  | parameter place =>
    obtain ⟨field, hfield, rfl⟩ := Option.map_eq_some_iff.mp hbase
    have hmem : (field, place) ∈ interface.parameters.zipIdx :=
      List.mem_zipIdx_iff_getElem?.mpr hfield
    obtain ⟨pair, -, hok⟩ := exists_of_mem_list hparameters hmem
    exact hentry hok

end Interface

end CommandLine
