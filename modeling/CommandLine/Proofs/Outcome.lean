import CommandLine.Proofs.Acceptance
import CommandLine.Proofs.Completion
import CommandLine.Proofs.Given
import CommandLine.Proofs.Lookahead

/-!
# Successful runs

A run succeeds exactly if no event of the command line finds an error. Then every slot holds the
values of the texts that the command line gives it, and these values make the record.
-/

namespace CommandLine

namespace Interface

variable {α : Type} {interface : Interface} {environment : Environment α}

/-! ### Slots of the model -/

lemma has_of_base? {slot : Slot} {base : FieldBase} (h : interface.base? slot = some base) :
    (interface.model environment).Has slot := by
  cases slot with
  | option place =>
    obtain ⟨field, hfield, -⟩ := Option.map_eq_some_iff.mp h
    simpa [Model.Has, model] using (List.getElem?_eq_some_iff.mp hfield).1
  | parameter place =>
    obtain ⟨field, hfield, -⟩ := Option.map_eq_some_iff.mp h
    simpa [Model.Has, model] using (List.getElem?_eq_some_iff.mp hfield).1
  | remaining =>
    obtain ⟨field, hfield, -⟩ := Option.map_eq_some_iff.mp h
    simp [Model.Has, model, hfield]

/-- An option of the model has the kind of its field. -/
lemma kind_of_base? {place : Nat} {base : FieldBase} {option : OptionSpec}
    (hbase : interface.base? (.option place) = some base)
    (hoption : (interface.model environment).options[place]? = some option) :
    option.kind = base.kind environment := by
  obtain ⟨field, hfield, rfl⟩ := Option.map_eq_some_iff.mp hbase
  obtain ⟨_, hsame, rfl⟩ := option_eq_some_iff.mp hoption
  obtain rfl := Option.some.inj (hfield.symm.trans hsame)
  rfl

lemma wrapper_of_gathers (hsound : interface.Sound) {slot : Slot} {base : FieldBase}
    (hbase : interface.base? slot = some base)
    (hgathers : (interface.model environment).Gathers slot) :
    base.shape.wrapper = .sequence := by
  cases slot with
  | option place =>
    obtain ⟨option, hoption, hsequence⟩ := hgathers
    rw [kind_of_base? hbase hoption] at hsequence
    exact of_decide_eq_true hsequence
  | parameter place => exact hgathers.elim
  | remaining =>
    obtain ⟨field, hfield, rfl⟩ := Option.map_eq_some_iff.mp hbase
    exact hsound.remaining field hfield

/-! ### Values -/

/-- The values that a command line gives to a slot. -/
def values (interface : Interface) (environment : Environment α) (arguments : List String)
    (slot : Slot) : List α :=
  ((interface.model environment).given arguments slot).filterMap
    (interface.decode? environment slot)

/-- If nothing is found to be wrong, every slot holds the values that it is given, all given texts
can be decoded, and only a sequence is given more than one. -/
theorem stored_eq_values (hsound : interface.Sound) {arguments : List String}
    (hflawless : ∀ event ∈ (interface.model environment).account arguments,
      interface.Flawless environment event)
    {slot : Slot} {base : FieldBase} (hbase : interface.base? slot = some base) :
    ((interface.program environment).performAll
        ((interface.model environment).account arguments)).1 slot =
      interface.values environment arguments slot ∧
    (∀ text ∈ (interface.model environment).given arguments slot,
      (interface.decode? environment slot text).isSome = true) ∧
    (base.shape.wrapper = .sequence ∨
      ((interface.model environment).given arguments slot).length ≤ 1) := by
  have hstored : ((interface.program environment).performAll
      ((interface.model environment).account arguments)).1 slot = base.keep [] _ :=
    storage_of_flawless hflawless hbase (Storage.empty, [])
  have htexts : ∀ text ∈ Event.textsIn slot ((interface.model environment).account arguments),
      (interface.decode? environment slot text).isSome = true :=
    fun text htext => decode?_of_flawless hflawless htext
  have hquiet : ∀ error, .report error ∉ (interface.model environment).account arguments :=
    fun error hmem => hflawless _ hmem
  rw [values]
  rcases Model.stored_or_replaced hquiet (has_of_base? hbase) with
    ⟨heq, hsize⟩ | ⟨place, option, text, rfl, hoption, hnullable, -, heq, hgiven⟩
  · have hfits : base.shape.wrapper = .sequence ∨
        ((interface.model environment).given arguments slot).length ≤ 1 :=
      hsize.imp_left (wrapper_of_gathers hsound hbase)
    refine ⟨?_, by rwa [← heq], hfits⟩
    rw [hstored, heq]
    exact FieldBase.keep_eq_self
      (hfits.imp_right (Nat.le_trans (List.length_filterMap_le _ _)))
  · -- the value of the text takes the place of the value that the flag itself stands for
    rw [heq] at hstored htexts
    obtain ⟨implied, himplied⟩ := Option.isSome_iff_exists.mp (htexts "true" (by simp))
    obtain ⟨value, hvalue⟩ := Option.isSome_iff_exists.mp (htexts text (by simp))
    have hwrapper : base.shape.wrapper ≠ .sequence := by
      rw [kind_of_base? hbase hoption] at hnullable
      intro hsequence
      simp [ValueKind.isNullableFlag, FieldBase.kind, hsequence] at hnullable
    rw [hgiven]
    refine ⟨?_, fun other hother => ?_, .inr (by simp)⟩
    · have hkeep : base.keep [] [implied, value] = [value] :=
        FieldBase.keep_of_not_sequence hwrapper [implied] value []
      simpa [himplied, hvalue, hkeep] using hstored
    · obtain rfl := List.mem_singleton.mp hother
      simp [hvalue]

/-! ### Outcomes -/

/-- A run succeeds exactly if no command is selected and no event of the command line finds an
error, and then the record shows the given values. -/
theorem parse_eq_options_iff (hsound : interface.Sound) {arguments : List String}
    {found : Record α} :
    (interface.program environment).parse arguments = .options found ↔
      (∃ outcome, Reader.readAll (interface.model environment) .initial arguments = .ok outcome) ∧
      (∀ event ∈ (interface.model environment).account arguments,
        interface.Flawless environment event) ∧
      found = interface.record environment (interface.values environment arguments) := by
  cases hread : Reader.readAll (interface.model environment) .initial arguments with
  | error command => simp [Program.parse, program, hread]
  | ok outcome =>
    have hstored (hflawless : ∀ event ∈ (interface.model environment).account arguments,
        interface.Flawless environment event) :=
      record_congr environment fun slot base hbase =>
        (stored_eq_values hsound hflawless hbase).1
    obtain ⟨reader, events⟩ := outcome
    rw [Program.parse_of_readAll hread, Program.conclude_eq_options_iff]
    constructor
    · rintro ⟨hnone, hbuild⟩
      have hflawless := errors_performAll_eq_nil_iff.mp hnone
      exact ⟨⟨_, rfl⟩, hflawless, (eq_record_of_build hbuild).trans (hstored hflawless)⟩
    · rintro ⟨-, hflawless, rfl⟩
      have hnone := errors_performAll_eq_nil_iff.mpr hflawless
      refine ⟨hnone, ?_⟩
      rw [← Reader.account_of_readAll hread] at hnone
      obtain ⟨built, hbuilt⟩ := exists_build hread hnone
      rw [Reader.account_of_readAll hread] at hbuilt
      rw [← hstored hflawless, ← eq_record_of_build hbuilt]
      exact hbuilt

end Interface

end CommandLine
