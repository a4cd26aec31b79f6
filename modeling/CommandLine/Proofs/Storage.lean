import CommandLine.Declaration.Program
import Mathlib.Tactic.Common

/-!
# Performing events

Errors are only ever added, and a slot that holds a value keeps holding one. Events are performed
without an error exactly if none of them reports one and every text can be decoded, and then a slot
holds the values of the texts that were stored in it.
-/

namespace CommandLine

/-- The texts that events store in a slot, in order. -/
def Event.textsIn (slot : Slot) (events : List Event) : List String :=
  events.filterMap fun
    | .store target text _ => if target = slot then some text else none
    | .mention _ | .report _ => none

namespace Event

@[simp] lemma textsIn_nil (slot : Slot) : textsIn slot [] = [] := rfl

@[simp] lemma textsIn_append (slot : Slot) (first second : List Event) :
    textsIn slot (first ++ second) = textsIn slot first ++ textsIn slot second := by
  simp [textsIn]

@[simp] lemma textsIn_report (slot : Slot) (error : ParseError) (rest : List Event) :
    textsIn slot (.report error :: rest) = textsIn slot rest := rfl

@[simp] lemma textsIn_store (slot target : Slot) (text : String) (blame : ParseError)
    (rest : List Event) :
    textsIn slot (.store target text blame :: rest) =
      if target = slot then text :: textsIn slot rest else textsIn slot rest := by
  by_cases h : target = slot <;> simp [textsIn, h]

/-- Where no single event stores a text in a slot, none is stored in it. -/
lemma textsIn_eq_nil {slot : Slot} {events : List Event}
    (h : ∀ event ∈ events, textsIn slot [event] = []) : textsIn slot events = [] := by
  induction events with
  | nil => rfl
  | cons event rest ih =>
    have hsplit := textsIn_append slot [event] rest
    rwa [h event (by simp), ih fun other hother => h other (by simp [hother])] at hsplit

/-- A view that ignores reports shows nothing of them. -/
lemma filterMap_reports {β : Type} {view : Event → Option β}
    (hview : ∀ error, view (.report error) = none) {events : List Event}
    (h : ∀ event ∈ events, ∃ error, event = .report error) : events.filterMap view = [] := by
  rw [List.filterMap_eq_nil_iff]
  intro event hevent
  obtain ⟨error, rfl⟩ := h event hevent
  exact hview error

end Event

/-! ### Errors -/

namespace Program

variable {σ α : Type} {program : Program σ α}

lemma mem_errors_perform {error : ParseError} {so : σ × List ParseError} (h : error ∈ so.2)
    (event : Event) : error ∈ (program.perform so event).2 := by
  cases event with
  | mention mention => exact h
  | report other => simp [perform, h]
  | store slot text blame =>
    unfold perform
    dsimp only
    split
    · exact h
    · simp [h]

/-- An error that was found stays. -/
lemma mem_errors_foldl_perform {error : ParseError} {so : σ × List ParseError}
    (h : error ∈ so.2) (events : List Event) : error ∈ (events.foldl program.perform so).2 := by
  induction events generalizing so with
  | nil => exact h
  | cons event rest ih => exact ih (mem_errors_perform h event)

/-- What is reported is found. -/
lemma mem_errors_of_report {error : ParseError} {events : List Event}
    (h : .report error ∈ events) (so : σ × List ParseError) :
    error ∈ (events.foldl program.perform so).2 := by
  induction events generalizing so with
  | nil => simp at h
  | cons event rest ih =>
    rcases List.mem_cons.mp h with rfl | hrest
    · exact mem_errors_foldl_perform (by simp [perform]) rest
    · exact ih hrest _

/-- Options come of events that find no error, if they can be built. -/
lemma conclude_eq_options_iff {events : List Event} {options : α} :
    program.conclude events = .options options ↔
      (program.performAll events).2 = [] ∧
        program.build (program.performAll events).1 = .ok options := by
  rw [conclude]
  cases hcollect : ParseErrors.collect (program.performAll events).2 with
  | some collected =>
    have herrors : (program.performAll events).2 ≠ [] := by
      intro hnone
      simp [ParseErrors.collect_eq_none_iff.mpr hnone] at hcollect
    simp [hcollect, herrors]
  | none =>
    have hnone := ParseErrors.collect_eq_none_iff.mp hcollect
    cases hbuild : program.build (program.performAll events).1 with
    | error error =>
      simp only [hcollect]
      simp [hbuild]
    | ok found =>
      simp only [hcollect]
      simp [hnone, hbuild]

/-- No command comes of events. -/
lemma conclude_ne_command (program : Program σ α) (events : List Event)
    (command : SpecialCommand) : program.conclude events ≠ .command command := by
  simp only [conclude]
  split
  · simp
  · split <;> simp

end Program

/-! ### Values -/

namespace FieldBase

variable {α : Type}

lemma stored_ne_nil (base : FieldBase) (before : List α) (value : α) :
    base.stored before value ≠ [] := by
  rw [stored]
  split_ifs <;> simp

/-- What a field holds after some values. -/
def keep (base : FieldBase) (before values : List α) : List α :=
  values.foldl base.stored before

lemma keep_append (base : FieldBase) (before first second : List α) :
    base.keep before (first ++ second) = base.keep (base.keep before first) second :=
  List.foldl_append ..

lemma keep_of_sequence {base : FieldBase} (h : base.shape.wrapper = .sequence)
    (before values : List α) : base.keep before values = before ++ values := by
  induction values generalizing before with
  | nil => simp [keep]
  | cons value rest ih =>
    rw [keep, List.foldl_cons]
    simpa [keep, stored, h] using ih (base.stored before value)

lemma keep_of_not_sequence {base : FieldBase} (h : base.shape.wrapper ≠ .sequence)
    (values : List α) (last : α) (before : List α) :
    base.keep before (values ++ [last]) = [last] := by
  simp [keep, stored, h]

/-- A field keeps all of its values if it is a sequence or has at most one of them. -/
lemma keep_eq_self {base : FieldBase} {values : List α}
    (h : base.shape.wrapper = .sequence ∨ values.length ≤ 1) : base.keep [] values = values := by
  rcases h with hsequence | hlength
  · exact keep_of_sequence hsequence [] values
  · match values, hlength with
    | [], _ => rfl
    | [value], _ => simp [keep, stored]

end FieldBase

namespace Interface

variable {α : Type} {interface : Interface} {environment : Environment α}

/-- The value of a text in a slot. -/
def decode? (interface : Interface) (environment : Environment α) (slot : Slot) (text : String) :
    Option α :=
  (interface.base? slot).bind fun base =>
    ((environment.decoder base.shape.scalar).decode text).toOption

lemma store_of_decode? {slot : Slot} {base : FieldBase} {text : String} {value : α}
    (hbase : interface.base? slot = some base)
    (hvalue : interface.decode? environment slot text = some value) (storage : Storage α) :
    interface.store environment slot text storage =
      .ok (storage.set slot (base.stored (storage slot) value)) := by
  simp only [decode?, hbase, Option.bind_some] at hvalue
  cases hdecode : (environment.decoder base.shape.scalar).decode text with
  | error fault => simp [hdecode, Except.toOption] at hvalue
  | ok found =>
    obtain rfl : found = value := by simpa [hdecode, Except.toOption] using hvalue
    simp [store, hbase, hdecode]

lemma store_of_decode?_eq_none {slot : Slot} {text : String}
    (hvalue : interface.decode? environment slot text = none) (storage : Storage α) :
    ∃ fault, interface.store environment slot text storage = .error fault := by
  rw [store]
  cases hbase : interface.base? slot with
  | none => exact ⟨_, rfl⟩
  | some base =>
    cases hdecode : (environment.decoder base.shape.scalar).decode text with
    | error fault => exact ⟨fault, by simp [hdecode]⟩
    | ok found => simp [decode?, hbase, hdecode, Except.toOption] at hvalue

lemma exists_base_of_decode? {slot : Slot} {text : String} {value : α}
    (hvalue : interface.decode? environment slot text = some value) :
    ∃ base, interface.base? slot = some base := by
  cases hbase : interface.base? slot with
  | none => simp [decode?, hbase] at hvalue
  | some base => exact ⟨base, rfl⟩

lemma perform_store_of_decode? {slot : Slot} {base : FieldBase} {text : String} {value : α}
    (hbase : interface.base? slot = some base)
    (hvalue : interface.decode? environment slot text = some value) (blame : ParseError)
    (so : Storage α × List ParseError) :
    (interface.program environment).perform so (.store slot text blame) =
      (so.1.set slot (base.stored (so.1 slot) value), so.2) := by
  simp [Program.perform, program, store_of_decode? hbase hvalue]

lemma perform_store_of_decode?_eq_none {slot : Slot} {text : String}
    (hvalue : interface.decode? environment slot text = none) (blame : ParseError)
    (so : Storage α × List ParseError) :
    (interface.program environment).perform so (.store slot text blame) =
      (so.1, so.2 ++ [blame]) := by
  obtain ⟨fault, hstore⟩ := store_of_decode?_eq_none hvalue so.1
  simp [Program.perform, program, hstore]

lemma stored_perform {slot : Slot} {so : Storage α × List ParseError} (h : so.1 slot ≠ [])
    (event : Event) : ((interface.program environment).perform so event).1 slot ≠ [] := by
  cases event with
  | mention mention => exact h
  | report error => exact h
  | store target text blame =>
    cases hvalue : interface.decode? environment target text with
    | none =>
      rw [perform_store_of_decode?_eq_none hvalue]
      exact h
    | some value =>
      obtain ⟨base, hbase⟩ := exists_base_of_decode? hvalue
      rw [perform_store_of_decode? hbase hvalue]
      by_cases hslot : slot = target
      · subst hslot
        simpa using base.stored_ne_nil (so.1 slot) value
      · simpa [Storage.set_of_ne _ _ hslot] using h

/-- A slot that holds a value keeps holding one. -/
lemma stored_foldl_perform {slot : Slot} {so : Storage α × List ParseError} (h : so.1 slot ≠ [])
    (events : List Event) :
    (events.foldl (interface.program environment).perform so).1 slot ≠ [] := by
  induction events generalizing so with
  | nil => exact h
  | cons event rest ih => exact ih (stored_perform h event)

lemma storage_perform_of_ne {slot target : Slot} (h : slot ≠ target) (text : String)
    (blame : ParseError) (so : Storage α × List ParseError) :
    ((interface.program environment).perform so (.store target text blame)).1 slot =
      so.1 slot := by
  cases hvalue : interface.decode? environment target text with
  | none => rw [perform_store_of_decode?_eq_none hvalue]
  | some value =>
    obtain ⟨base, hbase⟩ := exists_base_of_decode? hvalue
    rw [perform_store_of_decode? hbase hvalue]
    exact Storage.set_of_ne _ _ h

/-- A slot stays as it is while no text is stored in it. -/
lemma storage_foldl_perform_of_textsIn_eq_nil {slot : Slot} {events : List Event}
    (h : Event.textsIn slot events = []) (so : Storage α × List ParseError) :
    (events.foldl (interface.program environment).perform so).1 slot = so.1 slot := by
  induction events generalizing so with
  | nil => rfl
  | cons event rest ih =>
    cases event with
    | mention mention => exact ih h _
    | report error => exact ih h _
    | store target text blame =>
      rw [Event.textsIn_store] at h
      split_ifs at h with htarget
      rw [List.foldl_cons, ih h, storage_perform_of_ne (Ne.symm htarget)]

/-- A text that is to be stored is stored, or its error is found. -/
lemma stored_or_mem_errors {slot : Slot} {text : String} {blame : ParseError} {events : List Event}
    (h : .store slot text blame ∈ events) (so : Storage α × List ParseError) :
    (events.foldl (interface.program environment).perform so).1 slot ≠ [] ∨
      blame ∈ (events.foldl (interface.program environment).perform so).2 := by
  induction events generalizing so with
  | nil => simp at h
  | cons event rest ih =>
    rcases List.mem_cons.mp h with rfl | hrest
    · rw [List.foldl_cons]
      cases hvalue : interface.decode? environment slot text with
      | none =>
        right
        apply Program.mem_errors_foldl_perform
        simp [perform_store_of_decode?_eq_none hvalue]
      | some value =>
        left
        obtain ⟨base, hbase⟩ := exists_base_of_decode? hvalue
        apply stored_foldl_perform
        simpa [perform_store_of_decode? hbase hvalue] using base.stored_ne_nil (so.1 slot) value
    · exact ih hrest _

/-! ### Events without errors -/

/-- An event that finds no error: nothing is reported, and the text that is to be stored can be
decoded. -/
def Flawless (interface : Interface) (environment : Environment α) : Event → Prop
  | .mention _ => True
  | .report _ => False
  | .store slot text _ => (interface.decode? environment slot text).isSome = true

/-- A text that is stored by events without errors can be decoded. -/
lemma decode?_of_flawless {events : List Event}
    (h : ∀ event ∈ events, interface.Flawless environment event) {slot : Slot} {text : String}
    (htext : text ∈ Event.textsIn slot events) :
    (interface.decode? environment slot text).isSome = true := by
  obtain ⟨event, hevent, hview⟩ := List.mem_filterMap.mp htext
  cases event with
  | mention mention => simp at hview
  | report error => simp at hview
  | store target stored blame =>
    dsimp only at hview
    split_ifs at hview with hslot
    obtain rfl := Option.some.inj hview
    subst hslot
    exact h _ hevent

lemma flawless_of_errors_perform {event : Event} {so : Storage α × List ParseError}
    (h : ((interface.program environment).perform so event).2 = []) :
    interface.Flawless environment event := by
  cases event with
  | mention mention => exact trivial
  | report error => simp [Program.perform] at h
  | store slot text blame =>
    cases hvalue : interface.decode? environment slot text with
    | some value => simp [Flawless, hvalue]
    | none => simp [perform_store_of_decode?_eq_none hvalue] at h

/-- If no error is found, every event is without one. -/
lemma flawless_of_errors_eq_nil {events : List Event} {so : Storage α × List ParseError}
    (h : (events.foldl (interface.program environment).perform so).2 = []) :
    ∀ event ∈ events, interface.Flawless environment event := by
  induction events generalizing so with
  | nil => simp
  | cons event rest ih =>
    rw [List.foldl_cons] at h
    have hfirst : ((interface.program environment).perform so event).2 = [] := by
      apply List.eq_nil_iff_forall_not_mem.mpr
      intro error hmem
      have hfinal : error ∈ (rest.foldl (interface.program environment).perform _).2 :=
        Program.mem_errors_foldl_perform hmem rest
      rw [h] at hfinal
      exact List.not_mem_nil hfinal
    intro other hother
    rcases List.mem_cons.mp hother with rfl | hrest
    · exact flawless_of_errors_perform hfirst
    · exact ih h other hrest

lemma errors_perform_of_flawless {event : Event} (h : interface.Flawless environment event)
    (so : Storage α × List ParseError) :
    ((interface.program environment).perform so event).2 = so.2 := by
  cases event with
  | mention mention => rfl
  | report error => exact absurd h id
  | store slot text blame =>
    obtain ⟨value, hvalue⟩ := Option.isSome_iff_exists.mp h
    obtain ⟨base, hbase⟩ := exists_base_of_decode? hvalue
    rw [perform_store_of_decode? hbase hvalue]

/-- Events without errors leave the errors as they are. -/
lemma errors_of_flawless {events : List Event}
    (h : ∀ event ∈ events, interface.Flawless environment event)
    (so : Storage α × List ParseError) :
    (events.foldl (interface.program environment).perform so).2 = so.2 := by
  induction events generalizing so with
  | nil => rfl
  | cons event rest ih =>
    rw [List.foldl_cons, ih fun other hother => h other (by simp [hother])]
    exact errors_perform_of_flawless (h event (by simp)) so

lemma storage_perform_of_flawless {event : Event} (h : interface.Flawless environment event)
    {slot : Slot} {base : FieldBase} (hbase : interface.base? slot = some base)
    (so : Storage α × List ParseError) :
    ((interface.program environment).perform so event).1 slot =
      base.keep (so.1 slot)
        ((Event.textsIn slot [event]).filterMap (interface.decode? environment slot)) := by
  cases event with
  | mention mention => rfl
  | report error => rfl
  | store target text blame =>
    obtain ⟨value, hvalue⟩ := Option.isSome_iff_exists.mp h
    obtain ⟨found, hfound⟩ := exists_base_of_decode? hvalue
    rw [perform_store_of_decode? hfound hvalue]
    by_cases hslot : target = slot
    · subst hslot
      obtain rfl : found = base := by simpa [hfound] using hbase
      simp [hvalue, FieldBase.keep]
    · simp [hslot, Storage.set_of_ne _ _ (Ne.symm hslot), FieldBase.keep]

/-- After events without errors a slot holds what it keeps of the values of its texts. -/
lemma storage_of_flawless {events : List Event}
    (h : ∀ event ∈ events, interface.Flawless environment event) {slot : Slot} {base : FieldBase}
    (hbase : interface.base? slot = some base) (so : Storage α × List ParseError) :
    (events.foldl (interface.program environment).perform so).1 slot =
      base.keep (so.1 slot)
        ((Event.textsIn slot events).filterMap (interface.decode? environment slot)) := by
  induction events generalizing so with
  | nil => rfl
  | cons event rest ih =>
    have hsplit : Event.textsIn slot (event :: rest) =
        Event.textsIn slot [event] ++ Event.textsIn slot rest :=
      Event.textsIn_append slot [event] rest
    rw [List.foldl_cons, ih fun other hother => h other (by simp [hother]),
      storage_perform_of_flawless (h event (by simp)) hbase, hsplit, List.filterMap_append,
      FieldBase.keep_append]

/-- Performing all events finds no error exactly if every event is without one. -/
theorem errors_performAll_eq_nil_iff {events : List Event} :
    ((interface.program environment).performAll events).2 = [] ↔
      ∀ event ∈ events, interface.Flawless environment event :=
  ⟨flawless_of_errors_eq_nil, fun h => errors_of_flawless h _⟩

end Interface

end CommandLine
