import CommandLine.Proofs.Move
import CommandLine.Proofs.Record
import CommandLine.Proofs.Storage
import CommandLine.Sample.Archive

/-!
# Completion

An option counts as seen before it has a value, and its value may never come, or be refused, or not
be allowed at all. After any arguments an option that was seen nevertheless has a value, or an error
says why it has none, or it is the one whose value comes next; and a parameter that was given has a
value or an error. This is why building the record cannot fail once there are no errors: a required
field without a value would have been found before.
-/

namespace CommandLine

/-! ### What settles an option -/

/-- The event brings an option its value, or the error that it gets none. -/
inductive Event.Settles (model : Model) (place : Nat) : Event → Prop
  | store {name : OptionName} (text : String) (htagged : model.Tagged place name) :
      Settles model place (.store (.option place) text (.badOptionValue text name.text))
  | missing {name : OptionName} (htagged : model.Tagged place name) :
      Settles model place (.report (.optionValueMissing name.text))
  | flag {name : OptionName} (text : String) (htagged : model.Tagged place name) :
      Settles model place (.report (.flagValue name.text text))

/-- The event brings a parameter its value. -/
inductive Event.Gives (model : Model) (place : Nat) : Event → Prop
  | intro {parameter : ParameterSpec} (text : String)
      (hparameter : model.parameters[place]? = some parameter) :
      Gives model place (.store (.parameter place) text
        (.badParameterValue text parameter.name parameter.index))

lemma Model.Mentions.settles_store {model : Model} {mention : Mention} (h : model.Mentions mention)
    (text : String) : (mention.store text).Settles model mention.option :=
  .store text h.tagged

namespace Reader

/-! ### Invariant -/

/-- What the reader counts is backed by the events so far. -/
structure Backed (model : Model) (reader : Reader) (events : List Event) : Prop where
  /-- An option that takes values is one of the model. It is settled unless it needs its first. -/
  awaited : ∀ mention taken, reader.expectation = .value mention taken →
    model.Mentions mention ∧
      (taken = true ∨ mention.kind.isNullableFlag = true →
        ∃ event ∈ events, event.Settles model mention.option)
  options : ∀ place ∈ reader.seen, (∃ event ∈ events, event.Settles model place) ∨
    ∃ mention, reader.expectation = .value mention false ∧ mention.option = place
  parameters : ∀ place < reader.filled, ∃ event ∈ events, event.Gives model place

namespace Backed

variable {model : Model} {reader : Reader} {events : List Event}

lemma ready (model : Model) : Backed model Reader.ready [] :=
  ⟨by simp [Reader.ready], by simp [Reader.ready, Reader.initial, Reader.expecting],
    by simp [Reader.ready, Reader.initial, Reader.expecting]⟩

/-- Events that are added take nothing away. -/
lemma append (h : Backed model reader events) (more : List Event) :
    Backed model reader (events ++ more) := by
  have hmore {p : Event → Prop} (hp : ∃ event ∈ events, p event) :
      ∃ event ∈ events ++ more, p event := by
    obtain ⟨event, hevent, hholds⟩ := hp
    exact ⟨event, List.mem_append_left more hevent, hholds⟩
  constructor
  · intro mention taken hexpect
    exact (h.awaited mention taken hexpect).imp_right fun hsettled hvalue => hmore (hsettled hvalue)
  · intro place hseen
    exact (h.options place hseen).imp_left hmore
  · intro place hfilled
    exact hmore (h.parameters place hfilled)

/-- Unless an option still needs a text, every option that was seen is settled. -/
lemma settled (h : Backed model reader events) (hquiet : reader.abandoned = []) :
    ∀ place ∈ reader.seen, ∃ event ∈ events, event.Settles model place := by
  intro place hseen
  rcases h.options place hseen with hsettled | ⟨mention, hexpect, rfl⟩
  · exact hsettled
  · have hnullable : mention.kind.isNullableFlag = true := by
      by_contra hn
      simp [abandoned, hexpect, hn] at hquiet
    exact (h.awaited mention false hexpect).2 (.inr hnullable)

/-- If every option that was seen is settled, the reader may expect anything but a value. -/
lemma expecting (h : Backed model reader events)
    (hsettled : ∀ place ∈ reader.seen, ∃ event ∈ events, event.Settles model place)
    {expectation : Expectation} (hvalue : ∀ mention taken, expectation ≠ .value mention taken) :
    Backed model (reader.expecting expectation) events :=
  ⟨fun mention taken hexpect => absurd hexpect (hvalue mention taken),
    fun place hseen => .inl (hsettled place hseen), h.parameters⟩

/-- Where nothing is pending, the reader may stop expecting a value. -/
lemma release (h : Backed model reader events) (hquiet : reader.abandoned = []) (more : List Event)
    {expectation : Expectation} (hvalue : ∀ mention taken, expectation ≠ .value mention taken) :
    Backed model (reader.expecting expectation) (events ++ more) :=
  (h.append more).expecting ((h.append more).settled hquiet) hvalue

/-- An option that is mentioned is settled at once or needs its first value now. -/
lemma occur (h : Backed model reader events) (hexpect : reader.expectation = .fresh)
    {mention : Mention} (hmentions : model.Mentions mention) (inline : Option String) :
    Backed model (reader.occur mention inline).1 (events ++ (reader.occur mention inline).2) := by
  have hall := h.append (reader.occur mention inline).2
  -- the option gets a text or an error at once, or a text for it is what is expected next
  have hnow : (∃ event ∈ (reader.occur mention inline).2, event.Settles model mention.option) ∨
      mention.kind.isNullableFlag = false ∧ awaits mention inline = .value mention false := by
    rw [events_occur]
    cases hflag : mention.kind.isFlag with
    | true =>
      left
      cases inline with
      | none => exact ⟨_, by simp [Mention.immediate, hflag], hmentions.settles_store "true"⟩
      | some text => exact ⟨_, by simp [Mention.immediate, hflag], .flag text hmentions.tagged⟩
    | false =>
      cases inline with
      | none => exact .inr ⟨by simp [ValueKind.isNullableFlag, hflag], by simp [awaits, hflag]⟩
      | some text =>
        exact .inl ⟨_, by simp [Mention.immediate, hflag], hmentions.settles_store text⟩
  constructor
  · intro other taken hother
    rw [expectation_occur hexpect] at hother
    obtain rfl := eq_of_awaits hother
    refine ⟨hmentions, fun hvalue => ?_⟩
    rcases hnow with ⟨event, hevent, hsettles⟩ | ⟨hneeds, hawaits⟩
    · exact ⟨event, by simp [hevent], hsettles⟩
    · rw [hawaits] at hother
      simp_all
  · intro place hseen
    rcases mem_seen_occur.mp hseen with rfl | hbefore
    · rcases hnow with ⟨event, hevent, hsettles⟩ | ⟨-, hawaits⟩
      · exact .inl ⟨event, by simp [hevent], hsettles⟩
      · exact .inr ⟨mention, by rw [expectation_occur hexpect, hawaits], rfl⟩
    · exact .inl (hall.settled (by simp [abandoned, hexpect]) place hbefore)
  · intro place hfilled
    rw [filled_occur] at hfilled
    exact hall.parameters place hfilled

/-- Every move keeps the invariant. -/
lemma move {argument : String} {after : Reader} {more : List Event}
    (hmove : Move model argument reader more after) (h : Backed model reader events) :
    Backed model after (events ++ more) := by
  cases hmove with
  | @abandon mention hexpect hneeds =>
    have hnow := (h.awaited mention false hexpect).1
    refine (h.append _).expecting (fun place hseen => ?_) (by simp)
    rcases (h.append _).options place hseen with hsettled | ⟨other, hother, rfl⟩
    · exact hsettled
    · obtain rfl : other = mention := by simpa [hexpect] using hother.symm
      exact ⟨_, by simp, .missing hnow.tagged⟩
  | clear hquiet _ => exact h.release hquiet [] (by simp)
  | terminate hexpect _ => exact h.release (by simp [abandoned, hexpect]) [] (by simp)
  | malformed => exact h.append _
  | unknownLong hexpect =>
    apply h.release (by simp [abandoned, hexpect])
    split_ifs <;> simp
  | unknownShort hexpect => exact h.release (by simp [abandoned, hexpect]) _ (by simp)
  | occur hexpect hwrites => exact h.occur hexpect hwrites.mentions _
  | swallow hexpect _ => exact h.release (by simp [abandoned, hexpect]) [] (by simp)
  | @take mention taken hexpect _ _ =>
    have hmentions := (h.awaited mention taken hexpect).1
    have hnow : ∃ event ∈ events ++ (reader.take mention argument).2,
        event.Settles model mention.option :=
      ⟨_, by simp [Reader.take], hmentions.settles_store argument⟩
    refine ⟨?_, ?_, (h.append _).parameters⟩
    · intro other again hother
      obtain rfl : other = mention := by
        simp only [Reader.take, expectation_expecting, afterValue] at hother
        split_ifs at hother
        exact (Expectation.value.inj hother).1.symm
      exact ⟨hmentions, fun _ => hnow⟩
    · intro place hseen
      left
      rcases (h.append _).options place hseen with hsettled | ⟨other, hother, rfl⟩
      · exact hsettled
      · obtain rfl : other = mention := (Expectation.value.inj (hexpect.symm.trans hother)).1.symm
        exact hnow
  | place hexpect =>
    have hsettled := (h.append (Reader.place model reader argument).2).settled
      (by rcases hexpect with hexpect | ⟨hexpect, -⟩ <;> simp [abandoned, hexpect])
    constructor
    · intro mention taken hother
      rw [expectation_place] at hother
      rcases hexpect with hexpect | ⟨hexpect, -⟩ <;> simp [hexpect] at hother
    · intro place hseen
      left
      apply hsettled
      rw [Reader.place] at hseen
      split at hseen
      · exact hseen
      · split_ifs at hseen <;> exact hseen
    · intro place hfilled
      by_cases hbefore : place < reader.filled
      · exact (h.append _).parameters place hbefore
      · -- the argument itself is what this parameter was given
        rw [Reader.place] at hfilled ⊢
        cases hparameter : model.parameters[reader.filled]? with
        | none =>
          rw [hparameter] at hfilled
          split_ifs at hfilled <;> exact absurd hfilled hbefore
        | some parameter =>
          obtain rfl : place = reader.filled := by
            simp only [hparameter] at hfilled
            omega
          exact ⟨_, by simp, .intro argument hparameter⟩

end Backed

/-- The invariant holds after all arguments. -/
theorem backed_of_readAll {model : Model} {arguments : List String} {reader : Reader}
    {events : List Event} (run : readAll model initial arguments = .ok (reader, events)) :
    Backed model reader events := by
  rcases eq_of_readAll_initial run with ⟨houtcome, -⟩ | houtcome
  · obtain ⟨rfl, rfl⟩ := Prod.mk.inj houtcome
    exact ⟨by simp [initial], by simp [initial], by simp [initial]⟩
  · obtain ⟨rfl, rfl⟩ := Prod.mk.inj houtcome
    exact readMany_induction (fun _ _ _ _ _ hmove h => h.move hmove) (.ready model) arguments

/-! ### The end -/

lemma eq_report_of_mem_abandoned {reader : Reader} {event : Event} (h : event ∈ reader.abandoned) :
    ∃ error, event = .report error := by
  rw [abandoned] at h
  split at h
  · split_ifs at h
    · simp at h
    · exact ⟨_, List.mem_singleton.mp h⟩
  · simp at h

lemma eq_report_of_mem_finish {reader : Reader} {model : Model} {event : Event}
    (h : event ∈ reader.finish model) : ∃ error, event = .report error := by
  rw [finish, List.mem_append, List.mem_append] at h
  rcases h with (habandoned | hoptions) | hparameters
  · exact eq_report_of_mem_abandoned habandoned
  · obtain ⟨entry, -, rfl⟩ := List.mem_map.mp hoptions
    exact ⟨_, rfl⟩
  · obtain ⟨parameter, -, rfl⟩ := List.mem_map.mp hparameters
    exact ⟨_, rfl⟩

lemma mem_seen_of_missingOptions {reader : Reader} {model : Model}
    (h : reader.missingOptions model = []) {place : Nat} {option : OptionSpec}
    (hoption : model.options[place]? = some option) (hrequired : option.required = true) :
    place ∈ reader.seen := by
  by_contra hunseen
  rw [missingOptions, List.map_eq_nil_iff, List.filter_eq_nil_iff] at h
  refine h (option, place) (List.mem_zipIdx_iff_getElem?.mpr hoption) ?_
  simp [hrequired, hunseen]

lemma lt_filled_of_missingParameters {reader : Reader} {model : Model}
    (h : reader.missingParameters model = []) {place : Nat} {parameter : ParameterSpec}
    (hparameter : model.parameters[place]? = some parameter)
    (hrequired : parameter.required = true) : place < reader.filled := by
  by_contra hunfilled
  rw [missingParameters, List.map_eq_nil_iff, List.filter_eq_nil_iff] at h
  refine h parameter (List.mem_of_getElem? (i := place - reader.filled) ?_) hrequired
  rw [List.getElem?_drop, ← hparameter]
  congr 1
  omega

end Reader

/-! ### Building -/

/-- The error says why an option has no value. -/
inductive ParseError.Denies (model : Model) (place : Nat) : ParseError → Prop
  | missing {name : OptionName} (htagged : model.Tagged place name) :
      Denies model place (.optionValueMissing name.text)
  | flag {name : OptionName} (text : String) (htagged : model.Tagged place name) :
      Denies model place (.flagValue name.text text)
  | refused {name : OptionName} (text : String) (htagged : model.Tagged place name) :
      Denies model place (.badOptionValue text name.text)

/-- The error says why a parameter has no value. -/
def ParseError.Refuses (model : Model) (place : Nat) (error : ParseError) : Prop :=
  ∃ parameter text, model.parameters[place]? = some parameter ∧
    error = .badParameterValue text parameter.name parameter.index

namespace Interface

variable {α : Type} {interface : Interface} {environment : Environment α}

lemma stored_or_denied {model : Model} {place : Nat} {events : List Event} {event : Event}
    (hevent : event ∈ events) (hsettles : event.Settles model place)
    (so : Storage α × List ParseError) :
    (events.foldl (interface.program environment).perform so).1 (.option place) ≠ [] ∨
      ∃ error ∈ (events.foldl (interface.program environment).perform so).2,
        error.Denies model place := by
  cases hsettles with
  | store text htagged =>
    rcases stored_or_mem_errors hevent so with hstored | herror
    · exact .inl hstored
    · exact .inr ⟨_, herror, .refused text htagged⟩
  | missing htagged => exact .inr ⟨_, Program.mem_errors_of_report hevent so, .missing htagged⟩
  | flag text htagged => exact .inr ⟨_, Program.mem_errors_of_report hevent so, .flag text htagged⟩

lemma stored_or_refused {model : Model} {place : Nat} {events : List Event} {event : Event}
    (hevent : event ∈ events) (hgives : event.Gives model place)
    (so : Storage α × List ParseError) :
    (events.foldl (interface.program environment).perform so).1 (.parameter place) ≠ [] ∨
      ∃ error ∈ (events.foldl (interface.program environment).perform so).2,
        error.Refuses model place := by
  cases hgives with
  | @intro parameter text hparameter =>
    rcases stored_or_mem_errors hevent so with hstored | herror
    · exact .inl hstored
    · exact .inr ⟨_, herror, parameter, text, hparameter, rfl⟩

/-- If the end of the arguments finds no error, the record is built: what is required was given. -/
theorem exists_build {arguments : List String} {reader : Reader} {events : List Event}
    (run : Reader.readAll (interface.model environment) .initial arguments = .ok (reader, events))
    (hnone : ((interface.program environment).performAll
      (events ++ reader.finish (interface.model environment))).2 = []) :
    ∃ record, interface.build environment ((interface.program environment).performAll
      (events ++ reader.finish (interface.model environment))).1 = .ok record := by
  have hbacked := Reader.backed_of_readAll run
  have hquiet : reader.finish (interface.model environment) = [] := by
    apply List.eq_nil_iff_forall_not_mem.mpr
    intro event hevent
    obtain ⟨error, rfl⟩ := Reader.eq_report_of_mem_finish hevent
    exact errors_performAll_eq_nil_iff.mp hnone (.report error) (by simp [hevent])
  rw [hquiet, List.append_nil] at hnone ⊢
  have hnot (error : ParseError)
      (h : error ∈ ((interface.program environment).performAll events).2) : False := by
    rw [hnone] at h
    exact List.not_mem_nil h
  simp only [Reader.finish, List.append_eq_nil_iff] at hquiet
  obtain ⟨⟨habandoned, hoptions⟩, hparameters⟩ := hquiet
  refine ⟨_, build_eq_ok ?_ ?_⟩
  · intro place field hfield hrequired
    have hseen := Reader.mem_seen_of_missingOptions hoptions
      (option_eq_some_iff.mpr ⟨_, hfield, rfl⟩) hrequired
    obtain ⟨event, hevent, hsettles⟩ := hbacked.settled habandoned place hseen
    rcases stored_or_denied hevent hsettles (Storage.empty, []) with hstored | ⟨error, herror, -⟩
    · exact hstored
    · exact (hnot error herror).elim
  · intro place field hfield hrequired
    have hfilled := Reader.lt_filled_of_missingParameters hparameters
      (parameter_eq_some_iff.mpr ⟨_, hfield, rfl⟩) hrequired
    obtain ⟨event, hevent, hgives⟩ := hbacked.parameters place hfilled
    rcases stored_or_refused hevent hgives (Storage.empty, []) with hstored | ⟨error, herror, -⟩
    · exact hstored
    · exact (hnot error herror).elim

/-- After any arguments, an option that was seen holds a value, or an error denies it one, or its
first value is awaited; a parameter that was given holds a value, or an error refuses it. And if the
end of the arguments finds no error, the record is built. -/
theorem build_of_errors_eq_nil {arguments : List String} {reader : Reader} {events : List Event}
    (run : Reader.readAll (interface.model environment) .initial arguments = .ok (reader, events)) :
    let program := interface.program environment
    let state := program.performAll events
    let final := program.performAll (events ++ reader.finish program.model)
    (∀ place ∈ reader.seen, state.1 (.option place) ≠ [] ∨
      (∃ error ∈ state.2, error.Denies program.model place) ∨
      ∃ mention, reader.expectation = .value mention false ∧ mention.option = place) ∧
    (∀ place < reader.filled, state.1 (.parameter place) ≠ [] ∨
      ∃ error ∈ state.2, error.Refuses program.model place) ∧
    (final.2 = [] → ∃ record, interface.build environment final.1 = .ok record) := by
  intro program state final
  have hbacked := Reader.backed_of_readAll run
  refine ⟨?_, ?_, exists_build run⟩
  · intro place hseen
    rcases hbacked.options place hseen with ⟨event, hevent, hsettles⟩ | hawaited
    · rcases stored_or_denied hevent hsettles (Storage.empty, []) with hstored | hdenied
      · exact .inl hstored
      · exact .inr (.inl hdenied)
    · exact .inr (.inr hawaited)
  · intro place hfilled
    obtain ⟨event, hevent, hgives⟩ := hbacked.parameters place hfilled
    exact stored_or_refused hevent hgives (Storage.empty, [])

/-- A required option and a required parameter are given, and the record is built. -/
theorem build_archive :
    ∃ reader events,
      Reader.readAll Sample.archiveProgram.model .initial ["-l7", "--color", "in"] =
        .ok (reader, events) ∧
      ∃ record, Sample.archiveInterface.build Sample.archiveEnvironment
        (Sample.archiveProgram.performAll
          (events ++ reader.finish Sample.archiveProgram.model)).1 = .ok record := by
  have run : Reader.readAll (Sample.archiveInterface.model Sample.archiveEnvironment) .initial
      ["-l7", "--color", "in"] = .ok (_, _) := rfl
  exact ⟨_, _, run, (build_of_errors_eq_nil run).2.2 rfl⟩

end Interface

end CommandLine
