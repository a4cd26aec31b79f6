import CommandLine.Proofs.Repetition

/-!
# Longer command lines

The end of the arguments finds errors of its own: an option still needs a value, or something
required is missing. More arguments can resolve these. All other errors are recorded while the
arguments are read, and they stay, in their order, whatever is added to the command line.
-/

namespace CommandLine

/-! ### The end of the arguments -/

namespace Reader

/-- The error about an option that still needs a value. -/
def awaited (reader : Reader) : List ParseError :=
  match reader.expectation with
  | .value mention false =>
    if mention.kind.isNullableFlag then [] else [.optionValueMissing mention.name.text]
  | _ => []

variable {reader : Reader}

lemma abandoned_eq_map_awaited (reader : Reader) :
    reader.abandoned = reader.awaited.map .report := by
  unfold abandoned awaited
  cases reader.expectation with
  | start | verbatim | orphan | fresh => rfl
  | value mention taken =>
    cases taken with
    | true => rfl
    | false =>
      dsimp only
      split_ifs <;> rfl

lemma length_awaited_le (reader : Reader) : reader.awaited.length ≤ 1 := by
  rw [awaited]
  split
  · split_ifs <;> simp
  · simp

lemma nodup_awaited (reader : Reader) : reader.awaited.Nodup := by
  have hlength := reader.length_awaited_le
  match reader.awaited, hlength with
  | [], _ => exact .nil
  | [error], _ => exact List.nodup_singleton error

lemma kind_of_mem_awaited {error : ParseError} (h : error ∈ reader.awaited) :
    error.kind = .optionValueMissing := by
  rw [awaited] at h
  split at h
  · split_ifs at h
    · simp at h
    · rw [List.mem_singleton.mp h]
      rfl
  · simp at h

/-- The options that count as seen are those with an occurrence. -/
lemma missingOptions_of_readAll {model : Model} {arguments : List String} {events : List Event}
    (run : readAll model initial arguments = .ok (reader, events)) :
    reader.missingOptions model =
      (model.omittedOptions (model.occurrences arguments)).map .report := by
  have hseen (place : Nat) :
      place ∈ reader.seen ↔ place ∈ (model.occurrences arguments).map (·.option) := by
    rw [(consistent_of_readAll run).seen place, ← filterMap_mention?_of_readAll run]
    constructor
    · rintro ⟨mention, hmention, rfl⟩
      exact List.mem_map.mpr ⟨mention, List.mem_filterMap.mpr ⟨_, hmention, rfl⟩, rfl⟩
    · intro hplace
      obtain ⟨mention, hmention, rfl⟩ := List.mem_map.mp hplace
      obtain ⟨event, hevent, hview⟩ := List.mem_filterMap.mp hmention
      cases event <;> simp only [Event.mention?, reduceCtorEq, Option.some.injEq] at hview
      exact ⟨mention, by rwa [← hview], rfl⟩
  rw [missingOptions, Model.omittedOptions]
  simp only [hseen, List.map_map]
  rfl

end Reader

namespace Interface

variable {α : Type} {interface : Interface} {environment : Environment α}
  {arguments : List String} {reader : Reader} {events : List Event}

/-- The parameters that were filled are those that were given a text. -/
lemma missingParameters_of_readAll
    (run : Reader.readAll (interface.model environment) .initial arguments =
      .ok (reader, events)) :
    reader.missingParameters (interface.model environment) =
      ((interface.model environment).omittedParameters
        (events.filterMap Event.parameter?).length).map .report := by
  rw [(Reader.consistent_of_readAll run).parameters, List.length_range, Reader.missingParameters,
    drop_parameters, List.filter_filter, Model.omittedParameters, List.map_map]
  rfl

/-- The end of the arguments finds what is awaited and what is missing. -/
lemma faults_finish
    (run : Reader.readAll (interface.model environment) .initial arguments =
      .ok (reader, events)) :
    (reader.finish (interface.model environment)).filterMap (interface.fault? environment) =
      reader.awaited ++
        ((interface.model environment).omittedOptions
          ((interface.model environment).occurrences arguments) ++
        (interface.model environment).omittedParameters
          (events.filterMap Event.parameter?).length) := by
  rw [Reader.finish, Reader.abandoned_eq_map_awaited, Reader.missingOptions_of_readAll run,
    missingParameters_of_readAll run, List.append_assoc, ← List.map_append, ← List.map_append]
  exact (filterMap_fault?_report id _).trans (List.map_id _)

/-- The pieces are to blame for what is recorded and what is awaited. -/
lemma faults_account
    (run : Reader.readAll (interface.model environment) .initial arguments =
      .ok (reader, events)) :
    (Tally.zero.account (interface.model environment)
        ((interface.model environment).layout arguments)).filterMap (interface.fault? environment) =
      events.filterMap (interface.fault? environment) ++ reader.awaited := by
  have hall := congrArg (List.filterMap (interface.fault? environment))
    (Reader.account_of_readAll run)
  rw [Model.account, Tally.total, List.filterMap_append, List.filterMap_append, faults_finish run,
    faults_omissions run, ← List.append_assoc] at hall
  exact (List.append_cancel_right hall).symm

/-- The errors of a run are those that are recorded before its end, what is still awaited unless
this error was recorded before, and what is missing. -/
theorem reported_eq_recorded (hsound : interface.Sound)
    (run : Reader.readAll (interface.model environment) .initial arguments =
      .ok (reader, events)) :
    ((interface.program environment).parse arguments).reported =
      ((interface.program environment).after events).2 ++
      reader.awaited.filter (· ∉ ((interface.program environment).after events).2) ++
      (interface.model environment).omittedOptions
        ((interface.model environment).occurrences arguments) ++
      (interface.model environment).omittedParameters
        (events.filterMap Event.parameter?).length := by
  rw [reported_eq hsound run, faults_account run, distinct_append,
    distinct_eq_self reader.nodup_awaited, errors_after]
  simp only [mem_distinct]

/-- What is recorded stays, whatever comes afterwards. -/
lemma recorded_prefix
    (run : Reader.readAll (interface.model environment) .initial arguments =
      .ok (reader, events)) (hne : arguments ≠ []) (rest : List String) :
    ((interface.program environment).after events).2 <+:
      ((interface.program environment).parse (arguments ++ rest)).reported := by
  have hstart : reader.expectation ≠ .start := mt (Reader.expectation_eq_start_iff run).mp hne
  rw [reported_parse (Reader.readAll_append run (Reader.readAll_eq_readMany hstart rest)),
    List.append_assoc]
  exact (interface.program environment).prefix_after events _

end Interface

/-! ### Outcomes -/

lemma Outcome.exists_errors {α : Type} {outcome : Outcome α} (h : outcome.reported ≠ []) :
    ∃ collected, outcome = .errors collected ∧ collected.errors = outcome.reported := by
  cases outcome with
  | errors collected => exact ⟨collected, rfl, rfl⟩
  | options options => exact absurd rfl h
  | command command => exact absurd rfl h

/-- Without a command there are options or errors. -/
lemma Program.exists_options {σ α : Type} {program : Program σ α} {arguments : List String}
    {outcome : Reader × List Event}
    (run : Reader.readAll program.model .initial arguments = .ok outcome)
    (hquiet : (program.parse arguments).reported = []) :
    ∃ found, program.parse arguments = .options found := by
  cases hparse : program.parse arguments with
  | options found => exact ⟨found, rfl⟩
  | errors collected =>
    rw [hparse] at hquiet
    exact absurd hquiet collected.nonempty
  | command command =>
    rw [Program.parse, run] at hparse
    exact absurd hparse (program.conclude_ne_command _ command)

lemma filter_kind_eq_nil {errors : List ParseError} {kind other : ErrorKind}
    (h : ∀ error ∈ errors, error.kind = other) (hne : other ≠ kind) :
    errors.filter (·.kind = kind) = [] := by
  rw [List.filter_eq_nil_iff]
  intro error herror
  simpa [h error herror] using hne

/-- Where nothing is recorded, all that is wrong is one value at most and what is required. -/
lemma Model.pending_of_awaited {model : Model} {reader : Reader} {awaited : List ParseError}
    (hawaited : awaited.Sublist reader.awaited) (recognised : List Mention) (given : Nat) :
    let pending := awaited ++ model.omittedOptions recognised ++ model.omittedParameters given
    (∀ error ∈ pending, error.kind ∈ [.optionValueMissing, .missingOption, .missingParameter]) ∧
      (pending.filter (·.kind = .optionValueMissing)).length ≤ 1 := by
  intro pending
  have hoptions : (model.omittedOptions recognised).filter (·.kind = .optionValueMissing) = [] :=
    filter_kind_eq_nil (fun _ herror => kind_of_mem_omittedOptions herror) (by simp)
  have hparameters :
      (model.omittedParameters given).filter (·.kind = .optionValueMissing) = [] :=
    filter_kind_eq_nil (fun _ herror => kind_of_mem_omittedParameters herror) (by simp)
  constructor
  · intro error herror
    rw [List.mem_append, List.mem_append] at herror
    rcases herror with (hvalue | hoption) | hparameter
    · simp [Reader.kind_of_mem_awaited (hawaited.subset hvalue)]
    · simp [kind_of_mem_omittedOptions hoption]
    · simp [kind_of_mem_omittedParameters hparameter]
  · rw [List.filter_append, List.filter_append, hoptions, hparameters, List.append_nil,
      List.append_nil]
    calc (awaited.filter (·.kind = .optionValueMissing)).length
      _ ≤ awaited.length := List.length_filter_le _ _
      _ ≤ reader.awaited.length := hawaited.length_le
      _ ≤ 1 := reader.length_awaited_le

namespace Interface

variable {α : Type} {interface : Interface} {environment : Environment α}

section Longer

variable {before : List String} {reader : Reader} {events : List Event}
  (run : Reader.readAll (interface.model environment) .initial before = .ok (reader, events))
  (hne : before ≠ [])

include run hne

/-- If anything is recorded, there are errors, and they begin with what is recorded. -/
lemma errors_of_recorded (rest : List String)
    (hrecorded : ((interface.program environment).after events).2 ≠ []) :
    ∃ collected, (interface.program environment).parse (before ++ rest) = .errors collected ∧
      ((interface.program environment).after events).2 <+: collected.errors := by
  have hprefix := recorded_prefix run hne rest
  have hlonger : ((interface.program environment).parse (before ++ rest)).reported ≠ [] := by
    intro hnone
    rw [hnone, List.prefix_nil] at hprefix
    exact hrecorded hprefix
  obtain ⟨collected, hparse, herrors⟩ := Outcome.exists_errors hlonger
  refine ⟨collected, hparse, ?_⟩
  rw [herrors]
  exact hprefix

/-- Nothing is recorded on the way to options. -/
lemma recorded_eq_nil_of_options {rest : List String} {found : Record α}
    (hfound : (interface.program environment).parse (before ++ rest) = .options found) :
    ((interface.program environment).after events).2 = [] := by
  have hprefix := recorded_prefix run hne rest
  rw [hfound] at hprefix
  exact List.prefix_nil.mp hprefix

end Longer

/-- Let a command line of an accepted declaration have arguments and not begin with the alias of a
command. Its errors are those that are recorded while it is read, then the value that is still
awaited, unless this error was recorded before, and then what is missing. If anything is recorded,
every longer command line has errors that begin with the recorded ones. So if a longer command line
comes to options, then this one does as well, or all that it lacks is a value at its end and what is
required. -/
theorem errors_of_longer {declaration : Declaration}
    (accepted : Interface.ofDeclaration declaration = .ok interface) {before : List String}
    (hne : before ≠ [])
    (start : ∀ argument ∈ before.head?,
      (interface.model environment).findCommand argument = none) :
    let program := interface.program environment
    ∃ reader events, Reader.readAll program.model .initial before = .ok (reader, events) ∧
      let recorded := (program.after events).2
      ((program.parse before).reported =
        recorded ++ reader.awaited.filter (· ∉ recorded) ++
          program.model.omittedOptions (program.model.occurrences before) ++
          program.model.omittedParameters (events.filterMap Event.parameter?).length) ∧
      (∀ rest, recorded ≠ [] → ∃ collected,
        program.parse (before ++ rest) = .errors collected ∧ recorded <+: collected.errors) ∧
      ∀ rest found, program.parse (before ++ rest) = .options found →
        (∃ record, program.parse before = .options record) ∨
        ∃ collected, program.parse before = .errors collected ∧
          (∀ error ∈ collected.errors,
            error.kind ∈ [.optionValueMissing, .missingOption, .missingParameter]) ∧
          (collected.errors.filter (·.kind = .optionValueMissing)).length ≤ 1 := by
  intro program
  obtain ⟨⟨reader, events⟩, hread⟩ := Reader.exists_readAll start
  have hreported := reported_eq_recorded (sound_of_ofDeclaration accepted) hread
  refine ⟨reader, events, hread, hreported, errors_of_recorded hread hne,
    fun rest found hfound => ?_⟩
  rw [recorded_eq_nil_of_options hread hne hfound, List.nil_append] at hreported
  by_cases hquiet : (program.parse before).reported = []
  · exact .inl (Program.exists_options hread hquiet)
  · right
    obtain ⟨collected, hparse, herrors⟩ := Outcome.exists_errors hquiet
    refine ⟨collected, hparse, ?_⟩
    rw [herrors, hreported]
    exact Model.pending_of_awaited List.filter_sublist _ _

/-- An awaited value was missing before. The other command line lacks a value and a parameter only,
and it comes to options with both. -/
theorem longer_archive :
    let first := ["--level", "-v", "--level"]
    let second := ["--level"]
    let rest := ["7", "in"]
    let recorded := [.optionValueMissing "level", .duplicateOption "level"]
    Interface.ofDeclaration Sample.archive = .ok Sample.archiveInterface ∧
      first ≠ [] ∧ second ≠ [] ∧
      (∀ argument ∈ first.head?, Sample.archiveProgram.model.findCommand argument = none) ∧
      (∀ argument ∈ second.head?, Sample.archiveProgram.model.findCommand argument = none) ∧
      (Sample.archiveProgram.parse first).reported = recorded ++ [.missingParameter "source" 0] ∧
      (∃ collected, Sample.archiveProgram.parse (first ++ rest) = .errors collected ∧
        recorded <+: collected.errors) ∧
      (∃ found, Sample.archiveProgram.parse (second ++ rest) = .options found) ∧
      ∃ collected, Sample.archiveProgram.parse second = .errors collected ∧
        (collected.errors.filter (·.kind = .optionValueMissing)).length ≤ 1 := by
  intro first second rest recorded
  have startFirst : ∀ argument ∈ ["--level", "-v", "--level"].head?,
      (Sample.archiveInterface.model Sample.archiveEnvironment).findCommand argument = none := by
    decide
  have startSecond : ∀ argument ∈ ["--level"].head?,
      (Sample.archiveInterface.model Sample.archiveEnvironment).findCommand argument = none := by
    decide
  have hfound : Sample.archiveProgram.parse (["--level"] ++ ["7", "in"]) = .options _ := rfl
  obtain ⟨reader, events, hread, -, hlonger, -⟩ :=
    errors_of_longer Sample.ofDeclaration_archive (List.cons_ne_nil _ _) startFirst
  obtain ⟨-, -, -, -, -, hshorter⟩ :=
    errors_of_longer Sample.ofDeclaration_archive (List.cons_ne_nil _ _) startSecond
  have hevents : ((Sample.archiveInterface.program Sample.archiveEnvironment).after events).2 =
      recorded := by
    have hrun : Reader.readAll (Sample.archiveInterface.model Sample.archiveEnvironment) .initial
        ["--level", "-v", "--level"] = .ok (_, _) := rfl
    obtain ⟨rfl, rfl⟩ := Prod.mk.inj (Except.ok.inj (hrun.symm.trans hread))
    decide
  rw [hevents] at hlonger
  refine ⟨Sample.ofDeclaration_archive, List.cons_ne_nil _ _, List.cons_ne_nil _ _, startFirst,
    startSecond, by decide, hlonger rest (List.cons_ne_nil _ _), ⟨_, hfound⟩, ?_⟩
  rcases hshorter rest _ hfound with ⟨record, hrecord⟩ | ⟨collected, hparse, -, hvalues⟩
  · have hreported : (Sample.archiveProgram.parse ["--level"]).reported ≠ [] := by decide
    exact absurd (congrArg Outcome.reported hrecord) hreported
  · exact ⟨collected, hparse, hvalues⟩

end Interface

end CommandLine
