import CommandLine.Proofs.Acceptance
import CommandLine.Proofs.Blame
import CommandLine.Proofs.Consistency

/-!
# After the terminator

Whatever is pending, the first `--` is the terminator: no command has it as an alias, and it is no
value of an option. All arguments after it are positional as they are. They go to the next free
places one by one, so that no option notices them, and all that can be wrong with them is that they
cannot be decoded or that there is no place for them.
-/

namespace CommandLine

/-! ### Free places -/

/-- The number of the next positional argument. -/
def Reader.position (reader : Reader) : Nat :=
  reader.filled + reader.collected

namespace Model

variable {model : Model} {number : Nat}

/-- What positional arguments bring about if the first one has this number. -/
def placedFrom (model : Model) (number : Nat) (texts : List String) : List Event :=
  texts.mapIdx fun place text => model.placed (number + place) text

lemma placedFrom_cons (model : Model) (number : Nat) (text : String) (rest : List String) :
    model.placedFrom number (text :: rest) =
      model.placed number text :: model.placedFrom (number + 1) rest := by
  rw [placedFrom, List.mapIdx_cons, Nat.add_zero, placedFrom]
  simp only [Nat.add_assoc, Nat.add_comm 1]

lemma placedFrom_of_none (h : model.parameters.length ≤ number)
    (hremaining : ¬ model.remaining.isSome = true) (texts : List String) :
    model.placedFrom number texts = texts.map fun text => .report (.unrecognizedArgument text) := by
  induction texts generalizing number with
  | nil => rfl
  | cons text rest ih =>
    have hplaced : model.placed number text = .report (.unrecognizedArgument text) := by
      rw [placed, List.getElem?_eq_none h]
      exact if_neg hremaining
    rw [placedFrom_cons, hplaced, ih (Nat.le_succ_of_le h), List.map_cons]

lemma exists_of_mem_placedFrom {texts : List String} {event : Event}
    (h : event ∈ model.placedFrom number texts) :
    ∃ place text, event = model.placed place text := by
  obtain ⟨place, hplace, rfl⟩ := List.mem_mapIdx.mp h
  exact ⟨_, _, rfl⟩

lemma textsIn_option_placed (place number : Nat) (text : String) :
    Event.textsIn (.option place) [model.placed number text] = [] := by
  rw [placed]
  split
  · simp
  · split_ifs <;> simp

end Model

lemma Tally.account_map_positional {model : Model} (tally : Tally) (texts : List String) :
    tally.account model (texts.map .positional) = model.placedFrom tally.positional texts := by
  induction texts generalizing tally with
  | nil => rfl
  | cons text rest ih =>
    rw [List.map_cons, account_cons, ih, Model.placedFrom_cons]
    rfl

namespace Reader

variable {model : Model} {reader : Reader} {events : List Event}

/-- The reader and a tally that it matches lead to the same places. -/
lemma Matches.placedFrom_position {tally : Tally} (h : reader.Matches model tally)
    (hcounts : Counts model reader events) (texts : List String) :
    model.placedFrom reader.position texts = model.placedFrom tally.positional texts := by
  have hfilled := h.filled
  cases hremaining : model.remaining.isSome with
  | true =>
    have hcollected := h.collected hremaining
    have hposition : reader.position = tally.positional := by
      rw [position]
      omega
    rw [hposition]
  | false =>
    have hnone : ¬ model.remaining.isSome = true := by simp [hremaining]
    have hcollected : reader.collected = 0 := by
      by_contra hpositive
      exact hnone (hcounts.last (Nat.pos_of_ne_zero hpositive)).2
    rcases Nat.le_total tally.positional model.parameters.length with hle | hge
    · rw [position, hcollected, hfilled, Nat.min_eq_left hle, Nat.add_zero]
    · -- behind the last parameter everything is refused, whatever its number
      have hpast : model.parameters.length ≤ reader.position := by
        rw [position, hfilled, Nat.min_eq_right hge]
        exact Nat.le_add_right ..
      rw [Model.placedFrom_of_none hpast hnone, Model.placedFrom_of_none hge hnone]

lemma seen_readMany_of_verbatim (hverbatim : reader.expectation = .verbatim)
    (texts : List String) : (readMany model reader texts).1.seen = reader.seen := by
  induction texts generalizing reader with
  | nil => rfl
  | cons text rest ih =>
    rw [readMany_cons, read_of_verbatim hverbatim, ih (by rw [expectation_place, hverbatim]),
      seen_place]

/-- Without a `--` nothing becomes verbatim, and the reader matches some tally. -/
lemma exists_matches {arguments : List String} (hopen : "--" ∉ arguments)
    (run : readAll model initial arguments = .ok (reader, events)) :
    reader.expectation ≠ .verbatim ∧ ∃ tally, reader.Matches model tally := by
  have hready := Matches.ready model
  rcases eq_of_readAll_initial run with ⟨houtcome, -⟩ | houtcome
  · obtain ⟨rfl, rfl⟩ := Prod.mk.inj houtcome
    exact ⟨by simp [initial], _, hready.expecting .start⟩
  · obtain ⟨rfl, rfl⟩ := Prod.mk.inj houtcome
    obtain ⟨hverbatim, tally, hmatches, -⟩ :=
      readMany_accounts hopen hready (by simp [ready]) (by simp [ready])
    exact ⟨hverbatim, tally, hmatches⟩

lemma step_terminator (halias : model.select "--" = none) (h : reader.expectation ≠ .verbatim) :
    step model reader "--" = .next (reader.expecting .verbatim) reader.abandoned := by
  by_cases hstart : reader.expectation = .start
  · have hquiet : reader.abandoned = [] := by rw [abandoned, hstart]
    rw [step, if_pos hstart, halias, advance, read_terminator (by simp) model, hquiet]
    rfl
  · rw [step_of_ne_start hstart, read_terminator h model]

/-- After the first `--` all arguments are verbatim. -/
theorem readAll_terminator {before : List String} (halias : model.select "--" = none)
    (hopen : "--" ∉ before) (run : readAll model initial before = .ok (reader, events))
    (texts : List String) :
    ∃ last, readAll model initial (before ++ "--" :: texts) =
        .ok (last, events ++ reader.abandoned ++ model.placedFrom reader.position texts) ∧
      last.expectation = .verbatim ∧ last.seen = reader.seen := by
  obtain ⟨hverbatim, tally, hmatches⟩ := exists_matches hopen run
  obtain ⟨-, -, hevents⟩ := readMany_verbatim (hmatches.expecting .verbatim) rfl texts
  rw [Tally.account_map_positional,
    ← hmatches.placedFrom_position (consistent_of_readAll run).toCounts] at hevents
  have hstart : (reader.expecting .verbatim).expectation ≠ .start := by simp
  have hrest : readAll model reader ("--" :: texts) =
      .ok ((readMany model (reader.expecting .verbatim) texts).1,
        reader.abandoned ++ model.placedFrom reader.position texts) := by
    rw [readAll, step_terminator halias hverbatim]
    simp only [readAll_eq_readMany hstart, hevents]
  have hseen : (readMany model (reader.expecting .verbatim) texts).1.seen =
      (reader.expecting .verbatim).seen := seen_readMany_of_verbatim rfl texts
  refine ⟨_, ?_, expectation_readMany_of_verbatim rfl texts, hseen⟩
  rw [readAll_append run hrest, List.append_assoc]

end Reader

/-! ### Programs -/

namespace Interface

variable {α : Type} {interface : Interface} {environment : Environment α}

lemma select_terminator (hsound : interface.Sound) :
    (interface.model environment).select "--" = none := by
  rw [Model.select, Option.map_eq_none_iff, Model.findCommand, List.find?_eq_none]
  intro command hcommand halias
  obtain ⟨declared, hdeclared, rfl⟩ := List.mem_map.mp hcommand
  have hcheck := hsound.commands declared hdeclared "--" (of_decide_eq_true halias)
  exact CommandDeclaration.ne_terminator_of_checkAlias hcheck rfl

/-- The errors that verbatim arguments can bring about. -/
def verbatimKinds : List ErrorKind :=
  [.badParameterValue, .badRemainingValue, .unrecognizedArgument]

lemma kind_of_fault?_placed {number : Nat} {text : String} {error : ParseError}
    (h : interface.fault? environment ((interface.model environment).placed number text) =
      some error) : error.kind ∈ verbatimKinds := by
  have hblames : interface.Blames environment ⟨[], number⟩ (.positional text) error :=
    fault?_placed_eq_some_iff.mp h
  cases hblames <;> simp [verbatimKinds, ParseError.kind]

lemma errors_after_placedFrom (events : List Event) (number : Nat) (texts : List String) :
    ∃ found, ((interface.program environment).after
        (events ++ (interface.model environment).placedFrom number texts)).2 =
      ((interface.program environment).after events).2 ++ found ∧
        ∀ error ∈ found, error.kind ∈ verbatimKinds := by
  rw [errors_after, errors_after, List.filterMap_append, distinct_append]
  refine ⟨_, rfl, fun error herror => ?_⟩
  obtain ⟨event, hevent, hfault⟩ :=
    List.mem_filterMap.mp (mem_distinct.mp (List.mem_of_mem_filter herror))
  obtain ⟨place, text, rfl⟩ := Model.exists_of_mem_placedFrom hevent
  exact kind_of_fault?_placed hfault

/-- For a program of an accepted declaration, let some arguments hold no `--` and not begin with the
alias of a command. Whatever is pending after them, a `--` is read as the terminator, and it costs
no more than the value that an option still needs. After it, whatever the texts are, every one of
them goes unchanged to the next free parameter or then to the collector, or is refused if there is
neither; everything stays verbatim; no option counts as seen or gets a value by them; and all errors
that they add are of three kinds. -/
theorem verbatim_after_terminator {declaration : Declaration}
    (accepted : Interface.ofDeclaration declaration = .ok interface) {before : List String}
    (hopen : "--" ∉ before)
    (start : ∀ argument ∈ before.head?,
      (interface.model environment).findCommand argument = none) :
    let program := interface.program environment
    ∃ reader events, Reader.readAll program.model .initial before = .ok (reader, events) ∧
      reader.Counts program.model events ∧
      Reader.step program.model reader "--" =
        .next (reader.expecting .verbatim) reader.abandoned ∧
      ∀ texts : List String,
        let earlier := events ++ reader.abandoned
        let placed := program.model.placedFrom reader.position texts
        ∃ last,
          Reader.readAll program.model .initial (before ++ "--" :: texts) =
            .ok (last, earlier ++ placed) ∧
          last.expectation = .verbatim ∧ last.seen = reader.seen ∧
          (∀ place, (program.after (earlier ++ placed)).1 (.option place) =
            (program.after events).1 (.option place)) ∧
          ∃ found, (program.after (earlier ++ placed)).2 = (program.after earlier).2 ++ found ∧
            ∀ error ∈ found, error.kind ∈ verbatimKinds := by
  intro program
  have halias : program.model.select "--" = none :=
    select_terminator (sound_of_ofDeclaration accepted)
  obtain ⟨⟨reader, events⟩, hread⟩ := Reader.exists_readAll start
  have hstep := Reader.step_terminator halias (Reader.exists_matches hopen hread).1
  refine ⟨reader, events, hread, (Reader.consistent_of_readAll hread).toCounts, hstep, ?_⟩
  intro texts earlier placed
  obtain ⟨last, hall, hverbatim, hseen⟩ := Reader.readAll_terminator halias hopen hread texts
  refine ⟨last, hall, hverbatim, hseen, fun place => ?_, errors_after_placedFrom earlier _ texts⟩
  have htexts : Event.textsIn (.option place) (reader.abandoned ++ placed) = [] := by
    apply Event.textsIn_eq_nil
    intro event hevent
    rcases List.mem_append.mp hevent with habandoned | hplaced
    · obtain ⟨error, rfl⟩ := Reader.eq_report_of_mem_abandoned habandoned
      rfl
    · obtain ⟨number, text, rfl⟩ := Model.exists_of_mem_placedFrom hplaced
      exact Model.textsIn_option_placed ..
  rw [Program.after_eq, Program.after_eq, Program.performAll, List.append_assoc, List.foldl_append]
  exact storage_foldl_perform_of_textsIn_eq_nil htexts _

/-- An option still needs a value, and what comes after the `--` looks like options and commands. -/
theorem verbatim_archive :
    let before := ["-tone", "two", "--level"]
    let texts := ["--", "--level=3", "-vx", "--help"]
    Interface.ofDeclaration Sample.archive = .ok Sample.archiveInterface ∧ "--" ∉ before ∧
      (∀ argument ∈ before.head?, Sample.archiveProgram.model.findCommand argument = none) ∧
      ∃ reader events last,
        Reader.readAll Sample.archiveProgram.model .initial before = .ok (reader, events) ∧
        Reader.readAll Sample.archiveProgram.model .initial (before ++ "--" :: texts) =
          .ok (last, events ++ reader.abandoned ++
            Sample.archiveProgram.model.placedFrom reader.position texts) ∧
        last.seen = reader.seen := by
  intro before texts
  have hopen : "--" ∉ ["-tone", "two", "--level"] := by decide
  have start : ∀ argument ∈ ["-tone", "two", "--level"].head?,
      (Sample.archiveInterface.model Sample.archiveEnvironment).findCommand argument = none := by
    decide
  obtain ⟨reader, events, hread, -, -, hall⟩ :=
    verbatim_after_terminator Sample.ofDeclaration_archive hopen start
  obtain ⟨last, hlast, -, hseen, -⟩ := hall texts
  exact ⟨Sample.ofDeclaration_archive, hopen, start, reader, events, last, hread, hlast, hseen⟩

end Interface

end CommandLine
