import CommandLine.Proofs.Blame
import CommandLine.Proofs.Consistency
import CommandLine.Proofs.Outcome

/-!
# Repetitions and omissions

An option is reported as repeated exactly if it was recognised before, by whichever of its tags. The
errors of a run end with what is missing: the required options that were not recognised, in the
order of their declaration, and then the required parameters behind those that were given a value.
-/

namespace CommandLine

/-! ### Mentions and parameters of a run -/

section Runs

variable {model : Model}

lemma Event.filterMap_parameter?_noted (tally : Tally) (mention : Mention) :
    (tally.noted mention).filterMap parameter? = [] := by
  rw [Tally.noted]
  split_ifs <;> rfl

/-- The positional arguments fill the parameters in order, as long as there are some. -/
lemma Tally.filterMap_parameter?_account (tally : Tally) (pieces : List Piece) :
    (tally.account model pieces).filterMap Event.parameter? =
      List.range' tally.positional
        (min (tally.positional + (pieces.filterMap Piece.loose?).length)
          model.parameters.length - tally.positional) := by
  induction pieces generalizing tally with
  | nil =>
    have hnone : min tally.positional model.parameters.length - tally.positional = 0 := by omega
    simp [hnone]
  | cons piece rest ih =>
    rw [account_cons, List.filterMap_append, ih]
    cases piece with
    | unknown name argument inline => rfl
    | malformed argument => rfl
    | option mention inline taken =>
      rw [events, List.filterMap_append, Event.filterMap_parameter?_noted,
        mention.filterMap_settle (fun _ => rfl) (fun _ => rfl)]
      rfl
    | positional text =>
      rw [positional_after_positional, Piece.filterMap_loose?_positional, List.length_cons, events,
        Model.placed]
      generalize (rest.filterMap Piece.loose?).length = number
      cases hget : model.parameters[tally.positional]? with
      | some parameter =>
        have hlt := (List.getElem?_eq_some_iff.mp hget).1
        have hnext : min (tally.positional + (number + 1)) model.parameters.length -
            tally.positional = min (tally.positional + 1 + number) model.parameters.length -
              (tally.positional + 1) + 1 := by omega
        rw [hnext, List.range'_succ]
        rfl
      | none =>
        have hge := List.getElem?_eq_none_iff.mp hget
        have hnow : min (tally.positional + (number + 1)) model.parameters.length -
            tally.positional = 0 := by omega
        have hnext : min (tally.positional + 1 + number) model.parameters.length -
            (tally.positional + 1) = 0 := by omega
        rw [hnow, hnext]
        dsimp only
        split_ifs <;> rfl

lemma Reader.length_filterMap_parameter? {arguments : List String} {reader : Reader}
    {events : List Event} (run : readAll model initial arguments = .ok (reader, events)) :
    (events.filterMap Event.parameter?).length =
      min (model.loose arguments).length model.parameters.length := by
  have hall : (events ++ reader.finish model).filterMap Event.parameter? =
      List.range (min (model.loose arguments).length model.parameters.length) := by
    rw [account_of_readAll run, Model.account, Tally.total, List.filterMap_append,
      Tally.filterMap_parameter?_account,
      Event.filterMap_reports (fun _ => rfl) fun _ => Tally.eq_report_of_mem_omissions,
      List.append_nil]
    simp [Tally.zero, Model.loose, List.range_eq_range']
  have hfinish : (reader.finish model).filterMap Event.parameter? = [] :=
    Event.filterMap_reports (fun _ => rfl) fun _ => eq_report_of_mem_finish
  rw [List.filterMap_append, hfinish, List.append_nil] at hall
  rw [hall, List.length_range]

lemma Reader.filterMap_mention?_of_readAll {arguments : List String} {reader : Reader}
    {events : List Event} (run : readAll model initial arguments = .ok (reader, events)) :
    events.filterMap Event.mention? = model.occurrences arguments := by
  have hfinish : (reader.finish model).filterMap Event.mention? = [] :=
    Event.filterMap_reports (fun _ => rfl) fun _ => eq_report_of_mem_finish
  rw [← Model.filterMap_mention?_account, ← account_of_readAll run, List.filterMap_append, hfinish,
    List.append_nil]

end Runs

/-! ### What is missing -/

namespace Model

/-- The errors about required options that are not recognised, in the order of their declaration. -/
def omittedOptions (model : Model) (recognised : List Mention) : List ParseError :=
  (model.options.zipIdx.filter fun (option, place) =>
    option.required && place ∉ recognised.map (·.option)).map
      fun (option, _) => .missingOption option.tags

/-- The errors about required parameters from a number on, in the order of their indexes. -/
def omittedParameters (model : Model) (given : Nat) : List ParseError :=
  (model.parameters.filter fun parameter => parameter.required && given ≤ parameter.index).map
    fun parameter => .missingParameter parameter.name parameter.index

lemma kind_of_mem_omittedOptions {model : Model} {recognised : List Mention} {error : ParseError}
    (h : error ∈ model.omittedOptions recognised) : error.kind = .missingOption := by
  obtain ⟨entry, -, rfl⟩ := List.mem_map.mp h
  rfl

lemma kind_of_mem_omittedParameters {model : Model} {given : Nat} {error : ParseError}
    (h : error ∈ model.omittedParameters given) : error.kind = .missingParameter := by
  obtain ⟨parameter, -, rfl⟩ := List.mem_map.mp h
  rfl

end Model

namespace Interface

variable {α : Type} {interface : Interface} {environment : Environment α}

lemma index_of_parameter {place : Nat} {parameter : ParameterSpec}
    (h : (interface.model environment).parameters[place]? = some parameter) :
    parameter.index = place := by
  obtain ⟨field, -, rfl⟩ := parameter_eq_some_iff.mp h
  rfl

/-- Where indexes count up, those from a number on come behind the others. -/
lemma drop_eq_filter {list : List ParameterSpec} {first : Nat} (given : Nat)
    (h : ∀ place parameter, list[place]? = some parameter → parameter.index = first + place) :
    list.drop (given - first) = list.filter (given ≤ ·.index) := by
  induction list generalizing first with
  | nil => simp
  | cons parameter rest ih =>
    have hindex : parameter.index = first := h 0 parameter rfl
    have hrest : rest.drop (given - (first + 1)) = rest.filter (given ≤ ·.index) := by
      apply ih
      intro place other hother
      rw [h (place + 1) other hother]
      omega
    by_cases hlate : given ≤ first
    · have hnow : given - first = 0 := by omega
      have hnext : given - (first + 1) = 0 := by omega
      rw [hnext, List.drop_zero] at hrest
      rw [hnow, List.drop_zero, List.filter_cons_of_pos (by simpa [hindex] using hlate), ← hrest]
    · have hnext : given - first = given - (first + 1) + 1 := by omega
      rw [hnext, List.drop_succ_cons, hrest,
        List.filter_cons_of_neg (by simpa [hindex] using hlate)]

lemma drop_parameters (given : Nat) :
    (interface.model environment).parameters.drop given =
      (interface.model environment).parameters.filter (given ≤ ·.index) := by
  have hindex (place : Nat) (parameter : ParameterSpec)
      (h : (interface.model environment).parameters[place]? = some parameter) :
      parameter.index = 0 + place := by
    rw [index_of_parameter h, Nat.zero_add]
  exact drop_eq_filter given hindex

lemma filterMap_fault?_report {β : Type} (f : β → ParseError) (list : List β) :
    (list.map fun x => .report (f x)).filterMap (interface.fault? environment) = list.map f := by
  rw [List.filterMap_map, ← List.filterMap_eq_map]
  rfl

/-- What is missing after all pieces are the omitted options and parameters. -/
lemma faults_omissions {arguments : List String} {reader : Reader} {events : List Event}
    (run : Reader.readAll (interface.model environment) .initial arguments =
      .ok (reader, events)) :
    ((((interface.model environment).layout arguments).foldl Tally.after .zero).omissions
      (interface.model environment)).filterMap (interface.fault? environment) =
        (interface.model environment).omittedOptions
          ((interface.model environment).occurrences arguments) ++
        (interface.model environment).omittedParameters
          (events.filterMap Event.parameter?).length := by
  have hmentioned (place : Nat) :
      place ∈ (((interface.model environment).layout arguments).foldl Tally.after .zero).mentioned ↔
        place ∈ ((interface.model environment).occurrences arguments).map (·.option) := by
    rw [Tally.mem_mentioned_foldl, Piece.filterMap_place?_eq, Model.filterMap_mention?_layout]
    simp [Tally.zero]
  have hdrop : (interface.model environment).parameters.drop
        ((interface.model environment).loose arguments).length =
      (interface.model environment).parameters.drop
        (events.filterMap Event.parameter?).length := by
    rw [Reader.length_filterMap_parameter? run, Reader.Matches.drop_min]
  rw [Tally.omissions, Tally.positional_foldl_zero, ← Model.loose, hdrop, drop_parameters,
    List.filter_filter, List.filterMap_append, filterMap_fault?_report, Model.omittedParameters]
  simp only [hmentioned]
  rw [filterMap_fault?_report, Model.omittedOptions]

/-! ### Different errors -/

lemma nodup_tags {options : List OptionField} (hlongs : (options.filterMap (·.tags.long?)).Nodup)
    (hshorts : (options.filterMap (·.tags.short?)).Nodup) : (options.map (·.tags)).Nodup := by
  have hnew {β : Type} {view : Tags → Option β} {first : OptionField} {rest : List OptionField}
      {tag : β} (hnodup : ((first :: rest).filterMap fun option => view option.tags).Nodup)
      (htag : view first.tags = some tag) : first.tags ∉ rest.map (·.tags) := by
    intro hagain
    obtain ⟨other, hother, hsame⟩ := List.mem_map.mp hagain
    simp only [List.filterMap_cons, htag, List.nodup_cons] at hnodup
    exact hnodup.1 (List.mem_filterMap.mpr ⟨other, hother, by rw [hsame, htag]⟩)
  induction options with
  | nil => exact .nil
  | cons first rest ih =>
    have hrest := ih (hlongs.sublist ((List.sublist_cons_self first rest).filterMap _))
      (hshorts.sublist ((List.sublist_cons_self first rest).filterMap _))
    rw [List.map_cons, List.nodup_cons]
    refine ⟨?_, hrest⟩
    rcases first.tags.long?_isSome_or_short?_isSome with hlong | hshort
    · obtain ⟨tag, htag⟩ := Option.isSome_iff_exists.mp hlong
      exact hnew hlongs htag
    · obtain ⟨letter, hletter⟩ := Option.isSome_iff_exists.mp hshort
      exact hnew hshorts hletter

lemma nodup_omittedOptions (hsound : interface.Sound) (recognised : List Mention) :
    ((interface.model environment).omittedOptions recognised).Nodup := by
  have hall : ((interface.model environment).options.zipIdx.map fun entry =>
      ParseError.missingOption entry.1.tags) =
        (interface.options.map (·.tags)).map .missingOption := by
    calc (interface.model environment).options.zipIdx.map
          (fun entry => ParseError.missingOption entry.1.tags)
      _ = ((interface.model environment).options.zipIdx.map Prod.fst).map
          (fun option => .missingOption option.tags) := by
        rw [List.map_map]
        rfl
      _ = (interface.options.map (·.tags)).map .missingOption := by
        rw [List.zipIdx_map_fst, model, List.map_map, List.map_map]
        rfl
  have htags := (nodup_tags hsound.longs hsound.shorts).map
    (f := ParseError.missingOption) fun _ _ => ParseError.missingOption.inj
  rw [← hall] at htags
  exact htags.sublist (List.filter_sublist.map _)

lemma nodup_omittedParameters (given : Nat) :
    ((interface.model environment).omittedParameters given).Nodup := by
  have hall : ((interface.model environment).parameters.map fun parameter =>
      ParseError.missingParameter parameter.name parameter.index).Nodup := by
    rw [List.Nodup, List.pairwise_map, List.pairwise_iff_getElem]
    intro first second hfirst hsecond hlt hsame
    have hindex := (ParseError.missingParameter.inj hsame).2
    rw [index_of_parameter (List.getElem?_eq_getElem hfirst),
      index_of_parameter (List.getElem?_eq_getElem hsecond)] at hindex
    omega
  exact hall.sublist (List.filter_sublist.map _)

/-! ### All errors -/

/-- A run reports the errors of its pieces, each once, and then what is missing. -/
theorem reported_eq (hsound : interface.Sound) {arguments : List String} {reader : Reader}
    {events : List Event}
    (run : Reader.readAll (interface.model environment) .initial arguments =
      .ok (reader, events)) :
    ((interface.program environment).parse arguments).reported =
      distinct ((Tally.zero.account (interface.model environment)
        ((interface.model environment).layout arguments)).filterMap
          (interface.fault? environment)) ++
      (interface.model environment).omittedOptions
        ((interface.model environment).occurrences arguments) ++
      (interface.model environment).omittedParameters
        (events.filterMap Event.parameter?).length := by
  rw [reported_parse run, errors_after, Reader.account_of_readAll run, Model.account, Tally.total,
    List.filterMap_append, faults_omissions run, ← List.append_assoc,
    distinct_append_of_nodup (nodup_omittedParameters _),
    distinct_append_of_nodup (nodup_omittedOptions hsound _)]
  · intro error herror hearlier
    exact (kind_of_blamed (mem_faults_iff.mp hearlier)).1 (Model.kind_of_mem_omittedOptions herror)
  · intro error herror hearlier
    have hkind := Model.kind_of_mem_omittedParameters herror
    rcases List.mem_append.mp hearlier with hblamed | homitted
    · exact (kind_of_blamed (mem_faults_iff.mp hblamed)).2 hkind
    · simp [Model.kind_of_mem_omittedOptions homitted] at hkind

/-- A run reports exactly what some piece is to blame for and what is missing. -/
theorem mem_reported_iff (hsound : interface.Sound) {arguments : List String} {reader : Reader}
    {events : List Event} {error : ParseError}
    (run : Reader.readAll (interface.model environment) .initial arguments =
      .ok (reader, events)) :
    error ∈ ((interface.program environment).parse arguments).reported ↔
      interface.Blamed environment arguments error ∨
      error ∈ (interface.model environment).omittedOptions
        ((interface.model environment).occurrences arguments) ∨
      error ∈ (interface.model environment).omittedParameters
        (events.filterMap Event.parameter?).length := by
  rw [reported_eq hsound run, List.mem_append, List.mem_append, mem_distinct, mem_faults_iff,
    or_assoc]

/-- A piece is to blame for a repetition exactly if an occurrence comes after another one of the
same option. -/
lemma blamed_duplicate_iff {arguments : List String} {name : String} :
    interface.Blamed environment arguments (.duplicateOption name) ↔
      ∃ earlier mention later,
        (interface.model environment).occurrences arguments = earlier ++ mention :: later ∧
        mention.name.text = name ∧ ∃ other ∈ earlier, other.option = mention.option := by
  rw [← Model.filterMap_mention?_layout]
  constructor
  · rintro ⟨before, piece, after, hlayout, hblames⟩
    cases hblames with
    | @duplicate mention inline taken hagain =>
      rw [Tally.mem_mentioned_foldl, Piece.filterMap_place?_eq] at hagain
      refine ⟨before.filterMap Piece.mention?, mention, after.filterMap Piece.mention?, ?_, rfl, ?_⟩
      · rw [hlayout, List.filterMap_append]
        rfl
      · simpa [Tally.zero] using hagain
  · rintro ⟨earlier, mention, later, hsplit, rfl, other, hother, hsame⟩
    obtain ⟨first, second, hlayout, rfl, hsecond⟩ := List.filterMap_eq_append_iff.mp hsplit
    obtain ⟨skipped, piece, after, rfl, hskipped, hpiece, -⟩ :=
      List.filterMap_eq_cons_iff.mp hsecond
    cases piece with
    | unknown | malformed | positional => simp [Piece.mention?] at hpiece
    | option found inline taken =>
      obtain rfl : found = mention := by simpa [Piece.mention?] using hpiece
      refine ⟨first ++ skipped, _, after, by rw [hlayout, List.append_assoc], .duplicate ?_⟩
      rw [Tally.mem_mentioned_foldl, Piece.filterMap_place?_eq, List.filterMap_append]
      left
      exact List.mem_map.mpr ⟨other, List.mem_append_left _ hother, hsame⟩

lemma duplicate_mem_reported_iff (hsound : interface.Sound) {arguments : List String}
    {reader : Reader} {events : List Event} {name : String}
    (run : Reader.readAll (interface.model environment) .initial arguments =
      .ok (reader, events)) :
    .duplicateOption name ∈ ((interface.program environment).parse arguments).reported ↔
      ∃ earlier mention later,
        (interface.model environment).occurrences arguments = earlier ++ mention :: later ∧
        mention.name.text = name ∧ ∃ other ∈ earlier, other.option = mention.option := by
  rw [mem_reported_iff hsound run, ← blamed_duplicate_iff]
  constructor
  · rintro (hblamed | hoption | hparameter)
    · exact hblamed
    · exact absurd (Model.kind_of_mem_omittedOptions hoption) (by simp [ParseError.kind])
    · exact absurd (Model.kind_of_mem_omittedParameters hparameter) (by simp [ParseError.kind])
  · exact Or.inl

/-- If a program of an accepted declaration is not asked for a command, its run mentions the
occurrences that the command line recognises. A repeated option is reported with the name that it is
written with exactly if an occurrence with this name comes after another one of the same option. The
errors end with the required options that have no occurrence and then the required parameters whose
index is not below the number of values that parameters get, and no such error stands before them.
-/
theorem repetitions_and_omissions {declaration : Declaration}
    (accepted : Interface.ofDeclaration declaration = .ok interface) {arguments : List String}
    (start : ∀ argument ∈ arguments.head?,
      (interface.model environment).findCommand argument = none) :
    let program := interface.program environment
    let occurrences := program.model.occurrences arguments
    let reported := (program.parse arguments).reported
    ∃ reader events, Reader.readAll program.model .initial arguments = .ok (reader, events) ∧
      events.filterMap Event.mention? = occurrences ∧
      (∀ name, .duplicateOption name ∈ reported ↔ ∃ earlier mention later,
        occurrences = earlier ++ mention :: later ∧ mention.name.text = name ∧
          ∃ other ∈ earlier, other.option = mention.option) ∧
      ∃ others, reported = others ++ program.model.omittedOptions occurrences ++
          program.model.omittedParameters (events.filterMap Event.parameter?).length ∧
        ∀ error ∈ others, error.kind ≠ .missingOption ∧ error.kind ≠ .missingParameter := by
  intro program occurrences reported
  have hsound := sound_of_ofDeclaration accepted
  obtain ⟨⟨reader, events⟩, hread⟩ := Reader.exists_readAll start
  refine ⟨reader, events, hread, Reader.filterMap_mention?_of_readAll hread,
    fun name => duplicate_mem_reported_iff hsound hread, _, reported_eq hsound hread, ?_⟩
  intro error herror
  exact kind_of_blamed (mem_faults_iff.mp (mem_distinct.mp herror))

/-- Flags and sequences are repeated by either tag, and an option and a parameter are missing. -/
theorem repetitions_archive :
    let arguments := ["-vtone", "--tag", "two", "--verbose=no"]
    let occurrences := Sample.archiveProgram.model.occurrences arguments
    let reported := (Sample.archiveProgram.parse arguments).reported
    Interface.ofDeclaration Sample.archive = .ok Sample.archiveInterface ∧
      (∀ argument ∈ arguments.head?, Sample.archiveProgram.model.findCommand argument = none) ∧
      occurrences.map (·.name) = [.short 'v', .short 't', .long "tag", .long "verbose"] ∧
      reported = [.duplicateOption "tag", .duplicateOption "verbose", .flagValue "verbose" "no",
        .missingOption (.both "level" 'l'), .missingParameter "source" 0] ∧
      ∃ reader events,
        Reader.readAll Sample.archiveProgram.model .initial arguments = .ok (reader, events) ∧
        events.filterMap Event.mention? = occurrences ∧
        ∃ others, reported = others ++ Sample.archiveProgram.model.omittedOptions occurrences ++
          Sample.archiveProgram.model.omittedParameters
            (events.filterMap Event.parameter?).length := by
  intro arguments occurrences reported
  have start : ∀ argument ∈ ["-vtone", "--tag", "two", "--verbose=no"].head?,
      (Sample.archiveInterface.model Sample.archiveEnvironment).findCommand argument = none := by
    decide
  obtain ⟨reader, events, hread, hmentions, -, others, hreported, -⟩ :=
    repetitions_and_omissions Sample.ofDeclaration_archive start
  exact ⟨Sample.ofDeclaration_archive, start, by decide, by decide, reader, events, hread,
    hmentions, others, hreported⟩

end Interface

end CommandLine
