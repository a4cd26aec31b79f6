import CommandLine.Proofs.Occurrence
import CommandLine.Proofs.Shown
import CommandLine.Sample.Archive

/-!
# Faithful runs

What a successful run says about its command line: every argument was recognised or stored, no
option was mentioned twice, no value was lost, and every field shows what it was given.
-/

namespace CommandLine

/-! ### What becomes of an argument -/

/-- What an option of a head brings about by itself, where nothing is wrong with it. A flag has no
text and stores `true`; the text of any other option is stored. -/
inductive Piece.Yields : Piece → List Event → Prop
  | flag {mention : Mention} (hflag : mention.kind.isFlag = true) :
      Yields (.option mention none []) [.mention mention, mention.store "true"]
  | bare {mention : Mention} (hflag : mention.kind.isFlag = false) :
      Yields (.option mention none []) [.mention mention]
  | text {mention : Mention} (hflag : mention.kind.isFlag = false) (text : String) :
      Yields (.option mention (some text) []) [.mention mention, mention.store text]

namespace Model

/-- The argument is option-like with names that are all known, and the events are those of its
options. -/
def Knows (model : Model) (argument : String) (events : List Event) : Prop :=
  isLoose argument = false ∧ argument ≠ "--" ∧ ∃ effects,
    List.Forall₂ Piece.Yields (model.headPieces argument (classify argument)) effects ∧
      events = effects.flatten

/-- Up to the first `--`, an argument is this `--`, or an option-like argument whose names are all
known. Any other argument is stored, and this is all that it brings about. -/
def Handles (model : Model) (before : List String) (argument : String) : Prop :=
  ∃ reader earlier next events,
    Reader.readAll model .initial before = .ok (reader, earlier) ∧
    Reader.step model reader argument = .next next events ∧
    ("--" ∉ before ∧ (argument = "--" ∧ events = [] ∨ model.Knows argument events) ∨
      ∃ slot blame, events = [.store slot argument blame])

lemma knows_of_shape {model : Model} {argument : String} {events : List Event}
    {effects : List (List Event)} (hloose : (classify argument).isPositional = false)
    (hterminator : classify argument ≠ .terminator)
    (heffects : List.Forall₂ Piece.Yields (model.headPieces argument (classify argument)) effects)
    (hevents : events = effects.flatten) : model.Knows argument events :=
  ⟨hloose, fun h => hterminator (classify_eq_terminator_iff.mpr h), effects, heffects, hevents⟩

end Model

namespace Reader

variable {model : Model} {reader : Reader} {argument : String}

lemma place_of_quiet (hquiet : ∀ error, .report error ∉ (place model reader argument).2) :
    ∃ slot blame, (place model reader argument).2 = [.store slot argument blame] := by
  rw [place] at hquiet ⊢
  split
  · exact ⟨_, _, rfl⟩
  · next hnone =>
    split_ifs with hremaining
    · exact ⟨_, _, rfl⟩
    · simp [hnone, hremaining] at hquiet

lemma positional_of_quiet (horphan : reader.expectation ≠ .orphan)
    (hstart : reader.expectation ≠ .start)
    (hquiet : ∀ error, .report error ∉ (positional model reader argument).2) :
    ∃ slot blame, (positional model reader argument).2 = [.store slot argument blame] := by
  cases hexpect : reader.expectation with
  | orphan => exact absurd hexpect horphan
  | start => exact absurd hexpect hstart
  | fresh =>
    rw [positional_of_fresh hexpect] at hquiet ⊢
    exact place_of_quiet hquiet
  | verbatim =>
    rw [positional_of_verbatim hexpect] at hquiet ⊢
    exact place_of_quiet hquiet
  | value mention taken =>
    by_cases htakes : mention.kind.isNullableFlag = false ∨
        (Decoder.truth? argument).isSome = true
    · rw [positional_of_value hexpect htakes]
      exact ⟨_, _, rfl⟩
    · obtain ⟨hnullable, htruth⟩ : mention.kind.isNullableFlag = true ∧
          (Decoder.truth? argument).isSome = false := by simpa using htakes
      rw [positional_of_nullableFlag hexpect hnullable htruth] at hquiet ⊢
      exact place_of_quiet hquiet

/-- Without an error, an option that occurs is new and yields what it brings about. -/
lemma yields_of_quiet {mention : Mention} {inline : Option String}
    (hquiet : ∀ error, .report error ∉ (reader.occur mention inline).2) :
    (Piece.option mention inline []).Yields (reader.occur mention inline).2 := by
  rw [events_occur] at hquiet ⊢
  have hnote : (reader.note mention).2 = [.mention mention] := by
    rw [note] at hquiet ⊢
    split_ifs with hseen
    · rw [if_pos hseen] at hquiet
      exact absurd (by simp) (hquiet (.duplicateOption mention.name.text))
    · rfl
  rw [hnote]
  cases hflag : mention.kind.isFlag with
  | true =>
    cases inline with
    | none =>
      have himmediate : mention.immediate none = [mention.store "true"] := by
        simp [Mention.immediate, hflag]
      rw [himmediate]
      exact .flag hflag
    | some text =>
      have himmediate : mention.immediate (some text) =
          [.report (.flagValue mention.name.text text)] := by
        simp [Mention.immediate, hflag]
      rw [himmediate] at hquiet
      exact absurd (by simp) (hquiet (.flagValue mention.name.text text))
  | false =>
    have himmediate : mention.immediate inline = inline.toList.map mention.store := by
      simp [Mention.immediate, hflag]
    rw [himmediate]
    cases inline with
    | none => exact .bare hflag
    | some text => exact .text hflag text

/-- Without an error, all letters of a cluster that are looked up are known. -/
lemma yields_of_cluster {letters : List (Char × String)} {reader : Reader}
    (hquiet : ∀ error, .report error ∉ (cluster model argument reader letters).2) :
    ∃ effects, List.Forall₂ Piece.Yields (model.clusterPieces argument letters) effects ∧
      (cluster model argument reader letters).2 = effects.flatten := by
  induction letters generalizing reader with
  | nil => exact ⟨[], .nil, rfl⟩
  | cons entry others ih =>
    obtain ⟨letter, rest⟩ := entry
    rw [Model.clusterPieces]
    cases hm : model.mentionShort? letter with
    | none =>
      rw [cluster_cons_of_none hm] at hquiet
      exact absurd (by simp) (hquiet (.unknownOption (String.singleton letter) argument))
    | some mention =>
      dsimp only
      cases hflag : mention.kind.isFlag with
      | false =>
        rw [cluster_cons_of_not_isFlag hm hflag] at hquiet ⊢
        rw [if_neg (by simp)]
        exact ⟨[_], .cons (yields_of_quiet hquiet) .nil, by simp⟩
      | true =>
        rw [cluster_cons_of_isFlag hm hflag] at hquiet ⊢
        rw [if_pos rfl]
        have hfirst := yields_of_quiet fun error hmem =>
          hquiet error (List.mem_append_left _ hmem)
        obtain ⟨effects, heffects, hmore⟩ := ih fun error hmem =>
          hquiet error (List.mem_append_right _ hmem)
        refine ⟨_ :: effects, .cons hfirst heffects, ?_⟩
        rw [List.flatten_cons, ← hmore]

/-- Without an error, nothing that was awaited is given up. -/
lemma abandoned_of_quiet {events : List Event}
    (hquiet : ∀ error, .report error ∉ reader.abandoned ++ events) : reader.abandoned = [] := by
  unfold abandoned at hquiet ⊢
  split
  · next mention hexpect =>
    simp only [hexpect] at hquiet
    split_ifs with hnullable
    · rfl
    · rw [if_neg hnullable] at hquiet
      exact absurd (by simp) (hquiet (.optionValueMissing mention.name.text))
  · rfl

lemma knows_long_of_quiet {name : String} {value : Option String}
    (hshape : classify argument = .long name value)
    (hquiet : ∀ error, .report error ∉ (readToken model reader argument (.long name value)).2) :
    model.Knows argument (readToken model reader argument (.long name value)).2 := by
  have habandoned := abandoned_of_quiet hquiet
  simp only [readToken, habandoned, List.nil_append] at hquiet ⊢
  have hname : name ≠ "" := by
    intro hname
    rw [if_pos hname] at hquiet
    exact hquiet (.unrecognizedArgument argument) (by simp)
  rw [if_neg hname] at hquiet ⊢
  have hpieces := congrArg (model.headPieces argument) hshape
  rw [Model.headPieces, if_neg hname] at hpieces
  cases hm : model.mentionLong? name with
  | none => exact absurd (by simp [long, hm]) (hquiet (.unknownOption name argument))
  | some mention =>
    rw [hm] at hpieces
    rw [long_of_mentionLong? hm] at hquiet ⊢
    apply Model.knows_of_shape (by simp [hshape, Token.isPositional]) (by simp [hshape])
    · rw [hpieces]
      exact .cons (yields_of_quiet hquiet) .nil
    · simp

lemma knows_short_of_quiet {cluster : Cluster} (hshape : classify argument = .short cluster)
    (hquiet : ∀ error, .report error ∉ (readToken model reader argument (.short cluster)).2) :
    model.Knows argument (readToken model reader argument (.short cluster)).2 := by
  have habandoned := abandoned_of_quiet hquiet
  simp only [readToken, habandoned, List.nil_append] at hquiet ⊢
  obtain ⟨effects, heffects, hevents⟩ := yields_of_cluster hquiet
  apply Model.knows_of_shape (by simp [hshape, Token.isPositional]) (by simp [hshape])
  · rw [hshape]
    exact heffects
  · exact hevents

/-- Without an error, an argument is the `--` that is looked for, or its names are known, or it is
stored. -/
lemma read_of_quiet (horphan : reader.expectation ≠ .orphan) (hstart : reader.expectation ≠ .start)
    (hquiet : ∀ error, .report error ∉ (read model reader argument).2) :
    reader.expectation ≠ .verbatim ∧
        (argument = "--" ∧ (read model reader argument).2 = [] ∨
          model.Knows argument (read model reader argument).2) ∨
      ∃ slot blame, (read model reader argument).2 = [.store slot argument blame] := by
  by_cases hverbatim : reader.expectation = .verbatim
  · rw [read_of_verbatim hverbatim] at hquiet ⊢
    exact .inr (place_of_quiet hquiet)
  rw [read_of_ne_verbatim hverbatim] at hquiet ⊢
  cases hshape : classify argument with
  | positional text =>
    obtain rfl := eq_of_classify_eq_positional hshape
    rw [hshape] at hquiet
    exact .inr (positional_of_quiet horphan hstart hquiet)
  | terminator =>
    rw [hshape] at hquiet
    have habandoned := abandoned_of_quiet hquiet
    refine .inl ⟨hverbatim, .inl ⟨classify_eq_terminator_iff.mp hshape, ?_⟩⟩
    simp [readToken, habandoned]
  | long name value =>
    rw [hshape] at hquiet
    exact .inl ⟨hverbatim, .inr (knows_long_of_quiet hshape hquiet)⟩
  | short cluster =>
    rw [hshape] at hquiet
    exact .inl ⟨hverbatim, .inr (knows_short_of_quiet hshape hquiet)⟩

/-- A supposed value of an unknown option is awaited only after an error. -/
lemma expectation_ne_orphan {arguments : List String}
    (hquiet : ∀ error, .report error ∉ (readMany model ready arguments).2) :
    (readMany model ready arguments).1.expectation ≠ .orphan := by
  intro horphan
  have hreported : (readMany model ready arguments).1.expectation = .orphan →
      ∃ error, .report error ∈ (readMany model ready arguments).2 := by
    apply readMany_induction (P := fun reader events => reader.expectation = .orphan →
      ∃ error, .report error ∈ events) _ (by simp [ready]) arguments
    intro argument reader before events after hmove h hafter
    cases hmove with
    | abandon => simp at hafter
    | clear => simp at hafter
    | terminate => simp at hafter
    | malformed => exact ⟨_, List.mem_append_right before (List.mem_singleton.mpr rfl)⟩
    | unknownLong => exact ⟨_, List.mem_append_right before (List.mem_singleton.mpr rfl)⟩
    | unknownShort => exact ⟨_, List.mem_append_right before (List.mem_singleton.mpr rfl)⟩
    | occur hexpect =>
      rw [expectation_occur hexpect] at hafter
      exact absurd hafter (awaits_ne_orphan _ _)
    | swallow => simp at hafter
    | take =>
      simp only [take, expectation_expecting, afterValue] at hafter
      split_ifs at hafter
    | place hexpect =>
      rw [expectation_place] at hafter
      rcases hexpect with hexpect | ⟨hexpect, -⟩ <;> simp [hexpect] at hafter
  obtain ⟨error, herror⟩ := hreported horphan
  exact hquiet error herror

/-! ### After the terminator -/

/-- After a `--` everything is verbatim. -/
lemma expectation_readMany_of_mem {arguments : List String} (hmem : "--" ∈ arguments)
    (reader : Reader) : (readMany model reader arguments).1.expectation = .verbatim := by
  induction arguments generalizing reader with
  | nil => simp at hmem
  | cons argument rest ih =>
    rcases List.mem_cons.mp hmem with rfl | hrest
    · have hread : (read model reader "--").1.expectation = .verbatim := by
        by_cases hverbatim : reader.expectation = .verbatim
        · rw [read_of_verbatim hverbatim, expectation_place, hverbatim]
        · rw [read_terminator hverbatim, expectation_expecting]
      exact expectation_readMany_of_verbatim hread rest
    · exact ih hrest _

/-- Reading all arguments reads every one of them after those before it. -/
lemma exists_step {before after : List String} {outcome : Reader × List Event}
    (h : readAll model initial (before ++ argument :: after) = .ok outcome) :
    outcome = readMany model ready (before ++ argument :: after) ∧
      ∃ current earlier, readAll model initial before = .ok (current, earlier) ∧
        step model current argument =
          .next (read model (readMany model ready before).1 argument).1
            (read model (readMany model ready before).1 argument).2 := by
  rcases eq_of_readAll_initial h with ⟨-, hnil⟩ | houtcome
  · simp at hnil
  refine ⟨houtcome, ?_⟩
  cases before with
  | nil =>
    exact ⟨initial, [], rfl, step_initial (select_of_readAll h)⟩
  | cons first rest =>
    have hstart := expectation_readMany_ready model (first :: rest)
    exact ⟨(readMany model ready (first :: rest)).1, (readMany model ready (first :: rest)).2,
      readAll_initial_cons (select_of_readAll h) rest, step_of_ne_start hstart argument⟩

/-- Without an error every argument is handled. -/
lemma handles_of_quiet {arguments before after : List String} {events : List Event}
    (hread : readAll model initial arguments = .ok (reader, events))
    (hquiet : ∀ error, .report error ∉ events) (hsplit : arguments = before ++ argument :: after) :
    model.Handles before argument := by
  rw [hsplit] at hread
  obtain ⟨houtcome, current, earlier, hcurrent, hstep⟩ := exists_step hread
  rw [readMany_append, readMany_cons] at houtcome
  obtain ⟨-, rfl⟩ := Prod.mk.inj houtcome
  have horphan := expectation_ne_orphan fun error hmem =>
    hquiet error (List.mem_append_left _ hmem)
  have hstart := expectation_readMany_ready model before
  have hnow : ∀ error, .report error ∉ (read model (readMany model ready before).1 argument).2 :=
    fun error hmem => hquiet error (List.mem_append_right _ (List.mem_append_left _ hmem))
  refine ⟨current, earlier, _, _, hcurrent, hstep, ?_⟩
  refine (read_of_quiet horphan hstart hnow).imp_left ?_
  rintro ⟨hverbatim, hshape⟩
  exact ⟨fun hmem => hverbatim (expectation_readMany_of_mem hmem _), hshape⟩

end Reader

/-! ### Mentions -/

/-- The place of the option that an event mentions. -/
def Event.mentioned? : Event → Option Nat
  | .mention found => some found.option
  | .store .. | .report _ => none

lemma Event.filterMap_mentioned?_eq (events : List Event) :
    events.filterMap mentioned? = (events.filterMap mention?).map (·.option) := by
  rw [List.map_filterMap]
  congr 1
  funext event
  cases event <;> rfl

/-- Without an error no option is mentioned twice. -/
lemma Reader.nodup_of_quiet {model : Model} {reader : Reader} {arguments : List String}
    {events : List Event} (hread : readAll model initial arguments = .ok (reader, events))
    (hquiet : ∀ error, .report error ∉ model.account arguments) :
    (events.filterMap Event.mentioned?).Nodup := by
  have hplaces := (Tally.nodup_of_quiet fun error hmem =>
    hquiet error (List.mem_append_left _ hmem)).1
  have hall : (model.account arguments).filterMap Event.mentioned? =
      (model.layout arguments).filterMap Piece.place? := by
    rw [Event.filterMap_mentioned?_eq, Model.filterMap_mention?_account,
      Piece.filterMap_place?_eq, Model.filterMap_mention?_layout]
  rw [← hall, ← account_of_readAll hread, List.filterMap_append] at hplaces
  exact hplaces.sublist (List.sublist_append_left _ _)

/-! ### Values -/

/-- If everything can be mapped, nothing is left out. -/
lemma forall₂_filterMap {β γ : Type} {f : β → Option γ} {list : List β}
    (h : ∀ x ∈ list, (f x).isSome = true) :
    List.Forall₂ (fun x y => f x = some y) list (list.filterMap f) := by
  induction list with
  | nil => exact .nil
  | cons x rest ih =>
    obtain ⟨y, hy⟩ := Option.isSome_iff_exists.mp (h x (by simp))
    rw [List.filterMap_cons_some hy]
    exact .cons hy (ih fun z hz => h z (by simp [hz]))

namespace Interface

variable {α : Type} {interface : Interface} {environment : Environment α}

/-- Storing a text after some events replaces no value: the slot is empty, or it keeps all values,
or the text is a truth value after a flag and replaces the value that the flag itself stands for. -/
def Keeps (interface : Interface) (environment : Environment α) (before : List Event) (slot : Slot)
    (text : String) : Prop :=
  ∃ base, interface.base? slot = some base ∧
    let held := ((interface.program environment).performAll before).1 slot
    (held = [] ∨ base.shape.wrapper = .sequence ∨
      (base.kind environment).isNullableFlag = true ∧ (Decoder.truth? text).isSome = true ∧
        ∃ implied, interface.decode? environment slot "true" = some implied ∧ held = [implied])

/-- Where no error is found, no value is replaced but the one that a flag stands for. -/
lemma keeps_of_flawless (hsound : interface.Sound) {arguments : List String}
    (hflawless : ∀ event ∈ (interface.model environment).account arguments,
      interface.Flawless environment event)
    {before after : List Event} {slot : Slot} {text : String} {blame : ParseError}
    (hsplit : (interface.model environment).account arguments =
      before ++ .store slot text blame :: after) :
    interface.Keeps environment before slot text := by
  have hbefore : ∀ event ∈ before, interface.Flawless environment event :=
    fun event hevent => hflawless event (by simp [hsplit, hevent])
  have hvalue : (interface.decode? environment slot text).isSome = true :=
    hflawless (.store slot text blame) (by simp [hsplit])
  obtain ⟨value, hvalue⟩ := Option.isSome_iff_exists.mp hvalue
  obtain ⟨base, hbase⟩ := exists_base_of_decode? hvalue
  have hheld : ((interface.program environment).performAll before).1 slot = base.keep [] _ :=
    storage_of_flawless hbefore hbase (Storage.empty, [])
  have htexts : Event.textsIn slot ((interface.model environment).account arguments) =
      Event.textsIn slot before ++ text :: Event.textsIn slot after := by simp [hsplit]
  have hempty (hnil : Event.textsIn slot before = []) :
      ((interface.program environment).performAll before).1 slot = [] := by
    rw [hheld, hnil]
    rfl
  refine ⟨base, hbase, ?_⟩
  rcases Model.stored_or_replaced (fun error hmem => hflawless _ hmem) (has_of_base? hbase) with
    ⟨heq, hgathers | hlength⟩ | ⟨place, option, truth, rfl, hoption, hnullable, htruth, heq, -⟩
  · exact .inr (.inl (wrapper_of_gathers hsound hbase hgathers))
  · rw [← heq, htexts, List.length_append, List.length_cons] at hlength
    exact .inl (hempty (List.eq_nil_of_length_eq_zero (by omega)))
  · rw [htexts] at heq
    rw [kind_of_base? hbase hoption] at hnullable
    rcases List.append_eq_cons_iff.mp heq with ⟨hnil, -⟩ | ⟨first, hfirst, hrest⟩
    · exact .inl (hempty hnil)
    · -- the flag itself was stored before, so this is the truth value after it
      obtain rfl : first = [] := by
        cases first with
        | nil => rfl
        | cons other others => simp at hrest
      obtain ⟨rfl, -⟩ : truth = text ∧ _ := List.cons.inj hrest
      have htrue : "true" ∈ Event.textsIn (.option place) before := by
        rw [hfirst]
        exact List.mem_cons_self
      obtain ⟨implied, himplied⟩ :=
        Option.isSome_iff_exists.mp (decode?_of_flawless hbefore htrue)
      refine .inr (.inr ⟨hnullable, htruth, implied, himplied, ?_⟩)
      rw [hheld, hfirst]
      simp [himplied, FieldBase.keep_eq_self]

/-! ### Successful runs -/

/-- If a program of an accepted declaration yields options, nothing on the command line was ignored,
repeated or lost. Every argument is the first `--`, or an option-like one before it with known
names, or stored as it is. No option is mentioned twice. No stored text replaces another one's
value, except that a truth value after a flag replaces what the flag stands for. All texts can be
decoded. And every field shows the values of the texts that the layout of the command line gives to
it. -/
theorem faithful {declaration : Declaration}
    (accepted : Interface.ofDeclaration declaration = .ok interface) {arguments : List String}
    {found : Record α}
    (success : (interface.program environment).parse arguments = .options found) :
    ∃ reader events,
      Reader.readAll (interface.model environment) .initial arguments = .ok (reader, events) ∧
      (∀ before argument after, arguments = before ++ argument :: after →
        (interface.model environment).Handles before argument) ∧
      (events.filterMap Event.mentioned?).Nodup ∧
      (∀ before slot text blame after, events = before ++ .store slot text blame :: after →
        interface.Keeps environment before slot text) ∧
      (∀ slot text blame, .store slot text blame ∈ events →
        (interface.decode? environment slot text).isSome = true) ∧
      ∃ values : Slot → List α,
        (∀ slot base, interface.base? slot = some base →
          List.Forall₂ (fun text value => interface.decode? environment slot text = some value)
            ((interface.model environment).given arguments slot) (values slot)) ∧
        interface.Shows environment values found := by
  have hsound := sound_of_ofDeclaration accepted
  have hshows := shows_of_parse hsound success
  obtain ⟨⟨⟨reader, events⟩, hread⟩, hflawless, -⟩ := (parse_eq_options_iff hsound).mp success
  have haccount := Reader.account_of_readAll hread
  have hevents : ∀ event ∈ events, interface.Flawless environment event :=
    fun event hevent => hflawless event (by simp [← haccount, hevent])
  refine ⟨reader, events, hread, ?_, ?_, ?_, ?_, interface.values environment arguments, ?_, hshows⟩
  · intro before argument after hsplit
    exact Reader.handles_of_quiet hread (fun error hmem => hevents _ hmem) hsplit
  · exact Reader.nodup_of_quiet hread fun error hmem => hflawless _ hmem
  · intro before slot text blame after hsplit
    rw [hsplit, List.append_assoc, List.cons_append] at haccount
    exact keeps_of_flawless hsound hflawless haccount.symm
  · intro slot text blame hstore
    exact hevents _ hstore
  · intro slot base hbase
    exact forall₂_filterMap (stored_eq_values hsound hflawless hbase).2.1

/-- A set flag, a flag with its truth value, a cluster with a value, a sequence, and everything
positional. After the `--` what looks like an option is stored, and `False` replaces the value that
`--color` stands for. -/
theorem faithful_archive :
    let model := Sample.archiveProgram.model
    let before := ["-vl7", "--color", "False", "-tone", "two", "--", "in"]
    let events := (Reader.readMany model .ready (before ++ ["-out", "more"])).2
    let record : Record Scalar :=
      [("verbose", .single (.bool true)), ("color", .nullable (some (.bool false))),
        ("level", .single (.integer 7)), ("tag", .sequence [.text "one", .text "two"]),
        ("source", .single (.text "in")), ("target", .nullable (some (.text "-out"))),
        ("rest", .sequence [.text "more"])]
    Interface.ofDeclaration Sample.archive = .ok Sample.archiveInterface ∧
    Sample.archiveProgram.parse (before ++ ["-out", "more"]) = .options record ∧
    (events.filterMap Event.mentioned?).Nodup ∧ model.Handles [] "-vl7" ∧
    (∃ reader earlier next slot blame,
      Reader.readAll model .initial before = .ok (reader, earlier) ∧
      Reader.step model reader "-out" = .next next [.store slot "-out" blame]) ∧
    (∃ blame, events = events.take 6 ++ .store (.option 1) "False" blame :: events.drop 7 ∧
      (Sample.archiveProgram.performAll (events.take 6)).1 (.option 1) = [.bool true] ∧
      Sample.archiveInterface.Keeps Sample.archiveEnvironment (events.take 6) (.option 1) "False") ∧
    ∃ values, values (.option 3) = [.text "one", .text "two"] ∧
      Sample.archiveInterface.Shows Sample.archiveEnvironment values record := by
  intro model before events record
  have success : (Sample.archiveInterface.program Sample.archiveEnvironment).parse
      (before ++ ["-out", "more"]) = .options record := rfl
  obtain ⟨reader, _, hread, hhandles, honce, hkeeps, -, values, hvalues, hshows⟩ :=
    faithful Sample.ofDeclaration_archive success
  obtain ⟨-, rfl⟩ := Prod.mk.inj (Except.ok.inj
    ((Reader.readAll_initial_cons rfl _).symm.trans hread))
  refine ⟨Sample.ofDeclaration_archive, success, honce, hhandles [] _ _ rfl, ?_, ?_, values, ?_,
    hshows⟩
  · obtain ⟨current, earlier, next, _, hcurrent, hstep, hhandled⟩ := hhandles before _ _ rfl
    rcases hhandled with ⟨hopen, -⟩ | ⟨slot, blame, rfl⟩
    · exact absurd (by decide) hopen
    · exact ⟨current, earlier, next, slot, blame, hcurrent, hstep⟩
  · have hsplit : events = events.take 6 ++
        .store (.option 1) "False" (.badOptionValue "False" "color") :: events.drop 7 := rfl
    exact ⟨_, hsplit, rfl, hkeeps _ _ _ _ _ hsplit⟩
  · have htags : List.Forall₂ (fun text value =>
        Sample.archiveInterface.decode? Sample.archiveEnvironment (.option 3) text = some value)
        ["one", "two"] (values (.option 3)) := hvalues (.option 3) _ rfl
    generalize values (.option 3) = tags at htags
    obtain _ | ⟨hfirst, _ | ⟨hsecond, ⟨⟩⟩⟩ := htags
    rw [← Option.some.inj hfirst, ← Option.some.inj hsecond]

-- what is not given: a flag is false, and nothing or no members stand for anything else
example : Sample.archiveProgram.parse ["-l1", "in"] =
    .options [("verbose", .single (.bool false)), ("color", .nullable none),
      ("level", .single (.integer 1)), ("tag", .sequence []), ("source", .single (.text "in")),
      ("target", .nullable none), ("rest", .sequence [])] := rfl

end Interface

end CommandLine
