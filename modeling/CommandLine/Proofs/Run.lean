import CommandLine.Program
import Mathlib.Tactic.Common

/-!
# Runs of the reader

Reading a list of arguments is reading its beginning and then its end. After the first argument no
command can be selected, so that reading always comes to an end there.

All ways to mention an option of the model, in a long option or as a letter of a cluster, go through
one transition.
-/

namespace CommandLine

/-- What an option brings about at once, before any followers. -/
def Mention.immediate (mention : Mention) (inline : Option String) : List Event :=
  if mention.kind.isFlag then
    match inline with
    | some text => [.report (.flagValue mention.name.text text)]
    | none => [mention.store "true"]
  else inline.toList.map mention.store

namespace Reader

/-! ### Mentioning an option -/

/-- An option of the model, perhaps with a text in the same argument. -/
def occur (reader : Reader) (mention : Mention) (inline : Option String) : Reader × List Event :=
  let (noted, events) := reader.note mention
  let (after, more) :=
    match inline with
    | none => noted.begin mention
    | some text =>
      if mention.kind.isFlag then (noted, [.report (.flagValue mention.name.text text)])
      else noted.take mention text
  (after, events ++ more)

lemma long_of_mentionLong? {model : Model} {name : String} {mention : Mention}
    (h : model.mentionLong? name = some mention) (reader : Reader) (argument : String)
    (value : Option String) :
    long model reader argument name value = reader.occur mention value := by
  rw [long]
  rw [h]
  cases value <;> rfl

lemma cluster_cons_of_isFlag {model : Model} {letter : Char} {mention : Mention}
    (h : model.mentionShort? letter = some mention) (hflag : mention.kind.isFlag = true)
    (argument rest : String) (reader : Reader) (others : List (Char × String)) :
    cluster model argument reader ((letter, rest) :: others) =
      let (begun, events) := (reader.expecting .fresh).occur mention none
      let (after, more) := cluster model argument begun others
      (after, events ++ more) := by
  simp [cluster, h, hflag, occur]

lemma cluster_cons_of_not_isFlag {model : Model} {letter : Char} {mention : Mention}
    (h : model.mentionShort? letter = some mention) (hflag : mention.kind.isFlag = false)
    (argument rest : String) (reader : Reader) (others : List (Char × String)) :
    cluster model argument reader ((letter, rest) :: others) =
      (reader.expecting .fresh).occur mention (if rest = "" then none else some rest) := by
  simp only [cluster, h, hflag, occur]
  by_cases hrest : rest = "" <;> simp [hrest]

lemma cluster_cons_of_none {model : Model} {letter : Char}
    (h : model.mentionShort? letter = none) (argument rest : String) (reader : Reader)
    (others : List (Char × String)) :
    cluster model argument reader ((letter, rest) :: others) =
      (reader.expecting .orphan,
        [.report (.unknownOption (String.singleton letter) argument)]) := by
  simp [cluster, h]

@[simp] lemma expectation_expecting (reader : Reader) (expectation : Expectation) :
    (reader.expecting expectation).expectation = expectation := rfl

@[simp] lemma expectation_note (reader : Reader) (mention : Mention) :
    (reader.note mention).1.expectation = reader.expectation := by
  rw [note]
  split <;> rfl

/-- What is expected after an option of the model, perhaps with a text in the same argument. -/
def awaits (mention : Mention) (inline : Option String) : Expectation :=
  if mention.kind.isFlag then
    if mention.kind.isNullableFlag ∧ inline = none then .value mention false else .fresh
  else if inline = none then .value mention false
  else afterValue mention

lemma expectation_occur {reader : Reader} (h : reader.expectation = .fresh) (mention : Mention)
    (inline : Option String) :
    (reader.occur mention inline).1.expectation = awaits mention inline := by
  have hnullable : mention.kind.isFlag = false → mention.kind.isNullableFlag = false := by
    intro hflag
    simp [ValueKind.isNullableFlag, hflag]
  cases inline with
  | none =>
    cases hn : mention.kind.isNullableFlag <;> cases hf : mention.kind.isFlag <;>
      simp_all [occur, begin, awaits]
  | some text =>
    cases hf : mention.kind.isFlag <;> simp [occur, take, awaits, hf, h]

lemma events_occur (reader : Reader) (mention : Mention) (inline : Option String) :
    (reader.occur mention inline).2 = (reader.note mention).2 ++ mention.immediate inline := by
  cases inline with
  | none =>
    by_cases hn : mention.kind.isNullableFlag = true
    · simp [occur, begin, Mention.immediate, hn, ValueKind.isFlag_of_isNullableFlag hn]
    · cases hf : mention.kind.isFlag <;> simp [occur, begin, Mention.immediate, hn, hf]
  | some text =>
    cases hf : mention.kind.isFlag <;> simp [occur, take, Mention.immediate, hf]

/-- Beyond noting the option, only the expectation changes. -/
lemma exists_occur (reader : Reader) (mention : Mention) (inline : Option String) :
    ∃ expectation,
      (reader.occur mention inline).1 = (reader.note mention).1.expecting expectation := by
  cases inline with
  | none =>
    simp only [occur, begin]
    split_ifs <;> exact ⟨_, rfl⟩
  | some text =>
    simp only [occur, take]
    split_ifs <;> exact ⟨_, rfl⟩

@[simp] lemma filled_note (reader : Reader) (mention : Mention) :
    (reader.note mention).1.filled = reader.filled := by
  rw [note]
  split <;> rfl

@[simp] lemma collected_note (reader : Reader) (mention : Mention) :
    (reader.note mention).1.collected = reader.collected := by
  rw [note]
  split <;> rfl

@[simp] lemma filled_occur (reader : Reader) (mention : Mention) (inline : Option String) :
    (reader.occur mention inline).1.filled = reader.filled := by
  obtain ⟨expectation, hoccur⟩ := reader.exists_occur mention inline
  rw [hoccur]
  exact reader.filled_note mention

@[simp] lemma collected_occur (reader : Reader) (mention : Mention) (inline : Option String) :
    (reader.occur mention inline).1.collected = reader.collected := by
  obtain ⟨expectation, hoccur⟩ := reader.exists_occur mention inline
  rw [hoccur]
  exact reader.collected_note mention

@[simp] lemma mem_seen_note {reader : Reader} {mention : Mention} {place : Nat} :
    place ∈ (reader.note mention).1.seen ↔ place = mention.option ∨ place ∈ reader.seen := by
  rw [note]
  split
  · next hseen =>
    constructor
    · exact Or.inr
    · rintro (rfl | h)
      · exact hseen
      · exact h
  · simp

@[simp] lemma mem_seen_occur {reader : Reader} {mention : Mention} {inline : Option String}
    {place : Nat} :
    place ∈ (reader.occur mention inline).1.seen ↔
      place = mention.option ∨ place ∈ reader.seen := by
  obtain ⟨expectation, hoccur⟩ := reader.exists_occur mention inline
  rw [hoccur]
  exact mem_seen_note

lemma awaits_ne_start (mention : Mention) (inline : Option String) :
    awaits mention inline ≠ .start := by
  rw [awaits, afterValue]
  split_ifs <;> simp

lemma awaits_ne_verbatim (mention : Mention) (inline : Option String) :
    awaits mention inline ≠ .verbatim := by
  rw [awaits, afterValue]
  split_ifs <;> simp

lemma awaits_ne_orphan (mention : Mention) (inline : Option String) :
    awaits mention inline ≠ .orphan := by
  rw [awaits, afterValue]
  split_ifs <;> simp

/-- Only the option itself can take values after it was mentioned. -/
lemma eq_of_awaits {mention other : Mention} {inline : Option String} {taken : Bool}
    (h : awaits mention inline = .value other taken) : other = mention := by
  rw [awaits, afterValue] at h
  split_ifs at h <;> simp_all

/-! ### Single arguments -/

@[simp] lemma expectation_place (model : Model) (reader : Reader) (text : String) :
    (place model reader text).1.expectation = reader.expectation := by
  rw [place]
  split
  · rfl
  · split_ifs <;> rfl

@[simp] lemma seen_place (model : Model) (reader : Reader) (text : String) :
    (place model reader text).1.seen = reader.seen := by
  rw [place]
  split
  · rfl
  · split_ifs <;> rfl

lemma positional_of_orphan {reader : Reader} (h : reader.expectation = .orphan) (model : Model)
    (text : String) : positional model reader text = (reader.expecting .fresh, []) := by
  simp [positional, h]

lemma positional_of_fresh {reader : Reader} (h : reader.expectation = .fresh) (model : Model)
    (text : String) : positional model reader text = place model reader text := by
  simp [positional, h]

lemma positional_of_verbatim {reader : Reader} (h : reader.expectation = .verbatim) (model : Model)
    (text : String) : positional model reader text = place model reader text := by
  simp [positional, h]

/-- An option takes a text, but a flag that can be absent only a truth value. -/
lemma positional_of_value {reader : Reader} {mention : Mention} {taken : Bool}
    (h : reader.expectation = .value mention taken) {text : String}
    (htakes : mention.kind.isNullableFlag = false ∨ (Decoder.truth? text).isSome = true)
    (model : Model) : positional model reader text = reader.take mention text := by
  rcases htakes with hn | ht
  · simp [positional, h, hn]
  · simp [positional, h, Option.isSome_iff_ne_none.mp ht]

lemma positional_of_nullableFlag {reader : Reader} {mention : Mention} {taken : Bool}
    (h : reader.expectation = .value mention taken) (hn : mention.kind.isNullableFlag = true)
    {text : String} (htruth : (Decoder.truth? text).isSome = false) (model : Model) :
    positional model reader text = place model (reader.expecting .fresh) text := by
  have hnone : Decoder.truth? text = none := by simpa using htruth
  simp [positional, h, hn, hnone]

lemma read_of_verbatim {reader : Reader} (h : reader.expectation = .verbatim) (model : Model)
    (argument : String) : read model reader argument = place model reader argument := by
  rw [read, if_pos h, positional_of_verbatim h]

lemma read_of_ne_verbatim {reader : Reader} (h : reader.expectation ≠ .verbatim) (model : Model)
    (argument : String) :
    read model reader argument = readToken model reader argument (classify argument) := by
  rw [read, if_neg h]

/-- A `--` that is not verbatim is the terminator, whatever is expected. -/
lemma read_terminator {reader : Reader} (h : reader.expectation ≠ .verbatim) (model : Model) :
    read model reader "--" = (reader.expecting .verbatim, reader.abandoned) := by
  have hshape : classify "--" = .terminator := rfl
  rw [read_of_ne_verbatim h, hshape]
  simp [readToken, expecting]

/-- A cluster leads to nothing but what options and unknown letters lead to. -/
lemma expectation_cluster_ne {model : Model} {argument : String} {reader : Reader}
    {expectation : Expectation} (h : reader.expectation ≠ expectation)
    (horphan : .orphan ≠ expectation)
    (hawaits : ∀ mention inline, awaits mention inline ≠ expectation)
    (letters : List (Char × String)) :
    (cluster model argument reader letters).1.expectation ≠ expectation := by
  induction letters generalizing reader with
  | nil => exact h
  | cons first others ih =>
    obtain ⟨letter, rest⟩ := first
    cases hm : model.mentionShort? letter with
    | none =>
      rw [cluster_cons_of_none hm]
      exact horphan
    | some mention =>
      have hoccur := expectation_occur (expectation_expecting reader .fresh) mention
      cases hflag : mention.kind.isFlag with
      | true =>
        rw [cluster_cons_of_isFlag hm hflag]
        exact ih (by rw [hoccur]; exact hawaits mention none)
      | false =>
        rw [cluster_cons_of_not_isFlag hm hflag, hoccur]
        exact hawaits mention _

/-- The alias of a command is looked for only once. -/
lemma expectation_read_ne_start (model : Model) {reader : Reader} (h : reader.expectation ≠ .start)
    (argument : String) : (read model reader argument).1.expectation ≠ .start := by
  have hpositional (text : String) : (positional model reader text).1.expectation ≠ .start := by
    rw [positional]
    split
    · simp
    · split_ifs
      · simp
      · rw [take, afterValue]
        split_ifs <;> simp
    · simpa using h
  rw [read]
  split_ifs
  · exact hpositional argument
  · cases classify argument with
    | positional text => exact hpositional text
    | terminator => simp [readToken]
    | long name value =>
      simp only [readToken]
      split_ifs
      · simp
      · cases hm : model.mentionLong? name with
        | none =>
          simp only [long, hm]
          split_ifs <;> simp
        | some mention =>
          rw [long_of_mentionLong? hm, expectation_occur (expectation_expecting reader .fresh)]
          exact awaits_ne_start mention value
    | short cluster =>
      exact expectation_cluster_ne (by simp) (by simp) awaits_ne_start cluster.options

/-! ### Many arguments -/

/-- Arguments that select no command are read one after the other. -/
def readMany (model : Model) (reader : Reader) : List String → Reader × List Event
  | [] => (reader, [])
  | argument :: rest =>
    let (after, events) := read model reader argument
    let (last, more) := readMany model after rest
    (last, events ++ more)

@[simp] lemma readMany_nil (model : Model) (reader : Reader) :
    readMany model reader [] = (reader, []) := rfl

lemma readMany_cons (model : Model) (reader : Reader) (argument : String) (rest : List String) :
    readMany model reader (argument :: rest) =
      ((readMany model (read model reader argument).1 rest).1,
        (read model reader argument).2 ++ (readMany model (read model reader argument).1 rest).2) :=
  rfl

lemma readMany_append (model : Model) (reader : Reader) (first second : List String) :
    readMany model reader (first ++ second) =
      ((readMany model (readMany model reader first).1 second).1,
        (readMany model reader first).2 ++
          (readMany model (readMany model reader first).1 second).2) := by
  induction first generalizing reader with
  | nil => rfl
  | cons argument rest ih => simp [readMany_cons, ih]

/-- Once something was read, reading comes to the end of the arguments. -/
lemma readAll_eq_readMany {model : Model} {reader : Reader} (h : reader.expectation ≠ .start)
    (arguments : List String) :
    readAll model reader arguments = .ok (readMany model reader arguments) := by
  induction arguments generalizing reader with
  | nil => rfl
  | cons argument rest ih =>
    have hread := expectation_read_ne_start model h argument
    simp [readAll, step, h, advance, ih hread, readMany_cons]

/-- The reader when no command was selected. -/
def ready : Reader :=
  initial.expecting .fresh

lemma expectation_ready : ready.expectation ≠ .start := by
  simp [ready]

lemma expectation_readMany_ne_start {model : Model} {reader : Reader}
    (hstart : reader.expectation ≠ .start)
    (arguments : List String) : (readMany model reader arguments).1.expectation ≠ .start := by
  induction arguments generalizing reader with
  | nil => exact hstart
  | cons argument rest ih => exact ih (expectation_read_ne_start model hstart argument)

lemma expectation_readMany_ready (model : Model) (arguments : List String) :
    (readMany model ready arguments).1.expectation ≠ .start :=
  expectation_readMany_ne_start expectation_ready arguments

/-- Nothing ends what is verbatim. -/
lemma expectation_readMany_of_verbatim {model : Model} {reader : Reader}
    (hverbatim : reader.expectation = .verbatim)
    (arguments : List String) : (readMany model reader arguments).1.expectation = .verbatim := by
  induction arguments generalizing reader with
  | nil => exact hverbatim
  | cons argument rest ih =>
    have hread : (read model reader argument).1.expectation = .verbatim := by
      rw [read_of_verbatim hverbatim, expectation_place, hverbatim]
    exact ih hread

lemma step_initial {model : Model} {argument : String} (h : model.select argument = none) :
    step model initial argument =
      .next (read model ready argument).1 (read model ready argument).2 := by
  have hstart : initial.expectation = .start := rfl
  simp [step, h, hstart, advance, ready]

lemma step_of_ne_start {model : Model} {reader : Reader} (h : reader.expectation ≠ .start)
    (argument : String) :
    step model reader argument =
      .next (read model reader argument).1 (read model reader argument).2 := by
  rw [step, if_neg h]
  rfl

/-- If the first argument selects no command, all arguments are read. -/
lemma readAll_initial_cons {model : Model} {argument : String}
    (h : model.select argument = none) (rest : List String) :
    readAll model initial (argument :: rest) = .ok (readMany model ready (argument :: rest)) := by
  have hread := expectation_read_ne_start model expectation_ready argument
  simp [readAll, step_initial h, readAll_eq_readMany hread, readMany_cons]

lemma exists_readAll {model : Model} {arguments : List String}
    (start : ∀ argument ∈ arguments.head?, model.findCommand argument = none) :
    ∃ outcome, readAll model initial arguments = .ok outcome := by
  cases arguments with
  | nil => exact ⟨_, rfl⟩
  | cons argument rest =>
    have hselect : model.select argument = none := by simp [Model.select, start argument rfl]
    exact ⟨_, readAll_initial_cons hselect rest⟩

/-- If all arguments are read, the first one selects no command. -/
lemma select_of_readAll {model : Model} {argument : String} {rest : List String}
    {outcome : Reader × List Event} (h : readAll model initial (argument :: rest) = .ok outcome) :
    model.select argument = none := by
  cases hselect : model.select argument with
  | none => rfl
  | some command => simp [readAll, step, initial, hselect] at h

/-- A command is selected by the first argument, whatever comes after it. -/
lemma readAll_of_select {model : Model} {argument : String} {command : SpecialCommand}
    (h : model.select argument = some command) (rest : List String) :
    readAll model initial (argument :: rest) = .error command := by
  simp [readAll, step, initial, h]

lemma select_of_readAll_eq_error {model : Model} {arguments : List String}
    {command : SpecialCommand} (h : readAll model initial arguments = .error command) :
    ∃ argument rest, arguments = argument :: rest ∧ model.select argument = some command := by
  cases arguments with
  | nil => simp [readAll] at h
  | cons argument rest =>
    refine ⟨argument, rest, rfl, ?_⟩
    cases hselect : model.select argument with
    | none => simp [readAll_initial_cons hselect] at h
    | some found => rw [Except.error.inj ((readAll_of_select hselect rest).symm.trans h)]

/-- If no command is run, there are no arguments, or all of them are read. -/
lemma eq_of_readAll_initial {model : Model} {arguments : List String}
    {outcome : Reader × List Event} (h : readAll model initial arguments = .ok outcome) :
    outcome = (initial, []) ∧ arguments = [] ∨ outcome = readMany model ready arguments := by
  cases arguments with
  | nil => exact .inl ⟨(Except.ok.inj h).symm, rfl⟩
  | cons argument rest =>
    right
    exact Except.ok.inj (h.symm.trans (readAll_initial_cons (select_of_readAll h) rest))

/-- What comes after some arguments is read from where they lead. -/
lemma readAll_append {model : Model} {first reader last : Reader} {before rest : List String}
    {events more : List Event} (h : readAll model first before = .ok (reader, events))
    (hrest : readAll model reader rest = .ok (last, more)) :
    readAll model first (before ++ rest) = .ok (last, events ++ more) := by
  induction before generalizing first events with
  | nil =>
    obtain ⟨rfl, rfl⟩ := Prod.mk.inj (Except.ok.inj h)
    exact hrest
  | cons argument others ih =>
    rw [readAll] at h
    rw [List.cons_append, readAll]
    cases hstep : step model first argument with
    | selected command => simp [hstep] at h
    | next after produced =>
      cases hothers : readAll model after others with
      | error command => simp [hstep, hothers] at h
      | ok outcome =>
        simp only [hstep, hothers, Except.ok.injEq, Prod.mk.injEq] at h
        obtain ⟨rfl, rfl⟩ := h
        simp [ih hothers]

end Reader

/-- If the first argument is no alias, all arguments are read from the same state on. -/
lemma Program.parse_eq_conclude_readMany {σ α : Type} {program : Program σ α}
    {arguments : List String}
    (start : ∀ argument ∈ arguments.head?, program.model.findCommand argument = none) :
    program.parse arguments =
      program.conclude ((Reader.readMany program.model .ready arguments).2 ++
        (Reader.readMany program.model .ready arguments).1.finish program.model) := by
  cases arguments with
  | nil => rfl
  | cons argument rest =>
    have hselect : program.model.select argument = none := by
      rw [Model.select, start argument rfl]
      rfl
    rw [parse, Reader.readAll_initial_cons hselect]

end CommandLine
