import CommandLine.Proofs.Clause
import CommandLine.Proofs.Run

/-!
# Moves of the reader

Everything that reading an argument can do is a sequence of moves. A move says under which
expectation it happens, what it brings about, and where it leads. What every move preserves holds
after every run.
-/

namespace CommandLine

/-! ### Mentions -/

namespace Model

/-- The option at a place has this tag. -/
def Tagged (model : Model) (place : Nat) (name : OptionName) : Prop :=
  ∃ option, model.options[place]? = some option ∧
    match name with
    | .long text => option.tags.long? = some text
    | .short letter => option.tags.short? = some letter

/-- The mention tells the truth about an option of the model. -/
structure Mentions (model : Model) (mention : Mention) : Prop where
  tagged : model.Tagged mention.option mention.name
  kind : (model.options[mention.option]?).map (·.kind) = some mention.kind

lemma mentions_of_mention? {model : Model} {name : OptionName} {place : Nat} {mention : Mention}
    (h : model.mention? name place = some mention) (htagged : model.Tagged place name) :
    model.Mentions mention := by
  obtain ⟨option, hoption, rfl⟩ := Option.map_eq_some_iff.mp h
  exact ⟨htagged, by simp [hoption]⟩

/-- What is found among the options has the tag that was looked for. -/
lemma exists_of_findIdx? {model : Model} {p : OptionSpec → Bool} {place : Nat}
    (h : model.options.findIdx? p = some place) :
    ∃ option, model.options[place]? = some option ∧ p option = true := by
  obtain ⟨hlt, hfound, -⟩ := List.findIdx?_eq_some_iff_getElem.mp h
  exact ⟨_, List.getElem?_eq_getElem hlt, hfound⟩

lemma mentions_of_mentionLong? {model : Model} {name : String} {mention : Mention}
    (h : model.mentionLong? name = some mention) : model.Mentions mention := by
  obtain ⟨place, hfind, hmention⟩ := Option.bind_eq_some_iff.mp h
  obtain ⟨option, hoption, htag⟩ := exists_of_findIdx? hfind
  exact mentions_of_mention? hmention ⟨option, hoption, of_decide_eq_true htag⟩

lemma mentions_of_mentionShort? {model : Model} {letter : Char} {mention : Mention}
    (h : model.mentionShort? letter = some mention) : model.Mentions mention := by
  obtain ⟨place, hfind, hmention⟩ := Option.bind_eq_some_iff.mp h
  obtain ⟨option, hoption, htag⟩ := exists_of_findIdx? hfind
  exact mentions_of_mention? hmention ⟨option, hoption, of_decide_eq_true htag⟩

/-- An argument mentions an option of the model, perhaps with a text. -/
inductive Writes (model : Model) (argument : String) : Mention → Option String → Prop
  | long {name : String} {value : Option String} {mention : Mention}
      (hshape : classify argument = .long name value)
      (hknown : model.mentionLong? name = some mention) : Writes model argument mention value
  | flag {cluster : Cluster} {letter : Char} {rest : String} {mention : Mention}
      (hshape : classify argument = .short cluster) (hmem : (letter, rest) ∈ cluster.options)
      (hknown : model.mentionShort? letter = some mention) (hflag : mention.kind.isFlag = true) :
      Writes model argument mention none
  | short {cluster : Cluster} {letter : Char} {rest : String} {mention : Mention}
      (hshape : classify argument = .short cluster) (hmem : (letter, rest) ∈ cluster.options)
      (hknown : model.mentionShort? letter = some mention) (hflag : mention.kind.isFlag = false) :
      Writes model argument mention (if rest = "" then none else some rest)

lemma Writes.mentions {model : Model} {argument : String} {mention : Mention}
    {inline : Option String} (h : model.Writes argument mention inline) :
    model.Mentions mention := by
  cases h with
  | long _ hknown => exact mentions_of_mentionLong? hknown
  | flag _ _ hknown _ => exact mentions_of_mentionShort? hknown
  | short _ _ hknown _ => exact mentions_of_mentionShort? hknown

end Model

namespace Reader

/-! ### Moves -/

/-- A step within the reading of an argument, with what it brings about. -/
inductive Move (model : Model) (argument : String) : Reader → List Event → Reader → Prop
  /-- An option-like argument arrives, and an option that needs a text gets none. -/
  | abandon {reader : Reader} {mention : Mention}
      (hexpect : reader.expectation = .value mention false)
      (hneeds : mention.kind.isNullableFlag = false) :
      Move model argument reader [.report (.optionValueMissing mention.name.text)]
        (reader.expecting .fresh)
  /-- Whatever was expected is no longer. -/
  | clear {reader : Reader} (hquiet : reader.abandoned = [])
      (hverbatim : reader.expectation ≠ .verbatim) :
      Move model argument reader [] (reader.expecting .fresh)
  | terminate {reader : Reader} (hexpect : reader.expectation = .fresh)
      (hterminator : argument = "--") :
      Move model argument reader [] (reader.expecting .verbatim)
  | malformed {reader : Reader} {value : Option String} (hexpect : reader.expectation = .fresh)
      (hshape : classify argument = .long "" value) :
      Move model argument reader [.report (.unrecognizedArgument argument)] reader
  | unknownLong {reader : Reader} {name : String} {value : Option String}
      (hexpect : reader.expectation = .fresh) (hshape : classify argument = .long name value)
      (hunknown : model.mentionLong? name = none) :
      Move model argument reader [.report (.unknownOption name argument)]
        (reader.expecting (if value.isNone then .orphan else .fresh))
  | unknownShort {reader : Reader} {cluster : Cluster} {letter : Char} {rest : String}
      (hexpect : reader.expectation = .fresh) (hshape : classify argument = .short cluster)
      (hmem : (letter, rest) ∈ cluster.options) (hunknown : model.mentionShort? letter = none) :
      Move model argument reader [.report (.unknownOption (String.singleton letter) argument)]
        (reader.expecting .orphan)
  | occur {reader : Reader} {mention : Mention} {inline : Option String}
      (hexpect : reader.expectation = .fresh) (hwrites : model.Writes argument mention inline) :
      Move model argument reader (reader.occur mention inline).2 (reader.occur mention inline).1
  /-- The supposed value of an unknown option is ignored. -/
  | swallow {reader : Reader} (hexpect : reader.expectation = .orphan)
      (hloose : isLoose argument = true) :
      Move model argument reader [] (reader.expecting .fresh)
  | take {reader : Reader} {mention : Mention} {taken : Bool}
      (hexpect : reader.expectation = .value mention taken) (hloose : isLoose argument = true)
      (htakes : mention.kind.isNullableFlag = false ∨ (Decoder.truth? argument).isSome = true) :
      Move model argument reader (reader.take mention argument).2 (reader.take mention argument).1
  | place {reader : Reader}
      (hexpect : reader.expectation = .verbatim ∨
        reader.expectation = .fresh ∧ isLoose argument = true) :
      Move model argument reader (place model reader argument).2 (place model reader argument).1

/-- Some moves, one after the other. -/
inductive Moves (model : Model) (argument : String) : Reader → List Event → Reader → Prop
  | nil (reader : Reader) : Moves model argument reader [] reader
  | cons {reader middle last : Reader} {events more : List Event}
      (first : Move model argument reader events middle)
      (rest : Moves model argument middle more last) :
      Moves model argument reader (events ++ more) last

variable {model : Model} {argument : String} {reader middle after last : Reader}
  {events more : List Event}

lemma Moves.single (h : Move model argument reader events after) :
    Moves model argument reader events after := by
  simpa using Moves.cons h (.nil after)

lemma Moves.append (first : Moves model argument reader events middle)
    (second : Moves model argument middle more last) :
    Moves model argument reader (events ++ more) last := by
  induction first with
  | nil reader => exact second
  | cons hmove _ ih =>
    rw [List.append_assoc]
    exact .cons hmove (ih second)

/-- Before an option-like argument nothing stays pending. -/
lemma moves_abandoned (model : Model) (argument : String)
    (hverbatim : reader.expectation ≠ .verbatim) :
    Moves model argument reader reader.abandoned (reader.expecting .fresh) := by
  cases hquiet : reader.abandoned with
  | nil => exact .single (.clear hquiet hverbatim)
  | cons event others =>
    rw [abandoned] at hquiet
    split at hquiet
    · next mention hexpect =>
      split_ifs at hquiet with hneeds
      rw [← hquiet]
      exact .single (.abandon hexpect (by simpa using hneeds))
    · simp at hquiet

/-- The letters of a cluster are read by moves. Between two flags what the first one expects is
cleared. -/
lemma moves_cluster {cluster : Cluster} (hshape : classify argument = .short cluster)
    (letters : List (Char × String)) (hsub : ∀ entry ∈ letters, entry ∈ cluster.options)
    (reader : Reader)
    (hexpect : reader.expectation = .fresh ∨
      ∃ mention, mention.kind.isNullableFlag = true ∧ reader.expectation = .value mention false) :
    Moves model argument reader (Reader.cluster model argument reader letters).2
      (Reader.cluster model argument reader letters).1 := by
  induction letters generalizing reader with
  | nil => exact .nil reader
  | cons entry others ih =>
    obtain ⟨letter, rest⟩ := entry
    have hmem := hsub (letter, rest) (by simp)
    have hclear : Moves model argument reader [] (reader.expecting .fresh) := by
      refine .single (.clear ?_ ?_)
      · rcases hexpect with h | ⟨mention, hn, h⟩
        · simp [abandoned, h]
        · simp [abandoned, h, hn]
      · rcases hexpect with h | ⟨mention, -, h⟩ <;> simp [h]
    cases hm : model.mentionShort? letter with
    | none =>
      rw [cluster_cons_of_none hm]
      exact hclear.append (.single (.unknownShort rfl hshape hmem hm))
    | some mention =>
      cases hflag : mention.kind.isFlag with
      | false =>
        rw [cluster_cons_of_not_isFlag hm hflag]
        exact hclear.append (.single (.occur rfl (.short hshape hmem hm hflag)))
      | true =>
        rw [cluster_cons_of_isFlag hm hflag]
        have hoccur := expectation_occur (expectation_expecting reader .fresh) mention none
        have hfirst := hclear.append
          (.single (.occur rfl (Model.Writes.flag hshape hmem hm hflag)))
        refine hfirst.append (ih (fun entry h => hsub entry (by simp [h])) _ ?_)
        rw [hoccur, awaits, if_pos hflag]
        split_ifs with hn
        · exact .inr ⟨mention, hn.1, rfl⟩
        · exact .inl rfl

/-- A positional argument is read by moves. -/
lemma moves_positional (hloose : isLoose argument = true) (hstart : reader.expectation ≠ .start)
    (hverbatim : reader.expectation ≠ .verbatim) :
    Moves model argument reader (positional model reader argument).2
      (positional model reader argument).1 := by
  cases hexpect : reader.expectation with
  | start => exact absurd hexpect hstart
  | verbatim => exact absurd hexpect hverbatim
  | orphan =>
    rw [positional_of_orphan hexpect]
    exact .single (.swallow hexpect hloose)
  | fresh =>
    rw [positional_of_fresh hexpect]
    exact .single (.place (.inr ⟨hexpect, hloose⟩))
  | value mention taken =>
    cases hn : mention.kind.isNullableFlag with
    | false =>
      rw [positional_of_value hexpect (.inl hn)]
      exact .single (.take hexpect hloose (.inl hn))
    | true =>
      cases ht : (Decoder.truth? argument).isSome with
      | true =>
        rw [positional_of_value hexpect (.inr ht)]
        exact .single (.take hexpect hloose (.inr ht))
      | false =>
        rw [positional_of_nullableFlag hexpect hn ht]
        have hquiet : reader.abandoned = [] := by cases taken <;> simp [abandoned, hexpect, hn]
        exact .cons (.clear hquiet hverbatim) (.single (.place (.inr ⟨rfl, hloose⟩)))

/-- Reading an argument is a sequence of moves. -/
theorem moves_read (hstart : reader.expectation ≠ .start) (argument : String) :
    Moves model argument reader (read model reader argument).2
      (read model reader argument).1 := by
  by_cases hverbatim : reader.expectation = .verbatim
  · rw [read_of_verbatim hverbatim]
    exact .single (.place (.inl hverbatim))
  rw [read_of_ne_verbatim hverbatim]
  have hclear := moves_abandoned model argument hverbatim
  cases hshape : classify argument with
  | positional text =>
    obtain rfl := eq_of_classify_eq_positional hshape
    exact moves_positional (by simp [isLoose, hshape, Token.isPositional]) hstart hverbatim
  | terminator =>
    exact hclear.append (.single (.terminate rfl (classify_eq_terminator_iff.mp hshape)))
  | long name value =>
    simp only [readToken]
    split_ifs with hname
    · subst hname
      exact hclear.append (.single (.malformed rfl hshape))
    · cases hm : model.mentionLong? name with
      | none =>
        simp only [long, hm]
        exact hclear.append (.single (.unknownLong rfl hshape hm))
      | some mention =>
        rw [long_of_mentionLong? hm]
        exact hclear.append (.single (.occur rfl (.long hshape hm)))
  | short cluster =>
    exact hclear.append
      (moves_cluster hshape cluster.options (fun _ h => h) (reader.expecting .fresh) (.inl rfl))

/-! ### Runs -/

/-- What every move preserves holds after every run. The property may speak of all events so far. -/
theorem readMany_induction {P : Reader → List Event → Prop}
    (hmove : ∀ argument reader before events after, Move model argument reader events after →
      P reader before → P after (before ++ events))
    (hready : P ready []) (arguments : List String) :
    P (readMany model ready arguments).1 (readMany model ready arguments).2 := by
  have hmoves {argument : String} {reader after : Reader} {events before : List Event}
      (h : Moves model argument reader events after) (hP : P reader before) :
      P after (before ++ events) := by
    induction h generalizing before with
    | nil reader => simpa using hP
    | cons hfirst _ ih =>
      rw [← List.append_assoc]
      exact ih (hmove _ _ _ _ _ hfirst hP)
  suffices h : ∀ (reader : Reader) (before : List Event), reader.expectation ≠ .start →
      P reader before → P (readMany model reader arguments).1
        (before ++ (readMany model reader arguments).2) by
    simpa using h ready [] expectation_ready hready
  induction arguments with
  | nil => exact fun reader before _ hP => by simpa using hP
  | cons argument rest ih =>
    intro reader before hstart hP
    rw [readMany_cons, ← List.append_assoc]
    exact ih _ _ (expectation_read_ne_start model hstart argument)
      (hmoves (moves_read hstart argument) hP)

end Reader

end CommandLine
