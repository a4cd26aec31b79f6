import CommandLine.Proofs.Recorded
import CommandLine.Proofs.Spelling

/-!
# The order of options

Some groups of arguments are closed: an option has what it needs, and no argument after the group
can be its value. Two closed groups of different options change places without any effect but on
the order of errors. For they note two options, in either order, and store into two slots, and from
then on a reader behaves by which options it has seen and not by when it saw them.
-/

namespace CommandLine

/-! ### Readers that saw the same -/

namespace Reader

/-- The readers differ at most in the order in which they saw options. -/
structure Alike (first second : Reader) : Prop where
  expectation : first.expectation = second.expectation
  filled : first.filled = second.filled
  collected : first.collected = second.collected
  seen : ∀ place, place ∈ first.seen ↔ place ∈ second.seen

/-- Whether an option was seen is all that noting it depends on. -/
lemma events_note_congr {first second : Reader} {mention : Mention}
    (h : mention.option ∈ first.seen ↔ mention.option ∈ second.seen) :
    (first.note mention).2 = (second.note mention).2 := by
  by_cases hseen : mention.option ∈ first.seen
  · rw [note, note, if_pos hseen, if_pos (h.mp hseen)]
  · rw [note, note, if_neg hseen, if_neg (mt h.mpr hseen)]

namespace Alike

variable {first second : Reader} {model : Model}

lemma expecting (h : Alike first second) (expectation : Expectation) :
    Alike (first.expecting expectation) (second.expecting expectation) :=
  ⟨rfl, h.filled, h.collected, h.seen⟩

lemma note (h : Alike first second) (mention : Mention) :
    Alike (first.note mention).1 (second.note mention).1 where
  expectation := by simpa using h.expectation
  filled := by simpa using h.filled
  collected := by simpa using h.collected
  seen place := by simp [h.seen place]

/-- What was read leads to readers that saw the same, and brings about the same. -/
def Results (first second : Reader × List Event) : Prop :=
  Alike first.1 second.1 ∧ first.2 = second.2

lemma occur (h : Alike first second) (mention : Mention) (inline : Option String) :
    Results (first.occur mention inline) (second.occur mention inline) := by
  refine ⟨?_, by rw [events_occur, events_occur, events_note_congr (h.seen _)]⟩
  cases inline with
  | none =>
    simp only [Reader.occur, begin]
    split_ifs
    · exact (h.note mention).expecting _
    · exact h.note mention
    · exact (h.note mention).expecting _
  | some text =>
    simp only [Reader.occur, Reader.take]
    split_ifs
    · exact h.note mention
    · exact (h.note mention).expecting _

lemma place (h : Alike first second) (text : String) :
    Results (Reader.place model first text) (Reader.place model second text) := by
  simp only [Reader.place, ← h.filled, ← h.collected]
  split
  · exact ⟨⟨h.expectation, rfl, rfl, h.seen⟩, rfl⟩
  · split_ifs
    · exact ⟨⟨h.expectation, rfl, rfl, h.seen⟩, rfl⟩
    · exact ⟨h, rfl⟩

lemma positional (h : Alike first second) (text : String) :
    Results (Reader.positional model first text) (Reader.positional model second text) := by
  simp only [Reader.positional, ← h.expectation]
  split
  · exact ⟨h.expecting _, rfl⟩
  · split_ifs
    · exact (h.expecting _).place text
    · exact ⟨h.expecting _, rfl⟩
  · exact h.place text

lemma long (h : Alike first second) (argument name : String) (value : Option String) :
    Results (Reader.long model first argument name value)
      (Reader.long model second argument name value) := by
  cases hm : model.mentionLong? name with
  | none =>
    simp only [Reader.long, hm]
    exact ⟨h.expecting _, rfl⟩
  | some mention =>
    rw [long_of_mentionLong? hm, long_of_mentionLong? hm]
    exact h.occur mention value

lemma cluster (h : Alike first second) (argument : String) (letters : List (Char × String)) :
    Results (Reader.cluster model argument first letters)
      (Reader.cluster model argument second letters) := by
  induction letters generalizing first second with
  | nil => exact ⟨h, rfl⟩
  | cons head others ih =>
    obtain ⟨letter, rest⟩ := head
    cases hm : model.mentionShort? letter with
    | none =>
      rw [cluster_cons_of_none hm, cluster_cons_of_none hm]
      exact ⟨h.expecting _, rfl⟩
    | some mention =>
      cases hflag : mention.kind.isFlag with
      | true =>
        obtain ⟨hreader, hevents⟩ := (h.expecting .fresh).occur mention none
        obtain ⟨hlast, hmore⟩ := ih hreader
        rw [cluster_cons_of_isFlag hm hflag, cluster_cons_of_isFlag hm hflag]
        exact ⟨hlast, by simp only [hevents, hmore]⟩
      | false =>
        rw [cluster_cons_of_not_isFlag hm hflag, cluster_cons_of_not_isFlag hm hflag]
        exact (h.expecting .fresh).occur mention _

lemma abandoned (h : Alike first second) : first.abandoned = second.abandoned := by
  rw [Reader.abandoned, Reader.abandoned, h.expectation]

/-- An argument is read in the same way. -/
lemma read (h : Alike first second) (model : Model) (argument : String) :
    Results (Reader.read model first argument) (Reader.read model second argument) := by
  by_cases hverbatim : first.expectation = .verbatim
  · rw [read_of_verbatim hverbatim, read_of_verbatim (h.expectation ▸ hverbatim)]
    exact h.place argument
  · rw [read_of_ne_verbatim hverbatim, read_of_ne_verbatim (h.expectation ▸ hverbatim)]
    have hfresh := h.expecting .fresh
    have prepend {one other : Reader × List Event} (hresults : Results one other) :
        Results (one.1, first.abandoned ++ one.2) (other.1, second.abandoned ++ other.2) :=
      ⟨hresults.1, by rw [h.abandoned, hresults.2]⟩
    cases classify argument with
    | positional text => exact h.positional text
    | terminator => exact ⟨hfresh.expecting .verbatim, congrArg (· ++ []) h.abandoned⟩
    | long name value =>
      simp only [readToken]
      split_ifs
      · exact prepend ⟨hfresh, rfl⟩
      · exact prepend (hfresh.long argument name value)
    | short letters => exact prepend (hfresh.cluster argument letters.options)

/-- So are all arguments that follow. -/
lemma readMany (h : Alike first second) (model : Model) (arguments : List String) :
    Results (Reader.readMany model first arguments) (Reader.readMany model second arguments) := by
  induction arguments generalizing first second with
  | nil => exact ⟨h, rfl⟩
  | cons argument rest ih =>
    obtain ⟨hreader, hevents⟩ := h.read model argument
    obtain ⟨hlast, hmore⟩ := ih hreader
    exact ⟨hlast, by rw [readMany_cons, readMany_cons, hevents, hmore]⟩

lemma finish (h : Alike first second) (model : Model) :
    first.finish model = second.finish model := by
  rw [Reader.finish, Reader.finish, h.abandoned, missingOptions, missingOptions,
    missingParameters, missingParameters, h.filled]
  simp only [h.seen]

end Alike

end Reader

/-! ### Closed groups -/

/-- Arguments that give an option what it needs and leave nothing open: the tag of a flag that
cannot be absent, or a tag with a text, in the same argument or in the next one, if the option is
neither a flag nor a sequence. -/
inductive Mention.Closed (mention : Mention) : List String → Prop
  | flag (hflag : mention.kind.isFlag = true) (hnullable : mention.kind.isNullableFlag = false) :
      Mention.Closed mention [mention.name.head none]
  | inline {text : String} (hflag : mention.kind.isFlag = false)
      (hsequence : mention.kind.isSequence = false)
      (hnonempty : ∀ letter, mention.name = .short letter → text ≠ "") :
      Mention.Closed mention [mention.name.head (some text)]
  | separate {text : String} (hflag : mention.kind.isFlag = false)
      (hsequence : mention.kind.isSequence = false)
      (hshape : classify text = .positional text) :
      Mention.Closed mention [mention.name.head none, text]

namespace Reader

/-! ### Groups -/

lemma expecting_of_fresh {reader : Reader} (hfresh : reader.expectation = .fresh) :
    reader.expecting .fresh = reader := by
  rw [expecting, ← hfresh]

/-- What a closed group brings about where nothing is pending. -/
def settling (reader : Reader) (mention : Mention) (text : String) : List Event :=
  (reader.note mention).2 ++ [mention.store text]

/-- A group stores into the slot of its option only. -/
lemma textsIn_settling (reader : Reader) (mention : Mention) (text : String) {slot : Slot}
    (hslot : slot ≠ .option mention.option) :
    Event.textsIn slot (reader.settling mention text) = [] := by
  have hnote : Event.textsIn slot (reader.note mention).2 = [] := by
    rw [note]
    split <;> rfl
  rw [settling, Event.textsIn_append, hnote, Mention.store, Event.textsIn_store,
    if_neg hslot.symm]
  rfl

section Groups

variable {α : Type} {interface : Interface} {environment : Environment α} {reader : Reader}
  {mention : Mention} {group : List String} (hsound : interface.Sound)
  (hmention : (interface.model environment).Mentions mention)

include hsound hmention

lemma readMany_closed_of_fresh (hclosed : mention.Closed group) :
    ∃ text, ∀ reader : Reader, reader.expectation = .fresh →
      readMany (interface.model environment) reader group =
        ((reader.note mention).1, reader.settling mention text) := by
  have hhead {inline : Option String} (hjoins : mention.Joins inline) (reader : Reader)
      (hfresh : reader.expectation = .fresh) :
      read (interface.model environment) reader (mention.name.head inline) =
        reader.occur mention inline := by
    rw [read_head hsound hmention hjoins (by simp [hfresh]) (by simp [abandoned, hfresh]),
      expecting_of_fresh hfresh]
  have hnoted (reader : Reader) (hfresh : reader.expectation = .fresh) :
      (reader.note mention).1.expecting .fresh = (reader.note mention).1 :=
    expecting_of_fresh (by rw [expectation_note, hfresh])
  cases hclosed with
  | flag hflag hnullable =>
    refine ⟨"true", fun reader hfresh => ?_⟩
    rw [readMany_cons, readMany_nil, hhead mention.joins_none reader hfresh]
    simp [occur, begin, settling, hflag, hnullable]
  | @inline text hflag hsequence hnonempty =>
    have hjoins : mention.Joins (some text) := by
      intro letter hname
      exact ⟨fun hempty => hnonempty letter hname (Option.some.inj hempty), by simp [hflag]⟩
    refine ⟨text, fun reader hfresh => ?_⟩
    rw [readMany_cons, readMany_nil, hhead hjoins reader hfresh]
    simp [occur, take, settling, afterValue, hflag, hsequence, hnoted reader hfresh]
  | @separate text hflag hsequence hshape =>
    have hnullable : mention.kind.isNullableFlag = false := by
      simp [ValueKind.isNullableFlag, hflag]
    have hloose : isLoose text = true := by
      rw [isLoose, hshape]
      rfl
    refine ⟨text, fun reader hfresh => ?_⟩
    have hwaits : (reader.occur mention none).1.expectation = .value mention false := by
      rw [expectation_occur hfresh, awaits, hflag]
      rfl
    rw [readMany_cons, readMany_cons, readMany_nil, hhead mention.joins_none reader hfresh,
      read_of_isLoose _ hloose (by simp [hwaits]), positional_of_value hwaits (.inl hnullable),
      ← hnoted reader hfresh]
    simp [occur, begin, take, settling, afterValue, hflag, hnullable, hsequence, expecting]

/-- A closed group puts an end to whatever is pending, notes its option, stores one text, and leaves
nothing pending. -/
lemma exists_readMany_closed (hclosed : mention.Closed group) :
    ∃ text, ∀ reader : Reader, reader.expectation ≠ .verbatim →
      readMany (interface.model environment) reader group =
        (((reader.expecting .fresh).note mention).1,
          reader.abandoned ++ (reader.expecting .fresh).settling mention text) := by
  obtain ⟨text, htext⟩ := readMany_closed_of_fresh hsound hmention hclosed
  obtain ⟨inline, rest, rfl⟩ : ∃ inline rest, group = mention.name.head inline :: rest := by
    cases hclosed <;> exact ⟨_, _, rfl⟩
  refine ⟨text, fun reader hopen => ?_⟩
  rw [readMany_of_not_isLoose (isLoose_head hsound hmention inline) hopen, htext _ rfl]

end Groups

/-! ### Two groups -/

lemma alike_note_note (first second : Mention) (reader : Reader) :
    Alike ((reader.note first).1.note second).1 ((reader.note second).1.note first).1 where
  expectation := by simp
  filled := by simp
  collected := by simp
  seen place := by
    simp only [mem_seen_note]
    exact or_left_comm

/-- Noting an option does not tell whether another one was seen. -/
lemma settling_note {first second : Mention} (hne : second.option ≠ first.option)
    (reader : Reader) (text : String) :
    (reader.note first).1.settling second text = reader.settling second text := by
  have hnote : ((reader.note first).1.note second).2 = (reader.note second).2 :=
    events_note_congr (by rw [mem_seen_note, or_iff_right hne])
  rw [settling, settling, hnote]

/-- Two closed groups of different options, in either order, bring about the same things in either
order, and lead to readers that saw the same. -/
lemma exists_readMany_groups {α : Type} {interface : Interface} {environment : Environment α}
    (hsound : interface.Sound) {first second : Mention} {one other : List String}
    (hfirst : (interface.model environment).Mentions first)
    (hsecond : (interface.model environment).Mentions second)
    (hne : first.option ≠ second.option) (hone : first.Closed one) (hother : second.Closed other)
    {reader : Reader} (hopen : reader.expectation ≠ .verbatim) :
    ∃ begun ended : List Event,
      (∀ slot, Event.textsIn slot begun = [] ∨ Event.textsIn slot ended = []) ∧
      (readMany (interface.model environment) reader (one ++ other)).2 =
        reader.abandoned ++ (begun ++ ended) ∧
      (readMany (interface.model environment) reader (other ++ one)).2 =
        reader.abandoned ++ (ended ++ begun) ∧
      Alike (readMany (interface.model environment) reader (one ++ other)).1
        (readMany (interface.model environment) reader (other ++ one)).1 := by
  obtain ⟨text, htext⟩ := exists_readMany_closed hsound hfirst hone
  obtain ⟨more, hmore⟩ := exists_readMany_closed hsound hsecond hother
  let cleared := reader.expecting .fresh
  have hnoted (mention : Mention) : (cleared.note mention).1.expectation = .fresh := by
    rw [expectation_note, expectation_expecting]
  have hquiet (mention : Mention) : (cleared.note mention).1.abandoned = [] := by
    rw [abandoned, hnoted]
  have hverbatim (mention : Mention) : (cleared.note mention).1.expectation ≠ .verbatim := by
    rw [hnoted]
    simp
  refine ⟨cleared.settling first text, cleared.settling second more, fun slot => ?_, ?_, ?_, ?_⟩
  · by_cases hslot : slot = .option first.option
    · right
      exact textsIn_settling _ _ _ (by simpa [hslot] using hne)
    · left
      exact textsIn_settling _ _ _ hslot
  · rw [readMany_append, htext reader hopen, hmore _ (hverbatim first), hquiet, List.nil_append,
      expecting_of_fresh (hnoted first), settling_note hne.symm, List.append_assoc]
  · rw [readMany_append, hmore reader hopen, htext _ (hverbatim second), hquiet, List.nil_append,
      expecting_of_fresh (hnoted second), settling_note hne, List.append_assoc]
  · rw [readMany_append, readMany_append, htext reader hopen, hmore reader hopen,
      hmore _ (hverbatim first), htext _ (hverbatim second), expecting_of_fresh (hnoted first),
      expecting_of_fresh (hnoted second)]
    exact alike_note_note first second cleared

end Reader

/-! ### Performing in another order -/

namespace Interface

variable {α : Type} {interface : Interface} {environment : Environment α}

lemma storage_perform_congr {slot : Slot} {so other : Storage α × List ParseError}
    (h : so.1 slot = other.1 slot) (event : Event) :
    ((interface.program environment).perform so event).1 slot =
      ((interface.program environment).perform other event).1 slot := by
  cases event with
  | mention mention => exact h
  | report error => exact h
  | store target text blame =>
    by_cases hslot : slot = target
    · subst hslot
      cases hvalue : interface.decode? environment slot text with
      | none =>
        rw [perform_store_of_decode?_eq_none hvalue, perform_store_of_decode?_eq_none hvalue]
        exact h
      | some value =>
        obtain ⟨base, hbase⟩ := exists_base_of_decode? hvalue
        rw [perform_store_of_decode? hbase hvalue, perform_store_of_decode? hbase hvalue]
        simp only [Storage.set_self, h]
    · rw [storage_perform_of_ne hslot, storage_perform_of_ne hslot, h]

/-- What a slot holds after some events depends on what it held before, and on nothing else. -/
lemma storage_foldl_perform_congr {slot : Slot} (events : List Event)
    {so other : Storage α × List ParseError} (h : so.1 slot = other.1 slot) :
    (events.foldl (interface.program environment).perform so).1 slot =
      (events.foldl (interface.program environment).perform other).1 slot := by
  induction events generalizing so other with
  | nil => exact h
  | cons event rest ih => exact ih (storage_perform_congr h event)

/-- Events that store into no common slot can be performed in either order. -/
lemma storage_foldl_perform_comm {begun ended : List Event}
    (h : ∀ slot, Event.textsIn slot begun = [] ∨ Event.textsIn slot ended = [])
    (so : Storage α × List ParseError) :
    ((begun ++ ended).foldl (interface.program environment).perform so).1 =
      ((ended ++ begun).foldl (interface.program environment).perform so).1 := by
  funext slot
  rw [List.foldl_append, List.foldl_append]
  rcases h slot with hbegun | hended
  · rw [storage_foldl_perform_of_textsIn_eq_nil hbegun]
    exact storage_foldl_perform_congr ended (storage_foldl_perform_of_textsIn_eq_nil hbegun so)
  · rw [storage_foldl_perform_of_textsIn_eq_nil hended]
    exact storage_foldl_perform_congr begun
      (storage_foldl_perform_of_textsIn_eq_nil hended so).symm

end Interface

/-! ### Outcomes -/

/-- The outcomes are the same options, or the same errors in perhaps another order. -/
def Outcome.SameButOrder {α : Type} (first second : Outcome α) : Prop :=
  (∃ found, first = .options found ∧ second = .options found) ∨
    ∃ found others, first = .errors found ∧ second = .errors others ∧
      found.errors.Perm others.errors

lemma distinct_perm {first second : List ParseError} (h : first.Perm second) :
    (distinct first).Perm (distinct second) := by
  rw [List.perm_ext_iff_of_nodup (nodup_distinct first) (nodup_distinct second)]
  intro error
  rw [mem_distinct, mem_distinct, h.mem_iff]

/-- The storage and the errors, in any order, decide the outcome. -/
lemma Program.sameButOrder_of_perm {σ α : Type} {program : Program σ α}
    {first second : List Event}
    (hstorage : (program.performAll first).1 = (program.performAll second).1)
    (herrors : (program.performAll first).2.Perm (program.performAll second).2) :
    (program.conclude first).SameButOrder (program.conclude second) := by
  rcases hfirst : program.performAll first with ⟨stored, errors⟩
  rcases hsecond : program.performAll second with ⟨stored', errors'⟩
  simp only [hfirst, hsecond] at hstorage herrors
  subst hstorage
  simp only [conclude, hfirst, hsecond]
  cases hcollect : ParseErrors.collect errors with
  | none =>
    rw [ParseErrors.collect_eq_none_iff.mp hcollect, List.nil_perm] at herrors
    simp only [ParseErrors.collect_eq_none_iff.mpr herrors]
    cases program.build stored with
    | ok found => exact .inl ⟨found, rfl, rfl⟩
    | error error => exact .inr ⟨_, _, rfl, rfl, .refl _⟩
  | some found =>
    cases hcollect' : ParseErrors.collect errors' with
    | none =>
      rw [ParseErrors.collect_eq_none_iff.mp hcollect', List.perm_nil] at herrors
      simp [ParseErrors.collect_eq_none_iff.mpr herrors] at hcollect
    | some others =>
      refine .inr ⟨found, others, rfl, rfl, ?_⟩
      rw [ParseErrors.errors_of_collect hcollect, ParseErrors.errors_of_collect hcollect']
      exact distinct_perm herrors

namespace Interface

variable {α : Type} {interface : Interface} {environment : Environment α}

/-- Events that store into no common slot change places in an unchanged context. -/
lemma sameButOrder_of_disjoint {begun ended : List Event}
    (h : ∀ slot, Event.textsIn slot begun = [] ∨ Event.textsIn slot ended = [])
    (before after : List Event) :
    ((interface.program environment).conclude (before ++ (begun ++ ended) ++ after)).SameButOrder
      ((interface.program environment).conclude (before ++ (ended ++ begun) ++ after)) := by
  have hsplit (middle : List Event) :
      (interface.program environment).performAll (before ++ middle ++ after) =
        after.foldl (interface.program environment).perform
          (middle.foldl (interface.program environment).perform
            ((interface.program environment).performAll before)) := by
    rw [Program.performAll, List.foldl_append, List.foldl_append]
    rfl
  apply Program.sameButOrder_of_perm
  · rw [hsplit, hsplit]
    funext slot
    exact storage_foldl_perform_congr after (congrFun (storage_foldl_perform_comm h _) slot)
  · rw [Program.performAll, Program.performAll, errors_foldl_perform, errors_foldl_perform]
    have hperm : (before ++ (begun ++ ended)).Perm (before ++ (ended ++ begun)) :=
      List.perm_append_comm.append_left before
    exact ((hperm.append_right after).filterMap _).append_left _

/-- The outcome of a command line by its parts, if it begins with no command. -/
lemma parse_parts {before middle after : List String}
    (start : ∀ argument ∈ (before ++ middle ++ after).head?,
      (interface.model environment).findCommand argument = none) :
    let reader := (Reader.readMany (interface.model environment) .ready before).1
    let between := (Reader.readMany (interface.model environment) reader middle).1
    (interface.program environment).parse (before ++ middle ++ after) =
      (interface.program environment).conclude
        ((Reader.readMany (interface.model environment) .ready before).2 ++
          (Reader.readMany (interface.model environment) reader middle).2 ++
          ((Reader.readMany (interface.model environment) between after).2 ++
            (Reader.readMany (interface.model environment) between after).1.finish
              (interface.model environment))) := by
  intro reader between
  rw [Program.parse_eq_conclude_readMany start, Reader.readMany_append, Reader.readMany_append]
  simp only [List.append_assoc]
  rfl

/-- In a program of an accepted declaration, two closed groups of different options can change
places: both command lines come to the same options, or both come to the same errors, in perhaps
another order. This holds whatever stands before (but a `--`) and after the groups, whatever values
are refused, and whichever options were given before. -/
theorem parse_closed_comm {declaration : Declaration}
    (accepted : Interface.ofDeclaration declaration = .ok interface) {first second : Mention}
    (hfirst : (interface.model environment).Mentions first)
    (hsecond : (interface.model environment).Mentions second)
    (hne : first.option ≠ second.option) {one other : List String} (hone : first.Closed one)
    (hother : second.Closed other) {before after : List String} (hopen : "--" ∉ before) :
    let program := interface.program environment
    let forth := before ++ one ++ other ++ after
    let back := before ++ other ++ one ++ after
    (∀ argument ∈ forth.head?, program.model.findCommand argument = none) →
    (∀ argument ∈ back.head?, program.model.findCommand argument = none) →
    (program.parse forth).SameButOrder (program.parse back) := by
  intro program forth back startForth startBack
  have hforth : forth = before ++ (one ++ other) ++ after := by simp [forth]
  have hback : back = before ++ (other ++ one) ++ after := by simp [back]
  rw [hforth] at startForth ⊢
  rw [hback] at startBack ⊢
  let reader := (Reader.readMany (interface.model environment) .ready before).1
  have hverbatim : reader.expectation ≠ .verbatim :=
    Reader.expectation_readMany_ne_verbatim (interface.model environment) hopen
  obtain ⟨begun, ended, hdisjoint, hbegun, hended, halike⟩ :=
    Reader.exists_readMany_groups (sound_of_ofDeclaration accepted) hfirst hsecond hne hone hother
      hverbatim
  obtain ⟨hlast, hrest⟩ := halike.readMany (interface.model environment) after
  rw [parse_parts startForth, parse_parts startBack, hbegun, hended, hrest, hlast.finish,
    ← List.append_assoc _ reader.abandoned, ← List.append_assoc _ reader.abandoned]
  exact sameButOrder_of_disjoint hdisjoint _ _

/-- A repeated flag and a refused value of a repeated option change places behind a value that is
awaited, and so do their errors. -/
theorem closed_comm_archive :
    let verbose : Mention := ⟨0, ⟨.single, .flag⟩, .short 'v'⟩
    let level : Mention := ⟨2, ⟨.single, .integer 32 true⟩, .long "level"⟩
    let forth := ["-v", "--level"] ++ ["-v"] ++ ["--level", "high"] ++ ["in"]
    let back := ["-v", "--level"] ++ ["--level", "high"] ++ ["-v"] ++ ["in"]
    Interface.ofDeclaration Sample.archive = .ok Sample.archiveInterface ∧
      Sample.archiveProgram.model.Mentions verbose ∧ Sample.archiveProgram.model.Mentions level ∧
      verbose.option ≠ level.option ∧ verbose.Closed ["-v"] ∧ level.Closed ["--level", "high"] ∧
      (Sample.archiveProgram.parse forth).SameButOrder (Sample.archiveProgram.parse back) ∧
      (Sample.archiveProgram.parse forth).reported =
        [.optionValueMissing "level", .duplicateOption "v", .duplicateOption "level",
          .badOptionValue "high" "level"] ∧
      (Sample.archiveProgram.parse back).reported =
        [.optionValueMissing "level", .duplicateOption "level", .badOptionValue "high" "level",
          .duplicateOption "v"] := by
  intro verbose level forth back
  have hverbose : (Sample.archiveInterface.model Sample.archiveEnvironment).Mentions verbose :=
    ⟨⟨_, rfl, rfl⟩, rfl⟩
  have hlevel : (Sample.archiveInterface.model Sample.archiveEnvironment).Mentions level :=
    ⟨⟨_, rfl, rfl⟩, rfl⟩
  have hflag : verbose.Closed ["-v"] := .flag rfl rfl
  have htext : level.Closed ["--level", "high"] := .separate rfl rfl (by decide)
  have hopen : "--" ∉ ["-v", "--level"] := by decide
  exact ⟨Sample.ofDeclaration_archive, hverbose, hlevel, by decide, hflag, htext,
    parse_closed_comm Sample.ofDeclaration_archive hverbose hlevel (by decide) hflag htext hopen
      (by decide) (by decide), by decide, by decide⟩

end Interface

end CommandLine
