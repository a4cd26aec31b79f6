import CommandLine.Proofs.Given
import CommandLine.Proofs.Recorded

/-!
# Consistency of the reader

After any arguments the state of the reader agrees with the events so far and stays within the
model. What it expects next is an option that was mentioned, the options that count as seen are
those that were mentioned, and its counters say which parameters were given and how many texts were
collected. Every slot and every option that it speaks of is one of the model.
-/

namespace CommandLine

/-! ### Positional stores -/

namespace Event

/-- The place of the parameter that an event gives a text. -/
def parameter? : Event → Option Nat
  | .store (.parameter place) _ _ => some place
  | .store (.option _) .. | .store .remaining .. | .mention _ | .report _ => none

/-- The blame for a text that an event gives to the collector. -/
def collector? : Event → Option ParseError
  | .store .remaining _ blame => some blame
  | .store (.option _) .. | .store (.parameter _) .. | .mention _ | .report _ => none

/-- The event concerns an option of the model, or it reports an error. -/
inductive Concerns (model : Model) : Event → Prop
  | mention {mention : Mention} (h : model.Mentions mention) : Concerns model (.mention mention)
  | store {mention : Mention} (h : model.Mentions mention) (text : String) :
      Concerns model (mention.store text)
  | report (error : ParseError) : Concerns model (.report error)

variable {model : Model} {event : Event}

lemma Concerns.parameter? (h : event.Concerns model) : event.parameter? = none := by
  cases h <;> rfl

lemma Concerns.collector? (h : event.Concerns model) : event.collector? = none := by
  cases h <;> rfl

lemma Concerns.textsIn_remaining (h : event.Concerns model) :
    textsIn .remaining [event] = [] := by
  cases h with
  | mention => rfl
  | store h text => simp [Mention.store]
  | report => rfl

end Event

lemma Model.Mentions.lt {model : Model} {mention : Mention} (h : model.Mentions mention) :
    mention.option < model.options.length := by
  obtain ⟨option, hoption, -⟩ := h.tagged
  exact (List.getElem?_eq_some_iff.mp hoption).1

namespace Reader

/-! ### Invariant -/

/-- The counters of the reader agree with the texts that events give to parameters and to the
collector. -/
structure Counts (model : Model) (reader : Reader) (events : List Event) : Prop where
  filled : reader.filled ≤ model.parameters.length
  /-- Every parameter before the next one was given one text, in order, and no other one was. -/
  parameters : events.filterMap Event.parameter? = List.range reader.filled
  /-- The texts of the collector are numbered in order. -/
  collector : events.filterMap Event.collector? =
    (Event.textsIn .remaining events).zipIdx.map fun entry => .badRemainingValue entry.1 entry.2
  collected : (Event.textsIn .remaining events).length = reader.collected
  /-- Texts are collected only behind the last parameter. -/
  last : 0 < reader.collected →
    reader.filled = model.parameters.length ∧ model.remaining.isSome = true

/-- The state of the reader agrees with the events so far and stays within the model. -/
structure Consistent (model : Model) (reader : Reader) (events : List Event) : Prop
    extends Counts model reader events where
  /-- An option that takes values was mentioned by one of its tags. Of the flags only one that can
  be absent takes a value, and only a sequence takes further ones. -/
  awaited : ∀ mention taken, reader.expectation = .value mention taken →
    model.Mentions mention ∧ mention.option ∈ reader.seen ∧
    (mention.kind.isFlag = true → mention.kind.isNullableFlag = true) ∧
    (taken = true → mention.kind.isSequence = true)
  seen : ∀ place, place ∈ reader.seen ↔
    ∃ mention, .mention mention ∈ events ∧ mention.option = place
  mentions : ∀ mention, .mention mention ∈ events → model.Mentions mention
  slots : ∀ slot text blame, .store slot text blame ∈ events → model.Has slot

variable {model : Model} {argument : String} {reader after : Reader} {events more : List Event}

/-! ### Moves and options -/

lemma value_of_awaits {mention other : Mention} {inline : Option String} {taken : Bool}
    (h : awaits mention inline = .value other taken) :
    other = mention ∧ (mention.kind.isFlag = true → mention.kind.isNullableFlag = true) ∧
      (taken = true → mention.kind.isSequence = true) := by
  refine ⟨eq_of_awaits h, ?_, ?_⟩
  · intro hflag
    rw [awaits, if_pos hflag] at h
    split_ifs at h with hnullable
    exact hnullable.1
  · rintro rfl
    rw [awaits, afterValue] at h
    split_ifs at h with hflag hnullable hinline hsequence
    · simp at h
    · simp at h
    · exact hsequence

lemma value_of_afterValue {mention other : Mention} {taken : Bool}
    (h : afterValue mention = .value other taken) :
    other = mention ∧ mention.kind.isSequence = true := by
  rw [afterValue] at h
  split_ifs at h with hsequence
  exact ⟨(Expectation.value.inj h).1.symm, hsequence⟩

lemma concerns_of_mem_occur {mention : Mention} {inline : Option String} {event : Event}
    (hmentions : model.Mentions mention) (h : event ∈ (reader.occur mention inline).2) :
    event.Concerns model := by
  rw [events_occur, List.mem_append] at h
  rcases h with hnote | himmediate
  · rw [note] at hnote
    split_ifs at hnote
    · rcases List.mem_cons.mp hnote with rfl | hreport
      · exact .mention hmentions
      · rw [List.mem_singleton.mp hreport]
        exact .report _
    · rw [List.mem_singleton.mp hnote]
      exact .mention hmentions
  · unfold Mention.immediate at himmediate
    split at himmediate
    · split at himmediate
      · rw [List.mem_singleton.mp himmediate]
        exact .report _
      · rw [List.mem_singleton.mp himmediate]
        exact .store hmentions "true"
    · obtain ⟨text, -, rfl⟩ := List.mem_map.mp himmediate
      exact .store hmentions text

lemma mention_mem_occur {mention other : Mention} {inline : Option String} :
    .mention other ∈ (reader.occur mention inline).2 ↔ other = mention := by
  have himmediate : .mention other ∉ mention.immediate inline := by
    unfold Mention.immediate
    split
    · split <;> simp [Mention.store]
    · simp [Mention.store]
  rw [events_occur, List.mem_append, or_iff_left himmediate, note]
  split_ifs <;> simp

/-- A move places its argument, or it leaves the counters as they are and all that it brings about
concerns options. -/
lemma Move.counters (hmove : Move model argument reader more after)
    (hawaited : ∀ mention taken, reader.expectation = .value mention taken →
      model.Mentions mention) :
    (after = (Reader.place model reader argument).1 ∧
        more = (Reader.place model reader argument).2) ∨
      after.filled = reader.filled ∧ after.collected = reader.collected ∧
        ∀ event ∈ more, event.Concerns model := by
  cases hmove with
  | place => exact .inl ⟨rfl, rfl⟩
  | occur _ hwrites =>
    right
    exact ⟨filled_occur .., collected_occur .., fun _ => concerns_of_mem_occur hwrites.mentions⟩
  | take hexpect =>
    right
    refine ⟨rfl, rfl, fun event hevent => ?_⟩
    rw [Reader.take, List.mem_singleton] at hevent
    rw [hevent]
    exact .store (hawaited _ _ hexpect) argument
  | abandon | malformed | unknownLong | unknownShort =>
    right
    refine ⟨rfl, rfl, fun event hevent => ?_⟩
    rw [List.mem_singleton.mp hevent]
    exact .report _
  | clear | terminate | swallow => exact .inr ⟨rfl, rfl, by simp⟩

lemma mention_not_mem_place (mention : Mention) :
    .mention mention ∉ (Reader.place model reader argument).2 := by
  rw [Reader.place]
  split
  · simp
  · split_ifs <;> simp

lemma has_of_mem_place {slot : Slot} {text : String} {blame : ParseError}
    (h : .store slot text blame ∈ (Reader.place model reader argument).2) : model.Has slot := by
  rw [Reader.place] at h
  split at h
  · next hparameter =>
    obtain ⟨rfl, -, -⟩ := Event.store.inj (List.mem_singleton.mp h)
    exact (List.getElem?_eq_some_iff.mp hparameter).1
  · split_ifs at h with hremaining
    · obtain ⟨rfl, -, -⟩ := Event.store.inj (List.mem_singleton.mp h)
      exact hremaining
    · simp at h

/-- A move mentions an option and marks it as seen, or it does neither. -/
lemma Move.seen (hmove : Move model argument reader more after) (place : Nat) :
    place ∈ after.seen ↔
      place ∈ reader.seen ∨ ∃ mention, .mention mention ∈ more ∧ mention.option = place := by
  cases hmove with
  | occur =>
    simp only [mem_seen_occur, mention_mem_occur, exists_eq_left]
    rw [or_comm, eq_comm]
  | place => simp [mention_not_mem_place]
  | take => simp [Reader.take, Reader.expecting, Mention.store]
  | abandon | malformed | unknownLong | unknownShort => simp [Reader.expecting]
  | clear | terminate | swallow => simp [Reader.expecting]

/-! ### Positional arguments -/

namespace Counts

lemma unread (model : Model) (expectation : Expectation) :
    Counts model (initial.expecting expectation) [] := by
  constructor <;> simp [Reader.initial, Reader.expecting]

lemma append (h : Counts model reader events) (hfilled : after.filled = reader.filled)
    (hcollected : after.collected = reader.collected)
    (hmore : ∀ event ∈ more, event.Concerns model) : Counts model after (events ++ more) := by
  have hparameter : more.filterMap Event.parameter? = [] :=
    List.filterMap_eq_nil_iff.mpr fun event hevent => (hmore event hevent).parameter?
  have hcollector : more.filterMap Event.collector? = [] :=
    List.filterMap_eq_nil_iff.mpr fun event hevent => (hmore event hevent).collector?
  have htexts := Event.textsIn_eq_nil fun event hevent => (hmore event hevent).textsIn_remaining
  constructor
  · rw [hfilled]
    exact h.filled
  · rw [hfilled, List.filterMap_append, hparameter, List.append_nil]
    exact h.parameters
  · rw [List.filterMap_append, hcollector, Event.textsIn_append, htexts, List.append_nil,
      List.append_nil]
    exact h.collector
  · rw [hcollected, Event.textsIn_append, htexts, List.append_nil]
    exact h.collected
  · rw [hfilled, hcollected]
    exact h.last

/-- A placed argument goes to the next parameter, or is the next text of the collector, or is
reported. -/
lemma place (h : Counts model reader events) (text : String) :
    Counts model (Reader.place model reader text).1
      (events ++ (Reader.place model reader text).2) := by
  rw [Reader.place]
  cases hparameter : model.parameters[reader.filled]? with
  | some parameter =>
    have hlt := (List.getElem?_eq_some_iff.mp hparameter).1
    constructor
    · exact hlt
    · rw [List.filterMap_append, h.parameters, List.range_succ]
      rfl
    · rw [List.filterMap_append, List.filterMap_cons_none rfl]
      simpa using h.collector
    · simpa using h.collected
    · intro hpositive
      have := (h.last hpositive).1
      omega
  | none =>
    have hfull : reader.filled = model.parameters.length :=
      Nat.le_antisymm h.filled (List.getElem?_eq_none_iff.mp hparameter)
    dsimp only
    split_ifs with hremaining
    · constructor
      · exact h.filled
      · rw [List.filterMap_append, List.filterMap_cons_none rfl]
        simpa using h.parameters
      · rw [List.filterMap_append, h.collector]
        simp [Event.collector?, List.zipIdx_append, h.collected]
      · simp [h.collected]
      · exact fun _ => ⟨hfull, hremaining⟩
    · exact h.append rfl rfl fun event hevent => List.mem_singleton.mp hevent ▸ .report _

end Counts

/-! ### Runs -/

namespace Consistent

lemma unread (model : Model) (expectation : Expectation)
    (hvalue : ∀ mention taken, expectation ≠ .value mention taken) :
    Consistent model (initial.expecting expectation) [] where
  toCounts := .unread model expectation
  awaited := fun mention taken hexpect => absurd hexpect (hvalue mention taken)
  seen := by simp [Reader.initial, Reader.expecting]
  mentions := by simp
  slots := by simp

lemma awaited_move (h : Consistent model reader events)
    (hmove : Move model argument reader more after) {mention : Mention} {taken : Bool}
    (hexpect : after.expectation = .value mention taken) :
    model.Mentions mention ∧ mention.option ∈ after.seen ∧
      (mention.kind.isFlag = true → mention.kind.isNullableFlag = true) ∧
      (taken = true → mention.kind.isSequence = true) := by
  cases hmove with
  | abandon | clear | terminate | unknownShort | swallow => simp at hexpect
  | unknownLong =>
    rw [expectation_expecting] at hexpect
    split_ifs at hexpect
  | malformed hfresh => simp [hfresh] at hexpect
  | occur hfresh hwrites =>
    rw [expectation_occur hfresh] at hexpect
    obtain ⟨rfl, hkind⟩ := value_of_awaits hexpect
    exact ⟨hwrites.mentions, mem_seen_occur.mpr (.inl rfl), hkind⟩
  | take hbefore =>
    obtain ⟨rfl, hsequence⟩ := value_of_afterValue hexpect
    obtain ⟨hmentions, hseen, hflag, -⟩ := h.awaited _ _ hbefore
    exact ⟨hmentions, hseen, hflag, fun _ => hsequence⟩
  | place hbefore =>
    rw [expectation_place] at hexpect
    rcases hbefore with hbefore | ⟨hbefore, -⟩ <;> simp [hbefore] at hexpect

/-- Every move keeps the invariant. -/
lemma move (h : Consistent model reader events) (hmove : Move model argument reader more after) :
    Consistent model after (events ++ more) := by
  have hcounters := hmove.counters fun mention taken hexpect => (h.awaited mention taken hexpect).1
  have hnew : (∀ mention, .mention mention ∈ more → model.Mentions mention) ∧
      ∀ slot text blame, .store slot text blame ∈ more → model.Has slot := by
    rcases hcounters with ⟨-, rfl⟩ | ⟨-, -, hmore⟩
    · exact ⟨fun mention hmention => absurd hmention (mention_not_mem_place mention),
        fun slot text blame => has_of_mem_place⟩
    · refine ⟨fun mention hmention => ?_, fun slot text blame hstore => ?_⟩
      · cases hmore _ hmention with
        | mention hmentions => exact hmentions
      · cases hmore _ hstore with
        | store hmentions => exact hmentions.lt
  constructor
  · rcases hcounters with ⟨rfl, rfl⟩ | ⟨hfilled, hcollected, hmore⟩
    · exact h.toCounts.place argument
    · exact h.toCounts.append hfilled hcollected hmore
  · exact fun mention taken => h.awaited_move hmove
  · intro place
    rw [hmove.seen, h.seen]
    simp only [List.mem_append, or_and_right, exists_or]
  · intro mention hmention
    exact (List.mem_append.mp hmention).elim (h.mentions mention) (hnew.1 mention)
  · intro slot text blame hstore
    exact (List.mem_append.mp hstore).elim (h.slots slot text blame) (hnew.2 slot text blame)

end Consistent

/-- The invariant holds after all arguments. -/
theorem consistent_of_readAll {arguments : List String}
    (run : readAll model initial arguments = .ok (reader, events)) :
    Consistent model reader events := by
  rcases eq_of_readAll_initial run with ⟨houtcome, -⟩ | houtcome
  · obtain ⟨rfl, rfl⟩ := Prod.mk.inj houtcome
    exact .unread model .start (by simp)
  · obtain ⟨rfl, rfl⟩ := Prod.mk.inj houtcome
    exact readMany_induction (fun _ _ _ _ _ hmove h => h.move hmove)
      (.unread model .fresh (by simp)) arguments

/-- Commands are looked for exactly as long as nothing was read. -/
lemma expectation_eq_start_iff {arguments : List String}
    (run : readAll model initial arguments = .ok (reader, events)) :
    reader.expectation = .start ↔ arguments = [] := by
  cases arguments with
  | nil =>
    obtain ⟨rfl, -⟩ := Prod.mk.inj (Except.ok.inj run)
    exact ⟨fun _ => rfl, fun _ => rfl⟩
  | cons argument rest =>
    rw [readAll_initial_cons (select_of_readAll run)] at run
    have hstart := expectation_readMany_ready model (argument :: rest)
    rw [Except.ok.inj run] at hstart
    simpa using hstart

end Reader

/-! ### Looking up -/

namespace Model

variable {model : Model}

lemma exists_mention? (name : OptionName) {place : Nat} (h : place < model.options.length) :
    ∃ mention, model.mention? name place = some mention ∧ mention.option = place :=
  ⟨⟨place, model.options[place].kind, name⟩, by simp [mention?, h], rfl⟩

lemma exists_mentionLong? {name : String} {place : Nat} (h : model.findLong name = some place) :
    ∃ mention, model.mentionLong? name = some mention ∧ mention.option = place := by
  rw [mentionLong?, h]
  exact exists_mention? _ (findLong_lt h)

lemma exists_mentionShort? {letter : Char} {place : Nat} (h : model.findShort letter = some place) :
    ∃ mention, model.mentionShort? letter = some mention ∧ mention.option = place := by
  rw [mentionShort?, h]
  exact exists_mention? _ (findShort_lt h)

end Model

namespace Interface

variable {α : Type}

lemma exists_base_of_has {interface : Interface} {environment : Environment α} {slot : Slot}
    (h : (interface.model environment).Has slot) : ∃ base, interface.base? slot = some base := by
  apply Option.isSome_iff_exists.mp
  cases slot <;> simpa [Model.Has, model, base?] using h

/-! ### Prefixes -/

/-- After every beginning of a command line either its first argument has selected a command, or all
of it was read. Then the state of the reader agrees with what happened so far and stays within the
interface, the recorded errors are all different, and whatever comes afterwards neither ends what is
verbatim nor takes an error back. An option that is looked up and found is there. -/
theorem consistent_of_prefix (interface : Interface) (environment : Environment α)
    (before : List String) :
    let program := interface.program environment
    (∀ name place, program.model.findLong name = some place →
      ∃ mention, program.model.mentionLong? name = some mention ∧ mention.option = place) ∧
    (∀ letter place, program.model.findShort letter = some place →
      ∃ mention, program.model.mentionShort? letter = some mention ∧ mention.option = place) ∧
    ((∃ argument command, before.head? = some argument ∧
        program.model.select argument = some command ∧
        ∀ rest, program.parse (before ++ rest) = .command command) ∨
      ∃ reader events, Reader.readAll program.model .initial before = .ok (reader, events) ∧
        (reader.expectation = .start ↔ before = []) ∧
        reader.Consistent program.model events ∧
        (∀ place ∈ reader.seen, place < program.model.options.length) ∧
        (∀ slot text blame, .store slot text blame ∈ events →
          ∃ base, interface.base? slot = some base) ∧
        (program.after events).2.Nodup ∧
        ∀ rest, before ≠ [] → ∃ last more,
          Reader.readAll program.model .initial (before ++ rest) = .ok (last, events ++ more) ∧
          (reader.expectation = .verbatim → last.expectation = .verbatim) ∧
          (program.after events).2 <+: (program.parse (before ++ rest)).reported) := by
  intro program
  refine ⟨fun _ _ => Model.exists_mentionLong?, fun _ _ => Model.exists_mentionShort?, ?_⟩
  cases hread : Reader.readAll program.model .initial before with
  | error command =>
    left
    obtain ⟨argument, others, rfl, hselect⟩ := Reader.select_of_readAll_eq_error hread
    refine ⟨argument, command, rfl, hselect, fun rest => ?_⟩
    have hall := Reader.readAll_of_select hselect (others ++ rest)
    rw [Program.parse, List.cons_append, hall]
  | ok outcome =>
    right
    obtain ⟨reader, events⟩ := outcome
    have hconsistent := Reader.consistent_of_readAll hread
    refine ⟨reader, events, rfl, Reader.expectation_eq_start_iff hread, hconsistent, ?_, ?_,
      program.nodup_after events, fun rest hbefore => ?_⟩
    · intro place hseen
      obtain ⟨mention, hmention, rfl⟩ := (hconsistent.seen place).mp hseen
      exact (hconsistent.mentions mention hmention).lt
    · intro slot text blame hstore
      exact exists_base_of_has (hconsistent.slots slot text blame hstore)
    · have hstart : reader.expectation ≠ .start :=
        mt (Reader.expectation_eq_start_iff hread).mp hbefore
      have hall := Reader.readAll_append hread (Reader.readAll_eq_readMany hstart rest)
      refine ⟨_, _, hall,
        fun hverbatim => Reader.expectation_readMany_of_verbatim hverbatim rest, ?_⟩
      rw [reported_parse hall, List.append_assoc]
      exact program.prefix_after events _

end Interface

end CommandLine
