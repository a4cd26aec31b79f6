import CommandLine.Proofs.Layout
import CommandLine.Proofs.Run
import CommandLine.Sample.Archive

/-!
# One pass and looking ahead

The reader passes once over the arguments, with an expectation as its memory. It brings about
exactly the events of the layout of the command line, in the same order, although the layout is
found by looking ahead to the end of every clause.

The simulation has two parts. The numbers that the reader keeps match the tally of the pieces. Its
expectation stands for the last piece of a head, and what the reader does with the arguments that
follow is what that piece takes.
-/

namespace CommandLine

/-! ### Waiting for followers -/

/-- What positional arguments bring about for whatever is waiting for them, and those that are left.
If there are none, an option that still needs a text gets none. -/
def Expectation.fed (expectation : Expectation) (texts : List String) : List Event × List String :=
  match expectation with
  | .orphan => ([], texts.tail)
  | .value mention taken =>
    if mention.kind.isNullableFlag then
      match texts with
      | [] => ([], [])
      | text :: rest =>
        if (Decoder.truth? text).isSome then ([mention.store text], rest) else ([], text :: rest)
    else
      match texts with
      | [] => (if taken then [] else [.report (.optionValueMissing mention.name.text)], [])
      | text :: rest =>
        if mention.kind.isSequence then ((text :: rest).map mention.store, [])
        else ([mention.store text], rest)
  | .start | .verbatim | .fresh => ([], texts)

@[simp] lemma Expectation.fed_fresh (texts : List String) :
    Expectation.fresh.fed texts = ([], texts) := rfl

@[simp] lemma Expectation.fed_orphan (texts : List String) :
    Expectation.orphan.fed texts = ([], texts.tail) := rfl

lemma Expectation.fed_nullableFlag {mention : Mention} (h : mention.kind.isNullableFlag = true)
    (taken : Bool) (text : String) (rest : List String) :
    (Expectation.value mention taken).fed (text :: rest) =
      if (Decoder.truth? text).isSome then ([mention.store text], rest)
      else ([], text :: rest) := by
  simp [fed, h]

lemma Expectation.fed_sequence {mention : Mention} (h : mention.kind.isSequence = true)
    (text : String) (rest : List String) (taken : Bool) :
    (Expectation.value mention taken).fed (text :: rest) =
      ((text :: rest).map mention.store, []) := by
  have hnullable : mention.kind.isNullableFlag = false := by
    cases hn : mention.kind.isNullableFlag with
    | false => rfl
    | true => simp [ValueKind.not_isSequence_of_isNullableFlag hn] at h
  simp [fed, h, hnullable]

lemma Expectation.fed_scalar {mention : Mention} (hnullable : mention.kind.isNullableFlag = false)
    (hsequence : mention.kind.isSequence = false) (text : String) (rest : List String)
    (taken : Bool) :
    (Expectation.value mention taken).fed (text :: rest) = ([mention.store text], rest) := by
  simp [fed, hnullable, hsequence]

lemma Expectation.fed_value_nil (mention : Mention) (taken : Bool) :
    (Expectation.value mention taken).fed [] =
      (if mention.kind.isNullableFlag = true ∨ taken = true then []
        else [.report (.optionValueMissing mention.name.text)], []) := by
  cases hn : mention.kind.isNullableFlag <;> cases taken <;> simp [fed, hn]

lemma Reader.fed_nil (reader : Reader) : reader.expectation.fed [] = (reader.abandoned, []) := by
  rw [Reader.abandoned]
  cases reader.expectation with
  | value mention taken => cases taken <;> simp [Expectation.fed_value_nil]
  | start => rfl
  | verbatim => rfl
  | orphan => rfl
  | fresh => rfl

/-- What a piece takes of its followers is what its expectation is fed. -/
lemma Mention.settle_take (mention : Mention) (inline : Option String) (followers : List String) :
    let number := (Piece.option mention inline []).appetite followers
    mention.settle inline (followers.take number) =
        mention.immediate inline ++ ((Reader.awaits mention inline).fed followers).1 ∧
      followers.drop number = ((Reader.awaits mention inline).fed followers).2 := by
  cases hf : mention.kind.isFlag with
  | true =>
    cases hn : mention.kind.isNullableFlag with
    | false => cases inline <;> simp [settle, immediate, Piece.appetite, Reader.awaits, hf, hn]
    | true =>
      cases inline with
      | some text => simp [settle, immediate, Piece.appetite, Reader.awaits, hf]
      | none =>
        cases followers with
        | nil => simp [settle, immediate, Piece.appetite, Reader.awaits, hf, hn,
            Expectation.fed_value_nil]
        | cons text rest =>
          cases ht : (Decoder.truth? text).isSome <;>
            simp [settle, immediate, Piece.appetite, Reader.awaits, hf, hn, ht,
              Expectation.fed_nullableFlag]
  | false =>
    have hn : mention.kind.isNullableFlag = false := by simp [ValueKind.isNullableFlag, hf]
    cases hs : mention.kind.isSequence with
    | true =>
      cases inline <;> cases followers <;>
        simp [settle, immediate, Piece.appetite, Reader.awaits, Reader.afterValue, hf, hn, hs,
          Expectation.fed_value_nil, Expectation.fed_sequence]
    | false =>
      cases inline <;> cases followers <;>
        simp [settle, immediate, Piece.appetite, Reader.awaits, Reader.afterValue, hf, hn, hs,
          Expectation.fed_value_nil, Expectation.fed_scalar]

/-! ### The numbers of the reader -/

/-- The reader knows what the pieces so far come to. -/
structure Reader.Matches (reader : Reader) (model : Model) (tally : Tally) : Prop where
  seen : ∀ place, place ∈ reader.seen ↔ place ∈ tally.mentioned
  filled : reader.filled = min tally.positional model.parameters.length
  collected : model.remaining.isSome = true →
    reader.collected = tally.positional - model.parameters.length

namespace Reader.Matches

variable {model : Model} {reader : Reader} {tally : Tally}

lemma ready (model : Model) : Reader.ready.Matches model .zero :=
  ⟨fun _ => Iff.rfl, by simp [Reader.ready, Reader.initial, Reader.expecting, Tally.zero],
    fun _ => by simp [Reader.ready, Reader.initial, Reader.expecting, Tally.zero]⟩

lemma expecting (h : reader.Matches model tally) (expectation : Expectation) :
    (reader.expecting expectation).Matches model tally :=
  ⟨h.seen, h.filled, h.collected⟩

lemma note (h : reader.Matches model tally) (mention : Mention) (inline : Option String)
    (taken : List String) :
    (reader.note mention).1.Matches model (tally.after (.option mention inline taken)) := by
  constructor
  · intro place
    rw [mem_seen_note, h.seen]
    exact List.mem_cons.symm
  · rw [filled_note]
    exact h.filled
  · rw [collected_note]
    exact h.collected

lemma events_note (h : reader.Matches model tally) (mention : Mention) :
    (reader.note mention).2 = tally.noted mention := by
  rw [Reader.note, Tally.noted]
  simp only [h.seen]
  split <;> rfl

lemma occur (h : reader.Matches model tally) (mention : Mention) (inline : Option String)
    (taken : List String) :
    (reader.occur mention inline).1.Matches model (tally.after (.option mention inline taken)) := by
  obtain ⟨expectation, hoccur⟩ := reader.exists_occur mention inline
  rw [hoccur]
  exact (h.note mention inline taken).expecting expectation

/-- A positional argument that nothing is waiting for goes where its number says. -/
lemma place (h : reader.Matches model tally) (text : String) :
    (Reader.place model reader text).1.Matches model (tally.after (.positional text)) ∧
      (Reader.place model reader text).2 = [model.placed tally.positional text] := by
  have hfilled := h.filled
  rw [Reader.place, Model.placed]
  by_cases hlt : tally.positional < model.parameters.length
  · have heq : reader.filled = tally.positional := by omega
    rw [heq, List.getElem?_eq_getElem hlt]
    refine ⟨⟨h.seen, ?_, fun hr => ?_⟩, rfl⟩
    · simp only [Tally.after]
      omega
    · have := h.collected hr
      simp only [Tally.after]
      omega
  · have hnone : model.parameters[reader.filled]? = none := List.getElem?_eq_none (by omega)
    have hnone' : model.parameters[tally.positional]? = none := List.getElem?_eq_none (by omega)
    rw [hnone, hnone']
    cases hr : model.remaining.isSome with
    | true =>
      have hcollected := h.collected hr
      refine ⟨⟨h.seen, ?_, fun _ => ?_⟩, ?_⟩
      · simp only [Tally.after, if_true]
        omega
      · simp only [Tally.after, if_true]
        omega
      · simp [hcollected]
    | false =>
      refine ⟨⟨h.seen, ?_, fun hr' => by simp [hr] at hr'⟩, by simp⟩
      simp only [Tally.after, Bool.false_eq_true, if_false]
      omega

lemma drop_min {β : Type} (list : List β) (number : Nat) :
    list.drop (min number list.length) = list.drop number := by
  rcases Nat.le_total number list.length with hle | hle
  · rw [Nat.min_eq_left hle]
  · rw [Nat.min_eq_right hle, List.drop_length, List.drop_eq_nil_of_le hle]

/-- At the end the same is missing. -/
lemma omissions (h : reader.Matches model tally) :
    reader.missingOptions model ++ reader.missingParameters model = tally.omissions model := by
  rw [Reader.missingOptions, Reader.missingParameters, Tally.omissions, h.filled, drop_min]
  simp only [h.seen]

lemma finish (h : reader.Matches model tally) :
    reader.finish model = reader.abandoned ++ tally.omissions model := by
  rw [Reader.finish, List.append_assoc, h.omissions]

end Reader.Matches

/-! ### Simulation -/

/-- After a head the reader has brought about what its pieces bring about, but for what the reader
is still waiting for. -/
def Reader.Accounts (model : Model) (tally : Tally) (pieces : List Piece) (followers : List String)
    (outcome : Reader × List Event) : Prop :=
  ∃ next : Tally, outcome.1.Matches model next ∧ ∀ later : List Piece,
    tally.total model (pieces ++ later) =
      outcome.2 ++ ((outcome.1.expectation.fed followers).1 ++
        next.total model ((outcome.1.expectation.fed followers).2.map .positional ++ later))

lemma Cluster.options_ne_nil (cluster : Cluster) : cluster.options ≠ [] := by
  intro h
  have hlength := length_splits cluster.body.toList
  rw [show splits cluster.body.toList = [] from h] at hlength
  have hbody : cluster.body.toList = [] := List.eq_nil_of_length_eq_zero hlength.symm
  exact cluster.nonempty (String.toList_eq_nil_iff.mp hbody)

section Simulation

variable {model : Model} {reader : Reader} {tally : Tally}

lemma Reader.occur_accounts (h : reader.Matches model tally) (hfresh : reader.expectation = .fresh)
    (mention : Mention) (inline : Option String) (followers : List String) :
    Accounts model tally (Piece.attach [.option mention inline []] followers) followers
      (reader.occur mention inline) := by
  have hsettle := mention.settle_take inline followers
  refine ⟨_, h.occur mention inline [], fun later => ?_⟩
  rw [expectation_occur hfresh, events_occur, h.events_note, ← hsettle.2]
  simp only [Piece.attach, Piece.taking, List.cons_append, Tally.total_cons, Tally.events,
    hsettle.1, List.append_assoc]
  rfl

/-- The letters of a cluster are read as its pieces say. There must be one: without letters the
expectation before would stay. -/
lemma Reader.cluster_accounts (argument : String) (followers : List String)
    {letters : List (Char × String)} (hletters : letters ≠ []) (h : reader.Matches model tally) :
    Accounts model tally (Piece.attach (model.clusterPieces argument letters) followers) followers
      (cluster model argument reader letters) := by
  induction letters generalizing reader tally with
  | nil => exact absurd rfl hletters
  | cons first others ih =>
    obtain ⟨letter, rest⟩ := first
    have hfresh := h.expecting .fresh
    cases hm : model.mentionShort? letter with
    | none =>
      rw [cluster_cons_of_none hm]
      refine ⟨tally, h.expecting .orphan, fun later => ?_⟩
      simp [Model.clusterPieces, hm, Piece.attach, Piece.taking, Piece.appetite, Tally.events,
        Tally.after]
    | some mention =>
      cases hflag : mention.kind.isFlag with
      | false =>
        rw [cluster_cons_of_not_isFlag hm hflag]
        simp only [Model.clusterPieces, hm, hflag, Bool.false_eq_true, if_false]
        exact occur_accounts hfresh rfl mention _ followers
      | true =>
        rw [cluster_cons_of_isFlag hm hflag]
        simp only [Model.clusterPieces, hm, hflag, if_true]
        have hoccur := hfresh.occur mention none []
        cases others with
        | nil =>
          simpa [Model.clusterPieces, cluster] using
            occur_accounts hfresh rfl mention none followers
        | cons second others =>
          -- the flag is not the last piece, so it takes nothing
          have hne : model.clusterPieces argument (second :: others) ≠ [] := by
            rw [Model.clusterPieces]
            split
            · simp
            · split_ifs <;> simp
          obtain ⟨next, hnext, hlater⟩ := ih (by simp) hoccur
          refine ⟨next, hnext, fun later => ?_⟩
          rw [Piece.attach_cons_of_ne_nil hne, List.cons_append, Tally.total_cons, hlater,
            events_occur, hfresh.events_note]
          simp [Tally.events, Mention.settle, Mention.immediate, hflag]

/-- A head is read as its pieces say. -/
lemma Reader.readToken_accounts (h : reader.Matches model tally) (argument : String)
    (followers : List String) {token : Token} (hloose : token.isPositional = false)
    (hterminator : token ≠ .terminator) :
    ∃ outcome, readToken model reader argument token =
        (outcome.1, reader.abandoned ++ outcome.2) ∧ outcome.1.expectation ≠ .verbatim ∧
      Accounts model tally (Piece.attach (model.headPieces argument token) followers) followers
        outcome := by
  have hfresh := h.expecting .fresh
  cases token with
  | terminator => exact absurd rfl hterminator
  | positional text => simp [Token.isPositional] at hloose
  | long name value =>
    by_cases hname : name = ""
    · refine ⟨(reader.expecting .fresh, [.report (.unrecognizedArgument argument)]),
        by simp [readToken, hname], by simp, tally, hfresh, fun later => ?_⟩
      simp [Model.headPieces, hname, Piece.attach, Piece.taking, Piece.appetite, Tally.events,
        Tally.after]
    · refine ⟨long model (reader.expecting .fresh) argument name value,
        by simp [readToken, hname], ?_⟩
      cases hm : model.mentionLong? name with
      | none =>
        refine ⟨by simp only [long, hm]; split_ifs <;> simp, tally, ?_, fun later => ?_⟩
        · simp only [long, hm]
          exact hfresh.expecting _
        · cases value <;>
            simp [long, Model.headPieces, hname, hm, Piece.attach, Piece.taking, Piece.appetite,
              Tally.events, Tally.after]
      | some mention =>
        rw [long_of_mentionLong? hm]
        constructor
        · rw [expectation_occur rfl]
          exact awaits_ne_verbatim mention value
        · simp only [Model.headPieces, hname, if_false, hm]
          exact occur_accounts hfresh rfl mention value followers
  | short letters =>
    exact ⟨_, rfl, expectation_cluster_ne (by simp) (by simp) awaits_ne_verbatim _,
      cluster_accounts argument followers letters.options_ne_nil hfresh⟩

lemma Reader.read_of_isLoose (model : Model) {argument : String} (hloose : isLoose argument = true)
    (hverbatim : reader.expectation ≠ .verbatim) :
    read model reader argument = positional model reader argument := by
  rw [read_of_ne_verbatim hverbatim, classify_of_isLoose hloose]
  rfl

/-- Where nothing takes a text, it is placed. -/
lemma Reader.place_fed (h : reader.Matches model tally)
    (hfed : ∀ texts, reader.expectation.fed texts = ([], texts)) (text : String)
    (rest : List String) (later : List Piece) :
    tally.total model ((text :: rest).map .positional ++ later) =
      (place model reader text).2 ++
        (((place model reader text).1.expectation.fed rest).1 ++
          (tally.after (.positional text)).total model
            (((place model reader text).1.expectation.fed rest).2.map .positional ++ later)) := by
  simp [hfed, (h.place text).2, Tally.events]

/-- Feeding a text first and the others later is feeding all of them. -/
lemma Reader.positional_fed (h : reader.Matches model tally) (text : String)
    (rest : List String) (hstart : reader.expectation ≠ .start)
    (hverbatim : reader.expectation ≠ .verbatim) :
    (positional model reader text).1.expectation ≠ .verbatim ∧
      ∃ next : Tally, (positional model reader text).1.Matches model next ∧
        ∀ later : List Piece,
          (reader.expectation.fed (text :: rest)).1 ++ tally.total model
              ((reader.expectation.fed (text :: rest)).2.map .positional ++ later) =
            (positional model reader text).2 ++
              (((positional model reader text).1.expectation.fed rest).1 ++ next.total model
                (((positional model reader text).1.expectation.fed rest).2.map .positional ++
                  later)) := by
  cases he : reader.expectation with
  | start => exact absurd he hstart
  | verbatim => exact absurd he hverbatim
  | fresh =>
    rw [positional_of_fresh he]
    exact ⟨by simp [he], _, (h.place text).1, place_fed h (by simp [he]) text rest⟩
  | orphan =>
    rw [positional_of_orphan he]
    exact ⟨by simp, tally, h.expecting .fresh, fun later => by simp⟩
  | value mention taken =>
    cases hn : mention.kind.isNullableFlag with
    | true =>
      cases ht : (Decoder.truth? text).isSome with
      | true =>
        have hsequence := ValueKind.not_isSequence_of_isNullableFlag hn
        rw [positional_of_value he (.inr ht)]
        refine ⟨by simp [take, afterValue, hsequence], tally, h.expecting _, fun later => ?_⟩
        simp [Expectation.fed_nullableFlag hn, ht, take, afterValue, hsequence]
      | false =>
        have hfresh := h.expecting .fresh
        rw [positional_of_nullableFlag he hn ht]
        refine ⟨by simp, _, (hfresh.place text).1, fun later => ?_⟩
        rw [Expectation.fed_nullableFlag hn, ht]
        exact place_fed hfresh (by simp) text rest later
    | false =>
      rw [positional_of_value he (.inl hn)]
      cases hsequence : mention.kind.isSequence with
      | true =>
        refine ⟨by simp [take, afterValue, hsequence], tally, h.expecting _, fun later => ?_⟩
        cases rest with
        | nil =>
          simp [Expectation.fed_sequence hsequence, Expectation.fed_value_nil, take, afterValue,
            hsequence]
        | cons second others =>
          simp [Expectation.fed_sequence hsequence, take, afterValue, hsequence]
      | false =>
        refine ⟨by simp [take, afterValue, hsequence], tally, h.expecting _, fun later => ?_⟩
        simp [Expectation.fed_scalar hn hsequence, take, afterValue, hsequence]

/-- Arguments among which there is no `--` are read as their pieces say, but for what the reader is
waiting for before them and after them. -/
theorem Reader.readMany_accounts {arguments : List String} (hopen : "--" ∉ arguments)
    (h : reader.Matches model tally) (hstart : reader.expectation ≠ .start)
    (hverbatim : reader.expectation ≠ .verbatim) :
    (readMany model reader arguments).1.expectation ≠ .verbatim ∧
      ∃ next : Tally, (readMany model reader arguments).1.Matches model next ∧
        ∀ later : List Piece,
          (reader.expectation.fed (clauses arguments).1).1 ++ tally.total model
              ((reader.expectation.fed (clauses arguments).1).2.map .positional ++
                ((clauses arguments).2.flatMap model.clausePieces ++ later)) =
            (readMany model reader arguments).2 ++
              ((readMany model reader arguments).1.abandoned ++ next.total model later) := by
  induction arguments generalizing reader tally with
  | nil =>
    refine ⟨hverbatim, tally, h, fun later => ?_⟩
    simp [fed_nil]
  | cons argument rest ih =>
    obtain ⟨hargument, hrest⟩ : "--" ≠ argument ∧ "--" ∉ rest := by simpa using hopen
    have hstart' := expectation_read_ne_start model hstart argument
    cases hloose : isLoose argument with
    | true =>
      have hread := read_of_isLoose model hloose hverbatim
      obtain ⟨hverbatim', middle, hmiddle, hfirst⟩ :=
        positional_fed h argument (clauses rest).1 hstart hverbatim
      rw [← hread] at hverbatim' hmiddle hfirst
      obtain ⟨hlast, next, hnext, hlater⟩ := ih hrest hmiddle hstart' hverbatim'
      refine ⟨hlast, next, hnext, fun later => ?_⟩
      rw [clauses_cons_of_isLoose hloose, hfirst, hlater, readMany_cons, List.append_assoc]
    | false =>
      have htoken : classify argument ≠ .terminator := by
        rw [Ne, classify_eq_terminator_iff]
        exact Ne.symm hargument
      obtain ⟨outcome, hread, hverbatim', middle, hmiddle, hhead⟩ :=
        readToken_accounts h argument (clauses rest).1 hloose htoken
      have hread' : read model reader argument = (outcome.1, reader.abandoned ++ outcome.2) := by
        rw [read_of_ne_verbatim hverbatim, hread]
      rw [hread'] at hstart'
      obtain ⟨hlast, next, hnext, hlater⟩ := ih hrest hmiddle hstart' hverbatim'
      rw [readMany_cons, hread']
      refine ⟨hlast, next, hnext, fun later => ?_⟩
      rw [clauses_cons_of_not_isLoose hloose, fed_nil]
      simp only [List.map_nil, List.nil_append, List.flatMap_cons, List.append_assoc]
      rw [Model.clausePieces, hhead, hlater]

/-- After a `--` every argument is placed. -/
lemma Reader.readMany_verbatim (h : reader.Matches model tally)
    (hverbatim : reader.expectation = .verbatim) (texts : List String) :
    (readMany model reader texts).1.abandoned = [] ∧
      (readMany model reader texts).1.Matches model
        ((texts.map Piece.positional).foldl Tally.after tally) ∧
      (readMany model reader texts).2 = tally.account model (texts.map .positional) := by
  induction texts generalizing reader tally with
  | nil => exact ⟨by simp [abandoned, hverbatim], h, rfl⟩
  | cons text rest ih =>
    obtain ⟨hmatches, hevents⟩ := h.place text
    obtain ⟨hlast, hnext, hmore⟩ := ih hmatches (by simpa using hverbatim)
    rw [readMany_cons, read_of_verbatim hverbatim]
    refine ⟨hlast, hnext, ?_⟩
    rw [hevents, hmore]
    rfl

end Simulation

/-- One pass over the arguments comes to the events of their layout. -/
theorem Reader.readMany_finish (model : Model) (arguments : List String) :
    (readMany model ready arguments).2 ++ (readMany model ready arguments).1.finish model =
      model.account arguments := by
  obtain ⟨hverbatim, next, hnext, hopen⟩ :=
    readMany_accounts (not_mem_beforeTerminator arguments) (Matches.ready model) (by simp [ready])
      (by simp [ready])
  have hlayout (later : List Piece) :
      Tally.zero.total model (model.openPieces (beforeTerminator arguments) ++ later) =
        (readMany model ready (beforeTerminator arguments)).2 ++
          ((readMany model ready (beforeTerminator arguments)).1.abandoned ++
            next.total model later) := by
    rw [← hopen later]
    simp [Model.openPieces, ready]
  rw [Model.account, Model.layout, hlayout]
  rcases eq_beforeTerminator_or arguments with ⟨hall, hafter⟩ | hcut
  · rw [← hall] at hnext ⊢
    rw [hafter, hnext.finish]
    rfl
  · -- the `--` itself only ends what is pending
    generalize hfirst : readMany model ready (beforeTerminator arguments) = first at *
    have hread := read_terminator hverbatim model
    obtain ⟨hlast, hmatches, hevents⟩ :=
      readMany_verbatim (hnext.expecting .verbatim) rfl (afterTerminator arguments)
    have hsplit : readMany model ready arguments =
        ((readMany model (first.1.expecting .verbatim) (afterTerminator arguments)).1,
          first.2 ++ (first.1.abandoned ++
            (readMany model (first.1.expecting .verbatim) (afterTerminator arguments)).2)) := by
      conv_lhs => rw [hcut]
      rw [readMany_append, hfirst, readMany_cons, hread]
    rw [hsplit, hmatches.finish, hlast, hevents]
    simp [Tally.total]

/-- Whatever is read comes to the events of the layout. -/
theorem Reader.account_of_readAll {model : Model} {arguments : List String} {reader : Reader}
    {events : List Event} (h : readAll model initial arguments = .ok (reader, events)) :
    events ++ reader.finish model = model.account arguments := by
  have hfinish := readMany_finish model arguments
  rcases eq_of_readAll_initial h with ⟨houtcome, hnil⟩ | houtcome
  · obtain ⟨rfl, rfl⟩ := Prod.mk.inj houtcome
    subst hnil
    exact hfinish
  · rw [← houtcome] at hfinish
    exact hfinish

lemma Program.parse_of_readAll {σ α : Type} {program : Program σ α} {arguments : List String}
    {reader : Reader} {events : List Event}
    (h : Reader.readAll program.model .initial arguments = .ok (reader, events)) :
    program.parse arguments = program.conclude (program.model.account arguments) := by
  rw [parse, h, ← Reader.account_of_readAll h]

/-- If the first argument selects no command, parsing in one pass gives exactly
what the layout of the command line gives: the same texts are stored in the same order, and the same
errors are found in the same order. -/
theorem parse_eq_conclude_account {σ α : Type} (program : Program σ α) {arguments : List String}
    (start : ∀ argument ∈ arguments.head?, program.model.findCommand argument = none) :
    program.parse arguments = program.conclude (program.model.account arguments) := by
  obtain ⟨outcome, hread⟩ := Reader.exists_readAll start
  exact Program.parse_of_readAll hread

/-- An unknown letter swallows the argument after it, a flag refuses what is no truth value, and the
errors come in the order of the arguments. -/
theorem parse_archive_swallowing :
    let arguments :=
      ["--level", "7", "-vx", "gone", "--color", "even", "--verbose=on", "--", "-2", "3"]
    let errors : ParseErrors :=
      ⟨[.unknownOption "x" "-vx", .duplicateOption "verbose", .flagValue "verbose" "on"],
        by decide, by decide⟩
    (∀ argument ∈ arguments.head?, Sample.archiveProgram.model.findCommand argument = none) ∧
      Sample.archiveProgram.parse arguments = .errors errors ∧
      Sample.archiveProgram.conclude (Sample.archiveProgram.model.account arguments) =
        .errors errors := by
  intro arguments errors
  have start : ∀ argument ∈ arguments.head?,
      Sample.archiveProgram.model.findCommand argument = none := by
    intro argument hargument
    obtain rfl := Option.some.inj hargument
    rfl
  have hparse : Sample.archiveProgram.parse arguments = .errors errors := rfl
  refine ⟨start, hparse, ?_⟩
  rw [← parse_eq_conclude_account Sample.archiveProgram start]
  exact hparse

end CommandLine
