import CommandLine.Proofs.Occurrence
import CommandLine.Proofs.Recorded

/-!
# Blame

Every error that a run reports is to be blamed on one piece of the layout, together with the tally
of the pieces before it, or it names something that is missing after all pieces.
-/

namespace CommandLine

/-! ### Events of pieces -/

namespace Tally

variable {model : Model} {tally : Tally} {pieces : List Piece} {event : Event}

lemma account_append (tally : Tally) (first second : List Piece) :
    tally.account model (first ++ second) =
      tally.account model first ++ (first.foldl after tally).account model second := by
  induction first generalizing tally with
  | nil => rfl
  | cons piece rest ih =>
    rw [List.cons_append, account_cons, ih, account_cons, List.append_assoc, List.foldl_cons]

/-- An event of pieces is one of a single piece, after those before it. -/
lemma mem_account_iff :
    event ∈ tally.account model pieces ↔ ∃ before piece after, pieces = before ++ piece :: after ∧
      event ∈ (before.foldl Tally.after tally).events model piece := by
  constructor
  · intro h
    induction pieces generalizing tally with
    | nil => simp at h
    | cons first rest ih =>
      rw [account_cons, List.mem_append] at h
      rcases h with hfirst | hrest
      · exact ⟨[], first, rest, rfl, hfirst⟩
      · obtain ⟨before, piece, after, rfl, hevent⟩ := ih hrest
        exact ⟨first :: before, piece, after, rfl, hevent⟩
  · rintro ⟨before, piece, after, rfl, hevent⟩
    rw [account_append, account_cons]
    exact List.mem_append_right _ (List.mem_append_left _ hevent)

lemma mem_noted_iff {mention : Mention} :
    event ∈ tally.noted mention ↔ event = .mention mention ∨
      mention.option ∈ tally.mentioned ∧ event = .report (.duplicateOption mention.name.text) := by
  rw [noted]
  split_ifs with hagain
  · simp [hagain]
  · simp [hagain]

end Tally

/-! ### Blamed pieces -/

namespace Interface

variable {α : Type} {interface : Interface} {environment : Environment α}

/-- After pieces with this tally, a piece is to blame for an error. -/
inductive Blames (interface : Interface) (environment : Environment α) (tally : Tally) :
    Piece → ParseError → Prop
  | duplicate {mention : Mention} {inline : Option String} {taken : List String}
      (hagain : mention.option ∈ tally.mentioned) :
      Blames interface environment tally (.option mention inline taken)
        (.duplicateOption mention.name.text)
  | flagValue {mention : Mention} {text : String} {taken : List String}
      (hflag : mention.kind.isFlag = true) :
      Blames interface environment tally (.option mention (some text) taken)
        (.flagValue mention.name.text text)
  | valueMissing {mention : Mention} (hflag : mention.kind.isFlag = false) :
      Blames interface environment tally (.option mention none [])
        (.optionValueMissing mention.name.text)
  | optionValue {mention : Mention} {inline : Option String} {taken : List String} {text : String}
      (htext : text ∈ mention.texts inline taken)
      (hvalue : interface.decode? environment (.option mention.option) text = none) :
      Blames interface environment tally (.option mention inline taken)
        (.badOptionValue text mention.name.text)
  | unknown {name argument : String} {inline : Option String} :
      Blames interface environment tally (.unknown name argument inline)
        (.unknownOption name argument)
  | malformed {argument : String} :
      Blames interface environment tally (.malformed argument) (.unrecognizedArgument argument)
  | parameterValue {text : String} {parameter : ParameterSpec}
      (hparameter : (interface.model environment).parameters[tally.positional]? = some parameter)
      (hvalue : interface.decode? environment (.parameter tally.positional) text = none) :
      Blames interface environment tally (.positional text)
        (.badParameterValue text parameter.name parameter.index)
  | remainingValue {text : String}
      (hfull : (interface.model environment).parameters.length ≤ tally.positional)
      (hremaining : (interface.model environment).remaining.isSome = true)
      (hvalue : interface.decode? environment .remaining text = none) :
      Blames interface environment tally (.positional text)
        (.badRemainingValue text
          (tally.positional - (interface.model environment).parameters.length))
  | unrecognized {text : String}
      (hfull : (interface.model environment).parameters.length ≤ tally.positional)
      (hremaining : (interface.model environment).remaining = none) :
      Blames interface environment tally (.positional text) (.unrecognizedArgument text)

lemma fault?_store_eq_some_iff {slot : Slot} {text : String} {blame error : ParseError} :
    interface.fault? environment (.store slot text blame) = some error ↔
      interface.decode? environment slot text = none ∧ error = blame := by
  rw [fault?]
  cases interface.decode? environment slot text <;> simp [eq_comm]

variable {tally : Tally} {error : ParseError}

/-- A placed text finds the error that its piece is to blame for. -/
lemma fault?_placed_eq_some_iff {text : String} :
    interface.fault? environment ((interface.model environment).placed tally.positional text) =
        some error ↔
      interface.Blames environment tally (.positional text) error := by
  rw [Model.placed]
  constructor
  · intro h
    split at h
    · next parameter hparameter =>
      obtain ⟨hvalue, rfl⟩ := fault?_store_eq_some_iff.mp h
      exact .parameterValue hparameter hvalue
    · next hnone =>
      have hfull := List.getElem?_eq_none_iff.mp hnone
      split_ifs at h with hremaining
      · obtain ⟨hvalue, rfl⟩ := fault?_store_eq_some_iff.mp h
        exact .remainingValue hfull hremaining hvalue
      · obtain rfl := Option.some.inj h
        exact .unrecognized hfull (by simpa using hremaining)
  · intro h
    cases h with
    | parameterValue hparameter hvalue =>
      rw [hparameter]
      exact fault?_store_eq_some_iff.mpr ⟨hvalue, rfl⟩
    | remainingValue hfull hremaining hvalue =>
      rw [List.getElem?_eq_none hfull]
      simp only [hremaining, if_true]
      exact fault?_store_eq_some_iff.mpr ⟨hvalue, rfl⟩
    | unrecognized hfull hremaining =>
      rw [List.getElem?_eq_none hfull]
      simp [hremaining, fault?]

lemma blames_of_fault?_settle {mention : Mention} {inline : Option String} {taken : List String}
    {event : Event} (hevent : event ∈ mention.settle inline taken)
    (h : interface.fault? environment event = some error) :
    interface.Blames environment tally (.option mention inline taken) error := by
  rcases mention.settle_cases inline taken with
    ⟨text, hflag, rfl, -, hsettle⟩ | ⟨hflag, rfl, rfl, hsettle⟩ | hsettle
  · rw [hsettle, List.mem_singleton] at hevent
    subst hevent
    obtain rfl := Option.some.inj h
    exact .flagValue hflag
  · rw [hsettle, List.mem_singleton] at hevent
    subst hevent
    obtain rfl := Option.some.inj h
    exact .valueMissing hflag
  · rw [hsettle] at hevent
    obtain ⟨text, htext, rfl⟩ := List.mem_map.mp hevent
    obtain ⟨hvalue, rfl⟩ := fault?_store_eq_some_iff.mp h
    exact .optionValue htext hvalue

/-- The errors of a piece are those that it is to blame for. -/
theorem blames_iff {piece : Piece} :
    interface.Blames environment tally piece error ↔
      ∃ event ∈ tally.events (interface.model environment) piece,
        interface.fault? environment event = some error := by
  constructor
  · intro h
    cases piece with
    | option mention inline taken =>
      cases h with
      | duplicate hagain =>
        exact ⟨_, List.mem_append_left _ (Tally.mem_noted_iff.mpr (.inr ⟨hagain, rfl⟩)), rfl⟩
      | @flagValue _ text _ hflag =>
        exact ⟨.report (.flagValue mention.name.text text),
          List.mem_append_right _ (by simp [Mention.settle, hflag]), rfl⟩
      | valueMissing hflag =>
        exact ⟨.report (.optionValueMissing mention.name.text),
          List.mem_append_right _ (by simp [Mention.settle, hflag]), rfl⟩
      | @optionValue _ _ _ text htext hvalue =>
        refine ⟨mention.store text, List.mem_append_right _ ?_,
          fault?_store_eq_some_iff.mpr ⟨hvalue, rfl⟩⟩
        -- what does not store its texts has none
        rcases mention.settle_cases inline taken with
          ⟨_, -, -, hnone, -⟩ | ⟨hflag, rfl, rfl, -⟩ | hsettle
        · simp [hnone] at htext
        · simp [Mention.texts, hflag] at htext
        · rw [hsettle]
          exact List.mem_map_of_mem htext
    | unknown | malformed =>
      cases h
      exact ⟨_, List.mem_singleton.mpr rfl, rfl⟩
    | positional text =>
      exact ⟨_, List.mem_singleton.mpr rfl, fault?_placed_eq_some_iff.mpr h⟩
  · rintro ⟨event, hevent, h⟩
    cases piece with
    | option mention inline taken =>
      rcases List.mem_append.mp hevent with hnoted | hsettle
      · rcases Tally.mem_noted_iff.mp hnoted with rfl | ⟨hagain, rfl⟩
        · simp [fault?] at h
        · obtain rfl := Option.some.inj h
          exact .duplicate hagain
      · exact blames_of_fault?_settle hsettle h
    | unknown name argument inline =>
      obtain rfl := List.mem_singleton.mp hevent
      obtain rfl := Option.some.inj h
      exact .unknown
    | malformed argument =>
      obtain rfl := List.mem_singleton.mp hevent
      obtain rfl := Option.some.inj h
      exact .malformed
    | positional text =>
      obtain rfl := List.mem_singleton.mp hevent
      exact fault?_placed_eq_some_iff.mp h

/-- Some piece of the command line is to blame for the error. -/
def Blamed (interface : Interface) (environment : Environment α) (arguments : List String)
    (error : ParseError) : Prop :=
  ∃ before piece after,
    (interface.model environment).layout arguments = before ++ piece :: after ∧
      interface.Blames environment (before.foldl Tally.after .zero) piece error

/-- The errors of all pieces are those that some piece is to blame for. -/
theorem mem_faults_iff {arguments : List String} :
    error ∈ (Tally.zero.account (interface.model environment)
        ((interface.model environment).layout arguments)).filterMap
          (interface.fault? environment) ↔
      interface.Blamed environment arguments error := by
  rw [List.mem_filterMap]
  constructor
  · rintro ⟨event, hevent, h⟩
    obtain ⟨before, piece, after, hlayout, hpiece⟩ := Tally.mem_account_iff.mp hevent
    exact ⟨before, piece, after, hlayout, blames_iff.mpr ⟨event, hpiece, h⟩⟩
  · rintro ⟨before, piece, after, hlayout, hblames⟩
    obtain ⟨event, hpiece, h⟩ := blames_iff.mp hblames
    exact ⟨event, Tally.mem_account_iff.mpr ⟨before, piece, after, hlayout, hpiece⟩, h⟩

lemma kind_of_blamed {arguments : List String} (h : interface.Blamed environment arguments error) :
    error.kind ≠ .missingOption ∧ error.kind ≠ .missingParameter := by
  obtain ⟨before, piece, after, -, hblames⟩ := h
  cases hblames <;> simp [ParseError.kind]

end Interface

end CommandLine
