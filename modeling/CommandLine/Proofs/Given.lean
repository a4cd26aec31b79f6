import CommandLine.Proofs.Layout
import CommandLine.Proofs.Move
import CommandLine.Proofs.Storage
import Mathlib.Data.List.Nodup

/-!
# What a command line gives

The layout of a command line says which texts every slot is given. If nothing is wrong with the
form of the command line, these are the texts that are stored, except that a truth value after a
flag replaces the `true` that the flag itself stands for.
-/

namespace CommandLine

/-! ### What an option takes -/

/-- An option has no more texts than its kind takes. -/
structure Mention.Fits (mention : Mention) (inline : Option String) (taken : List String) :
    Prop where
  flag : mention.kind.isFlag = true → taken = [] ∨
    mention.kind.isNullableFlag = true ∧ inline = none ∧
      ∃ text, taken = [text] ∧ (Decoder.truth? text).isSome = true
  single : mention.kind.isFlag = false → mention.kind.isSequence = false →
    (inline.toList ++ taken).length ≤ 1

namespace Mention.Fits

variable {mention : Mention} {inline : Option String}

lemma alone (mention : Mention) (inline : Option String) : mention.Fits inline [] :=
  ⟨fun _ => .inl rfl, fun _ _ => by cases inline <;> simp⟩

lemma take (followers : List String) :
    mention.Fits inline
      (followers.take ((Piece.option mention inline []).appetite followers)) := by
  constructor
  · intro hflag
    simp only [Piece.appetite, if_pos hflag]
    split_ifs with h
    · obtain ⟨hnullable, hinline, htruth⟩ := h
      cases followers with
      | nil => simp at htruth
      | cons text rest => exact .inr ⟨hnullable, hinline, text, rfl, by simpa using htruth⟩
    · exact .inl rfl
  · intro hflag hsequence
    simp only [Piece.appetite, hflag, hsequence]
    cases inline with
    | none => exact List.length_take_le 1 followers
    | some text => simp

end Mention.Fits

/-- The piece of an option tells the truth about an option of the model, with no more texts than
it takes. -/
def Piece.Fits (model : Model) : Piece → Prop
  | .option mention inline taken => model.Mentions mention ∧ mention.Fits inline taken
  | .unknown .. | .malformed _ | .positional _ => True

section Fits

variable {model : Model}

lemma Piece.fits_of_mem_positional {texts : List String} {piece : Piece}
    (h : piece ∈ texts.map positional) : piece.Fits model := by
  obtain ⟨text, -, rfl⟩ := List.mem_map.mp h
  trivial

lemma Piece.fits_of_mem_attach {pieces : List Piece}
    (hpieces : ∀ piece ∈ pieces, piece.Fits model ∧ piece.taking [] = piece)
    {followers : List String} {piece : Piece} (h : piece ∈ attach pieces followers) :
    piece.Fits model := by
  induction pieces, followers using attach.induct with
  | case1 followers => exact fits_of_mem_positional h
  | case2 last followers =>
    rcases List.mem_cons.mp h with rfl | hmem
    · obtain ⟨hfits, hbare⟩ := hpieces last (by simp)
      cases last with
      | option mention inline taken =>
        obtain rfl : taken = [] := by simpa [taking] using hbare.symm
        exact ⟨hfits.1, .take followers⟩
      | unknown name argument inline => trivial
      | malformed argument => trivial
      | positional text => trivial
    · exact fits_of_mem_positional hmem
  | case3 first second others followers ih =>
    rcases List.mem_cons.mp h with rfl | hmem
    · exact (hpieces _ (by simp)).1
    · exact ih (fun other hother => hpieces other (by simp [hother])) hmem

lemma Model.fits_of_mem_clusterPieces {argument : String} {letters : List (Char × String)}
    {piece : Piece} (h : piece ∈ model.clusterPieces argument letters) :
    piece.Fits model ∧ piece.taking [] = piece := by
  induction letters with
  | nil => simp [clusterPieces] at h
  | cons entry others ih =>
    obtain ⟨letter, rest⟩ := entry
    rw [clusterPieces] at h
    cases hm : model.mentionShort? letter with
    | none =>
      rw [hm, List.mem_singleton] at h
      subst h
      exact ⟨trivial, rfl⟩
    | some mention =>
      have hmentions := mentions_of_mentionShort? hm
      simp only [hm] at h
      split_ifs at h
      · rcases List.mem_cons.mp h with rfl | hmem
        · exact ⟨⟨hmentions, .alone mention none⟩, rfl⟩
        · exact ih hmem
      · obtain rfl := List.mem_singleton.mp h
        exact ⟨⟨hmentions, .alone mention _⟩, rfl⟩
      · obtain rfl := List.mem_singleton.mp h
        exact ⟨⟨hmentions, .alone mention _⟩, rfl⟩

lemma Model.fits_of_mem_headPieces {argument : String} {token : Token} {piece : Piece}
    (h : piece ∈ model.headPieces argument token) :
    piece.Fits model ∧ piece.taking [] = piece := by
  cases token with
  | terminator => simp [headPieces] at h
  | positional text => simp [headPieces] at h
  | short cluster => exact fits_of_mem_clusterPieces h
  | long name value =>
    simp only [headPieces] at h
    split_ifs at h
    · obtain rfl := List.mem_singleton.mp h
      exact ⟨trivial, rfl⟩
    · cases hm : model.mentionLong? name with
      | none =>
        rw [hm, List.mem_singleton] at h
        subst h
        exact ⟨trivial, rfl⟩
      | some mention =>
        rw [hm, List.mem_singleton] at h
        subst h
        exact ⟨⟨mentions_of_mentionLong? hm, .alone mention value⟩, rfl⟩

/-- All pieces of a layout fit. -/
lemma Model.fits_of_mem_layout {arguments : List String} {piece : Piece}
    (h : piece ∈ model.layout arguments) : piece.Fits model := by
  rw [layout, List.mem_append, openPieces, List.mem_append] at h
  rcases h with (hfirst | hclause) | hlast
  · exact Piece.fits_of_mem_positional hfirst
  · obtain ⟨clause, -, hmem⟩ := List.mem_flatMap.mp hclause
    exact Piece.fits_of_mem_attach (fun _ => fits_of_mem_headPieces) hmem
  · exact Piece.fits_of_mem_positional hlast

end Fits

/-! ### Stored texts -/

/-- The texts that a mention stores: a flag stores `true` before what it takes. -/
def Mention.texts (mention : Mention) (inline : Option String) (taken : List String) :
    List String :=
  if mention.kind.isFlag then if inline = none then "true" :: taken else []
  else inline.toList ++ taken

/-- What an option settles is the refusal of a text, or the lack of one, or its texts. -/
lemma Mention.settle_cases (mention : Mention) (inline : Option String) (taken : List String) :
    (∃ text, mention.kind.isFlag = true ∧ inline = some text ∧ mention.texts inline taken = [] ∧
        mention.settle inline taken = [.report (.flagValue mention.name.text text)]) ∨
      (mention.kind.isFlag = false ∧ inline = none ∧ taken = [] ∧
        mention.settle inline taken = [.report (.optionValueMissing mention.name.text)]) ∨
      mention.settle inline taken = (mention.texts inline taken).map mention.store := by
  cases hflag : mention.kind.isFlag with
  | true =>
    cases inline with
    | some text => exact .inl ⟨text, rfl, rfl, by simp [texts, hflag], by simp [settle, hflag]⟩
    | none => exact .inr (.inr (by simp [settle, texts, hflag]))
  | false =>
    cases htexts : inline.toList ++ taken with
    | nil =>
      obtain ⟨hinline, htaken⟩ := List.append_eq_nil_iff.mp htexts
      refine .inr (.inl ⟨rfl, by simpa using hinline, htaken, ?_⟩)
      simp [settle, hflag, htexts]
    | cons text rest =>
      refine .inr (.inr ?_)
      rw [settle_of_not_isFlag hflag (by simp [htexts]), texts, hflag, htexts]
      rfl

/-- A view that ignores reports and the stores of an option shows nothing of what it settles. -/
lemma Mention.filterMap_settle {β : Type} {view : Event → Option β} {mention : Mention}
    (hreport : ∀ error, view (.report error) = none)
    (hstore : ∀ text, view (mention.store text) = none) (inline : Option String)
    (taken : List String) : (mention.settle inline taken).filterMap view = [] := by
  rcases mention.settle_cases inline taken with
    ⟨text, -, -, -, hsettle⟩ | ⟨-, -, -, hsettle⟩ | hsettle
  · rw [hsettle, List.filterMap_cons_none (hreport _), List.filterMap_nil]
  · rw [hsettle, List.filterMap_cons_none (hreport _), List.filterMap_nil]
  · rw [hsettle, List.filterMap_map, List.filterMap_eq_nil_iff]
    intro text _
    exact hstore text

def Piece.place? : Piece → Option Nat
  | .option mention _ _ => some mention.option
  | .unknown .. | .malformed _ | .positional _ => none

def Piece.loose? : Piece → Option String
  | .positional text => some text
  | .option .. | .unknown .. | .malformed _ => none

lemma Piece.filterMap_place?_option (mention : Mention) (inline : Option String)
    (taken : List String) (rest : List Piece) :
    (Piece.option mention inline taken :: rest).filterMap Piece.place? =
      mention.option :: rest.filterMap Piece.place? := rfl

@[simp] lemma Piece.filterMap_loose?_positional (text : String) (rest : List Piece) :
    (Piece.positional text :: rest).filterMap Piece.loose? =
      text :: rest.filterMap Piece.loose? := rfl

/-- The texts that a piece stores in an option. -/
def Piece.textsFor (place : Nat) : Piece → List String
  | .option mention inline taken =>
    if mention.option = place then mention.texts inline taken else []
  | .unknown .. | .malformed _ | .positional _ => []

namespace Event

lemma textsIn_map_store (slot : Slot) (mention : Mention) (texts : List String) :
    textsIn slot (texts.map mention.store) =
      if Slot.option mention.option = slot then texts else [] := by
  induction texts with
  | nil => simp
  | cons text rest ih =>
    rw [List.map_cons, Mention.store, textsIn_store, ih]
    split_ifs <;> rfl

lemma textsIn_settle (slot : Slot) (mention : Mention) (inline : Option String)
    (taken : List String) :
    textsIn slot (mention.settle inline taken) =
      if Slot.option mention.option = slot then mention.texts inline taken else [] := by
  unfold Mention.settle Mention.texts
  cases hflag : mention.kind.isFlag with
  | true =>
    cases inline with
    | none => exact textsIn_map_store slot mention _
    | some text => simp
  | false =>
    cases htexts : inline.toList ++ taken with
    | nil => simp
    | cons text rest => exact textsIn_map_store slot mention _

lemma textsIn_noted (slot : Slot) (tally : Tally) (mention : Mention) :
    textsIn slot (tally.noted mention) = [] := by
  rw [Tally.noted]
  split_ifs <;> rfl

end Event

namespace Tally

variable {model : Model}

@[simp] lemma positional_after_positional (tally : Tally) (text : String) :
    (tally.after (.positional text)).positional = tally.positional + 1 := rfl

/-- What is stored in an option are the texts of the pieces that mention it. -/
lemma textsIn_option_account (place : Nat) (tally : Tally) (pieces : List Piece) :
    Event.textsIn (.option place) (tally.account model pieces) =
      pieces.flatMap (Piece.textsFor place) := by
  induction pieces generalizing tally with
  | nil => rfl
  | cons piece rest ih =>
    rw [account_cons, Event.textsIn_append, ih, List.flatMap_cons]
    congr 1
    cases piece with
    | option mention inline taken =>
      simp [events, Event.textsIn_noted, Event.textsIn_settle, Piece.textsFor]
    | unknown name argument inline => rfl
    | malformed argument => rfl
    | positional text =>
      simp only [events, Model.placed, Piece.textsFor]
      split
      · simp
      · split_ifs <;> simp

/-- What is stored in a parameter is the positional argument of its number. -/
lemma textsIn_parameter_account {place : Nat} (hplace : place < model.parameters.length)
    (tally : Tally) (pieces : List Piece) :
    Event.textsIn (.parameter place) (tally.account model pieces) =
      if place < tally.positional then []
      else (pieces.filterMap Piece.loose?)[place - tally.positional]?.toList := by
  induction pieces generalizing tally with
  | nil => simp
  | cons piece rest ih =>
    rw [account_cons, Event.textsIn_append, ih]
    cases piece with
    | option mention inline taken =>
      simp only [events, Event.textsIn_append, Event.textsIn_noted, Event.textsIn_settle]
      rfl
    | unknown name argument inline => rfl
    | malformed argument => rfl
    | positional text =>
      have hplaced : Event.textsIn (.parameter place) [model.placed tally.positional text] =
          if tally.positional = place then [text] else [] := by
        rw [Model.placed]
        cases hget : model.parameters[tally.positional]? with
        | some parameter => simp
        | none =>
          have hpast : tally.positional ≠ place := by
            have := List.getElem?_eq_none_iff.mp hget
            omega
          rw [if_neg hpast]
          dsimp only
          split_ifs <;> simp
      rw [events, hplaced, positional_after_positional, Piece.filterMap_loose?_positional]
      rcases Nat.lt_trichotomy place tally.positional with hlt | rfl | hgt
      · rw [if_neg (by omega), if_pos (by omega), if_pos hlt]
        rfl
      · simp
      · have hnext : place - tally.positional = place - (tally.positional + 1) + 1 := by omega
        rw [if_neg (by omega), if_neg (by omega), if_neg (by omega), hnext]
        rfl

/-- What is stored in the collector are the positional arguments after those of the parameters. -/
lemma textsIn_remaining_account (hremaining : model.remaining.isSome = true)
    (tally : Tally) (pieces : List Piece) :
    Event.textsIn .remaining (tally.account model pieces) =
      (pieces.filterMap Piece.loose?).drop (model.parameters.length - tally.positional) := by
  induction pieces generalizing tally with
  | nil => simp
  | cons piece rest ih =>
    rw [account_cons, Event.textsIn_append, ih]
    cases piece with
    | option mention inline taken =>
      simp only [events, Event.textsIn_append, Event.textsIn_noted, Event.textsIn_settle]
      rfl
    | unknown name argument inline => rfl
    | malformed argument => rfl
    | positional text =>
      rw [events, Model.placed, positional_after_positional, Piece.filterMap_loose?_positional]
      cases hget : model.parameters[tally.positional]? with
      | some parameter =>
        have hlt := (List.getElem?_eq_some_iff.mp hget).1
        have hnext : model.parameters.length - tally.positional =
            model.parameters.length - (tally.positional + 1) + 1 := by omega
        rw [hnext]
        simp
      | none =>
        have hge := List.getElem?_eq_none_iff.mp hget
        have hpast : model.parameters.length - tally.positional = 0 ∧
            model.parameters.length - (tally.positional + 1) = 0 := by omega
        rw [hpast.1, hpast.2]
        simp [hremaining]

lemma eq_report_of_mem_omissions {tally : Tally} {event : Event}
    (h : event ∈ tally.omissions model) : ∃ error, event = .report error := by
  rcases List.mem_append.mp h with hoption | hparameter
  · obtain ⟨entry, -, rfl⟩ := List.mem_map.mp hoption
    exact ⟨_, rfl⟩
  · obtain ⟨parameter, -, rfl⟩ := List.mem_map.mp hparameter
    exact ⟨_, rfl⟩

lemma mem_mentioned_foldl {pieces : List Piece} {tally : Tally} {place : Nat} :
    place ∈ (pieces.foldl after tally).mentioned ↔
      place ∈ pieces.filterMap Piece.place? ∨ place ∈ tally.mentioned := by
  induction pieces generalizing tally with
  | nil => simp
  | cons piece rest ih =>
    rw [List.foldl_cons, ih]
    cases piece with
    | option mention inline taken =>
      rw [Piece.filterMap_place?_option]
      simp only [after, List.mem_cons]
      tauto
    | unknown name argument inline => rfl
    | malformed argument => rfl
    | positional text => rfl

lemma positional_foldl (pieces : List Piece) (tally : Tally) :
    (pieces.foldl after tally).positional =
      tally.positional + (pieces.filterMap Piece.loose?).length := by
  induction pieces generalizing tally with
  | nil => rfl
  | cons piece rest ih =>
    rw [List.foldl_cons, ih]
    cases piece with
    | option mention inline taken => rfl
    | unknown name argument inline => rfl
    | malformed argument => rfl
    | positional text =>
      rw [positional_after_positional, Piece.filterMap_loose?_positional, List.length_cons]
      omega

lemma positional_foldl_zero (pieces : List Piece) :
    (pieces.foldl after zero).positional = (pieces.filterMap Piece.loose?).length := by
  rw [positional_foldl]
  exact Nat.zero_add _

/-! ### Accounts without errors -/

/-- Without an error every option is mentioned once. -/
lemma nodup_of_quiet {tally : Tally} {pieces : List Piece}
    (hquiet : ∀ error, .report error ∉ tally.account model pieces) :
    (pieces.filterMap Piece.place?).Nodup ∧
      ∀ place ∈ pieces.filterMap Piece.place?, place ∉ tally.mentioned := by
  induction pieces generalizing tally with
  | nil => simp
  | cons piece rest ih =>
    simp only [account_cons, List.mem_append, not_or, forall_and] at hquiet
    obtain ⟨hnodup, habsent⟩ := ih hquiet.2
    cases piece with
    | option mention inline taken =>
      have hnew : mention.option ∉ tally.mentioned := by
        intro hold
        exact hquiet.1 (.duplicateOption mention.name.text) (by simp [events, noted, hold])
      rw [Piece.filterMap_place?_option, List.nodup_cons]
      refine ⟨⟨fun hagain => habsent _ hagain (by simp [after]), hnodup⟩, fun place hplace => ?_⟩
      rcases List.mem_cons.mp hplace with rfl | hlater
      · exact hnew
      · exact fun hold => habsent place hlater (by simp [after, hold])
    | unknown name argument inline => exact ⟨hnodup, habsent⟩
    | malformed argument => exact ⟨hnodup, habsent⟩
    | positional text => exact ⟨hnodup, habsent⟩

/-- Without an error a flag has no text of its own, and any other option has some text. -/
lemma settled_of_quiet {tally : Tally} {pieces : List Piece}
    (hquiet : ∀ error, .report error ∉ tally.account model pieces) {mention : Mention}
    {inline : Option String} {taken : List String}
    (h : .option mention inline taken ∈ pieces) :
    if mention.kind.isFlag then inline = none else inline.toList ++ taken ≠ [] := by
  induction pieces generalizing tally with
  | nil => simp at h
  | cons piece rest ih =>
    simp only [account_cons, List.mem_append, not_or, forall_and] at hquiet
    rcases List.mem_cons.mp h with rfl | hrest
    · split_ifs with hflag
      · cases inline with
        | none => rfl
        | some text =>
          exact absurd (by simp [events, Mention.settle, hflag])
            (hquiet.1 (.flagValue mention.name.text text))
      · intro hnone
        exact hquiet.1 (.optionValueMissing mention.name.text)
          (by simp [events, Mention.settle, hflag, hnone])
    · exact ih hquiet.2 hrest

end Tally

/-- An option is mentioned by no piece or by exactly one, and only this piece has texts for it. -/
lemma Piece.none_or_one {pieces : List Piece} (hnodup : (pieces.filterMap place?).Nodup)
    (place : Nat) :
    (∀ view : Piece → List String, (∀ piece, piece.place? ≠ some place → view piece = []) →
      pieces.flatMap view = []) ∨
    ∃ piece ∈ pieces, piece.place? = some place ∧ ∀ view : Piece → List String,
      (∀ piece, piece.place? ≠ some place → view piece = []) →
        pieces.flatMap view = view piece := by
  by_cases hmem : place ∈ pieces.filterMap place?
  · right
    obtain ⟨piece, hpiece, hplace⟩ := List.mem_filterMap.mp hmem
    refine ⟨piece, hpiece, hplace, fun view hview => ?_⟩
    obtain ⟨before, after, rfl⟩ := List.append_of_mem hpiece
    rw [List.filterMap_append, List.filterMap_cons_some hplace, List.nodup_middle,
      ← List.filterMap_append, List.nodup_cons] at hnodup
    have hothers : ∀ other ∈ before ++ after, view other = [] := fun other hother =>
      hview other fun hsame => hnodup.1 (List.mem_filterMap.mpr ⟨other, hother, hsame⟩)
    have hbefore : before.flatMap view = [] :=
      List.flatMap_eq_nil_iff.mpr fun other h => hothers other (List.mem_append_left after h)
    have hafter : after.flatMap view = [] :=
      List.flatMap_eq_nil_iff.mpr fun other h => hothers other (List.mem_append_right before h)
    rw [List.flatMap_append, List.flatMap_cons, hbefore, hafter, List.append_nil, List.nil_append]
  · left
    intro view hview
    rw [List.flatMap_eq_nil_iff]
    intro piece hpiece
    apply hview
    intro hplace
    exact hmem (List.mem_filterMap.mpr ⟨piece, hpiece, hplace⟩)

/-! ### Given texts -/

/-- The texts that a mention gives: a flag gives `true` unless a truth value follows. -/
def Mention.given (mention : Mention) (inline : Option String) (taken : List String) :
    List String :=
  if mention.kind.isFlag then [taken.head?.getD "true"] else inline.toList ++ taken

/-- The texts that a piece gives to an option. -/
def Piece.givenFor (place : Nat) : Piece → List String
  | .option mention inline taken =>
    if mention.option = place then mention.given inline taken else []
  | .unknown .. | .malformed _ | .positional _ => []

namespace Piece

variable {place : Nat} {piece : Piece}

lemma textsFor_of_ne (h : piece.place? ≠ some place) : piece.textsFor place = [] := by
  cases piece with
  | option mention inline taken =>
    have hne : mention.option ≠ place := fun heq => h (congrArg some heq)
    simp [textsFor, hne]
  | unknown name argument inline => rfl
  | malformed argument => rfl
  | positional text => rfl

lemma givenFor_of_ne (h : piece.place? ≠ some place) : piece.givenFor place = [] := by
  cases piece with
  | option mention inline taken =>
    have hne : mention.option ≠ place := fun heq => h (congrArg some heq)
    simp [givenFor, hne]
  | unknown name argument inline => rfl
  | malformed argument => rfl
  | positional text => rfl

end Piece

namespace Model

/-- The positional arguments of a command line, those after a `--` included. -/
def loose (model : Model) (arguments : List String) : List String :=
  (model.layout arguments).filterMap Piece.loose?

/-- The texts that a command line gives to a slot. -/
def given (model : Model) (arguments : List String) : Slot → List String
  | .option place => (model.layout arguments).flatMap (Piece.givenFor place)
  | .parameter place => (model.loose arguments)[place]?.toList
  | .remaining => (model.loose arguments).drop model.parameters.length

/-- The slot keeps all its values. -/
def Gathers (model : Model) : Slot → Prop
  | .option place => ∃ option, model.options[place]? = some option ∧ option.kind.isSequence = true
  | .parameter _ => False
  | .remaining => True

def Has (model : Model) : Slot → Prop
  | .option place => place < model.options.length
  | .parameter place => place < model.parameters.length
  | .remaining => model.remaining.isSome = true

lemma textsIn_omissions (model : Model) (tally : Tally) (slot : Slot) :
    Event.textsIn slot (tally.omissions model) = [] := by
  simp [Tally.omissions, Event.textsIn]

/-- If nothing is wrong with the form of a command line, every slot stores the texts that it is
given, except that `true` comes before the truth value of a flag. -/
theorem stored_or_replaced {model : Model} {arguments : List String}
    (hquiet : ∀ error, .report error ∉ model.account arguments) {slot : Slot}
    (hslot : model.Has slot) :
    (Event.textsIn slot (model.account arguments) = model.given arguments slot ∧
      (model.Gathers slot ∨ (model.given arguments slot).length ≤ 1)) ∨
    ∃ place option text, slot = .option place ∧ model.options[place]? = some option ∧
      option.kind.isNullableFlag = true ∧ (Decoder.truth? text).isSome = true ∧
      Event.textsIn slot (model.account arguments) = ["true", text] ∧
      model.given arguments slot = [text] := by
  have hpieces : ∀ error, .report error ∉ Tally.zero.account model (model.layout arguments) :=
    fun error hmem => hquiet error (by simp [account, Tally.total, hmem])
  rw [account, Tally.total, Event.textsIn_append, textsIn_omissions, List.append_nil]
  cases slot with
  | parameter place =>
    left
    rw [Tally.textsIn_parameter_account hslot]
    refine ⟨rfl, .inr ?_⟩
    simp only [given]
    cases (model.loose arguments)[place]? <;> simp
  | remaining =>
    left
    rw [Tally.textsIn_remaining_account hslot]
    exact ⟨rfl, .inl trivial⟩
  | option place =>
    rw [Tally.textsIn_option_account, given]
    rcases Piece.none_or_one (Tally.nodup_of_quiet hpieces).1 place with
      hnone | ⟨piece, hmem, hplace, hone⟩
    · left
      rw [hnone _ fun _ => Piece.textsFor_of_ne, hnone _ fun _ => Piece.givenFor_of_ne]
      exact ⟨rfl, .inr (by simp)⟩
    · rw [hone _ fun _ => Piece.textsFor_of_ne, hone _ fun _ => Piece.givenFor_of_ne]
      cases piece with
      | unknown name argument inline => simp [Piece.place?] at hplace
      | malformed argument => simp [Piece.place?] at hplace
      | positional text => simp [Piece.place?] at hplace
      | option mention inline taken =>
        obtain rfl : mention.option = place := by simpa [Piece.place?] using hplace
        obtain ⟨hmentions, hfits⟩ := fits_of_mem_layout hmem
        have hsettled := Tally.settled_of_quiet hpieces hmem
        obtain ⟨option, hoption, hkind⟩ := Option.map_eq_some_iff.mp hmentions.kind
        simp only [Piece.textsFor, Piece.givenFor, if_true, Mention.texts, Mention.given]
        cases hflag : mention.kind.isFlag with
        | true =>
          obtain rfl : inline = none := by simpa [hflag] using hsettled
          rcases hfits.flag hflag with rfl | ⟨hnullable, -, text, rfl, htruth⟩
          · exact .inl (by simp)
          · exact .inr ⟨_, option, text, rfl, hoption, by rw [hkind, hnullable], htruth, by simp,
              by simp⟩
        | false =>
          left
          refine ⟨by simp, ?_⟩
          cases hsequence : mention.kind.isSequence with
          | true => exact .inl ⟨option, hoption, by rw [hkind, hsequence]⟩
          | false => exact .inr (by simpa using hfits.single hflag hsequence)

end Model

end CommandLine
