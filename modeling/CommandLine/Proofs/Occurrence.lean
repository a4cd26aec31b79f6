import CommandLine.Proofs.Given

/-!
# Occurrences of options

An argument before the first `--` recognises the options that are looked up in it with success: the
one of a known long name, or those of the letters of a cluster up to the first one that is unknown
or takes the rest as its value. The recognised occurrences of a command line are exactly the options
that its layout mentions, in the same order, and so are the mentions among its events.
-/

namespace CommandLine

/-! ### What an argument recognises -/

namespace Model

/-- The letters of a cluster that are looked up with success. -/
def letters (model : Model) : List (Char × String) → List Mention
  | [] => []
  | (letter, _) :: others =>
    match model.mentionShort? letter with
    | none => []
    | some mention => if mention.kind.isFlag then mention :: letters model others else [mention]

/-- The options that an argument recognises by itself. -/
def recognised (model : Model) (argument : String) : List Mention :=
  match classify argument with
  | .long name _ => if name = "" then [] else (model.mentionLong? name).toList
  | .short cluster => model.letters cluster.options
  | .terminator | .positional _ => []

/-- The recognised occurrences of options in a command line, in order. -/
def occurrences (model : Model) (arguments : List String) : List Mention :=
  (beforeTerminator arguments).flatMap model.recognised

end Model

def Piece.mention? : Piece → Option Mention
  | .option mention _ _ => some mention
  | .unknown .. | .malformed _ | .positional _ => none

def Event.mention? : Event → Option Mention
  | .mention found => some found
  | .store .. | .report _ => none

lemma Piece.filterMap_place?_eq (pieces : List Piece) :
    pieces.filterMap place? = (pieces.filterMap mention?).map (·.option) := by
  rw [List.map_filterMap]
  congr 1
  funext piece
  cases piece <;> rfl

/-! ### Mentions of a layout -/

section Layout

variable {model : Model}

lemma Piece.filterMap_mention?_positional (texts : List String) :
    (texts.map positional).filterMap mention? = [] := by
  rw [List.filterMap_map, List.filterMap_eq_nil_iff]
  intro text _
  rfl

lemma Piece.mention?_taking (piece : Piece) (texts : List String) :
    (piece.taking texts).mention? = piece.mention? := by
  cases piece <;> rfl

/-- Followers mention no option. -/
lemma Piece.filterMap_mention?_attach (pieces : List Piece) (followers : List String) :
    (attach pieces followers).filterMap mention? = pieces.filterMap mention? := by
  induction pieces, followers using attach.induct with
  | case1 followers => exact filterMap_mention?_positional followers
  | case2 last followers =>
    rw [attach, List.filterMap_cons, filterMap_mention?_positional, mention?_taking]
    rfl
  | case3 first second others followers ih =>
    rw [attach, List.filterMap_cons, ih, ← List.filterMap_cons]

lemma Model.filterMap_mention?_clusterPieces (argument : String) (entries : List (Char × String)) :
    (model.clusterPieces argument entries).filterMap Piece.mention? = model.letters entries := by
  induction entries with
  | nil => rfl
  | cons entry others ih =>
    obtain ⟨letter, rest⟩ := entry
    rw [clusterPieces, letters]
    cases model.mentionShort? letter with
    | none => rfl
    | some mention =>
      dsimp only
      split_ifs
      · rw [List.filterMap_cons, ih]
        rfl
      · rfl
      · rfl

lemma Model.filterMap_mention?_headPieces (argument : String) :
    (model.headPieces argument (classify argument)).filterMap Piece.mention? =
      model.recognised argument := by
  rw [recognised]
  cases classify argument with
  | terminator => rfl
  | positional text => rfl
  | short cluster => exact filterMap_mention?_clusterPieces argument cluster.options
  | long name value =>
    simp only [headPieces]
    split_ifs
    · rfl
    · cases model.mentionLong? name <;> rfl

lemma Model.recognised_of_isLoose {argument : String} (h : isLoose argument = true) :
    model.recognised argument = [] := by
  rw [recognised, classify_of_isLoose h]

lemma Model.filterMap_mention?_openPieces (arguments : List String) :
    (model.openPieces arguments).filterMap Piece.mention? =
      arguments.flatMap model.recognised := by
  rw [openPieces, List.filterMap_append, Piece.filterMap_mention?_positional, List.nil_append]
  induction arguments with
  | nil => rfl
  | cons argument rest ih =>
    rw [List.flatMap_cons, ← ih]
    cases hloose : isLoose argument with
    | true => rw [clauses_cons_of_isLoose hloose, recognised_of_isLoose hloose, List.nil_append]
    | false =>
      rw [clauses_cons_of_not_isLoose hloose, List.flatMap_cons, List.filterMap_append,
        clausePieces, Piece.filterMap_mention?_attach, filterMap_mention?_headPieces]

/-- The layout of a command line mentions what it recognises. -/
lemma Model.filterMap_mention?_layout (arguments : List String) :
    (model.layout arguments).filterMap Piece.mention? = model.occurrences arguments := by
  rw [layout, List.filterMap_append, Piece.filterMap_mention?_positional, List.append_nil,
    filterMap_mention?_openPieces, occurrences]

end Layout

/-! ### Mentions among events -/

section Events

variable {model : Model}

lemma Tally.filterMap_mention?_noted (tally : Tally) (mention : Mention) :
    (tally.noted mention).filterMap Event.mention? = [mention] := by
  rw [noted]
  split_ifs <;> rfl

lemma Tally.filterMap_mention?_account (tally : Tally) (pieces : List Piece) :
    (tally.account model pieces).filterMap Event.mention? = pieces.filterMap Piece.mention? := by
  induction pieces generalizing tally with
  | nil => rfl
  | cons piece rest ih =>
    rw [account_cons, List.filterMap_append, ih]
    cases piece with
    | unknown name argument inline => rfl
    | malformed argument => rfl
    | positional text =>
      simp only [events, Model.placed]
      split
      · rfl
      · split_ifs <;> rfl
    | option mention inline taken =>
      rw [events, List.filterMap_append, filterMap_mention?_noted,
        mention.filterMap_settle (fun _ => rfl) (fun _ => rfl)]
      rfl

/-- All events of a command line mention what it recognises. -/
theorem Model.filterMap_mention?_account (arguments : List String) :
    (model.account arguments).filterMap Event.mention? = model.occurrences arguments := by
  rw [account, Tally.total, List.filterMap_append, Tally.filterMap_mention?_account,
    Event.filterMap_reports (fun _ => rfl) fun _ => Tally.eq_report_of_mem_omissions,
    List.append_nil, filterMap_mention?_layout]

end Events

end CommandLine
