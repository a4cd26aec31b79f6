import CommandLine.Proofs.Clause
import CommandLine.Reader

/-!
# Layout of a command line

A command line says, piece by piece, which options it mentions and what belongs to them, what is
wrong with its form, and which arguments are positional. The pieces of a clause follow from the
clause alone: its head is evaluated by itself, and then the last piece of the head takes what it can
of the followers.

What a piece brings about depends on the pieces before it only through a tally: which options they
mention, and how many of them are positional.
-/

namespace CommandLine

/-! ### Pieces -/

inductive Piece where
  /-- An option of the model, with the text in its own argument and the followers that it takes. -/
  | option (mention : Mention) (inline : Option String) (taken : List String)
  /-- An option that the model does not have, in the argument that mentions it, with its text. -/
  | unknown (name argument : String) (inline : Option String)
  /-- A long option without a name. -/
  | malformed (argument : String)
  | positional (text : String)
  deriving DecidableEq, Repr

namespace Piece

/-- How many of its followers a piece takes. A flag takes none, unless it can be absent and a truth
value follows; a sequence takes all; any other option takes one if it has no text yet; and an
unknown option takes one under the same condition, whatever it is. -/
def appetite (followers : List String) : Piece → Nat
  | .option mention inline _ =>
    if mention.kind.isFlag then
      if mention.kind.isNullableFlag ∧ inline = none ∧
          followers.head?.any (fun text => (Decoder.truth? text).isSome) then 1
      else 0
    else if mention.kind.isSequence then followers.length
    else if inline = none then 1
    else 0
  | .unknown _ _ inline => if inline = none then 1 else 0
  | .malformed _ | .positional _ => 0

/-- An option that has taken some followers. -/
def taking (texts : List String) : Piece → Piece
  | .option mention inline _ => .option mention inline texts
  | piece => piece

/-- The last piece of a head takes what it can of the followers. The others are positional. -/
def attach : List Piece → List String → List Piece
  | [], followers => followers.map .positional
  | [last], followers =>
    last.taking (followers.take (last.appetite followers)) ::
      (followers.drop (last.appetite followers)).map .positional
  | piece :: next :: others, followers => piece :: attach (next :: others) followers

lemma attach_cons_of_ne_nil {piece : Piece} {others : List Piece} (h : others ≠ [])
    (followers : List String) :
    attach (piece :: others) followers = piece :: attach others followers := by
  cases others with
  | nil => exact absurd rfl h
  | cons next rest => rfl

end Piece

/-! ### Layout -/

namespace Model

/-- The pieces of a cluster: its letters up to the first one that is unknown or needs a text. -/
def clusterPieces (model : Model) (argument : String) : List (Char × String) → List Piece
  | [] => []
  | (letter, rest) :: others =>
    match model.mentionShort? letter with
    | none => [.unknown (String.singleton letter) argument none]
    | some mention =>
      if mention.kind.isFlag then .option mention none [] :: clusterPieces model argument others
      else [.option mention (if rest = "" then none else some rest) []]

/-- The pieces of a head by itself. -/
def headPieces (model : Model) (argument : String) : Token → List Piece
  | .terminator | .positional _ => []
  | .long name value =>
    if name = "" then [.malformed argument]
    else
      match model.mentionLong? name with
      | none => [.unknown name argument value]
      | some mention => [.option mention value []]
  | .short cluster => model.clusterPieces argument cluster.options

def clausePieces (model : Model) (clause : Clause) : List Piece :=
  Piece.attach (model.headPieces clause.head (classify clause.head)) clause.followers

/-- The pieces of arguments among which there is no `--`. -/
def openPieces (model : Model) (arguments : List String) : List Piece :=
  (clauses arguments).1.map .positional ++ (clauses arguments).2.flatMap model.clausePieces

def layout (model : Model) (arguments : List String) : List Piece :=
  model.openPieces (beforeTerminator arguments) ++ (afterTerminator arguments).map .positional

end Model

/-! ### What pieces bring about -/

/-- What the texts of an option bring about. A flag stores `true` and cannot have a text in its own
argument; any other option needs a text. -/
def Mention.settle (mention : Mention) (inline : Option String) (taken : List String) :
    List Event :=
  if mention.kind.isFlag then
    match inline with
    | some text => [.report (.flagValue mention.name.text text)]
    | none => ("true" :: taken).map mention.store
  else
    match inline.toList ++ taken with
    | [] => [.report (.optionValueMissing mention.name.text)]
    | texts => texts.map mention.store

lemma Mention.settle_of_isFlag {mention : Mention} (h : mention.kind.isFlag = true)
    (taken : List String) : mention.settle none taken = ("true" :: taken).map mention.store := by
  simp [settle, h]

lemma Mention.settle_of_not_isFlag {mention : Mention} (h : mention.kind.isFlag = false)
    {inline : Option String} {taken : List String} (htexts : inline.toList ++ taken ≠ []) :
    mention.settle inline taken = (inline.toList ++ taken).map mention.store := by
  cases hcons : inline.toList ++ taken with
  | nil => exact absurd hcons htexts
  | cons text rest => simp [settle, h, hcons]

/-- A positional argument, counted from zero, goes to the parameter of its number, then to the
collector. -/
def Model.placed (model : Model) (number : Nat) (text : String) : Event :=
  match model.parameters[number]? with
  | some parameter =>
    .store (.parameter number) text (.badParameterValue text parameter.name parameter.index)
  | none =>
    if model.remaining.isSome then
      .store .remaining text (.badRemainingValue text (number - model.parameters.length))
    else .report (.unrecognizedArgument text)

/-- What the pieces so far come to. -/
structure Tally where
  /-- The places of the options that were mentioned. -/
  mentioned : List Nat
  /-- How many arguments were positional. -/
  positional : Nat
  deriving DecidableEq, Repr

namespace Tally

def zero : Tally :=
  ⟨[], 0⟩

def after (tally : Tally) : Piece → Tally
  | .option mention _ _ => { tally with mentioned := mention.option :: tally.mentioned }
  | .positional _ => { tally with positional := tally.positional + 1 }
  | .unknown .. | .malformed _ => tally

/-- An option of the model is recognised. It should not have been mentioned before. -/
def noted (tally : Tally) (mention : Mention) : List Event :=
  if mention.option ∈ tally.mentioned then
    [.mention mention, .report (.duplicateOption mention.name.text)]
  else [.mention mention]

def events (model : Model) (tally : Tally) : Piece → List Event
  | .option mention inline taken => tally.noted mention ++ mention.settle inline taken
  | .unknown name argument _ => [.report (.unknownOption name argument)]
  | .malformed argument => [.report (.unrecognizedArgument argument)]
  | .positional text => [model.placed tally.positional text]

def account (model : Model) (tally : Tally) : List Piece → List Event
  | [] => []
  | piece :: rest => tally.events model piece ++ account model (tally.after piece) rest

/-- The required options that are not mentioned, and then the required parameters that are not
given. -/
def omissions (model : Model) (tally : Tally) : List Event :=
  ((model.options.zipIdx.filter fun (option, place) =>
    option.required && place ∉ tally.mentioned).map
      fun (option, _) => .report (.missingOption option.tags)) ++
  ((model.parameters.drop tally.positional).filter (·.required)).map
    fun parameter => .report (.missingParameter parameter.name parameter.index)

/-- What pieces bring about, if nothing comes after them. -/
def total (model : Model) (tally : Tally) (pieces : List Piece) : List Event :=
  tally.account model pieces ++ (pieces.foldl after tally).omissions model

@[simp] lemma account_nil (model : Model) (tally : Tally) : tally.account model [] = [] := rfl

@[simp] lemma account_cons (model : Model) (tally : Tally) (piece : Piece) (rest : List Piece) :
    tally.account model (piece :: rest) =
      tally.events model piece ++ (tally.after piece).account model rest := rfl

@[simp] lemma total_cons (model : Model) (tally : Tally) (piece : Piece) (rest : List Piece) :
    tally.total model (piece :: rest) =
      tally.events model piece ++ (tally.after piece).total model rest := by
  simp [total]

end Tally

/-- All events of a command line: those of its pieces, and what is missing after them. -/
def Model.account (model : Model) (arguments : List String) : List Event :=
  Tally.zero.total model (model.layout arguments)

end CommandLine
