import CommandLine.Proofs.CommandTable
import CommandLine.Proofs.Genuine
import CommandLine.Proofs.Reflow

/-!
# Lines of help screens

The lines of a help screen can be told from the model and the errors. Whatever text comes from
outside is quoted, reflowed or indented, so neither an argument nor a description nor the wording of
an error can take the place of a header.
-/

namespace CommandLine

/-! ### Sections -/

namespace Help

/-- A line in a section: two spaces stand in front unless it is empty. -/
def indented (line : String) : String :=
  if line = "" then "" else "  " ++ line

lemma indented_of_ne {line : String} (h : line ≠ "") : indented line = "  " ++ line :=
  if_neg h

lemma toList_indented (line : String) :
    (indented line).toList =
      if line.toList = [] then [] else ' ' :: ' ' :: line.toList := by
  rw [indented]
  by_cases h : line = "" <;> simp [h]

lemma singleLine_indented {line : String} (h : SingleLine line) : SingleLine (indented line) := by
  rw [indented]
  split_ifs
  · decide
  · exact singleLine_append.mpr ⟨by decide, h⟩

/-- Indentation of a text is indentation of its lines. -/
lemma hasLines_indent {text : String} {lines : List String} (h : HasLines text lines) :
    HasLines (String.ofList (indent text.toList)) (lines.map indented) := by
  refine .ofToList ?_ (List.forall_mem_map.mpr fun line hline =>
    singleLine_indented (h.single line hline))
  rw [String.toList_ofList, indent, h.pieces_eq, List.map_append, List.map_singleton, if_pos rfl,
    Text.joined_append_singleton, List.append_nil, List.map_map, List.map_map]
  refine congrArg (List.flatMap _) (List.map_congr_left fun line _ => ?_)
  exact (toList_indented line).symm

/-- Entries take the lines that they have themselves. -/
lemma hasLines_entries (entries : List String) :
    HasLines (String.join (entries.map (· ++ "\n"))) (entries.flatMap Text.linesOf) := by
  induction entries with
  | nil => exact .nil
  | cons entry rest ih =>
    have hentry : HasLines (entry ++ "\n") (Text.linesOf entry) := by
      refine .ofToList ?_ fun line => Text.singleLine_of_mem_linesOf
      obtain ⟨broken, last, hpieces⟩ := Text.exists_pieces_eq '\n' entry.toList
      have htext : entry.toList = broken.flatMap (· ++ ['\n']) ++ last := by
        rw [← Text.joined_append_singleton, ← hpieces, Text.joined_pieces]
      rw [String.toList_append, Text.map_toList_linesOf, hpieces, htext]
      simp
    have hjoin : String.join ((entry :: rest).map (· ++ "\n")) =
        entry ++ "\n" ++ String.join (rest.map (· ++ "\n")) :=
      String.toList_injective (by simp [String.toList_join])
    rw [hjoin, List.flatMap_cons]
    exact hentry.append ih

/-- The lines of a section: an empty one and the header before those inside. -/
def sectionLines (header : String) (lines : List String) : List String :=
  if lines = [] then [] else "" :: (header ++ ":") :: lines

lemma lines_ne_nil {body : List String} (h : body ≠ []) :
    (body.flatMap Text.linesOf).map indented ≠ [] := by
  obtain ⟨entry, rest, rfl⟩ := List.exists_cons_of_ne_nil h
  simp [Text.linesOf, Text.pieces_ne_nil]

lemma hasLines_sectionText {header : String} (hheader : SingleLine header) {body : List String}
    (hbody : body ≠ []) :
    HasLines (sectionText header body)
      (sectionLines header ((body.flatMap Text.linesOf).map indented)) := by
  have hempty : HasLines ("" ++ "\n") [""] := .single_line (by decide)
  have hfirst : HasLines (header ++ ":" ++ "\n") [header ++ ":"] :=
    .single_line (singleLine_append.mpr ⟨hheader, by decide⟩)
  have hstart : "\n" ++ header ++ ":\n" = "" ++ "\n" ++ (header ++ ":" ++ "\n") :=
    String.toList_injective (by simp)
  rw [sectionLines, if_neg (lines_ne_nil hbody), sectionText, hstart]
  exact (hempty.append hfirst).append (hasLines_indent (hasLines_entries body))

/-- Every single line takes one line. -/
lemma lines_of_single {body : List String} (h : ∀ entry ∈ body, SingleLine entry ∧ entry ≠ "") :
    (body.flatMap Text.linesOf).map indented = body.map ("  " ++ ·) := by
  induction body with
  | nil => rfl
  | cons entry rest ih =>
    obtain ⟨⟨hsingle, hne⟩, hrest⟩ := List.forall_mem_cons.mp h
    rw [List.flatMap_cons, Text.linesOf_of_singleLine hsingle, List.map_append, ih hrest,
      List.map_singleton, indented_of_ne hne]
    rfl

lemma hasLines_optionalSection {header : String} (hheader : SingleLine header) {body : List String}
    (hbody : ∀ entry ∈ body, SingleLine entry ∧ entry ≠ "") :
    HasLines (optionalSection header body) (sectionLines header (body.map ("  " ++ ·))) := by
  rw [optionalSection]
  split_ifs with hnone
  · rw [hnone]
    exact .nil
  · have hlines := lines_of_single hbody
    rw [← hlines]
    exact hasLines_sectionText hheader hnone

/-! ### The model -/

/-- The names of a model are not empty and hold no line feed. -/
structure PlainNames (model : Model) : Prop where
  options : ∀ option ∈ model.options, SingleLine option.tags.display
  parameters : ∀ parameter ∈ model.parameters, SingleLine parameter.name ∧ parameter.name ≠ ""
  remaining : ∀ remaining ∈ model.remaining, SingleLine remaining.name
  commands : ∀ command ∈ model.commands,
    SingleLine (", ".intercalate command.aliases) ∧ ", ".intercalate command.aliases ≠ ""

lemma singleLine_describe {item : String} (h : SingleLine item) (description : String) :
    SingleLine (describe item description) := by
  rw [describe]
  split_ifs
  · exact h
  · refine singleLine_append.mpr ⟨singleLine_append.mpr ⟨h, by decide⟩, ?_⟩
    rw [SingleLine, String.toList_ofList]
    exact Text.not_mem_reflow _

lemma describe_ne {item : String} (h : item ≠ "") (description : String) :
    describe item description ≠ "" := by
  rw [describe]
  split_ifs
  · exact h
  · simp [h]

def titleLines (info : ProgramInfo) : List String :=
  (info.name ++ " " ++ info.version) ::
    info.copyright.toList.map fun copyright => "Copyright (C) " ++ copyright

lemma hasLines_title {info : ProgramInfo} (hname : SingleLine info.name)
    (hversion : SingleLine info.version)
    (hcopyright : ∀ copyright ∈ info.copyright, SingleLine copyright) :
    HasLines (title info) (titleLines info) := by
  have hfirst : HasLines (info.name ++ " " ++ info.version ++ "\n")
      [info.name ++ " " ++ info.version] :=
    .single_line (by simpa using ⟨⟨hname, by decide⟩, hversion⟩)
  rw [title, titleLines]
  cases hinfo : info.copyright with
  | none => exact hfirst.append .nil
  | some copyright =>
    have hsecond : HasLines ("Copyright (C) " ++ copyright ++ "\n")
        ["Copyright (C) " ++ copyright] :=
      .single_line (singleLine_append.mpr ⟨by decide, hcopyright copyright hinfo⟩)
    exact hfirst.append hsecond

def errorLines (model : Model) (errors : ParseErrors) : List String :=
  ((errors.messages model.info.messages).flatMap Text.linesOf).map indented

lemma messages_ne_nil (errors : ParseErrors) (table : Option MessageTable) :
    errors.messages table ≠ [] := by
  simpa [ParseErrors.messages] using errors.nonempty

/-- The sections of a help screen with their lines. -/
def sections (model : Model) (errors : ParseErrors) : List (String × List String) :=
  [("ERROR(S)", errorLines model errors),
    ("OPTIONS", model.options.map fun option =>
      "  " ++ describe option.tags.display option.description),
    ("PARAMETERS",
      (model.parameters.map fun parameter =>
        "  " ++ describe parameter.name parameter.description) ++
      model.remaining.toList.map fun remaining =>
        "  " ++ describe (remaining.name ++ "...") remaining.description),
    ("COMMANDS", model.commands.map fun command =>
      "  " ++ describe (", ".intercalate command.aliases) command.description)]

lemma sections_eq (model : Model) (errors : ParseErrors) :
    sections model errors =
      [("ERROR(S)", errorLines model errors),
        ("OPTIONS", (optionLines model).map ("  " ++ ·)),
        ("PARAMETERS", (parameterLines model).map ("  " ++ ·)),
        ("COMMANDS", (commandLines model).map ("  " ++ ·))] := by
  rw [sections, optionLines, parameterLines, commandLines, List.map_append, List.map_map,
    List.map_map, List.map_map, List.map_map]
  rfl

/-- The lines of a help screen, section by section. -/
lemma hasLines_screen {model : Model} (hnames : PlainNames model) {errors : ParseErrors}
    (hname : SingleLine model.info.name) (hversion : SingleLine model.info.version)
    (hcopyright : ∀ copyright ∈ model.info.copyright, SingleLine copyright) :
    HasLines (screen model (some errors)) (titleLines model.info ++
      (sections model errors).flatMap fun part => sectionLines part.1 part.2) := by
  have herrors : HasLines (errorSection model (some errors))
      (sectionLines "ERROR(S)" (errorLines model errors)) := by
    have hheader : SingleLine "ERROR(S)" := by decide
    exact hasLines_sectionText hheader (messages_ne_nil errors _)
  have hoptions : HasLines (optionalSection "OPTIONS" (optionLines model))
      (sectionLines "OPTIONS" ((optionLines model).map ("  " ++ ·))) := by
    refine hasLines_optionalSection (by decide) (List.forall_mem_map.mpr fun option hoption => ?_)
    refine ⟨singleLine_describe (hnames.options option hoption) _, describe_ne ?_ _⟩
    cases option.tags <;> simp [Tags.display]
  have hparameters : HasLines (optionalSection "PARAMETERS" (parameterLines model))
      (sectionLines "PARAMETERS" ((parameterLines model).map ("  " ++ ·))) := by
    refine hasLines_optionalSection (by decide) (List.forall_mem_append.mpr
      ⟨List.forall_mem_map.mpr fun parameter hparameter => ?_,
        List.forall_mem_map.mpr fun remaining hremaining => ?_⟩)
    · obtain ⟨hsingle, hne⟩ := hnames.parameters parameter hparameter
      exact ⟨singleLine_describe hsingle _, describe_ne hne _⟩
    · have hsingle := hnames.remaining remaining (by simpa using hremaining)
      refine ⟨singleLine_describe (singleLine_append.mpr ⟨hsingle, by decide⟩) _, describe_ne ?_ _⟩
      simp
  have hcommands : HasLines (optionalSection "COMMANDS" (commandLines model))
      (sectionLines "COMMANDS" ((commandLines model).map ("  " ++ ·))) := by
    refine hasLines_optionalSection (by decide) (List.forall_mem_map.mpr fun command hcommand => ?_)
    obtain ⟨hsingle, hne⟩ := hnames.commands command hcommand
    exact ⟨singleLine_describe hsingle _, describe_ne hne _⟩
  have hall := ((((hasLines_title hname hversion hcopyright).append herrors).append
    hoptions).append hparameters).append hcommands
  simpa [screen, sections_eq] using hall

end Help

/-! ### Accepted names -/

/-- A text without blanks is a single line. -/
lemma singleLine_of_any {text : String} (h : text.toList.any Text.isBlank = false) :
    SingleLine text := by
  intro hfeed
  have hblank := List.any_eq_false.mp h '\n' hfeed
  exact hblank (by decide)

lemma Field.singleLine_of_checkLong {tag : String} (h : checkLong tag = .ok tag) :
    SingleLine tag := by
  rw [checkLong] at h
  split at h
  · simp at h
  · simp at h
  · simp at h
  · next c rest _ _ htag =>
    split_ifs at h with _ _ hblank
    exact singleLine_of_any (by simpa only [htag, Bool.not_eq_true] using hblank)

lemma Field.name_of_checkName {name found : String} (h : checkName name = .ok found) :
    SingleLine found ∧ found ≠ "" := by
  rw [checkName] at h
  split_ifs at h with hempty hblank
  obtain rfl := Except.ok.inj h
  exact ⟨singleLine_of_any (by simpa using hblank), hempty⟩

lemma Tags.Sound.singleLine {tags : Tags} (h : tags.Sound) : SingleLine tags.display := by
  have hletter {letter : Char} (hcheck : Field.checkShort letter = .ok letter) :
      SingleLine (String.singleton letter) := by
    obtain ⟨-, halphabetic⟩ := Field.spelling_of_checkShort hcheck
    rw [SingleLine, String.toList_singleton, List.mem_singleton]
    rintro rfl
    exact absurd halphabetic (by decide)
  cases tags with
  | long name =>
    exact singleLine_append.mpr ⟨by decide, Field.singleLine_of_checkLong (h.long name rfl)⟩
  | short letter => exact singleLine_append.mpr ⟨by decide, hletter (h.short letter rfl)⟩
  | both name letter =>
    rw [Tags.display]
    simp only [singleLine_append]
    exact ⟨⟨⟨by decide, hletter (h.short letter rfl)⟩, by decide⟩,
      Field.singleLine_of_checkLong (h.long name rfl)⟩

lemma IsAlias.singleLine {text : String} (h : IsAlias text) : SingleLine text ∧ text ≠ "" := by
  obtain ⟨hyphens, name, hhyphens, htext, hname⟩ := h
  constructor
  · rw [SingleLine, htext, List.mem_append, not_or]
    constructor
    · simp only [List.mem_cons, List.not_mem_nil, or_false] at hhyphens
      rcases hhyphens with rfl | rfl | rfl <;> decide
    · intro hfeed
      exact absurd (hname.characters '\n' hfeed) (by decide)
  · rintro rfl
    obtain ⟨letter, hletter, -⟩ := hname.start
    obtain ⟨-, rfl⟩ := List.append_eq_nil_iff.mp htext.symm
    simp at hletter

/-- Aliases that are listed on one line. -/
lemma singleLine_intercalate {aliases : List String} (hne : aliases ≠ [])
    (h : ∀ text ∈ aliases, IsAlias text) :
    SingleLine (", ".intercalate aliases) ∧ ", ".intercalate aliases ≠ "" := by
  induction aliases with
  | nil => exact absurd rfl hne
  | cons first rest ih =>
    obtain ⟨hfirst, hrest⟩ := List.forall_mem_cons.mp h
    obtain ⟨hsingle, hnonempty⟩ := hfirst.singleLine
    cases rest with
    | nil => simpa using ⟨hsingle, hnonempty⟩
    | cons next others =>
      obtain ⟨hothers, -⟩ := ih (List.cons_ne_nil next others) hrest
      rw [String.intercalate_cons_cons]
      simp only [singleLine_append]
      exact ⟨⟨⟨hsingle, by decide⟩, hothers⟩, by simp [hnonempty]⟩

/-- The name under which a field is shown is not empty and holds no line feed. -/
def Field.PlainName : Field → Prop
  | .option _ => True
  | .parameter field _ => SingleLine field.name ∧ field.name ≠ ""
  | .remaining field => SingleLine field.name ∧ field.name ≠ ""

lemma Field.plainName_of_ofDeclaration {source : FieldDeclaration} {field : Field}
    (h : ofDeclaration source = .ok field) : field.PlainName := by
  obtain ⟨settings, shape, docs, -, -, hrole⟩ := exists_of_ofDeclaration h
  cases hrole with
  | option => trivial
  | parameter _ hparameter =>
    simp only [asParameter, Except.bind_eq_ok_iff] at hparameter
    obtain ⟨_, _, name, hname, hfield⟩ := hparameter
    rw [← Except.ok.inj hfield]
    exact name_of_checkName hname
  | remaining _ hremaining =>
    simp only [asRemaining, Except.bind_eq_ok_iff] at hremaining
    obtain ⟨_, _, _, _, _, _, _, _, name, hname, hfield⟩ := hremaining
    rw [← Except.ok.inj hfield]
    exact name_of_checkName hname

lemma Field.names_sublist {sources : List FieldDeclaration} {fields : List Field}
    (h : List.Forall₂ (fun source field => ofDeclaration source = .ok field) sources fields) :
    ((fields.filterMap Field.option?).map (·.base.name)).Sublist
      (sources.map fun source => unmarked source.name) := by
  induction h with
  | nil => exact .slnil
  | @cons source field sources fields hfirst hrest ih =>
    obtain ⟨settings, shape, docs, -, -, hrole⟩ := exists_of_ofDeclaration hfirst
    cases hrole with
    | @option found _ hoption =>
      have hcons : (Field.option found :: fields).filterMap Field.option? =
          found :: fields.filterMap Field.option? := rfl
      have hname : found.base.name = unmarked source.name :=
        congrArg FieldBase.name (sound_of_asOption hoption).1
      rw [hcons, List.map_cons, List.map_cons, hname]
      exact ih.cons_cons _
    | parameter | remaining => exact ih.cons _

namespace Interface

variable {α : Type} {interface : Interface} {environment : Environment α}

lemma plainNames_of_ofDeclaration {declaration : Declaration}
    (accepted : ofDeclaration declaration = .ok interface) :
    Help.PlainNames (interface.model environment) := by
  obtain ⟨settings, fields, hinterface, hsource⟩ := exists_source accepted
  obtain ⟨-, hparameters, hremaining⟩ := mem_fields_of_ofFields hinterface
  refine ⟨?_, ?_, ?_, ?_⟩
  · refine List.forall_mem_map.mpr fun field hfield => ?_
    exact ((sound_of_ofDeclaration accepted).options field hfield).2.singleLine
  · intro parameter hparameter
    obtain ⟨place, hplace⟩ := List.mem_iff_getElem?.mp hparameter
    obtain ⟨field, hfield, rfl⟩ := parameter_eq_some_iff.mp hplace
    obtain ⟨index, hmem⟩ := hparameters field (List.mem_of_getElem? hfield)
    obtain ⟨source, -, hcheck⟩ := hsource _ hmem
    exact Field.plainName_of_ofDeclaration hcheck
  · intro remaining hmem
    obtain ⟨field, hfield, rfl⟩ := Option.map_eq_some_iff.mp hmem
    obtain ⟨source, -, hcheck⟩ := hsource _ (hremaining field hfield)
    have hplain : (Field.remaining field).PlainName := Field.plainName_of_ofDeclaration hcheck
    exact hplain.1
  · obtain ⟨found, _, hfound, -, hstages⟩ := exists_of_ofDeclaration accepted
    have hsettings := (settings_and_options_of_ofFields hstages).1
    refine List.forall_mem_map.mpr fun command hcommand => ?_
    rw [hsettings] at hcommand
    obtain ⟨hne, haliases⟩ := ProgramSettings.aliases_of_check
      (ProgramSettings.check_of_ofAttributes hfound) command hcommand
    exact singleLine_intercalate hne haliases

end Interface

/-! ### Reported errors -/

/-- What an error says without quotes is taken from the model. -/
def ParseError.Named (model : Model) : ParseError → Prop
  | .badParameterValue _ parameter _ | .missingParameter parameter _ =>
    ∃ spec ∈ model.parameters, spec.name = parameter
  | .missingOption tags => ∃ option ∈ model.options, option.tags = tags
  | _ => True

namespace ParseError

lemma message_ne (error : ParseError) : error.message ≠ "" := by
  unfold message
  cases error <;> simp [position]

lemma singleLine_position {parameter : String} (h : SingleLine parameter) (index : Nat) :
    SingleLine (position parameter index) := by
  rw [position]
  simp +decide only [singleLine_append, singleLine_toString, h, and_self]

lemma singleLine_message {model : Model} (hnames : Help.PlainNames model) {error : ParseError}
    (h : error.Named model) : SingleLine error.message := by
  unfold message
  cases error with
  | unknownOption | unrecognizedArgument | optionValueMissing | duplicateOption | badOptionValue
    | badRemainingValue | flagValue =>
    simp +decide only [singleLine_append, singleLine_quote, singleLine_toString, and_self]
  | badParameterValue value parameter index =>
    obtain ⟨spec, hspec, rfl⟩ := h
    have hposition := singleLine_position (hnames.parameters spec hspec).1 index
    simp +decide only [singleLine_append, singleLine_quote, hposition, and_self]
  | missingParameter parameter index =>
    obtain ⟨spec, hspec, rfl⟩ := h
    have hposition := singleLine_position (hnames.parameters spec hspec).1 index
    simp +decide only [singleLine_append, hposition, and_self]
  | missingOption tags =>
    obtain ⟨option, hoption, rfl⟩ := h
    simp +decide only [singleLine_append, hnames.options option hoption, and_self]

end ParseError

namespace Interface

variable {α : Type} {interface : Interface} {environment : Environment α}

lemma named_of_mem_reported {declaration : Declaration}
    (accepted : ofDeclaration declaration = .ok interface) {arguments : List String}
    {error : ParseError}
    (h : error ∈ ((interface.program environment).parse arguments).reported) :
    error.Named (interface.model environment) := by
  cases hread : Reader.readAll (interface.model environment) .initial arguments with
  | error command =>
    have hparse : (interface.program environment).parse arguments = .command command := by
      rw [Program.parse]
      simp only [program, hread]
    rw [hparse] at h
    simp [Outcome.reported] at h
  | ok outcome =>
    obtain ⟨reader, events⟩ := outcome
    rcases (mem_reported_iff (sound_of_ofDeclaration accepted) hread).mp h with
      ⟨before, piece, after, -, hblames⟩ | hoption | hparameter
    · cases hblames with
      | parameterValue hparameter => exact ⟨_, List.mem_of_getElem? hparameter, rfl⟩
      | duplicate | flagValue | valueMissing | optionValue | unknown | malformed | remainingValue
        | unrecognized => trivial
    · obtain ⟨⟨option, place⟩, hentry, rfl⟩ := List.mem_map.mp hoption
      have hmem := List.mem_zipIdx_iff_getElem?.mp (List.mem_of_mem_filter hentry)
      exact ⟨option, List.mem_of_getElem? hmem, rfl⟩
    · obtain ⟨parameter, hentry, rfl⟩ := List.mem_map.mp hparameter
      exact ⟨parameter, List.mem_of_mem_filter hentry, rfl⟩

/-- Options stand in the order in which their fields are declared. -/
lemma names_sublist {declaration : Declaration}
    (accepted : ofDeclaration declaration = .ok interface) :
    ((interface.model environment).options.map (·.field)).Sublist
      (declaration.fields.map fun field => unmarked field.name) := by
  obtain ⟨_, fields, -, hfields, hinterface⟩ := exists_of_ofDeclaration accepted
  rw [model, (settings_and_options_of_ofFields hinterface).2, List.map_map]
  refine Field.names_sublist ((mapM_eq_ok_iff.mp hfields).imp fun source field hfield => ?_)
  exact Except.mapError_eq_ok_iff.mp hfield

end Interface

/-! ### The whole screen -/

namespace Help

/-- Two spaces stand in front of the line. -/
def Indented (line : String) : Prop :=
  [' ', ' '] <+: line.toList

instance (line : String) : Decidable (Indented line) :=
  inferInstanceAs (Decidable ([' ', ' '] <+: line.toList))

lemma indented_append (line : String) : Indented ("  " ++ line) :=
  ⟨line.toList, by simp⟩

lemma eq_empty_or_indented (line : String) : indented line = "" ∨ Indented (indented line) := by
  rw [indented]
  split_ifs
  · exact .inl rfl
  · exact .inr (indented_append line)

/-- The only lines of a section that are not empty and not indented are headers. -/
lemma filter_sectionLines {header : String} (hheader : ¬ Indented (header ++ ":"))
    {lines : List String} (hlines : ∀ line ∈ lines, line = "" ∨ Indented line) :
    (sectionLines header lines).filter (fun line => line ≠ "" ∧ ¬ Indented line) =
      if lines = [] then [] else [header ++ ":"] := by
  rw [sectionLines]
  split_ifs
  · rfl
  · have hnone : lines.filter (fun line => line ≠ "" ∧ ¬ Indented line) = [] :=
      List.filter_eq_nil_iff.mpr fun line hline => by
        rcases hlines line hline with rfl | hindented <;> simp_all
    rw [List.filter_cons_of_neg (by simp), List.filter_cons_of_pos (by simpa using hheader), hnone]

/-- Whatever the wordings are, all lines inside of sections are empty or indented. -/
lemma forall_sections (model : Model) (errors : ParseErrors) :
    ∀ part ∈ sections model errors, ¬ Indented (part.1 ++ ":") ∧
      ∀ line ∈ part.2, line = "" ∨ Indented line := by
  have hall {β : Type} (entries : List β) (item : β → String) :
      ∀ line ∈ entries.map fun entry => "  " ++ item entry, line = "" ∨ Indented line :=
    List.forall_mem_map.mpr fun entry _ => .inr (indented_append (item entry))
  simp only [sections, List.forall_mem_cons, List.not_mem_nil, false_implies, implies_true,
    and_true]
  refine ⟨⟨by decide, ?_⟩, ⟨by decide, hall _ _⟩, ⟨by decide, ?_⟩, ⟨by decide, hall _ _⟩⟩
  · exact List.forall_mem_map.mpr fun line _ => eq_empty_or_indented line
  · exact List.forall_mem_append.mpr ⟨hall _ _, hall _ _⟩

/-- Every line that is neither empty nor indented is a header. -/
lemma filter_sections (model : Model) (errors : ParseErrors) :
    ((sections model errors).flatMap fun part => sectionLines part.1 part.2).filter
        (fun line => line ≠ "" ∧ ¬ Indented line) =
      ((sections model errors).filter (·.2 ≠ [])).map (·.1 ++ ":") := by
  have hparts := forall_sections model errors
  generalize sections model errors = parts at hparts ⊢
  induction parts with
  | nil => rfl
  | cons part rest ih =>
    obtain ⟨⟨hheader, hlines⟩, hrest⟩ := List.forall_mem_cons.mp hparts
    rw [List.flatMap_cons, List.filter_append, filter_sectionLines hheader hlines, ih hrest]
    by_cases hnone : part.2 = [] <;> simp [hnone]

end Help

namespace Interface

variable {α : Type} {interface : Interface} {environment : Environment α}

end Interface

end CommandLine
