import CommandLine.LogSearch.Search
import CommandLine.Proofs.ByteLines
import CommandLine.Proofs.Digits

/-!
# Highlights

A search writes the same with and without highlights, but for the escape sequences around the
occurrences of the pattern. Since the inputs hold no escape sequences, those that are written can be
removed again.
-/

namespace CommandLine

/-! ### Replacements -/

namespace Text

variable {α : Type} [DecidableEq α] {pattern replacement front rest : List α} {first c : α}

lemma replaceFrom_eq_replaceAll_drop (pattern replacement : List α) (skipped : Nat)
    (text : List α) :
    replaceFrom pattern replacement skipped text =
      replaceAll pattern replacement (text.drop skipped) := by
  induction text generalizing skipped with
  | nil => rw [List.drop_nil, replaceAll, replaceFrom, replaceFrom]
  | cons c text ih =>
    cases skipped with
    | zero => rfl
    | succ skipped => rw [replaceFrom, ih, List.drop_succ_cons]

lemma replaceAll_cons_of_not_isPrefix (hne : pattern ≠ []) (h : ¬ pattern <+: c :: rest) :
    replaceAll pattern replacement (c :: rest) = c :: replaceAll pattern replacement rest := by
  rw [← List.isPrefixOf_iff_prefix] at h
  rw [replaceAll, replaceFrom, if_neg hne, if_neg h, replaceAll]

lemma replaceAll_append_self (hne : pattern ≠ []) :
    replaceAll pattern replacement (pattern ++ rest) =
      replacement ++ replaceAll pattern replacement rest := by
  obtain ⟨first, others, rfl⟩ := List.exists_cons_of_ne_nil hne
  have hstarts : (first :: others).isPrefixOf (first :: (others ++ rest)) = true :=
    List.isPrefixOf_iff_prefix.mpr (List.prefix_append (first :: others) rest)
  rw [List.cons_append, replaceAll, replaceFrom, if_neg hne, if_pos hstarts,
    replaceFrom_eq_replaceAll_drop, List.length_cons, Nat.add_sub_cancel, List.drop_left]

/-- Nothing is replaced where the pattern cannot begin. -/
lemma replaceAll_append_of_not_mem (h : first ∉ front) :
    replaceAll (first :: pattern) replacement (front ++ rest) =
      front ++ replaceAll (first :: pattern) replacement rest := by
  induction front with
  | nil => rfl
  | cons c front ih =>
    obtain ⟨hc, hfront⟩ := not_or.mp (List.mem_cons.not.mp h)
    have hstarts : ¬ first :: pattern <+: c :: (front ++ rest) :=
      fun hstarts => hc (List.cons_prefix_cons.mp hstarts).1
    rw [List.cons_append, replaceAll_cons_of_not_isPrefix (by simp) hstarts, ih hfront,
      List.cons_append]

end Text

namespace LogSearch

open Text (replaceAll)

/-! ### Texts with marks -/

def escape : Char :=
  '\x1b'

/-- The second text is the first one with some occurrences of the pattern between two marks. There
are no escape sequences but the marks, so that marks are in pairs around nothing but the pattern. -/
inductive Marked (opening closing pattern : List Char) : List Char → List Char → Prop
  | nil : Marked opening closing pattern [] []
  | other {c : Char} {plain marked : List Char} (hc : c ≠ escape)
      (h : Marked opening closing pattern plain marked) :
      Marked opening closing pattern (c :: plain) (c :: marked)
  | occurrence {plain marked : List Char} (hescape : escape ∉ pattern) (hfeed : '\n' ∉ pattern)
      (h : Marked opening closing pattern plain marked) :
      Marked opening closing pattern (pattern ++ plain)
        (opening ++ (pattern ++ (closing ++ marked)))

/-- The second text is the first one with some occurrences of the pattern highlighted. -/
def Highlights (pattern plain colored : List Char) : Prop :=
  Marked highlightStart highlightEnd pattern plain colored

def withoutMarks (text : List Char) : List Char :=
  replaceAll highlightEnd [] (replaceAll highlightStart [] text)

namespace Marked

variable {opening closing pattern plain marked other otherMarked : List Char}

lemma refl (h : escape ∉ plain) : Marked opening closing pattern plain plain := by
  induction plain with
  | nil => exact .nil
  | cons c plain ih =>
    obtain ⟨hc, hplain⟩ := not_or.mp (List.mem_cons.not.mp h)
    exact .other (Ne.symm hc) (ih hplain)

lemma append (h : Marked opening closing pattern plain marked)
    (hother : Marked opening closing pattern other otherMarked) :
    Marked opening closing pattern (plain ++ other) (marked ++ otherMarked) := by
  induction h with
  | nil => exact hother
  | other hc _ ih => exact .other hc ih
  | occurrence hescape hfeed _ ih =>
    simpa only [List.append_assoc] using Marked.occurrence hescape hfeed ih

/-- A mark is removed in front of all occurrences, behind them, or both. -/
lemma replaceAll_nil {mark newOpening newClosing : List Char} (hmark : mark.head? = some escape)
    (hopening : ∀ rest,
      replaceAll mark [] (opening ++ rest) = newOpening ++ replaceAll mark [] rest)
    (hclosing : ∀ rest,
      replaceAll mark [] (closing ++ rest) = newClosing ++ replaceAll mark [] rest)
    (h : Marked opening closing pattern plain marked) :
    Marked newOpening newClosing pattern plain (replaceAll mark [] marked) := by
  obtain ⟨others, rfl⟩ := List.head?_eq_some_iff.mp hmark
  induction h with
  | nil => exact .nil
  | @other c plain marked hc _ ih =>
    have hkept : replaceAll (escape :: others) [] (c :: marked) =
        c :: replaceAll (escape :: others) [] marked :=
      Text.replaceAll_append_of_not_mem (List.mem_singleton.not.mpr (Ne.symm hc))
    rw [hkept]
    exact .other hc ih
  | occurrence hescape hfeed _ ih =>
    rw [hopening, Text.replaceAll_append_of_not_mem hescape, hclosing]
    exact .occurrence hescape hfeed ih

lemma eq_of_no_marks (h : Marked [] [] pattern plain marked) : marked = plain := by
  induction h with
  | nil => rfl
  | other _ _ ih => rw [ih]
  | occurrence _ _ _ ih => rw [List.nil_append, List.nil_append, ih]

end Marked

lemma Highlights.replaced {pattern plain colored : List Char} (hescape : escape ∉ pattern)
    (hfeed : '\n' ∉ pattern) (h : Highlights pattern plain colored) :
    Highlights pattern (pattern ++ plain)
      (highlightStart ++ pattern ++ highlightEnd ++ colored) := by
  simpa only [Highlights, List.append_assoc] using Marked.occurrence hescape hfeed h

/-- Highlights can be removed again. -/
lemma Highlights.withoutMarks_eq {pattern plain colored : List Char}
    (h : Highlights pattern plain colored) : withoutMarks colored = plain := by
  have hclosed : Marked [] highlightEnd pattern plain (replaceAll highlightStart [] colored) :=
    h.replaceAll_nil rfl (fun rest => Text.replaceAll_append_self (by decide)) fun rest => rfl
  have hbare : Marked [] [] pattern plain (withoutMarks colored) :=
    hclosed.replaceAll_nil rfl (fun rest => rfl) fun rest =>
      Text.replaceAll_append_self (by decide)
  exact hbare.eq_of_no_marks

/-! ### Lines with marks -/

/-- An occurrence of the pattern lies in one line, so the lines are marked one by one. -/
lemma Highlights.forall₂_pieces {pattern plain colored : List Char}
    (h : Highlights pattern plain colored) :
    List.Forall₂ (Highlights pattern) (Text.pieces '\n' plain) (Text.pieces '\n' colored) := by
  have hstart : '\n' ∉ highlightStart := by decide
  have hend : '\n' ∉ highlightEnd := by decide
  induction h with
  | nil => exact .cons .nil .nil
  | @other c plain colored hc _ ih =>
    by_cases hfeed : c = '\n'
    · rw [Text.pieces, if_pos hfeed, Text.pieces, if_pos hfeed]
      exact .cons .nil ih
    · rw [Text.pieces_cons_of_ne hfeed, Text.pieces_cons_of_ne hfeed]
      exact forall₂_modifyHead (fun _ _ => .other hc) ih
  | occurrence hescape hfeed _ ih =>
    rw [Text.pieces_append_left hfeed, Text.pieces_append_left hstart,
      Text.pieces_append_left hfeed, Text.pieces_append_left hend, List.modifyHead_modifyHead,
      List.modifyHead_modifyHead]
    exact forall₂_modifyHead (fun _ _ => .occurrence hescape hfeed) ih

/-- Replacing the pattern highlights it, after some members that belong to a replaced one. -/
lemma highlights_replaceFrom {pattern text : List Char} (hescape : escape ∉ text)
    (hfeed : '\n' ∉ text) (skipped : Nat) :
    Highlights pattern (text.drop skipped)
      (Text.replaceFrom pattern (highlightStart ++ pattern ++ highlightEnd) skipped text) := by
  induction text generalizing skipped with
  | nil =>
    rw [List.drop_nil, Text.replaceFrom]
    split_ifs with hempty
    · subst hempty
      exact Highlights.replaced (by simp) (by simp) .nil
    · exact .nil
  | cons c text ih =>
    obtain ⟨hc, hrest⟩ := not_or.mp (List.mem_cons.not.mp hescape)
    have hlater : ∀ skipped, Highlights pattern (text.drop skipped)
        (Text.replaceFrom pattern (highlightStart ++ pattern ++ highlightEnd) skipped text) :=
      ih hrest fun hmem => hfeed (List.mem_cons_of_mem c hmem)
    cases skipped with
    | succ skipped => exact hlater skipped
    | zero =>
      have hother : Highlights pattern (c :: text) (c ::
          Text.replaceFrom pattern (highlightStart ++ pattern ++ highlightEnd) 0 text) :=
        .other (Ne.symm hc) (hlater 0)
      rw [Text.replaceFrom, List.drop_zero]
      split_ifs with hempty hstarts
      · subst hempty
        exact Highlights.replaced (by simp) (by simp) hother
      · obtain ⟨after, hsplit⟩ := List.isPrefixOf_iff_prefix.mp hstarts
        have hafter : text.drop (pattern.length - 1) = after := by
          obtain ⟨first, others, rfl⟩ := List.exists_cons_of_ne_nil hempty
          obtain ⟨-, htext⟩ := List.cons.inj hsplit
          rw [← htext, List.length_cons, Nat.add_sub_cancel]
          exact List.drop_left
        have hpattern {d : Char} (hd : d ∉ c :: text) : d ∉ pattern := by
          rw [← hsplit] at hd
          exact fun hmem => hd (List.mem_append_left after hmem)
        have hmarked : Highlights pattern (pattern ++ after) _ :=
          .replaced (hpattern hescape) (hpattern hfeed) (hafter ▸ hlater (pattern.length - 1))
        rwa [hsplit] at hmarked
      · exact hother

/-! ### Searches with and without highlights -/

def Arguments.withColor (arguments : Arguments) (color : Bool) : Arguments :=
  { arguments with color := color }

/-- Neither the name nor the bytes of an input hold an escape sequence. -/
def Source.Unescaped (source : Source) : Prop :=
  escape ∉ source.name.toList ∧ ∀ bytes ∈ source.contents, 27 ∉ bytes

/-- What is found is the same, but for the highlights. -/
structure Findings.Highlighted (pattern : List Char) (plain colored : Findings) : Prop where
  output : Highlights pattern plain.output.toList colored.output.toList
  fault : colored.fault = plain.fault

namespace Findings.Highlighted

variable {pattern : List Char} {plain colored later laterColored : Findings}

lemma nothing (fault : Option SearchFault) : Highlighted pattern ⟨"", fault⟩ ⟨"", fault⟩ :=
  ⟨.nil, rfl⟩

lemma andThen (h : Highlighted pattern plain colored)
    (hlater : Highlighted pattern later laterColored) :
    Highlighted pattern (plain.andThen later) (colored.andThen laterColored) := by
  rw [Findings.andThen, Findings.andThen, h.fault]
  cases plain.fault with
  | some fault => exact ⟨h.output, h.fault⟩
  | none =>
    refine ⟨?_, hlater.fault⟩
    rw [String.toList_append, String.toList_append]
    exact h.output.append hlater.output

/-- Only the output of the process is another one. -/
lemma exit (h : Highlighted pattern plain colored) :
    colored.exit.code = plain.exit.code ∧ colored.exit.errors = plain.exit.errors ∧
      Highlights pattern plain.exit.output.toList colored.exit.output.toList := by
  obtain ⟨output, fault⟩ := plain
  obtain ⟨coloredOutput, coloredFault⟩ := colored
  obtain ⟨houtput, rfl⟩ := h
  cases coloredFault with
  | none => exact ⟨rfl, rfl, houtput⟩
  | some fault => exact ⟨rfl, rfl, houtput⟩

end Findings.Highlighted

variable {arguments : Arguments} {name : String}

lemma escape_not_mem_location (hname : escape ∉ name.toList) (number : Nat) :
    escape ∉ (location arguments name number).toList := by
  have hnumber : escape ∉ (toString number).toList := by
    rw [Nat.toString_eq_ofList_toDigits, String.toList_ofList]
    exact fun hmem => absurd (isDigit_of_mem_toDigits hmem) (by decide)
  rw [location]
  split_ifs
  · simp only [String.toList_append, List.mem_append, not_or]
    exact ⟨⟨⟨hname, by decide⟩, hnumber⟩, by decide⟩
  · decide

lemma highlights_written (hname : escape ∉ name.toList) (number : Nat) {line : List Char}
    (hescape : escape ∉ line) (hfeed : '\n' ∉ line) :
    Highlights arguments.pattern.toList
      (written (arguments.withColor false) name number line).toList
      (written (arguments.withColor true) name number line).toList := by
  have hlocation : escape ∉ (location arguments name number).toList :=
    escape_not_mem_location hname number
  have hend : escape ∉ "\n".toList := by decide
  simp only [written, Arguments.withColor, Bool.false_eq_true, if_false, if_true,
    String.toList_append, String.toList_ofList]
  refine ((Marked.refl hlocation).append ?_).append (Marked.refl hend)
  exact highlights_replaceFrom hescape hfeed 0

/-- Lines are searched alike, one after the other. -/
lemma highlighted_searchLines (hname : escape ∉ name.toList) (number : Nat)
    {lines : List (List UInt8)} (hlines : ∀ line ∈ lines, 27 ∉ line ∧ 10 ∉ line) :
    Findings.Highlighted arguments.pattern.toList
      (searchLines (arguments.withColor false) name number lines)
      (searchLines (arguments.withColor true) name number lines) := by
  induction lines generalizing number with
  | nil => exact .nothing _
  | cons bytes lines ih =>
    obtain ⟨⟨hescape, hfeed⟩, hrest⟩ := List.forall_mem_cons.mp hlines
    rw [searchLines, searchLines]
    cases hdecode : Text.decode? bytes with
    | none => exact .nothing _
    | some text =>
      have hbytes : bytes = Text.bytesOf text.toList := by
        rw [Text.decode?_eq_some_iff.mp hdecode, Text.encode_eq]
      rw [hbytes, Text.mem_bytesOf_iff (by decide)] at hescape hfeed
      refine .andThen ⟨?_, rfl⟩ (ih (number + 1) hrest)
      have hmatch : isMatch (arguments.withColor true) text.toList =
          isMatch (arguments.withColor false) text.toList := rfl
      simp only [hmatch]
      split_ifs
      · exact highlights_written hname number hescape hfeed
      · exact .nil

lemma highlighted_searchSource {source : Source} (h : source.Unescaped) :
    Findings.Highlighted arguments.pattern.toList
      (searchSource (arguments.withColor false) source)
      (searchSource (arguments.withColor true) source) := by
  obtain ⟨name, contents⟩ := source
  obtain ⟨hname, hcontents⟩ := h
  cases contents with
  | none => exact .nothing _
  | some bytes =>
    have hlimited : limited arguments bytes ⊆ bytes := by
      rw [limited]
      cases arguments.limit with
      | none => exact List.Subset.refl bytes
      | some limit => exact List.take_subset limit bytes
    refine highlighted_searchLines hname 1 fun line hline => ⟨fun hmem => ?_, ?_⟩
    · exact hcontents bytes rfl (hlimited (Text.mem_of_mem_brokenLines hline hmem))
    · exact Text.not_mem_of_mem_brokenLines hline

lemma highlighted_searchAll {sources : List Source} (h : ∀ source ∈ sources, source.Unescaped) :
    Findings.Highlighted arguments.pattern.toList
      (searchAll (arguments.withColor false) sources)
      (searchAll (arguments.withColor true) sources) := by
  induction sources with
  | nil => exact .nothing _
  | cons source sources ih =>
    obtain ⟨hsource, hsources⟩ := List.forall_mem_cons.mp h
    exact (highlighted_searchSource hsource).andThen (ih hsources)

/-- With highlights a search writes the same lines in the same order, and ends in the same way.
Every escape sequence that it adds is one of a pair around exactly the pattern, no pair is inside of
another one, and without them the output is the one of a search that does not highlight. -/
theorem highlights_are_added (arguments : Arguments) (input : List UInt8)
    (file : String → Option (List UInt8))
    (hsources : ∀ source ∈ sources arguments input file, source.Unescaped) :
    let exit (color : Bool) : Exit :=
      (searchAll (arguments.withColor color)
        (sources (arguments.withColor color) input file)).exit
    let plain := (exit false).output.toList
    let colored := (exit true).output.toList
    withoutMarks colored = plain ∧
      (Text.pieces '\n' colored).map withoutMarks = Text.pieces '\n' plain ∧
      Highlights arguments.pattern.toList plain colored ∧
      List.Forall₂ (Highlights arguments.pattern.toList) (Text.pieces '\n' plain)
        (Text.pieces '\n' colored) ∧
      (exit true).code = (exit false).code ∧ (exit true).errors = (exit false).errors := by
  intro exit plain colored
  obtain ⟨hcode, herrors, hcolored⟩ : (exit true).code = (exit false).code ∧
      (exit true).errors = (exit false).errors ∧
      Highlights arguments.pattern.toList plain colored :=
    (highlighted_searchAll hsources).exit
  have hpieces := hcolored.forall₂_pieces
  have hlines : Text.pieces '\n' plain = (Text.pieces '\n' colored).map withoutMarks :=
    eq_map_of_forall₂ hpieces.flip fun _ _ hpiece => (Highlights.withoutMarks_eq hpiece).symm
  exact ⟨hcolored.withoutMarks_eq, hlines.symm, hcolored, hpieces, hcode, herrors⟩

/-- An occurrence that overlaps the one before is not highlighted. -/
theorem highlights_are_added_overlap :
    let arguments : Arguments := ⟨true, false, .info, none, none, [], "aba", ["x.log"]⟩
    let file (name : String) : Option (List UInt8) :=
      if name = "x.log" then some (Text.encode "ababa\nb\néaba") else none
    let exit (color : Bool) : Exit :=
      (searchAll (arguments.withColor color) (sources (arguments.withColor color) [] file)).exit
    (∀ source ∈ sources arguments [] file, source.Unescaped) ∧
      (exit false).output = "x.log:1: ababa\nx.log:3: éaba\n" ∧
      (exit true).output =
        "x.log:1: \x1b[1;31maba\x1b[0mba\nx.log:3: é\x1b[1;31maba\x1b[0m\n" ∧
      withoutMarks (exit true).output.toList = (exit false).output.toList ∧
      Highlights "aba".toList (exit false).output.toList (exit true).output.toList := by
  intro arguments file exit
  have hsources : ∀ source ∈ sources arguments [] file, source.Unescaped := by
    intro source hsource
    obtain rfl := List.mem_singleton.mp hsource
    refine ⟨by decide, fun bytes hbytes => ?_⟩
    obtain rfl := Option.some.inj hbytes
    decide +kernel
  obtain ⟨hunmarked, -, hhighlights, -⟩ := highlights_are_added arguments [] file hsources
  exact ⟨hsources, by decide +kernel, by decide +kernel, hunmarked, hhighlights⟩

end LogSearch

end CommandLine
