import CommandLine.Declaration.Field
import CommandLine.Help
import CommandLine.Proofs.Lines
import CommandLine.Proofs.Record

/-!
# Descriptions on one line

What is shown after an item is its description with the white space changed, but for the marks that
are taken for an indentation: those in front of the first line and those that all later lines have
in common. The collection of a description from lines of documentation changes white space only.
-/

namespace CommandLine

namespace Text

/-! ### White space between the parts of a text -/

lemma withoutBlanks_joined {separator : Char} (h : isBlank separator = true)
    (lines : List (List Char)) :
    withoutBlanks (joined separator lines) = lines.flatMap withoutBlanks := by
  induction lines with
  | nil => rfl
  | cons line rest ih =>
    cases rest with
    | nil => simp [joined]
    | cons next others =>
      have hseparator : withoutBlanks (separator :: joined separator (next :: others)) =
          withoutBlanks (joined separator (next :: others)) := by
        simp [withoutBlanks, h]
      rw [joined_cons_cons, withoutBlanks_append, hseparator, ih, ← List.flatMap_cons]

lemma spaced_eq_joined (lines : List (List Char)) : spaced lines = joined ' ' lines := by
  induction lines with
  | nil => rfl
  | cons line rest ih =>
    cases rest with
    | nil => rfl
    | cons next others => exact congrArg (line ++ ' ' :: ·) ih

/-- Without its blanks a text is empty exactly if it has nothing but blanks. -/
lemma withoutBlanks_eq_nil_iff {text : List Char} :
    withoutBlanks text = [] ↔ ∀ c ∈ text, isBlank c = true := by
  simp [withoutBlanks]

/-! ### Lines -/

/-- A line without the carriage return at its end. -/
def chopped (line : List Char) : List Char :=
  if line.getLast? = some '\r' then line.dropLast else line

lemma withoutBlanks_chopped (line : List Char) :
    withoutBlanks (chopped line) = withoutBlanks line := by
  rw [chopped]
  split_ifs with h
  · obtain ⟨rest, rfl⟩ := List.getLast?_eq_some_iff.mp h
    simp [withoutBlanks, show isBlank '\r' = true by decide]
  · rfl

lemma brokenLines_eq {text last : List Char} {broken : List (List Char)}
    (h : pieces '\n' text = broken ++ [last]) :
    brokenLines '\n' '\r' text = broken.map chopped ++ if last = [] then [] else [last] :=
  brokenLines_of_pieces h

lemma withoutBlanks_brokenLines (text : List Char) :
    (brokenLines '\n' '\r' text).flatMap withoutBlanks = withoutBlanks text := by
  obtain ⟨broken, last, h⟩ := exists_pieces_eq '\n' text
  have hfeed : isBlank '\n' = true := by decide
  have htext : withoutBlanks text = (broken ++ [last]).flatMap withoutBlanks := by
    rw [← h, ← withoutBlanks_joined hfeed, joined_pieces]
  have hchopped : (broken.map chopped).flatMap withoutBlanks = broken.flatMap withoutBlanks := by
    simp only [List.flatMap_map, withoutBlanks_chopped]
  rw [brokenLines_eq h, htext, List.flatMap_append, List.flatMap_append, hchopped]
  split_ifs with hlast
  · simp [hlast, withoutBlanks]
  · rfl

/-- The first line begins like the text, if this is no blank. -/
lemma exists_brokenLines {c : Char} (hc : isBlank c = false) (rest : List Char) :
    ∃ line later, brokenLines '\n' '\r' (c :: rest) = (c :: line) :: later := by
  have hfeed : c ≠ '\n' := by
    rintro rfl
    exact absurd hc (by decide)
  have hreturn : c ≠ '\r' := by
    rintro rfl
    exact absurd hc (by decide)
  obtain ⟨piece, others, hpieces⟩ : ∃ piece others, pieces '\n' rest = piece :: others :=
    List.exists_cons_of_ne_nil (pieces_ne_nil '\n' rest)
  have hall : pieces '\n' (c :: rest) = (c :: piece) :: others := by
    rw [pieces, if_neg hfeed, hpieces]
  obtain ⟨broken, last, hsplit⟩ := exists_pieces_eq '\n' (c :: rest)
  rw [brokenLines_eq hsplit]
  cases broken with
  | nil =>
    obtain ⟨rfl, rfl⟩ := List.cons.inj (hall.symm.trans hsplit)
    exact ⟨piece, [], rfl⟩
  | cons first broken =>
    obtain ⟨rfl, -⟩ := List.cons.inj (hall.symm.trans hsplit)
    obtain ⟨line, hline⟩ : ∃ line, chopped (c :: piece) = c :: line := by
      rw [chopped]
      split_ifs with hlast
      · cases piece with
        | nil => exact absurd (Option.some.inj hlast) hreturn
        | cons next others => exact ⟨_, rfl⟩
      · exact ⟨piece, rfl⟩
    exact ⟨line, _, by rw [List.map_cons, hline, List.cons_append]⟩

/-! ### Marks -/

lemma commonStart_isPrefix (s t : List Char) : commonStart s t <+: s ∧ commonStart s t <+: t := by
  induction s generalizing t with
  | nil => simp [commonStart]
  | cons a s ih =>
    cases t with
    | nil => simp [commonStart]
    | cons b t =>
      rw [commonStart]
      split_ifs with h
      · subst h
        simpa using ih t
      · simp

/-- Every line starts with the marks that all of them have in common. -/
lemma commonMarks_isPrefix {lines : List (List Char)} {line : List Char} (h : line ∈ lines) :
    commonMarks lines <+: line := by
  induction lines with
  | nil => simp at h
  | cons first rest ih =>
    cases rest with
    | nil =>
      obtain rfl := List.mem_singleton.mp h
      exact List.takeWhile_prefix isMark
    | cons next others =>
      obtain ⟨hfirst, hothers⟩ := commonStart_isPrefix (marks first) (commonMarks (next :: others))
      rcases List.mem_cons.mp h with rfl | h
      · exact hfirst.trans (List.takeWhile_prefix isMark)
      · exact hothers.trans (ih h)

/-- What comes before the rest of a line that starts with some marks. -/
lemma withoutBlanks_of_isPrefix {start line : List Char} (h : start <+: line) :
    withoutBlanks line = withoutBlanks start ++ withoutBlanks (line.drop start.length) := by
  rw [← withoutBlanks_append, List.prefix_iff_eq_append.mp h]

/-! ### Reflowing -/

variable {text first : List Char} {later : List (List Char)}

lemma reflow_eq (h : brokenLines '\n' '\r' text = first :: later) (hfirst : first ≠ []) :
    reflow text = joined ' ' (first.drop (marks first).length ::
      (later.filter (· ≠ [])).map (·.drop (commonMarks later).length)) := by
  rw [reflow, h, ← spaced_eq_joined]
  simp [hfirst]

lemma flatMap_filter_ne_nil {f : List Char → List Char} (h : f [] = [])
    (lines : List (List Char)) : (lines.filter (· ≠ [])).flatMap f = lines.flatMap f := by
  induction lines with
  | nil => rfl
  | cons line rest ih => by_cases hline : line = [] <;> simp_all

/-- Of a text on one line everything is shown but its marks and its blanks. -/
lemma withoutBlanks_reflow (h : brokenLines '\n' '\r' text = first :: later)
    (hfirst : first ≠ []) :
    withoutBlanks (reflow text) = withoutBlanks (first.drop (marks first).length) ++
      later.flatMap fun line => withoutBlanks (line.drop (commonMarks later).length) := by
  have hspace : isBlank ' ' = true := by decide
  have hempty : withoutBlanks ([].drop (commonMarks later).length) = [] := by
    rw [List.drop_nil]
    rfl
  rw [reflow_eq h hfirst, withoutBlanks_joined hspace, List.flatMap_cons, List.flatMap_map,
    flatMap_filter_ne_nil (f := fun line => withoutBlanks (line.drop (commonMarks later).length))
      hempty]

/-- The marks in front of the first line and those in front of every later line are missing. -/
lemma length_withoutBlanks (h : brokenLines '\n' '\r' text = first :: later)
    (hfirst : first ≠ []) :
    (withoutBlanks text).length = (withoutBlanks (reflow text)).length +
      (withoutBlanks (marks first)).length +
      later.length * (withoutBlanks (commonMarks later)).length := by
  have hlater (lines : List (List Char)) (hlines : ∀ line ∈ lines, commonMarks later <+: line) :
      (lines.flatMap withoutBlanks).length =
        (lines.flatMap fun line => withoutBlanks (line.drop (commonMarks later).length)).length +
          lines.length * (withoutBlanks (commonMarks later)).length := by
    induction lines with
    | nil => simp
    | cons line rest ih =>
      obtain ⟨hline, hrest⟩ := List.forall_mem_cons.mp hlines
      rw [List.flatMap_cons, List.flatMap_cons, withoutBlanks_of_isPrefix hline, List.length_append,
        List.length_append, List.length_append, ih hrest, List.length_cons, Nat.succ_mul]
      omega
  rw [← withoutBlanks_brokenLines, h, withoutBlanks_reflow h hfirst, List.flatMap_cons,
    withoutBlanks_of_isPrefix (List.takeWhile_prefix isMark), List.length_append, List.length_append,
    List.length_append, hlater later fun line => commonMarks_isPrefix]
  rw [marks]
  omega

/-- Nothing but blanks is lost exactly if none of the lost marks is one. -/
lemma withoutBlanks_reflow_eq_iff (h : brokenLines '\n' '\r' text = first :: later)
    (hfirst : first ≠ []) :
    withoutBlanks (reflow text) = withoutBlanks text ↔
      (∀ c ∈ marks first, isBlank c = true) ∧ ∀ c ∈ commonMarks later, isBlank c = true := by
  have hlength := length_withoutBlanks h hfirst
  rw [← withoutBlanks_eq_nil_iff, ← withoutBlanks_eq_nil_iff]
  constructor
  · intro hsame
    rw [hsame, Nat.add_assoc, Nat.left_eq_add, Nat.add_eq_zero_iff, Nat.mul_eq_zero] at hlength
    obtain ⟨hmarks, hnone | hcommon⟩ := hlength
    · obtain rfl := List.length_eq_zero_iff.mp hnone
      exact ⟨List.length_eq_zero_iff.mp hmarks, rfl⟩
    · exact ⟨List.length_eq_zero_iff.mp hmarks, List.length_eq_zero_iff.mp hcommon⟩
  · rintro ⟨hmarks, hcommon⟩
    have hrest : ∀ line ∈ later,
        withoutBlanks (line.drop (commonMarks later).length) = withoutBlanks line := by
      intro line hline
      rw [withoutBlanks_of_isPrefix (commonMarks_isPrefix hline), hcommon, List.nil_append]
    have htext := withoutBlanks_brokenLines text
    rw [h, List.flatMap_cons, withoutBlanks_of_isPrefix (List.takeWhile_prefix isMark), ← marks,
      hmarks, List.nil_append] at htext
    rw [withoutBlanks_reflow h hfirst, List.flatMap_congr hrest, htext]

/-- A reflowed text is one line. -/
lemma not_mem_reflow (text : List Char) : '\n' ∉ reflow text := by
  rw [reflow]
  cases hlines : brokenLines '\n' '\r' text with
  | nil => simp
  | cons first later =>
    have hall : ∀ line ∈ (first :: later).filter (· ≠ []), '\n' ∉ line := fun line hline =>
      not_mem_of_mem_brokenLines (hlines ▸ List.mem_of_mem_filter hline)
    dsimp only
    split
    · simp
    · next line others hfilter =>
      obtain ⟨hline, hothers⟩ := List.forall_mem_cons.mp (hfilter ▸ hall)
      rw [spaced_eq_joined]
      refine not_mem_joined (by decide) (List.forall_mem_cons.mpr ⟨?_, List.forall_mem_map.mpr ?_⟩)
      · exact mt List.mem_of_mem_drop hline
      · exact fun other hother => mt List.mem_of_mem_drop (hothers other hother)

/-! ### Trimmed texts -/

lemma trimEnd_isPrefix (text : List Char) : trimEnd text <+: text := by
  rw [trimEnd, ← List.reverse_suffix, List.reverse_reverse]
  exact List.dropWhile_suffix isBlank

/-- A trimmed text does not start with a blank. -/
lemma isBlank_of_trim {text rest : List Char} {c : Char} (h : trim text = c :: rest) :
    isBlank c = false := by
  obtain ⟨more, hmore⟩ := trimEnd_isPrefix (trimStart text)
  have hhead := List.head?_dropWhile_not isBlank text
  rw [← trimStart, ← hmore, ← trim, h] at hhead
  simpa using hhead

lemma trim_eq_nil_iff {text : List Char} : trim text = [] ↔ ∀ c ∈ text, isBlank c = true := by
  rw [← withoutBlanks_eq_nil_iff, ← withoutBlanks_trim]
  constructor
  · intro h
    rw [h]
    rfl
  · intro h
    cases htrim : trim text with
    | nil => rfl
    | cons c rest =>
      have hc : isBlank c = true := withoutBlanks_eq_nil_iff.mp h c (by simp [htrim])
      simp [isBlank_of_trim htrim] at hc

/-- Marks in front of a line that starts with no blank are not all blank. -/
lemma marks_eq_nil_iff {c : Char} (hc : isBlank c = false) (rest : List Char) :
    (∀ d ∈ marks (c :: rest), isBlank d = true) ↔ marks (c :: rest) = [] := by
  rw [marks, List.takeWhile_cons]
  split_ifs
  · simp [hc]
  · simp

end Text

/-! ### Descriptions -/

/-- Collecting lines of documentation changes blanks only. -/
lemma withoutBlanks_docsText {lines : List Expression} {docs : String}
    (h : docsText lines = .ok docs) :
    ∃ texts, lines.mapM docsLine = .ok texts ∧
      Text.withoutBlanks docs.toList =
        texts.flatMap fun text => Text.withoutBlanks text.toList := by
  obtain ⟨texts, htexts, hdocs⟩ := Except.bind_eq_ok_iff.mp h
  obtain rfl := Except.ok.inj hdocs
  have hfeed : Text.isBlank '\n' = true := by decide
  refine ⟨texts, htexts, ?_⟩
  rw [String.toList_ofList, Text.withoutBlanks_trim, Text.withoutBlanks_joined hfeed,
    List.flatMap_map]
  simp only [Text.withoutBlanks_trim]

namespace Help

lemma describe_of_blank {item description : String}
    (h : ∀ c ∈ description.toList, Text.isBlank c = true) : describe item description = item := by
  rw [describe]
  simp [Text.trim_eq_nil_iff.mpr h]

/-- Lines of documentation are collected with all that is not blank. Nothing comes after an item
with a blank description. Any other description is shown on one line behind a tab. What is shown is,
blanks aside, the first line without the marks in front of it and the later lines without the marks
that all of them have in front. So nothing but blanks is lost exactly if no mark is in front of the
first line, and the common marks of the later lines are blanks. -/
theorem describe_marks (item description : String) :
    (∀ lines, docsText lines = .ok description →
      ∃ texts, lines.mapM docsLine = .ok texts ∧
        Text.withoutBlanks description.toList =
          texts.flatMap fun text => Text.withoutBlanks text.toList) ∧
    ((∀ c ∈ description.toList, Text.isBlank c = true) → describe item description = item) ∧
    ((∃ c ∈ description.toList, Text.isBlank c = false) →
      ∃ first later shown,
        Text.brokenLines '\n' '\r' (Text.trim description.toList) = first :: later ∧
        describe item description = item ++ "\t" ++ String.ofList shown ∧
        Text.withoutBlanks shown =
          Text.withoutBlanks (first.drop (Text.marks first).length) ++
            (later.flatMap fun line =>
              Text.withoutBlanks (line.drop (Text.commonMarks later).length)) ∧
        (Text.withoutBlanks shown = Text.withoutBlanks description.toList ↔
          Text.marks first = [] ∧ ∀ c ∈ Text.commonMarks later, Text.isBlank c = true)) := by
  refine ⟨fun lines => withoutBlanks_docsText, describe_of_blank, fun hshown => ?_⟩
  have hne : Text.trim description.toList ≠ [] := by
    rw [Ne, Text.trim_eq_nil_iff]
    simpa using hshown
  obtain ⟨c, rest, htrim⟩ := List.exists_cons_of_ne_nil hne
  have hc := Text.isBlank_of_trim htrim
  obtain ⟨line, later, hlines⟩ := Text.exists_brokenLines hc rest
  rw [← htrim] at hlines
  have hfirst : c :: line ≠ [] := List.cons_ne_nil c line
  refine ⟨c :: line, later, Text.reflow (Text.trim description.toList), hlines, ?_,
    Text.withoutBlanks_reflow hlines hfirst, ?_⟩
  · rw [describe]
    exact if_neg hne
  · rw [← Text.withoutBlanks_trim description.toList,
      Text.withoutBlanks_reflow_eq_iff hlines hfirst, Text.marks_eq_nil_iff hc]

/-- A minus sign in front of the second line is lost, since no later line is without it. -/
theorem describe_marks_limit :
    let lines := [Expression.string " Sets the limit:", Expression.string " -1 is no limit"]
    let docs := "Sets the limit:\n-1 is no limit"
    docsText lines = .ok docs ∧
      (∃ texts, lines.mapM docsLine = .ok texts ∧
        Text.withoutBlanks docs.toList =
          texts.flatMap fun text => Text.withoutBlanks text.toList) ∧
      (∀ c ∈ " \n".toList, Text.isBlank c = true) ∧ describe "--limit" " \n" = "--limit" ∧
      (∃ c ∈ docs.toList, Text.isBlank c = false) ∧
      ∃ first later shown,
        Text.brokenLines '\n' '\r' (Text.trim docs.toList) = first :: later ∧
        describe "--limit" docs = "--limit" ++ "\t" ++ String.ofList shown ∧
        Text.withoutBlanks shown =
          Text.withoutBlanks (first.drop (Text.marks first).length) ++
            (later.flatMap fun line =>
              Text.withoutBlanks (line.drop (Text.commonMarks later).length)) ∧
        (Text.withoutBlanks shown = Text.withoutBlanks docs.toList ↔
          Text.marks first = [] ∧ ∀ c ∈ Text.commonMarks later, Text.isBlank c = true) := by
  intro lines docs
  have hdocs : docsText lines = .ok docs := rfl
  have hblank : ∀ c ∈ " \n".toList, Text.isBlank c = true :=
    Text.withoutBlanks_eq_nil_iff.mp (by decide)
  have hshown : ∃ c ∈ docs.toList, Text.isBlank c = false := ⟨'S', by decide, by decide⟩
  obtain ⟨-, hnothing, -⟩ := describe_marks "--limit" " \n"
  obtain ⟨hcollected, -, hdescribed⟩ := describe_marks "--limit" docs
  exact ⟨hdocs, hcollected lines hdocs, hblank, hnothing hblank, hshown, hdescribed hshown⟩

/-- What is lost can be a minus sign or a slash that belongs to the text. -/
theorem describe_without_marks :
    describe "--limit" "-1 is no limit" = "--limit\t1 is no limit" ∧
      Text.withoutBlanks "1 is no limit".toList ≠ Text.withoutBlanks "-1 is no limit".toList ∧
      describe "--hosts" "Names of hosts, else\n/etc/hosts" =
        "--hosts\tNames of hosts, else etc/hosts" ∧
      Text.withoutBlanks "Names of hosts, else etc/hosts".toList ≠
        Text.withoutBlanks "Names of hosts, else\n/etc/hosts".toList := by
  decide +kernel

end Help

end CommandLine
