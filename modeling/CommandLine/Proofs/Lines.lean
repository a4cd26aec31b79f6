import CommandLine.Text.Quoted
import CommandLine.Text.Pieces
import Mathlib.Data.List.Basic
import Mathlib.Data.String.Basic

/-!
# Lines of texts

A text that is cut at its line feeds, and a text that is put together from lines. Numbers and quoted
texts are single lines, whatever is quoted.
-/

namespace CommandLine

namespace Text

/-! ### Pieces -/

lemma joined_cons_cons {α : Type} (separator : α) (line next : List α)
    (others : List (List α)) :
    joined separator (line :: next :: others) =
      line ++ separator :: joined separator (next :: others) :=
  rfl

lemma mem_joined_of_mem {α : Type} {separator : α} {parts : List (List α)} {part : List α}
    (hpart : part ∈ parts) {x : α} (hx : x ∈ part) : x ∈ joined separator parts := by
  induction parts with
  | nil => simp at hpart
  | cons first rest ih =>
    cases rest with
    | nil =>
      rw [List.mem_singleton.mp hpart] at hx
      exact hx
    | cons next others =>
      rw [joined_cons_cons, List.mem_append, List.mem_cons]
      rcases List.mem_cons.mp hpart with rfl | hpart
      · exact .inl hx
      · exact .inr (.inr (ih hpart))

lemma not_mem_joined {c separator : Char} (hc : c ≠ separator) {lines : List (List Char)}
    (h : ∀ line ∈ lines, c ∉ line) : c ∉ joined separator lines := by
  induction lines with
  | nil => simp [joined]
  | cons line rest ih =>
    obtain ⟨hline, hrest⟩ := List.forall_mem_cons.mp h
    cases rest with
    | nil => simpa [joined] using hline
    | cons next others =>
      rw [joined_cons_cons, List.mem_append, List.mem_cons, not_or, not_or]
      exact ⟨hline, hc, ih hrest⟩

lemma joined_append_singleton (lines : List (List Char)) (last : List Char) :
    joined '\n' (lines ++ [last]) = lines.flatMap (· ++ ['\n']) ++ last := by
  induction lines with
  | nil => rfl
  | cons line rest ih =>
    obtain ⟨next, others, hnext⟩ := List.exists_cons_of_ne_nil (l := rest ++ [last]) (by simp)
    rw [List.cons_append, hnext, joined_cons_cons, ← hnext, ih]
    simp

section

variable {α : Type} [DecidableEq α] {separator carriage : α}

lemma not_mem_of_mem_pieces {text piece : List α} (h : piece ∈ pieces separator text) :
    separator ∉ piece := by
  induction text generalizing piece with
  | nil => simp_all [pieces]
  | cons c rest ih =>
    rw [pieces] at h
    split_ifs at h with hc
    · rcases List.mem_cons.mp h with rfl | h
      · simp
      · exact ih h
    · cases hpieces : pieces separator rest with
      | nil => exact absurd hpieces (pieces_ne_nil separator rest)
      | cons first others =>
        simp only [hpieces, List.mem_cons] at h ih
        rcases h with rfl | h
        · simpa [Ne.symm hc] using ih (.inl rfl)
        · exact ih (.inr h)

lemma exists_pieces_eq (separator : α) (text : List α) :
    ∃ broken last, pieces separator text = broken ++ [last] :=
  ⟨_, _, (List.dropLast_append_getLast (pieces_ne_nil separator text)).symm⟩

lemma pieces_cons_of_ne {c : α} (h : c ≠ separator) (rest : List α) :
    pieces separator (c :: rest) = (pieces separator rest).modifyHead (c :: ·) := by
  obtain ⟨piece, others, hpieces⟩ := List.exists_cons_of_ne_nil (pieces_ne_nil separator rest)
  rw [pieces, if_neg h, hpieces]
  rfl

/-- Members in front that are no separators belong to the first piece. -/
lemma pieces_append_left {front : List α} (h : separator ∉ front) (rest : List α) :
    pieces separator (front ++ rest) = (pieces separator rest).modifyHead (front ++ ·) := by
  obtain ⟨piece, others, hpieces⟩ := List.exists_cons_of_ne_nil (pieces_ne_nil separator rest)
  induction front with
  | nil => rw [List.nil_append, hpieces, List.modifyHead_cons, List.nil_append]
  | cons c front ih =>
    obtain ⟨hc, hfront⟩ := not_or.mp (List.mem_cons.not.mp h)
    rw [List.cons_append, pieces_cons_of_ne (Ne.symm hc), ih hfront, hpieces]
    rfl

lemma pieces_append_of_not_mem {piece : List α} (h : separator ∉ piece) (rest : List α) :
    pieces separator (piece ++ separator :: rest) = piece :: pieces separator rest := by
  rw [pieces_append_left h, pieces, if_pos rfl, List.modifyHead_cons, List.append_nil]

lemma pieces_of_not_mem {piece : List α} (h : separator ∉ piece) :
    pieces separator piece = [piece] := by
  rw [← List.append_nil piece, pieces_append_left h, pieces, List.modifyHead_cons]

/-- Members at the end that are no separators belong to the last piece. -/
lemma pieces_append_right {text last rest : List α} {broken : List (List α)}
    (h : pieces separator text = broken ++ [last]) (hrest : separator ∉ rest) :
    pieces separator (text ++ rest) = broken ++ [last ++ rest] := by
  induction text generalizing broken last with
  | nil =>
    obtain ⟨rfl, rfl⟩ : broken = [] ∧ last = [] := by
      simpa [pieces, List.singleton_eq_append_iff] using h
    exact pieces_of_not_mem hrest
  | cons c text ih =>
    obtain ⟨later, ending, hpieces⟩ := exists_pieces_eq separator text
    rw [List.cons_append]
    by_cases hc : c = separator
    · rw [pieces, if_pos hc, hpieces, ← List.cons_append] at h
      obtain ⟨rfl, hlast⟩ := List.append_inj' h rfl
      obtain rfl := List.singleton_inj.mp hlast
      rw [pieces, if_pos hc, ih hpieces, List.cons_append]
    · rw [pieces_cons_of_ne hc, hpieces] at h
      rw [pieces_cons_of_ne hc, ih hpieces]
      cases later with
      | nil =>
        obtain ⟨rfl, rfl⟩ : broken = [] ∧ last = c :: ending := by
          simpa [List.singleton_eq_append_iff] using h
        rfl
      | cons first later =>
        rw [List.cons_append, List.modifyHead_cons, ← List.cons_append] at h
        obtain ⟨rfl, hlast⟩ := List.append_inj' h rfl
        obtain rfl := List.singleton_inj.mp hlast
        rfl

lemma mem_of_mem_pieces {text piece : List α} (h : piece ∈ pieces separator text) {x : α}
    (hx : x ∈ piece) : x ∈ text := by
  rw [← joined_pieces separator text]
  exact mem_joined_of_mem h hx

/-- Lines lose the carriage return in front of their line feed, and an empty line that is not ended
is none. -/
lemma brokenLines_of_pieces {text last : List α} {broken : List (List α)}
    (h : pieces separator text = broken ++ [last]) :
    brokenLines separator carriage text =
      (broken.map fun line => if line.getLast? = some carriage then line.dropLast else line) ++
        if last = [] then [] else [last] := by
  rw [brokenLines, h, List.reverse_append]
  simp only [List.reverse_cons, List.reverse_nil, List.nil_append, List.cons_append,
    List.reverse_reverse]
  split_ifs
  · rw [List.append_nil]
  · rfl

lemma exists_isPrefix_of_mem_brokenLines {text line : List α}
    (h : line ∈ brokenLines separator carriage text) :
    ∃ piece ∈ pieces separator text, line <+: piece := by
  obtain ⟨broken, last, hpieces⟩ := exists_pieces_eq separator text
  rw [brokenLines_of_pieces hpieces, List.mem_append] at h
  rw [hpieces]
  rcases h with h | h
  · obtain ⟨piece, hpiece, rfl⟩ := List.mem_map.mp h
    refine ⟨piece, List.mem_append_left _ hpiece, ?_⟩
    split_ifs
    · exact List.dropLast_prefix piece
    · exact List.prefix_refl piece
  · split_ifs at h
    · simp at h
    · obtain rfl := List.mem_singleton.mp h
      exact ⟨line, by simp, List.prefix_refl line⟩

lemma not_mem_of_mem_brokenLines {text line : List α}
    (h : line ∈ brokenLines separator carriage text) : separator ∉ line := by
  obtain ⟨piece, hpiece, hstarts⟩ := exists_isPrefix_of_mem_brokenLines h
  exact fun hmem => not_mem_of_mem_pieces hpiece (hstarts.mem hmem)

lemma mem_of_mem_brokenLines {text line : List α}
    (h : line ∈ brokenLines separator carriage text) {x : α} (hx : x ∈ line) : x ∈ text := by
  obtain ⟨piece, hpiece, hstarts⟩ := exists_isPrefix_of_mem_brokenLines h
  exact mem_of_mem_pieces hpiece (hstarts.mem hx)

end

/-- What was put together is cut into the same parts. -/
lemma pieces_joined {separator : Char} {parts : List (List Char)} (hne : parts ≠ [])
    (h : ∀ part ∈ parts, separator ∉ part) : pieces separator (joined separator parts) = parts := by
  induction parts with
  | nil => exact absurd rfl hne
  | cons part rest ih =>
    obtain ⟨hpart, hrest⟩ := List.forall_mem_cons.mp h
    cases rest with
    | nil => exact pieces_of_not_mem hpart
    | cons next others =>
      rw [joined_cons_cons, pieces_append_of_not_mem hpart, ih (by simp) hrest]

lemma pieces_of_lines {lines : List (List Char)} (h : ∀ line ∈ lines, '\n' ∉ line) :
    pieces '\n' (lines.flatMap (· ++ ['\n'])) = lines ++ [[]] := by
  induction lines with
  | nil => rfl
  | cons line rest ih =>
    obtain ⟨hline, hrest⟩ := List.forall_mem_cons.mp h
    rw [List.flatMap_cons, List.append_assoc, List.singleton_append,
      pieces_append_of_not_mem hline, ih hrest, List.cons_append]

end Text

/-! ### Single lines -/

/-- The text holds no line feed. -/
def SingleLine (text : String) : Prop :=
  '\n' ∉ text.toList

instance (text : String) : Decidable (SingleLine text) :=
  inferInstanceAs (Decidable ('\n' ∉ text.toList))

@[simp] lemma singleLine_append {s t : String} :
    SingleLine (s ++ t) ↔ SingleLine s ∧ SingleLine t := by
  simp [SingleLine]

lemma not_mem_toDigits {base : Nat} (hbase : 1 < base) (n : Nat) :
    '\n' ∉ Nat.toDigits base n := by
  induction n using Nat.strongRecOn with
  | ind n ih =>
    rw [Nat.toDigits_eq_if hbase]
    split_ifs with hlt
    · simp
    · have hless : n / base < n := Nat.div_lt_self (by omega) hbase
      simpa using ih _ hless

lemma singleLine_toString (n : Nat) : SingleLine (toString n) := by
  rw [SingleLine, Nat.toString_eq_ofList_toDigits, String.toList_ofList]
  exact not_mem_toDigits (by decide) n

/-- Quoting leaves no line feed. -/
lemma singleLine_quote (text : String) : SingleLine (Text.quote text) := by
  have hsixteen : 1 < 16 := by decide
  have hchar (c : Char) : '\n' ∉ Text.quotedChar c := by
    rw [Text.quotedChar]
    split_ifs with _ _ hfeed
    iterate 6 decide
    · simpa using fun h => hfeed h.symm
    · simpa [Text.codePointEscape] using not_mem_toDigits hsixteen c.toNat
  simpa [SingleLine] using fun c _ => hchar c

/-! ### Texts of lines -/

namespace Text

/-- The lines of a text, the last of which is not ended. -/
def linesOf (text : String) : List String :=
  (pieces '\n' text.toList).map String.ofList

lemma linesOf_of_singleLine {text : String} (h : SingleLine text) : linesOf text = [text] := by
  rw [linesOf, pieces_of_not_mem h, List.map_singleton, String.ofList_toList]

lemma singleLine_of_mem_linesOf {text line : String} (h : line ∈ linesOf text) :
    SingleLine line := by
  obtain ⟨piece, hpiece, rfl⟩ := List.mem_map.mp h
  rw [SingleLine, String.toList_ofList]
  exact not_mem_of_mem_pieces hpiece

lemma map_toList_linesOf (text : String) :
    (linesOf text).map String.toList = pieces '\n' text.toList := by
  rw [linesOf, List.map_map]
  exact List.map_id'' (fun piece => String.toList_ofList) _

end Text

/-- The text consists of lines, each of them ended by a line feed. -/
structure HasLines (text : String) (lines : List String) : Prop where
  text : text = String.join (lines.map (· ++ "\n"))
  single : ∀ line ∈ lines, SingleLine line

namespace HasLines

variable {text other line : String} {lines others : List String}

lemma toList (h : HasLines text lines) :
    text.toList = (lines.map String.toList).flatMap (· ++ ['\n']) := by
  rw [h.text, String.toList_join, List.flatMap_map, List.flatMap_map]
  simp

lemma ofToList (h : text.toList = (lines.map String.toList).flatMap (· ++ ['\n']))
    (hsingle : ∀ line ∈ lines, SingleLine line) : HasLines text lines := by
  refine ⟨String.toList_injective ?_, hsingle⟩
  rw [h, String.toList_join, List.flatMap_map, List.flatMap_map]
  simp

lemma nil : HasLines "" [] :=
  ⟨rfl, by simp⟩

lemma single_line (h : SingleLine line) : HasLines (line ++ "\n") [line] :=
  ofToList (by simp) (by simpa using h)

lemma append (h : HasLines text lines) (hother : HasLines other others) :
    HasLines (text ++ other) (lines ++ others) := by
  refine ofToList ?_ (List.forall_mem_append.mpr ⟨h.single, hother.single⟩)
  rw [String.toList_append, h.toList, hother.toList, List.map_append, List.flatMap_append]

/-- A text with lines has no others. -/
lemma pieces_eq (h : HasLines text lines) :
    Text.pieces '\n' text.toList = lines.map String.toList ++ [[]] := by
  rw [h.toList]
  exact Text.pieces_of_lines (List.forall_mem_map.mpr h.single)

end HasLines

end CommandLine
