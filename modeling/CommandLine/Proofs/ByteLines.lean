import CommandLine.Proofs.Reflow
import CommandLine.Proofs.Utf8
import Mathlib.Data.List.Induction

/-!
# Lines of bytes

Line feeds and carriage returns are single bytes that no other character has. So the bytes of a text
are cut into the bytes of its lines, also if they go on with a part of a further character.
-/

namespace CommandLine.Text

/-! ### Bytes of characters -/

lemma mem_bytesOf_iff {byte : UInt8} (hbyte : byte.toNat < 0x80) {text : List Char} :
    byte ∈ bytesOf text ↔ Char.ofNat byte.toNat ∈ text := by
  simp only [bytesOf, List.mem_flatMap, mem_utf8EncodeChar_iff hbyte, exists_eq_right]

lemma bytesOf_eq_nil_iff {text : List Char} : bytesOf text = [] ↔ text = [] := by
  cases text with
  | nil => simp
  | cons c text => simp [bytesOf_cons]

lemma feed_mem_utf8EncodeChar_iff {c : Char} : 10 ∈ String.utf8EncodeChar c ↔ c = '\n' :=
  mem_utf8EncodeChar_iff (by decide)

lemma carriage_mem_utf8EncodeChar_iff {c : Char} : 13 ∈ String.utf8EncodeChar c ↔ c = '\r' :=
  mem_utf8EncodeChar_iff (by decide)

/-! ### Cutting -/

lemma pieces_bytesOf (text : List Char) :
    pieces 10 (bytesOf text) = (pieces '\n' text).map bytesOf := by
  induction text with
  | nil => rfl
  | cons c text ih =>
    rw [bytesOf_cons]
    by_cases hc : c = '\n'
    · subst hc
      have hfeed : String.utf8EncodeChar '\n' = [10] := rfl
      rw [hfeed, List.singleton_append, pieces, if_pos rfl, pieces, if_pos rfl, ih, List.map_cons,
        bytesOf_nil]
    · obtain ⟨piece, others, hpieces⟩ := List.exists_cons_of_ne_nil (pieces_ne_nil '\n' text)
      rw [pieces_append_left (feed_mem_utf8EncodeChar_iff.not.mpr hc), ih, pieces_cons_of_ne hc,
        hpieces, List.map_cons, List.modifyHead_cons, List.modifyHead_cons, List.map_cons,
        bytesOf_cons]

lemma getLast?_bytesOf_eq_some_iff {line : List Char} :
    (bytesOf line).getLast? = some 13 ↔ line.getLast? = some '\r' := by
  induction line using List.reverseRecOn with
  | nil => simp
  | append_singleton line c =>
    rw [List.getLast?_concat, bytesOf_append, bytesOf_cons, bytesOf_nil, List.append_nil,
      List.getLast?_append_of_ne_nil _ String.utf8EncodeChar_ne_nil, Option.some.injEq]
    constructor
    · intro h
      exact carriage_mem_utf8EncodeChar_iff.mp (List.mem_of_getLast? h)
    · rintro rfl
      rfl

lemma chopped_bytesOf (line : List Char) :
    (if (bytesOf line).getLast? = some 13 then (bytesOf line).dropLast else bytesOf line) =
      bytesOf (chopped line) := by
  simp only [getLast?_bytesOf_eq_some_iff, chopped]
  split_ifs with h
  · obtain ⟨front, rfl⟩ := List.getLast?_eq_some_iff.mp h
    have hcarriage : bytesOf ['\r'] = [13] := rfl
    rw [bytesOf_append, hcarriage, List.dropLast_concat, List.dropLast_concat]
  · rfl

/-- The lines of the bytes of a text are those of the text. -/
lemma brokenLines_bytesOf (text : List Char) :
    brokenLines 10 13 (bytesOf text) = (brokenLines '\n' '\r' text).map bytesOf := by
  obtain ⟨broken, last, h⟩ := exists_pieces_eq '\n' text
  have hbytes : pieces 10 (bytesOf text) = broken.map bytesOf ++ [bytesOf last] := by
    rw [pieces_bytesOf, h, List.map_append, List.map_singleton]
  rw [brokenLines_of_pieces hbytes, brokenLines_eq h, List.map_append, List.map_map, List.map_map]
  congr 1
  · exact List.map_congr_left fun line _ => chopped_bytesOf line
  · simp only [bytesOf_eq_nil_iff]
    split_ifs <;> rfl

/-- The lines of a text that are ended. -/
def endedLines (text : List Char) : List (List Char) :=
  (pieces '\n' text).dropLast.map chopped

/-- Further bytes on the last line of a text leave the lines that are ended. -/
lemma brokenLines_bytesOf_append {part : List UInt8} (hne : part ≠ []) (hpart : 10 ∉ part)
    (text : List Char) :
    ∃ last, brokenLines 10 13 (bytesOf text ++ part) =
      (endedLines text).map bytesOf ++ [bytesOf last ++ part] := by
  obtain ⟨broken, last, h⟩ := exists_pieces_eq '\n' text
  have hbytes : pieces 10 (bytesOf text) = broken.map bytesOf ++ [bytesOf last] := by
    rw [pieces_bytesOf, h, List.map_append, List.map_singleton]
  refine ⟨last, ?_⟩
  rw [brokenLines_of_pieces (pieces_append_right hbytes hpart), if_neg (by simp [hne]), endedLines,
    h, List.dropLast_concat, List.map_map, List.map_map]
  congr 1
  exact List.map_congr_left fun line _ => chopped_bytesOf line

end CommandLine.Text
