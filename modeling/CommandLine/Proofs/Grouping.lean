import CommandLine.Proofs.Lines
import CommandLine.Value.Decoder
import Mathlib.Data.List.Flatten
import Mathlib.Data.List.TakeWhile

/-!
# Digit groups

A number may be written with separators in its integer part: a first group of one to three digits
and then groups of three. The separators are accepted at these places and nowhere else, and without
them it is the same number. From four digits on there is exactly one way to write a number in
groups.
-/

namespace CommandLine

open Text

/-! ### Groups of digits -/

/-- The digits of an integer part in groups. -/
structure IsGrouping (first : List Char) (later : List (List Char)) : Prop where
  nonempty : first ≠ []
  short : first.length ≤ 3
  full : ∀ group ∈ later, group.length = 3
  digits : ∀ group ∈ first :: later, ∀ c ∈ group, c.isDigit = true

lemma mem_joined {separator c : Char} (hc : c ≠ separator) {parts : List (List Char)} :
    c ∈ joined separator parts ↔ ∃ part ∈ parts, c ∈ part := by
  induction parts with
  | nil => simp [joined]
  | cons part rest ih =>
    cases rest with
    | nil => simp [joined]
    | cons next others =>
      rw [joined_cons_cons, List.mem_append, List.mem_cons, ih]
      simp [hc]

lemma filter_ne_of_not_mem {c : Char} {text : List Char} (h : c ∉ text) :
    text.filter (· ≠ c) = text := by
  rw [List.filter_eq_self]
  intro d hd
  rw [decide_eq_true_eq]
  rintro rfl
  exact h hd

/-- Without the separators the parts follow each other. -/
lemma filter_joined {separator : Char} {parts : List (List Char)}
    (h : ∀ part ∈ parts, separator ∉ part) :
    (joined separator parts).filter (· ≠ separator) = parts.flatten := by
  induction parts with
  | nil => rfl
  | cons part rest ih =>
    obtain ⟨hpart, hrest⟩ := List.forall_mem_cons.mp h
    cases rest with
    | nil => simpa [joined] using filter_ne_of_not_mem hpart
    | cons next others =>
      rw [joined_cons_cons, List.filter_append, filter_ne_of_not_mem hpart,
        List.filter_cons_of_neg (by simp), ih hrest, ← List.flatten_cons]

lemma length_flatten_of_full {groups : List (List Char)}
    (h : ∀ group ∈ groups, group.length = 3) : groups.flatten.length = 3 * groups.length := by
  induction groups with
  | nil => rfl
  | cons group rest ih =>
    obtain ⟨hgroup, hrest⟩ := List.forall_mem_cons.mp h
    rw [List.flatten_cons, List.length_append, hgroup, ih hrest, List.length_cons]
    omega

namespace IsGrouping

variable {first : List Char} {later : List (List Char)}

lemma comma_not_mem (h : IsGrouping first later) : ∀ group ∈ first :: later, ',' ∉ group := by
  intro group hgroup hcomma
  exact absurd (h.digits group hgroup ',' hcomma) (by decide)

lemma isDigit_of_mem (h : IsGrouping first later) {c : Char} (hc : c ∈ first ++ later.flatten) :
    c.isDigit = true := by
  rcases List.mem_append.mp hc with hfirst | hlater
  · exact h.digits first (by simp) c hfirst
  · obtain ⟨group, hgroup, hmem⟩ := List.mem_flatten.mp hlater
    exact h.digits group (by simp [hgroup]) c hmem

end IsGrouping

/-- Groups are cut at the separators, and each must have its length. -/
lemma ungroup_eq_some_iff {integer plain : List Char}
    (h : ∀ c ∈ integer, (c.isDigit || c = ',') = true) :
    ungroup integer = some plain ↔ ∃ first later, IsGrouping first later ∧
      integer = joined ',' (first :: later) ∧ plain = first ++ later.flatten := by
  constructor
  · intro hungroup
    rw [ungroup] at hungroup
    cases hpieces : pieces ',' integer with
    | nil => exact absurd hpieces (pieces_ne_nil ',' integer)
    | cons first later =>
      simp only [hpieces] at hungroup
      split_ifs at hungroup with hfirst hlater
      have hinteger : integer = joined ',' (first :: later) := by rw [← hpieces, joined_pieces]
      refine ⟨first, later, ⟨?_, ?_, ?_, ?_⟩, hinteger, (Option.some.inj hungroup).symm⟩
      · exact fun hnil => hfirst (.inl hnil)
      · exact Nat.le_of_not_lt fun hlong => hfirst (.inr hlong)
      · simpa using hlater
      · intro group hgroup c hc
        have hcomma : c ≠ ',' := by
          rintro rfl
          exact not_mem_of_mem_pieces (hpieces ▸ hgroup) hc
        have hmem : c ∈ integer := hinteger ▸ (mem_joined hcomma).mpr ⟨group, hgroup, hc⟩
        simpa [hcomma] using h c hmem
  · rintro ⟨first, later, hgrouping, rfl, rfl⟩
    have hshort : ¬ (first = [] ∨ 3 < first.length) := by
      rintro (hnil | hlong)
      · exact hgrouping.nonempty hnil
      · exact Nat.not_le_of_lt hlong hgrouping.short
    have hfull : later.all (fun group => decide (group.length = 3)) = true := by
      simpa using hgrouping.full
    rw [ungroup, pieces_joined (by simp) hgrouping.comma_not_mem]
    simp only [if_neg hshort, hfull, if_true]

/-! ### Numbers in groups -/

/-- What may stand in front of a number. -/
def IsSign (sign : List Char) : Prop :=
  sign = [] ∨ sign = ['+'] ∨ sign = ['-']

/-- What may stand after the digits of an integer part. -/
def IsTail (tail : List Char) : Prop :=
  ',' ∉ tail ∧ ∀ c ∈ tail.head?, c.isDigit = false

lemma IsSign.comma_not_mem {sign : List Char} (h : IsSign sign) : ',' ∉ sign := by
  rcases h with rfl | rfl | rfl <;> simp

/-- An unsigned number has its separators between the groups of its integer part. -/
lemma stripUnsigned_eq_some_iff {body plain : List Char} :
    stripUnsigned body = some plain ↔ ∃ first later tail, IsGrouping first later ∧ IsTail tail ∧
      body = joined ',' (first :: later) ++ tail ∧ plain = first ++ later.flatten ++ tail := by
  let isGrouped (c : Char) : Bool := c.isDigit || c = ','
  constructor
  · intro hstrip
    simp only [stripUnsigned] at hstrip
    split_ifs at hstrip with hcomma
    obtain ⟨digits, hungroup, rfl⟩ := Option.map_eq_some_iff.mp hstrip
    have hchars : ∀ c ∈ body.takeWhile isGrouped, isGrouped c = true :=
      fun c hc => List.mem_takeWhile_imp hc
    obtain ⟨first, later, hgrouping, hinteger, rfl⟩ := (ungroup_eq_some_iff hchars).mp hungroup
    refine ⟨first, later, body.dropWhile isGrouped, hgrouping, ⟨hcomma, fun c hc => ?_⟩, ?_, rfl⟩
    · have hhead := List.head?_dropWhile_not isGrouped body
      rw [hc] at hhead
      simp only [isGrouped, Bool.or_eq_false_iff] at hhead
      exact hhead.1
    · rw [← hinteger, List.takeWhile_append_dropWhile]
  · rintro ⟨first, later, tail, hgrouping, ⟨hcomma, hhead⟩, rfl, rfl⟩
    have hjoined : ∀ c ∈ joined ',' (first :: later), isGrouped c = true := by
      intro c hc
      by_cases hcomma : c = ','
      · simp [isGrouped, hcomma]
      · obtain ⟨group, hgroup, hmem⟩ := (mem_joined hcomma).mp hc
        simp [isGrouped, hgrouping.digits group hgroup c hmem]
    have htail : tail.takeWhile isGrouped = [] ∧ tail.dropWhile isGrouped = tail := by
      cases tail with
      | nil => exact ⟨rfl, rfl⟩
      | cons c rest =>
        have hc : isGrouped c = false := by
          have hne : c ≠ ',' := fun h => hcomma (by simp [h])
          simp [isGrouped, hhead c rfl, hne]
        simp [hc]
    simp only [stripUnsigned]
    rw [List.takeWhile_append_of_pos hjoined, List.dropWhile_append_of_pos hjoined, htail.1,
      htail.2, if_neg hcomma, List.append_nil,
      (ungroup_eq_some_iff hjoined).mpr ⟨first, later, hgrouping, rfl, rfl⟩]
    rfl

/-- The sign in front of a text is passed over. -/
lemma exists_sign {text : List Char} (hcomma : ',' ∈ text) :
    ∃ sign body, IsSign sign ∧ text = sign ++ body ∧
      stripGrouping text = (stripUnsigned body).map (sign ++ ·) := by
  unfold stripGrouping
  rw [if_pos hcomma]
  split
  · next body => exact ⟨['-'], body, .inr (.inr rfl), rfl, rfl⟩
  · next body => exact ⟨['+'], body, .inr (.inl rfl), rfl, rfl⟩
  · exact ⟨[], text, .inl rfl, rfl, by simp⟩

/-- A sign is taken for one if no other sign follows. -/
lemma stripGrouping_append {sign body : List Char} (hsign : IsSign sign) (hcomma : ',' ∈ body)
    (hbody : ∀ c ∈ body.head?, c.isDigit = true) :
    stripGrouping (sign ++ body) = (stripUnsigned body).map (sign ++ ·) := by
  have hmem : ',' ∈ sign ++ body := List.mem_append_right _ hcomma
  unfold stripGrouping
  rw [if_pos hmem]
  rcases hsign with rfl | rfl | rfl
  · cases body with
    | nil => simp at hcomma
    | cons c rest =>
      have hdigit := hbody c rfl
      have hminus : c ≠ '-' := by
        rintro rfl
        exact absurd hdigit (by decide)
      have hplus : c ≠ '+' := by
        rintro rfl
        exact absurd hdigit (by decide)
      simp [hminus, hplus]
  · rfl
  · rfl

/-- A number with separators in its integer part. -/
structure GroupedNumber where
  sign : List Char
  first : List Char
  later : List (List Char)
  tail : List Char
  isSign : IsSign sign
  isGrouping : IsGrouping first later
  isGrouped : later ≠ []
  isTail : IsTail tail

namespace GroupedNumber

variable (number : GroupedNumber)

def digits : List Char :=
  number.first ++ number.later.flatten

def text : List Char :=
  number.sign ++ (joined ',' (number.first :: number.later) ++ number.tail)

def plain : List Char :=
  number.sign ++ (number.digits ++ number.tail)

lemma isDigit_of_mem_digits {c : Char} (hc : c ∈ number.digits) : c.isDigit = true :=
  number.isGrouping.isDigit_of_mem hc

lemma digits_ne_nil : number.digits ≠ [] := by
  simp [digits, number.isGrouping.nonempty]

lemma comma_mem_text : ',' ∈ number.text := by
  obtain ⟨next, others, hlater⟩ := List.exists_cons_of_ne_nil number.isGrouped
  simp [text, hlater, joined_cons_cons]

/-- Nothing but the separators makes the difference. -/
lemma filter_text : number.text.filter (· ≠ ',') = number.plain := by
  rw [text, plain, digits, List.filter_append, List.filter_append,
    filter_ne_of_not_mem number.isSign.comma_not_mem, filter_ne_of_not_mem number.isTail.1,
    filter_joined number.isGrouping.comma_not_mem, List.flatten_cons]

lemma comma_not_mem_plain : ',' ∉ number.plain := by
  rw [← filter_text, List.mem_filter]
  simp

end GroupedNumber

/-! ### Accepted texts -/

/-- Texts with separators are accepted exactly if they are numbers in groups. -/
lemma stripGrouping_eq_some_iff {text plain : List Char} (hcomma : ',' ∈ text) :
    stripGrouping text = some plain ↔
      ∃ number : GroupedNumber, number.text = text ∧ number.plain = plain := by
  constructor
  · intro hstrip
    obtain ⟨sign, body, hsign, rfl, hbody⟩ := exists_sign hcomma
    rw [hbody] at hstrip
    obtain ⟨stripped, hstripped, rfl⟩ := Option.map_eq_some_iff.mp hstrip
    obtain ⟨first, later, tail, hgrouping, htail, rfl, rfl⟩ :=
      stripUnsigned_eq_some_iff.mp hstripped
    have hlater : later ≠ [] := by
      rintro rfl
      have hnone : ',' ∉ sign ++ (joined ',' [first] ++ tail) := by
        simp [hsign.comma_not_mem, joined, hgrouping.comma_not_mem first, htail.1]
      exact hnone hcomma
    exact ⟨⟨sign, first, later, tail, hsign, hgrouping, hlater, htail⟩, rfl, rfl⟩
  · rintro ⟨number, rfl, rfl⟩
    obtain ⟨next, others, hlater⟩ := List.exists_cons_of_ne_nil number.isGrouped
    obtain ⟨c, rest, hfirst⟩ := List.exists_cons_of_ne_nil number.isGrouping.nonempty
    have hhead : ∀ d ∈ (joined ',' (number.first :: number.later) ++ number.tail).head?,
        d.isDigit = true := by
      intro d hd
      obtain rfl : c = d := by simpa [hlater, joined_cons_cons, hfirst] using hd
      exact number.isGrouping.digits number.first (by simp) c (by simp [hfirst])
    have hbody : ',' ∈ joined ',' (number.first :: number.later) ++ number.tail := by
      simp [hlater, joined_cons_cons]
    have hstrip := stripUnsigned_eq_some_iff.mpr
      ⟨number.first, number.later, number.tail, number.isGrouping, number.isTail, rfl, rfl⟩
    rw [GroupedNumber.text, stripGrouping_append number.isSign hbody hhead, hstrip]
    rfl

/-! ### One way to write a number -/

/-- Digits whose number is a multiple of three fall into groups. -/
lemma exists_groups {digits : List Char} {count : Nat} (h : digits.length = 3 * count) :
    ∃ groups : List (List Char), (∀ group ∈ groups, group.length = 3) ∧ groups.length = count ∧
      groups.flatten = digits := by
  induction count generalizing digits with
  | zero => exact ⟨[], by simp, rfl, (List.length_eq_zero_iff.mp h).symm⟩
  | succ count ih =>
    have hrest : (digits.drop 3).length = 3 * count := by
      rw [List.length_drop]
      omega
    obtain ⟨groups, hfull, hcount, hflatten⟩ := ih hrest
    have hgroup : (digits.take 3).length = 3 := by
      rw [List.length_take]
      omega
    refine ⟨digits.take 3 :: groups, ?_, by simp [hcount], ?_⟩
    · intro group hmem
      rcases List.mem_cons.mp hmem with rfl | hlater
      · exact hgroup
      · exact hfull group hlater
    · rw [List.flatten_cons, hflatten, List.take_append_drop]

/-- From four digits on there is a way to write a number in groups. -/
lemma exists_grouped {sign digits tail : List Char} (hsign : IsSign sign)
    (hdigits : ∀ c ∈ digits, c.isDigit = true) (hlength : 4 ≤ digits.length)
    (htail : IsTail tail) :
    ∃ number : GroupedNumber, number.plain = sign ++ (digits ++ tail) := by
  -- the first group has what is left over from groups of three
  let count := (digits.length - 1) / 3
  have hrest : (digits.drop (digits.length - 3 * count)).length = 3 * count := by
    rw [List.length_drop]
    omega
  obtain ⟨later, hfull, hcount, hflatten⟩ := exists_groups hrest
  let first := digits.take (digits.length - 3 * count)
  have hsplit : first ++ later.flatten = digits := by rw [hflatten, List.take_append_drop]
  have hfirst : first.length = digits.length - 3 * count := by
    rw [List.length_take]
    omega
  have hgrouping : IsGrouping first later := by
    refine ⟨?_, by omega, hfull, ?_⟩
    · rw [← List.length_pos_iff]
      omega
    · intro group hgroup c hc
      have hmem : c ∈ first ++ later.flatten := by
        rcases List.mem_cons.mp hgroup with rfl | hlater
        · exact List.mem_append_left _ hc
        · exact List.mem_append_right _ (List.mem_flatten.mpr ⟨group, hlater, hc⟩)
      exact hdigits c (hsplit ▸ hmem)
  have hlater : later ≠ [] := by
    rw [← List.length_pos_iff]
    omega
  refine ⟨⟨sign, first, later, tail, hsign, hgrouping, hlater, htail⟩, ?_⟩
  show sign ++ ((first ++ later.flatten) ++ tail) = sign ++ (digits ++ tail)
  rw [hsplit]

/-- The parts of a number are found by looking for its first digits. -/
lemma GroupedNumber.parts_eq (number : GroupedNumber) :
    let unsigned := number.plain.dropWhile fun c => !c.isDigit
    number.plain.takeWhile (fun c => !c.isDigit) = number.sign ∧
      unsigned.takeWhile Char.isDigit = number.digits ∧
      unsigned.dropWhile Char.isDigit = number.tail := by
  intro unsigned
  obtain ⟨d, rest, hdigits⟩ := List.exists_cons_of_ne_nil number.digits_ne_nil
  have hd : d.isDigit = true := number.isDigit_of_mem_digits (by simp [hdigits])
  have hsign : ∀ c ∈ number.sign, (!c.isDigit) = true := by
    intro c hc
    rcases number.isSign with hnil | hplus | hminus
    · simp [hnil] at hc
    · obtain rfl : c = '+' := by simpa [hplus] using hc
      rfl
    · obtain rfl : c = '-' := by simpa [hminus] using hc
      rfl
  have htail : number.tail.takeWhile Char.isDigit = [] ∧
      number.tail.dropWhile Char.isDigit = number.tail := by
    cases htail : number.tail with
    | nil => exact ⟨rfl, rfl⟩
    | cons c others =>
      have hc : c.isDigit = false := number.isTail.2 c (by rw [htail]; rfl)
      simp [hc]
  have hall : ∀ c ∈ number.digits, c.isDigit = true := fun c hc => number.isDigit_of_mem_digits hc
  have hstart : (number.digits ++ number.tail).takeWhile (fun c => !c.isDigit) = [] ∧
      (number.digits ++ number.tail).dropWhile (fun c => !c.isDigit) =
        number.digits ++ number.tail := by
    simp [hdigits, hd]
  have hunsigned : unsigned = number.digits ++ number.tail := by
    show number.plain.dropWhile _ = _
    rw [plain, List.dropWhile_append_of_pos hsign, hstart.2]
  refine ⟨?_, ?_, ?_⟩
  · rw [plain, List.takeWhile_append_of_pos hsign, hstart.1, List.append_nil]
  · rw [hunsigned, List.takeWhile_append_of_pos hall, htail.1, List.append_nil]
  · rw [hunsigned, List.dropWhile_append_of_pos hall, htail.2]

/-- There is only one way to write digits in groups. -/
lemma IsGrouping.unique {first first' : List Char} {later later' : List (List Char)}
    (h : IsGrouping first later) (h' : IsGrouping first' later')
    (heq : first ++ later.flatten = first' ++ later'.flatten) :
    first = first' ∧ later = later' := by
  have hlength := congrArg List.length heq
  rw [List.length_append, List.length_append, length_flatten_of_full h.full,
    length_flatten_of_full h'.full] at hlength
  have hpos := List.length_pos_iff.mpr h.nonempty
  have hpos' := List.length_pos_iff.mpr h'.nonempty
  have hshort := h.short
  have hshort' := h'.short
  -- the first group is not empty and no longer than the others, so its length is determined
  have hfirst : first.length = first'.length := by omega
  have hcount : later.length = later'.length := by omega
  obtain ⟨rfl, hflatten⟩ := List.append_inj heq hfirst
  have hlengths {groups : List (List Char)} (hfull : ∀ group ∈ groups, group.length = 3) :
      groups.map List.length = List.replicate groups.length 3 := by
    rw [List.eq_replicate_iff]
    simpa using hfull
  refine ⟨rfl, List.eq_iff_flatten_eq.mpr ⟨hflatten, ?_⟩⟩
  rw [hlengths h.full, hlengths h'.full, hcount]

/-- A number is written in groups in one way only. -/
lemma GroupedNumber.text_eq_of_plain_eq {number other : GroupedNumber}
    (h : number.plain = other.plain) : number.text = other.text := by
  obtain ⟨hsign, hdigits, htail⟩ := number.parts_eq
  obtain ⟨hsign', hdigits', htail'⟩ := other.parts_eq
  rw [h] at hsign hdigits htail
  have hsame : number.digits = other.digits := hdigits.symm.trans hdigits'
  obtain ⟨hfirst, hlater⟩ := number.isGrouping.unique other.isGrouping hsame
  rw [text, text, hfirst, hlater, ← hsign, hsign', ← htail, htail']

/-! ### Texts with and without separators -/

/-- A text from which the separators were taken has none left to take. -/
lemma stripGrouping_of_stripGrouping {text plain : List Char}
    (h : stripGrouping text = some plain) : stripGrouping plain = some plain := by
  by_cases hcomma : ',' ∈ text
  · obtain ⟨number, -, rfl⟩ := (stripGrouping_eq_some_iff hcomma).mp h
    exact stripGrouping_of_not_mem number.comma_not_mem_plain
  · obtain rfl : text = plain := by simpa [stripGrouping_of_not_mem hcomma] using h
    exact h

/-- The separators make no difference to the number. -/
lemma decode_float_of_stripGrouping {text plain : List Char}
    (h : stripGrouping text = some plain) (format : BinaryFormat) (value : Scalar) :
    (Decoder.float format).decode (String.ofList text) = .ok value ↔
      (Decoder.float format).decode (String.ofList plain) = .ok value := by
  have hsame : Decoder.grouped format text = Decoder.grouped format plain := by
    rw [Decoder.grouped, Decoder.grouped, h, stripGrouping_of_stripGrouping h]
  rw [Decoder.float, Decoder.decode_ofReader_eq_ok_iff, Decoder.decode_ofReader_eq_ok_iff,
    String.toList_ofList, String.toList_ofList, hsame]

/-- A text without separators is left as it is. One with separators is accepted exactly if it is a
number in groups, and all that happens to it is that the separators are deleted. Deleting them again
changes nothing, and no two texts with separators come to the same. Hence every number with four or
more digits in its integer part is written in groups in exactly one way, and it is the same number
for every format. -/
theorem stripGrouping_exact (text : List Char) :
    (',' ∉ text → stripGrouping text = some text) ∧
      (',' ∈ text → ∀ plain, stripGrouping text = some plain ↔
        (∃ number : GroupedNumber, number.text = text) ∧ plain = text.filter (· ≠ ',')) ∧
      (∀ plain, stripGrouping text = some plain → stripGrouping plain = some plain) ∧
      (∀ other plain, ',' ∈ text → ',' ∈ other → stripGrouping text = some plain →
        stripGrouping other = some plain → other = text) ∧
      ∀ sign digits tail, IsSign sign → (∀ c ∈ digits, c.isDigit = true) → 4 ≤ digits.length →
        IsTail tail → text = sign ++ (digits ++ tail) →
        ∃ spelling, (',' ∈ spelling ∧ stripGrouping spelling = some text) ∧
          (∀ other, ',' ∈ other → stripGrouping other = some text → other = spelling) ∧
          ∀ format value, (Decoder.float format).decode (String.ofList spelling) = .ok value ↔
            (Decoder.float format).decode (String.ofList text) = .ok value := by
  have hunique {first second plain : List Char} (hfirst : ',' ∈ first) (hsecond : ',' ∈ second)
      (h : stripGrouping first = some plain) (h' : stripGrouping second = some plain) :
      first = second := by
    obtain ⟨number, rfl, hnumber⟩ := (stripGrouping_eq_some_iff hfirst).mp h
    obtain ⟨other, rfl, hother⟩ := (stripGrouping_eq_some_iff hsecond).mp h'
    exact GroupedNumber.text_eq_of_plain_eq (hnumber.trans hother.symm)
  refine ⟨stripGrouping_of_not_mem, ?_, fun plain => stripGrouping_of_stripGrouping, ?_, ?_⟩
  · intro hcomma plain
    rw [stripGrouping_eq_some_iff hcomma]
    constructor
    · rintro ⟨number, rfl, rfl⟩
      exact ⟨⟨number, rfl⟩, number.filter_text.symm⟩
    · rintro ⟨⟨number, rfl⟩, rfl⟩
      exact ⟨number, rfl, number.filter_text.symm⟩
  · intro other plain htext hother h h'
    exact hunique hother htext h' h
  · intro sign digits tail hsign hdigits hlength htail htext
    obtain ⟨number, hplain⟩ := exists_grouped hsign hdigits hlength htail
    have hstrip : stripGrouping number.text = some text :=
      (stripGrouping_eq_some_iff number.comma_mem_text).mpr ⟨number, rfl, hplain.trans htext.symm⟩
    refine ⟨number.text, ⟨number.comma_mem_text, hstrip⟩, ?_, ?_⟩
    · intro other hother h
      exact hunique hother number.comma_mem_text h hstrip
    · exact decode_float_of_stripGrouping hstrip

end CommandLine
