import CommandLine.Proofs.Digits
import CommandLine.Proofs.Lines
import CommandLine.Value.Decoder

/-!
# Durations as they are written

A duration is accepted exactly if it is spelled by the grammar and not longer than the longest one,
and it is as long as its numbers say. What spans are computed with is a parameter: only the lengths
of the results are known. The numbers of a spelling add up, so no sum on the way is longer than the
last one, and no check on the way refuses more than the bound on the whole.
-/

namespace CommandLine

open Text

/-! ### Spellings -/

/-- The nanoseconds of the digits after a decimal point: the first nine of them, with zeros for the
ones that are left out. -/
def Digits.nanoseconds (digits : Digits) : Nat :=
  digitsValue (digits.text.take 9) * 10 ^ (9 - digits.text.length)

lemma Digits.nanoseconds_lt (digits : Digits) : digits.nanoseconds < 1_000_000_000 := by
  have htake : ∀ c ∈ digits.text.take 9, c.isDigit = true :=
    fun c hc => digits.isDigit c (List.mem_of_mem_take hc)
  calc
    digits.nanoseconds < 10 ^ (digits.text.take 9).length * 10 ^ (9 - digits.text.length) :=
      Nat.mul_lt_mul_of_pos_right (digitsValue_lt htake) (Nat.pow_pos (by decide))
    _ = 10 ^ 9 := by
      rw [List.length_take, ← pow_add]
      congr 1
      omega

/-- Seconds as they are written. -/
structure SecondsSpelling where
  whole : Digits
  fraction : Option Digits

namespace SecondsSpelling

variable (spelling : SecondsSpelling)

def text : List Char :=
  match spelling.fraction with
  | some fraction => spelling.whole.text ++ '.' :: fraction.text
  | none => spelling.whole.text

def nanoseconds : Nat :=
  spelling.fraction.elim 0 Digits.nanoseconds

end SecondsSpelling

/-- Days and hours as they are written. -/
structure HoursSpelling where
  days : Option Digits
  hours : Digits

namespace HoursSpelling

variable (spelling : HoursSpelling)

def text : List Char :=
  match spelling.days with
  | some days => days.text ++ '.' :: spelling.hours.text
  | none => spelling.hours.text

def dayCount : Nat :=
  spelling.days.elim 0 Digits.value

end HoursSpelling

/-- A duration without a sign as it is written. -/
structure UnsignedSpelling where
  head : HoursSpelling
  minutes : Digits
  tail : Option SecondsSpelling
  hours_le : head.hours.value ≤ 23
  minutes_le : minutes.value ≤ 59
  seconds_le : ∀ seconds ∈ tail, seconds.whole.value ≤ 59

namespace UnsignedSpelling

variable (spelling : UnsignedSpelling)

def parts : List (List Char) :=
  spelling.head.text :: spelling.minutes.text :: spelling.tail.toList.map SecondsSpelling.text

def text : List Char :=
  joined ':' spelling.parts

def secondCount : Nat :=
  spelling.tail.elim 0 (·.whole.value)

def nanosecondCount : Nat :=
  spelling.tail.elim 0 SecondsSpelling.nanoseconds

/-- The numbers that are read from the spelling. -/
def numbers : DurationText.Numbers where
  days := spelling.head.dayCount
  hours := spelling.head.hours.value
  minutes := spelling.minutes.value
  seconds := spelling.secondCount
  nanoseconds := spelling.nanosecondCount

/-- The nanoseconds that the numbers add up to. -/
def amount : Nat :=
  (((spelling.head.dayCount * 24 + spelling.head.hours.value) * 60 + spelling.minutes.value) * 60 +
    spelling.secondCount) * 1_000_000_000 + spelling.nanosecondCount

lemma secondCount_le : spelling.secondCount ≤ 59 := by
  unfold secondCount
  cases htail : spelling.tail with
  | none => exact Nat.zero_le _
  | some written => exact spelling.seconds_le written htail

lemma nanosecondCount_lt : spelling.nanosecondCount < 1_000_000_000 := by
  unfold nanosecondCount
  rcases spelling.tail with _ | ⟨whole, _ | fraction⟩
  · exact Nat.zero_lt_succ _
  · exact Nat.zero_lt_succ _
  · exact fraction.nanoseconds_lt

end UnsignedSpelling

/-- A duration as it is written. -/
structure DurationSpelling where
  negative : Bool
  unsigned : UnsignedSpelling

namespace DurationSpelling

variable (spelling : DurationSpelling)

def text : List Char :=
  if spelling.negative then '-' :: spelling.unsigned.text else spelling.unsigned.text

def length : Int :=
  if spelling.negative then -spelling.unsigned.amount else spelling.unsigned.amount

lemma length_negative (unsigned : UnsignedSpelling) :
    length ⟨true, unsigned⟩ = -unsigned.amount :=
  if_pos rfl

lemma length_positive (unsigned : UnsignedSpelling) : length ⟨false, unsigned⟩ = unsigned.amount :=
  if_neg Bool.false_ne_true

end DurationSpelling

/-! ### Numbers -/

lemma Duration.longest_eq : Duration.longest = 9_223_372_036_854_775_807_000_000 :=
  rfl

namespace DurationText

lemma isWord_iff {n : Int} :
    IsWord n ↔ -9_223_372_036_854_775_808 ≤ n ∧ n < 9_223_372_036_854_775_808 :=
  Iff.rfl

lemma number_eq_ok_iff {text : List Char} {n : Int} :
    number text = .ok n ↔ ∃ digits : Digits, digits.text = text ∧ n = digits.value ∧ IsWord n := by
  have hword (digits : Digits) :
      IsWord digits.value ↔ digits.value ≤ (⟨64, true⟩ : IntegerWidth).greatest := by
    have hgreatest : (⟨64, true⟩ : IntegerWidth).greatest = 9_223_372_036_854_775_807 := rfl
    rw [isWord_iff, hgreatest]
    omega
  unfold number
  split_ifs with hdigits
  · obtain ⟨digits, rfl⟩ := Digits.exists_of_all hdigits
    constructor
    · intro h
      split at h
      · next m hm =>
        obtain ⟨rfl, hle⟩ := IntegerWidth.decode_digits_eq_ok_iff.mp hm
        obtain rfl := Except.ok.inj h
        exact ⟨digits, rfl, rfl, (hword digits).mpr hle⟩
      · exact nomatch h
    · rintro ⟨others, htext, rfl, hle⟩
      have hdecode := IntegerWidth.decode_digits_eq_ok_iff.mpr ⟨rfl, (hword others).mp hle⟩
      rw [← htext, hdecode]
  · constructor
    · intro h
      exact nomatch h
    · rintro ⟨digits, rfl, _⟩
      exact absurd digits.ne_nil_and_all hdigits

/-- A digit is appended as long as there is room for any digit. -/
lemma appendDigit_eq_ok {c : Char} (hc : c.isDigit = true) {value : Nat}
    (hvalue : (value + 1) * 10 ≤ 2 ^ 63) :
    appendDigit value c = .ok ((value * 10 + digitValue c : Nat) : Int) := by
  have hdigit := digitValue_lt hc
  have hshift : IsWord ((value : Int) * 10) := by
    rw [isWord_iff]
    omega
  have hsum : IsWord ((value : Int) * 10 + digitValue c) := by
    rw [isWord_iff]
    omega
  rw [appendDigit, word, if_pos hshift]
  show (if c < '0' then _ else word ((value : Int) * 10 + digitValue c)) = _
  rw [if_neg (not_lt_zero_of_isDigit hc), word, if_pos hsum]
  push_cast
  rfl

/-- The invariant: after the digits that are left there is still room. -/
lemma foldlM_appendDigit {digits : List Char} (h : ∀ c ∈ digits, c.isDigit = true) {value : Nat}
    (hvalue : (value + 1) * 10 ^ digits.length ≤ 2 ^ 63) :
    digits.foldlM appendDigit (value : Int) =
      .ok ((value * 10 ^ digits.length + digitsValue digits : Nat) : Int) := by
  induction digits generalizing value with
  | nil => simp [digitsValue, pure, Except.pure]
  | cons c rest ih =>
    obtain ⟨hc, hrest⟩ := List.forall_mem_cons.mp h
    have hdigit := digitValue_lt hc
    have hroom : (value + 1) * 10 * 10 ^ rest.length ≤ 2 ^ 63 := by
      rwa [List.length_cons, pow_succ, Nat.mul_comm _ 10, ← Nat.mul_assoc] at hvalue
    have hone : (value + 1) * 10 ≤ 2 ^ 63 :=
      (Nat.le_mul_of_pos_right _ (Nat.pow_pos (by decide))).trans hroom
    have hnext : (value * 10 + digitValue c + 1) * 10 ^ rest.length ≤ 2 ^ 63 :=
      (Nat.mul_le_mul_right _ (by omega)).trans hroom
    rw [List.foldlM_cons, appendDigit_eq_ok hc hone]
    show rest.foldlM appendDigit _ = _
    rw [ih hrest hnext, digitsValue_cons, List.length_cons, pow_succ]
    congr 2
    ring

lemma fraction_eq_ok_iff {text : List Char} {n : Int} :
    fraction text = .ok n ↔ ∃ digits : Digits, digits.text = text ∧ n = digits.nanoseconds := by
  unfold fraction
  split_ifs with hdigits
  · obtain ⟨digits, rfl⟩ := Digits.exists_of_all hdigits
    have hpadded : (digits.text ++ List.replicate 9 '0').take 9 =
        digits.text.take 9 ++ List.replicate (9 - digits.text.length) '0' := by
      rw [List.take_append, List.take_replicate, Nat.min_eq_left (Nat.sub_le _ _)]
    have hall : ∀ c ∈ (digits.text ++ List.replicate 9 '0').take 9, c.isDigit = true := by
      intro c hc
      rcases List.mem_append.mp (List.mem_of_mem_take hc) with hc | hc
      · exact digits.isDigit c hc
      · rw [List.eq_of_mem_replicate hc]
        rfl
    have hlength : ((digits.text ++ List.replicate 9 '0').take 9).length = 9 := by simp
    have hroom : (0 + 1) * 10 ^ ((digits.text ++ List.replicate 9 '0').take 9).length ≤ 2 ^ 63 := by
      rw [hlength]
      decide
    have hfold := foldlM_appendDigit hall hroom
    rw [Nat.cast_zero] at hfold
    rw [hfold, hpadded, digitsValue_append, digitsValue_replicate_zero, List.length_replicate]
    simp only [Nat.zero_mul, Nat.zero_add, Nat.add_zero, Except.ok.injEq]
    constructor
    · rintro rfl
      exact ⟨digits, rfl, rfl⟩
    · rintro ⟨others, htext, rfl⟩
      rw [Digits.nanoseconds, htext]
  · constructor
    · intro h
      exact nomatch h
    · rintro ⟨digits, rfl, _⟩
      exact absurd digits.ne_nil_and_all hdigits

/-! ### Parts -/

lemma isWord_zero : IsWord 0 := by
  rw [isWord_iff]
  omega

lemma cutFirst_digits (before : Digits) (after : List Char) :
    cutFirst '.' (before.text ++ '.' :: after) = some (before.text, after) :=
  cutFirst_eq_some_iff.mpr ⟨rfl, before.not_mem_text rfl⟩

lemma cutFirst_only_digits (only : Digits) : cutFirst '.' only.text = none :=
  cutFirst_eq_none_iff.mpr (only.not_mem_text rfl)

lemma head_eq_ok_iff {text : List Char} {days hours : Int} :
    head text = .ok (days, hours) ↔ ∃ spelling : HoursSpelling, spelling.text = text ∧
      (days = spelling.dayCount ∧ IsWord days) ∧ hours = spelling.hours.value ∧ IsWord hours := by
  unfold head
  constructor
  · intro h
    split at h
    · next before after hcut =>
      obtain ⟨d, hd, h⟩ := Except.bind_eq_ok_iff.mp h
      obtain ⟨n, hn, h⟩ := Except.bind_eq_ok_iff.mp h
      obtain ⟨rfl, rfl⟩ := Prod.mk.inj (Except.ok.inj h)
      obtain ⟨first, rfl, rfl, hfirst⟩ := number_eq_ok_iff.mp hd
      obtain ⟨second, rfl, rfl, hsecond⟩ := number_eq_ok_iff.mp hn
      exact ⟨⟨some first, second⟩, (cutFirst_eq_some_iff.mp hcut).1.symm, ⟨rfl, hfirst⟩, rfl,
        hsecond⟩
    · obtain ⟨n, hn, h⟩ := Except.bind_eq_ok_iff.mp h
      obtain ⟨rfl, rfl⟩ := Prod.mk.inj (Except.ok.inj h)
      obtain ⟨only, rfl, rfl, honly⟩ := number_eq_ok_iff.mp hn
      exact ⟨⟨none, only⟩, rfl, ⟨rfl, isWord_zero⟩, rfl, honly⟩
  · rintro ⟨⟨before, after⟩, rfl, ⟨rfl, hbefore⟩, rfl, hafter⟩
    have hhours := number_eq_ok_iff.mpr ⟨after, rfl, rfl, hafter⟩
    cases before with
    | some digits =>
      have hdays := number_eq_ok_iff.mpr ⟨digits, rfl, rfl, hbefore⟩
      simp only [HoursSpelling.text, cutFirst_digits, hdays, hhours]
      rfl
    | none =>
      simp only [HoursSpelling.text, cutFirst_only_digits, hhours]
      rfl

lemma tail_eq_ok_iff {third : Option (List Char)} {seconds nanoseconds : Int} :
    tail third = .ok (seconds, nanoseconds) ↔ ∃ spelling : Option SecondsSpelling,
      spelling.map SecondsSpelling.text = third ∧
      (seconds = (spelling.elim 0 (·.whole.value) : Nat) ∧ IsWord seconds) ∧
      nanoseconds = (spelling.elim 0 SecondsSpelling.nanoseconds : Nat) := by
  constructor
  · intro h
    cases third with
    | none =>
      obtain ⟨rfl, rfl⟩ := Prod.mk.inj (Except.ok.inj h)
      exact ⟨none, rfl, ⟨rfl, isWord_zero⟩, rfl⟩
    | some text =>
      simp only [tail] at h
      split at h
      · next before after hcut =>
        obtain ⟨d, hd, h⟩ := Except.bind_eq_ok_iff.mp h
        obtain ⟨n, hn, h⟩ := Except.bind_eq_ok_iff.mp h
        obtain ⟨rfl, rfl⟩ := Prod.mk.inj (Except.ok.inj h)
        obtain ⟨first, rfl, rfl, hfirst⟩ := number_eq_ok_iff.mp hd
        obtain ⟨second, rfl, rfl⟩ := fraction_eq_ok_iff.mp hn
        exact ⟨some ⟨first, some second⟩, congrArg some (cutFirst_eq_some_iff.mp hcut).1.symm,
          ⟨rfl, hfirst⟩, rfl⟩
      · obtain ⟨n, hn, h⟩ := Except.bind_eq_ok_iff.mp h
        obtain ⟨rfl, rfl⟩ := Prod.mk.inj (Except.ok.inj h)
        obtain ⟨only, rfl, rfl, honly⟩ := number_eq_ok_iff.mp hn
        exact ⟨some ⟨only, none⟩, rfl, ⟨rfl, honly⟩, rfl⟩
  · rintro ⟨spelling, rfl, ⟨rfl, hbefore⟩, rfl⟩
    rcases spelling with _ | ⟨before, after⟩
    · rfl
    · have hseconds := number_eq_ok_iff.mpr ⟨before, rfl, rfl, hbefore⟩
      cases after with
      | some digits =>
        have hfraction := fraction_eq_ok_iff.mpr ⟨digits, rfl, rfl⟩
        simp only [Option.map_some, SecondsSpelling.text, tail, cutFirst_digits, hseconds,
          hfraction]
        rfl
      | none =>
        simp only [Option.map_some, SecondsSpelling.text, tail, cutFirst_only_digits, hseconds]
        rfl

lemma isWord_of_le {n : Nat} (h : n ≤ 1_000_000_000) : IsWord n := by
  rw [isWord_iff]
  omega

section

variable (spelling : UnsignedSpelling)

lemma isWord_hours : IsWord spelling.head.hours.value :=
  isWord_of_le (spelling.hours_le.trans (by decide))

lemma isWord_minutes : IsWord spelling.minutes.value :=
  isWord_of_le (spelling.minutes_le.trans (by decide))

lemma isWord_seconds : IsWord spelling.secondCount :=
  isWord_of_le (spelling.secondCount_le.trans (by decide))

lemma isWord_nanoseconds : IsWord spelling.nanosecondCount :=
  isWord_of_le spelling.nanosecondCount_lt.le

end

/-- The numbers between the colons are those of a spelling, which keeps their bounds. -/
lemma numbers_eq_ok_iff {first second : List Char} {third : Option (List Char)}
    {result : Numbers} :
    numbers first second third = .ok result ↔ ∃ spelling : UnsignedSpelling,
      (spelling.head.text = first ∧ spelling.minutes.text = second ∧
        spelling.tail.map SecondsSpelling.text = third) ∧
      result = spelling.numbers ∧ IsWord spelling.head.dayCount := by
  unfold numbers
  constructor
  · intro h
    obtain ⟨⟨days, hours⟩, hhead, h⟩ := Except.bind_eq_ok_iff.mp h
    obtain ⟨minutes, hminutes, h⟩ := Except.bind_eq_ok_iff.mp h
    obtain ⟨⟨seconds, nanoseconds⟩, htail, h⟩ := Except.bind_eq_ok_iff.mp h
    obtain ⟨head, rfl, ⟨rfl, hdays⟩, rfl, _⟩ := head_eq_ok_iff.mp hhead
    obtain ⟨digits, rfl, rfl, _⟩ := number_eq_ok_iff.mp hminutes
    obtain ⟨tail, rfl, ⟨rfl, _⟩, rfl⟩ := tail_eq_ok_iff.mp htail
    by_cases hbounds : 23 < (head.hours.value : Int) ∨ 59 < (digits.value : Int) ∨
        59 < ((tail.elim 0 (·.whole.value) : Nat) : Int)
    · simp only [if_pos hbounds] at h
      exact nomatch h
    · simp only [if_neg hbounds] at h
      obtain rfl := Except.ok.inj h
      refine ⟨⟨head, digits, tail, by omega, by omega, ?_⟩, ⟨rfl, rfl, rfl⟩, rfl, hdays⟩
      intro written htail
      rw [Option.mem_def.mp htail] at hbounds
      simp only [Option.elim_some] at hbounds
      omega
  · rintro ⟨spelling, ⟨rfl, rfl, rfl⟩, rfl, hdays⟩
    have hhead := head_eq_ok_iff.mpr ⟨spelling.head, rfl, ⟨rfl, hdays⟩, rfl, isWord_hours spelling⟩
    have hminutes := number_eq_ok_iff.mpr ⟨spelling.minutes, rfl, rfl, isWord_minutes spelling⟩
    have htail : tail (spelling.tail.map SecondsSpelling.text) =
        .ok ((spelling.secondCount : Int), (spelling.nanosecondCount : Int)) :=
      tail_eq_ok_iff.mpr ⟨spelling.tail, rfl, ⟨rfl, isWord_seconds spelling⟩, rfl⟩
    have hbounds : ¬ (23 < (spelling.head.hours.value : Int) ∨
        59 < (spelling.minutes.value : Int) ∨ 59 < (spelling.secondCount : Int)) := by
      have hhours := spelling.hours_le
      have hminutes := spelling.minutes_le
      have hseconds := spelling.secondCount_le
      omega
    refine Except.bind_eq_ok_iff.mpr ⟨_, hhead, Except.bind_eq_ok_iff.mpr ⟨_, hminutes,
      Except.bind_eq_ok_iff.mpr ⟨_, htail, ?_⟩⟩⟩
    show (if _ then _ else _) = _
    rw [if_neg hbounds]
    rfl

end DurationText

namespace UnsignedSpelling

variable (spelling : UnsignedSpelling)

lemma exists_head_eq : ∃ c rest, spelling.head.text = c :: rest ∧ c.isDigit = true := by
  have hdigits (digits : Digits) (later : List Char) :
      ∃ c rest, digits.text ++ later = c :: rest ∧ c.isDigit = true := by
    obtain ⟨c, rest, htext⟩ := List.exists_cons_of_ne_nil digits.nonempty
    refine ⟨c, rest ++ later, by rw [htext, List.cons_append], ?_⟩
    exact digits.isDigit c (by simp [htext])
  unfold HoursSpelling.text
  split
  · exact hdigits _ _
  · simpa using hdigits spelling.head.hours []

/-- A spelling starts with a digit, so its minus sign is not its own. -/
lemma text_ne_minus (body : List Char) : spelling.text ≠ '-' :: body := by
  obtain ⟨c, rest, hhead, hc⟩ := spelling.exists_head_eq
  intro htext
  rw [text, parts, hhead, joined_cons_cons, List.cons_append, List.cons.injEq] at htext
  rw [htext.1] at hc
  exact absurd hc (by decide)

lemma colon_not_mem_parts : ∀ part ∈ spelling.parts, ':' ∉ part := by
  have hdotted (before after : Digits) : ':' ∉ before.text ++ '.' :: after.text := by
    simp [before.not_mem_text, after.not_mem_text]
  rw [parts, List.forall_mem_cons, List.forall_mem_cons]
  refine ⟨?_, spelling.minutes.not_mem_text rfl, ?_⟩
  · unfold HoursSpelling.text
    split
    · exact hdotted _ _
    · exact spelling.head.hours.not_mem_text rfl
  · intro part hpart
    obtain ⟨written, _, rfl⟩ := List.mem_map.mp hpart
    unfold SecondsSpelling.text
    split
    · exact hdotted _ _
    · exact written.whole.not_mem_text rfl

end UnsignedSpelling

namespace DurationText

lemma unsigned_eq_ok_iff {text : List Char} {result : Numbers} :
    unsigned text = .ok result ↔ ∃ spelling : UnsignedSpelling, spelling.text = text ∧
      result = spelling.numbers ∧ IsWord spelling.head.dayCount := by
  constructor
  · intro h
    have htext := joined_pieces ':' text
    unfold unsigned at h
    split at h
    · next first second hpieces =>
      obtain ⟨spelling, ⟨rfl, rfl, htail⟩, hresult⟩ := numbers_eq_ok_iff.mp h
      rw [Option.map_eq_none_iff] at htail
      refine ⟨spelling, ?_, hresult⟩
      rw [← htext, hpieces, UnsignedSpelling.text, UnsignedSpelling.parts, htail]
      rfl
    · next first second third hpieces =>
      obtain ⟨spelling, ⟨rfl, rfl, htail⟩, hresult⟩ := numbers_eq_ok_iff.mp h
      obtain ⟨written, hwritten, rfl⟩ := Option.map_eq_some_iff.mp htail
      refine ⟨spelling, ?_, hresult⟩
      rw [← htext, hpieces, UnsignedSpelling.text, UnsignedSpelling.parts, hwritten]
      rfl
    · exact nomatch h
  · rintro ⟨spelling, rfl, hresult⟩
    have hpieces : pieces ':' spelling.text = spelling.parts :=
      pieces_joined (List.cons_ne_nil _ _) spelling.colon_not_mem_parts
    have hnumbers := numbers_eq_ok_iff.mpr ⟨spelling, ⟨rfl, rfl, rfl⟩, hresult⟩
    rw [unsigned, hpieces, UnsignedSpelling.parts]
    cases htail : spelling.tail with
    | none =>
      rw [htail] at hnumbers
      exact hnumbers
    | some written =>
      rw [htail] at hnumbers
      exact hnumbers

/-! ### Overflow -/

/-- No number that is computed leaves its range. -/
def StaysInRange {α : Type} (computed : Except DurationFault α) : Prop :=
  computed ≠ .error .overflow

section StaysInRange

variable {α β : Type}

@[simp] lemma staysInRange_ok (value : α) : StaysInRange (.ok value) :=
  nofun

@[simp] lemma staysInRange_rejected : StaysInRange (.error .rejected : Except DurationFault α) :=
  nofun

lemma StaysInRange.bind {first : Except DurationFault α} {next : α → Except DurationFault β}
    (hfirst : StaysInRange first) (hnext : ∀ value, StaysInRange (next value)) :
    StaysInRange (first >>= next) := by
  cases first with
  | error fault => cases fault <;> simp_all [StaysInRange, Bind.bind, Except.bind]
  | ok value => exact hnext value

end StaysInRange

lemma staysInRange_number (text : List Char) : StaysInRange (number text) := by
  unfold number
  split_ifs
  · split <;> simp
  · simp

/-- Only digits are counted up, and only nine of them. -/
lemma staysInRange_fraction (text : List Char) : StaysInRange (fraction text) := by
  by_cases hdigits : text ≠ [] ∧ text.all Char.isDigit
  · obtain ⟨digits, rfl⟩ := Digits.exists_of_all hdigits
    rw [fraction_eq_ok_iff.mpr ⟨digits, rfl, rfl⟩]
    simp
  · rw [fraction, if_neg hdigits]
    simp

lemma staysInRange_head (text : List Char) : StaysInRange (head text) := by
  unfold head
  split
  · exact (staysInRange_number _).bind fun _ => (staysInRange_number _).bind fun _ =>
      staysInRange_ok _
  · exact (staysInRange_number _).bind fun _ => staysInRange_ok _

lemma staysInRange_tail (third : Option (List Char)) : StaysInRange (tail third) := by
  unfold tail
  split
  · exact staysInRange_ok _
  · split
    · exact (staysInRange_number _).bind fun _ => (staysInRange_fraction _).bind fun _ =>
        staysInRange_ok _
    · exact (staysInRange_number _).bind fun _ => staysInRange_ok _

lemma staysInRange_numbers (first second : List Char) (third : Option (List Char)) :
    StaysInRange (numbers first second third) := by
  refine (staysInRange_head _).bind fun _ => (staysInRange_number _).bind fun _ =>
    (staysInRange_tail _).bind fun _ => ?_
  show StaysInRange (if _ then _ else _)
  split_ifs
  · exact staysInRange_rejected
  · exact staysInRange_ok _

lemma staysInRange_unsigned (text : List Char) : StaysInRange (unsigned text) := by
  unfold unsigned
  split
  · exact staysInRange_numbers _ _ _
  · exact staysInRange_numbers _ _ _
  · exact staysInRange_rejected

end DurationText

/-! ### Spans -/

namespace SpanOperations

variable {σ : Type}

/-- What the operations on spans do, with the length of every span in nanoseconds: a span is known
by its length, there is one of every length up to the longest, and an operation on numbers of 64
bits has a result exactly if there is a span of the right length. -/
structure Lawful (operations : SpanOperations σ) (length : σ → Int) : Prop where
  injective : ∀ {x y}, length x = length y → x = y
  exists_iff : ∀ n, (∃ span, length span = n) ↔ n.natAbs ≤ Duration.longest
  days : ∀ {n span}, DurationText.IsWord n →
    (operations.days? n = some span ↔ length span = n * 86_400_000_000_000)
  hours : ∀ {n span}, DurationText.IsWord n →
    (operations.hours? n = some span ↔ length span = n * 3_600_000_000_000)
  minutes : ∀ {n span}, DurationText.IsWord n →
    (operations.minutes? n = some span ↔ length span = n * 60_000_000_000)
  seconds : ∀ {n span}, DurationText.IsWord n →
    (operations.seconds? n = some span ↔ length span = n * 1_000_000_000)
  nanoseconds : ∀ {n}, DurationText.IsWord n → length (operations.nanoseconds n) = n
  add : ∀ {x y span}, operations.add? x y = some span ↔ length span = length x + length y
  negate : ∀ x, length (operations.negate x) = -length x

/-- There is a span of a length, or the length is that of no span. -/
def Measures (length : σ → Int) (span? : Option σ) (n : Int) : Prop :=
  ∀ span, span? = some span ↔ length span = n

section Lawful

variable {operations : SpanOperations σ} {length : σ → Int}

/-- If neither span is negative, a sum that is short enough has parts that are, so no check on the
parts refuses it. -/
lemma Lawful.measures_plus? (lawful : operations.Lawful length) {x y : Option σ} {m n : Int}
    (hx : Measures length x m) (hy : Measures length y n) (hm : 0 ≤ m) (hn : 0 ≤ n) :
    Measures length (operations.plus? x y) (m + n) := by
  intro span
  unfold plus?
  constructor
  · intro h
    obtain ⟨first, hfirst, h⟩ := Option.bind_eq_some_iff.mp h
    obtain ⟨second, hsecond, h⟩ := Option.bind_eq_some_iff.mp h
    rw [lawful.add.mp h, (hx first).mp hfirst, (hy second).mp hsecond]
  · intro h
    have hsum : (m + n).natAbs ≤ Duration.longest := (lawful.exists_iff _).mp ⟨span, h⟩
    obtain ⟨first, hfirst⟩ := (lawful.exists_iff m).mpr (by omega)
    obtain ⟨second, hsecond⟩ := (lawful.exists_iff n).mpr (by omega)
    refine Option.bind_eq_some_iff.mpr ⟨first, (hx first).mpr hfirst, ?_⟩
    refine Option.bind_eq_some_iff.mpr ⟨second, (hy second).mpr hsecond, ?_⟩
    rw [lawful.add, h, hfirst, hsecond]

/-- The numbers of a spelling are added up to its amount. -/
lemma Lawful.measures_sum? (lawful : operations.Lawful length) {spelling : UnsignedSpelling}
    (hdays : DurationText.IsWord spelling.head.dayCount) :
    Measures length (operations.sum? spelling.numbers) spelling.amount := by
  have hd : Measures length (operations.days? spelling.head.dayCount)
      (spelling.head.dayCount * 86_400_000_000_000) :=
    fun _ => lawful.days hdays
  have hh : Measures length (operations.hours? spelling.head.hours.value)
      (spelling.head.hours.value * 3_600_000_000_000) :=
    fun _ => lawful.hours (DurationText.isWord_hours spelling)
  have hm : Measures length (operations.minutes? spelling.minutes.value)
      (spelling.minutes.value * 60_000_000_000) :=
    fun _ => lawful.minutes (DurationText.isWord_minutes spelling)
  have hs : Measures length (operations.seconds? spelling.secondCount)
      (spelling.secondCount * 1_000_000_000) :=
    fun _ => lawful.seconds (DurationText.isWord_seconds spelling)
  have hn : Measures length (some (operations.nanoseconds spelling.nanosecondCount))
      spelling.nanosecondCount := by
    intro span
    have hlength := lawful.nanoseconds (DurationText.isWord_nanoseconds spelling)
    constructor
    · intro h
      rw [← Option.some.inj h, hlength]
    · intro h
      rw [lawful.injective (h.trans hlength.symm)]
  have hamount : (spelling.amount : Int) = spelling.head.dayCount * 86_400_000_000_000 +
      spelling.head.hours.value * 3_600_000_000_000 + spelling.minutes.value * 60_000_000_000 +
      spelling.secondCount * 1_000_000_000 + spelling.nanosecondCount := by
    rw [UnsignedSpelling.amount]
    push_cast
    ring
  rw [hamount]
  have hsum := lawful.measures_plus? hd hh (by omega) (by omega)
  have hsum := lawful.measures_plus? hsum hm (by omega) (by omega)
  have hsum := lawful.measures_plus? hsum hs (by omega) (by omega)
  exact lawful.measures_plus? hsum hn (by omega) (by omega)

/-- If the amount is not too long, the days are no larger number than 64 bits have. -/
lemma isWord_dayCount {spelling : UnsignedSpelling} (h : spelling.amount ≤ Duration.longest) :
    DurationText.IsWord spelling.head.dayCount := by
  rw [UnsignedSpelling.amount, Duration.longest_eq] at h
  rw [DurationText.isWord_iff]
  omega

lemma Lawful.readUnsigned_eq_ok_iff (lawful : operations.Lawful length) {text : List Char}
    {span : σ} :
    operations.readUnsigned text = .ok span ↔ ∃ spelling : UnsignedSpelling,
      spelling.text = text ∧ length span = spelling.amount := by
  unfold readUnsigned
  constructor
  · intro h
    obtain ⟨numbers, hnumbers, h⟩ := Except.bind_eq_ok_iff.mp h
    obtain ⟨spelling, rfl, rfl, hdays⟩ := DurationText.unsigned_eq_ok_iff.mp hnumbers
    split at h
    · next found hsum =>
      obtain rfl := Except.ok.inj h
      exact ⟨spelling, rfl, (lawful.measures_sum? hdays found).mp hsum⟩
    · exact nomatch h
  · rintro ⟨spelling, rfl, hlength⟩
    have hamount : spelling.amount ≤ Duration.longest := by
      simpa using (lawful.exists_iff spelling.amount).mp ⟨span, hlength⟩
    have hdays := isWord_dayCount hamount
    refine Except.bind_eq_ok_iff.mpr
      ⟨_, DurationText.unsigned_eq_ok_iff.mpr ⟨spelling, rfl, rfl, hdays⟩, ?_⟩
    rw [(lawful.measures_sum? hdays span).mpr hlength]
    rfl

lemma Lawful.read_eq_ok_iff (lawful : operations.Lawful length) {text : List Char} {span : σ} :
    operations.read text = .ok span ↔ ∃ spelling : DurationSpelling,
      spelling.text = text ∧ length span = spelling.length := by
  unfold read
  split
  · next body =>
    rw [Except.map_eq_ok_iff]
    constructor
    · rintro ⟨opposite, hread, rfl⟩
      obtain ⟨spelling, rfl, hlength⟩ := lawful.readUnsigned_eq_ok_iff.mp hread
      refine ⟨⟨true, spelling⟩, rfl, ?_⟩
      rw [lawful.negate, hlength, DurationSpelling.length_negative]
    · rintro ⟨⟨negative, spelling⟩, htext, hlength⟩
      cases negative with
      | false => exact absurd htext (spelling.text_ne_minus body)
      | true =>
        obtain rfl := (List.cons.inj htext).2
        have hopposite : length (operations.negate span) = spelling.amount := by
          rw [lawful.negate, hlength, DurationSpelling.length_negative, neg_neg]
        refine ⟨operations.negate span,
          lawful.readUnsigned_eq_ok_iff.mpr ⟨spelling, rfl, hopposite⟩, ?_⟩
        apply lawful.injective
        rw [lawful.negate, lawful.negate, neg_neg]
  · next hminus =>
    rw [lawful.readUnsigned_eq_ok_iff]
    constructor
    · rintro ⟨spelling, rfl, hlength⟩
      exact ⟨⟨false, spelling⟩, rfl, by rw [hlength, DurationSpelling.length_positive]⟩
    · rintro ⟨⟨negative, spelling⟩, rfl, hlength⟩
      cases negative with
      | false => exact ⟨spelling, rfl, by rw [hlength, DurationSpelling.length_positive]⟩
      | true => exact absurd rfl (hminus spelling.text)

end Lawful

lemma staysInRange_read (operations : SpanOperations σ) (text : List Char) :
    DurationText.StaysInRange (operations.read text) := by
  have hunsigned (body : List Char) : DurationText.StaysInRange (operations.readUnsigned body) := by
    refine (DurationText.staysInRange_unsigned body).bind fun numbers => ?_
    split
    · exact DurationText.staysInRange_ok _
    · exact DurationText.staysInRange_rejected
  unfold read
  split
  · next body =>
    have hbody := hunsigned body
    cases hread : operations.readUnsigned body with
    | error fault =>
      rw [hread] at hbody
      cases fault with
      | rejected => exact DurationText.staysInRange_rejected
      | overflow => exact absurd rfl hbody
    | ok span => exact DurationText.staysInRange_ok _
  · exact hunsigned _

end SpanOperations

/-! ### Durations in nanoseconds -/

namespace Duration

lemma eq_of_nanoseconds {x y : Duration} (h : x.nanoseconds = y.nanoseconds) : x = y := by
  cases x
  cases y
  cases h
  rfl

lemma of?_eq_some_iff {n : Int} {duration : Duration} :
    of? n = some duration ↔ duration.nanoseconds = n := by
  unfold of?
  split_ifs with h
  · rw [Option.some.injEq]
    constructor
    · rintro rfl
      rfl
    · intro hn
      exact eq_of_nanoseconds hn.symm
  · constructor
    · intro hnone
      exact nomatch hnone
    · rintro rfl
      exact absurd duration.bounded h

lemma lawful_operations : operations.Lawful Duration.nanoseconds where
  injective := eq_of_nanoseconds
  exists_iff n := by
    constructor
    · rintro ⟨span, rfl⟩
      exact span.bounded
    · intro h
      exact ⟨⟨n, h⟩, rfl⟩
  days _ := of?_eq_some_iff
  hours _ := of?_eq_some_iff
  minutes _ := of?_eq_some_iff
  seconds _ := of?_eq_some_iff
  nanoseconds {n} hn := by
    have hbounded : n.natAbs ≤ longest := by
      rw [DurationText.isWord_iff] at hn
      rw [longest_eq]
      omega
    have hsome : of? n = some ⟨n, hbounded⟩ := of?_eq_some_iff.mpr rfl
    show ((of? n).getD zero).nanoseconds = n
    rw [hsome]
    rfl
  add := of?_eq_some_iff
  negate _ := rfl

end Duration

/-! ### Writing all parts of a duration -/

/-- All parts of an unsigned duration, in digits of fixed number except for the days. -/
def UnsignedSpelling.full (amount : Nat) : UnsignedSpelling where
  head.days := some (.decimal (amount / 86_400_000_000_000))
  head.hours := .padded 2 (by decide) (amount / 3_600_000_000_000 % 24)
  minutes := .padded 2 (by decide) (amount / 60_000_000_000 % 60)
  tail := some
    { whole := .padded 2 (by decide) (amount / 1_000_000_000 % 60)
      fraction := some (.padded 9 (by decide) (amount % 1_000_000_000)) }
  hours_le := by
    rw [Digits.value_padded] <;> omega
  minutes_le := by
    rw [Digits.value_padded] <;> omega
  seconds_le := by
    rintro seconds ⟨⟩
    rw [Digits.value_padded] <;> omega

/-- A duration of a number of nanoseconds with all its parts. -/
def DurationSpelling.full (nanoseconds : Int) : DurationSpelling where
  negative := nanoseconds < 0
  unsigned := .full nanoseconds.natAbs

/-- Nine digits count as they are. -/
lemma Digits.nanoseconds_padded {n : Nat} (hn : n < 1_000_000_000) :
    (padded 9 (by decide) n).nanoseconds = n := by
  have hlength : (padded 9 (by decide) n).text.length = 9 := length_padded (by decide) n
  rw [nanoseconds, hlength, List.take_of_length_le hlength.le, Nat.sub_self, pow_zero, Nat.mul_one]
  exact value_padded (by decide) hn

lemma UnsignedSpelling.amount_full (amount : Nat) :
    (UnsignedSpelling.full amount).amount = amount := by
  have hdays : (full amount).head.dayCount = amount / 86_400_000_000_000 :=
    Digits.value_decimal _
  have hhours : (full amount).head.hours.value = amount / 3_600_000_000_000 % 24 :=
    Digits.value_padded (by decide) (by omega)
  have hminutes : (full amount).minutes.value = amount / 60_000_000_000 % 60 :=
    Digits.value_padded (by decide) (by omega)
  have hseconds : (full amount).secondCount = amount / 1_000_000_000 % 60 :=
    Digits.value_padded (by decide) (by omega)
  have hnanoseconds : (full amount).nanosecondCount = amount % 1_000_000_000 :=
    Digits.nanoseconds_padded (by omega)
  rw [UnsignedSpelling.amount, hdays, hhours, hminutes, hseconds, hnanoseconds]
  omega

lemma DurationSpelling.length_full (nanoseconds : Int) :
    (DurationSpelling.full nanoseconds).length = nanoseconds := by
  by_cases hnegative : nanoseconds < 0
  · have hfull : full nanoseconds = ⟨true, .full nanoseconds.natAbs⟩ := by simp [full, hnegative]
    rw [hfull, length_negative, UnsignedSpelling.amount_full]
    omega
  · have hfull : full nanoseconds = ⟨false, .full nanoseconds.natAbs⟩ := by simp [full, hnegative]
    rw [hfull, length_positive, UnsignedSpelling.amount_full]
    omega

/-! ### The grammar is exact -/

lemma Decoder.span_eq_ok_iff {σ : Type} {operations : SpanOperations σ} {argument : String}
    {span : σ} :
    Decoder.span operations argument = .ok span ↔ operations.read argument.toList = .ok span := by
  unfold Decoder.span
  cases operations.read argument.toList with
  | error fault => simp
  | ok found => simp

/-- A text is a duration exactly if it is spelled by the grammar and not too long, with the length
that its numbers add up to, and no number on the way leaves its range. What is written with all its
parts is read back. -/
theorem span_exact {σ : Type} {operations : SpanOperations σ} {length : σ → Int}
    (lawful : operations.Lawful length) :
    (∀ text : String, operations.read text.toList ≠ .error .overflow) ∧
    (∀ text : String, (∃ span, Decoder.span operations text = .ok span) ↔
      ∃ spelling : DurationSpelling, spelling.text = text.toList ∧
        spelling.unsigned.amount ≤ Duration.longest) ∧
    (∀ (text : String) (span : σ), Decoder.span operations text = .ok span ↔
      ∃ spelling : DurationSpelling, spelling.text = text.toList ∧
        length span = spelling.length) ∧
    ∀ span : σ, Decoder.span operations
      (String.ofList (DurationSpelling.full (length span)).text) = .ok span := by
  have hread (text : String) (span : σ) : Decoder.span operations text = .ok span ↔
      ∃ spelling : DurationSpelling, spelling.text = text.toList ∧
        length span = spelling.length :=
    Decoder.span_eq_ok_iff.trans lawful.read_eq_ok_iff
  refine ⟨fun text => SpanOperations.staysInRange_read operations text.toList, fun text => ?_,
    hread, fun span => ?_⟩
  · have hlength (spelling : DurationSpelling) :
        (∃ span, length span = spelling.length) ↔ spelling.unsigned.amount ≤ Duration.longest := by
      rw [lawful.exists_iff]
      rcases spelling with ⟨_ | _, unsigned⟩
      · rw [DurationSpelling.length_positive, Int.natAbs_natCast]
      · rw [DurationSpelling.length_negative, Int.natAbs_neg, Int.natAbs_natCast]
    constructor
    · rintro ⟨span, hspan⟩
      obtain ⟨spelling, htext, hspelling⟩ := (hread text span).mp hspan
      exact ⟨spelling, htext, (hlength spelling).mp ⟨span, hspelling⟩⟩
    · rintro ⟨spelling, htext, hamount⟩
      obtain ⟨span, hspan⟩ := (hlength spelling).mpr hamount
      exact ⟨span, (hread text span).mpr ⟨spelling, htext, hspan⟩⟩
  · apply (hread _ span).mpr
    refine ⟨.full (length span), String.toList_ofList.symm, ?_⟩
    rw [DurationSpelling.length_full]

/-- The bound is reached on the side of the minus sign as well. -/
theorem span_exact_shortest :
    Decoder.span Duration.operations "-106751991167.07:12:55.807" =
      .ok ⟨-9_223_372_036_854_775_807_000_000, by decide⟩ :=
  ((span_exact Duration.lawful_operations).2.2.1 _ _).mpr
    ⟨{  negative := true
        unsigned :=
          { head := ⟨some (.decimal 106_751_991_167), .padded 2 (by decide) 7⟩
            minutes := .decimal 12
            tail := some ⟨.decimal 55, some (.decimal 807)⟩
            hours_le := by decide
            minutes_le := by decide
            seconds_le := by decide } }, by decide, by decide⟩

end CommandLine
