import CommandLine.Proofs.Grouping
import CommandLine.Proofs.Span
import CommandLine.Proofs.Unparsing
import Mathlib.Tactic.IntervalCases

/-!
# Numbers as arguments

The tokens know nothing of types: an argument that begins with a hyphen is an option if there is a
letter in it. No letter belongs to an integer or to a duration, and the only ones in a floating
point number are the mark of its exponent and those of its names. So a negative number is taken for
a number unless it is written with an exponent or by its name.
-/

namespace CommandLine

/-! ### Letters -/

def LetterFree (text : List Char) : Prop :=
  ∀ c ∈ text, Text.isAlphabetic c = false

lemma isAlphabetic_of_isDigit {c : Char} (h : c.isDigit = true) : Text.isAlphabetic c = false := by
  rw [Char.isDigit, Bool.and_eq_true, decide_eq_true_eq, decide_eq_true_eq] at h
  have hle : c.toNat ≤ 57 := UInt32.le_iff_toNat_le.mp h.2
  have hge : 48 ≤ c.toNat := UInt32.le_iff_toNat_le.mp h.1
  rw [← Char.ofNat_toNat c]
  generalize c.toNat = n at hle hge
  interval_cases n <;> rfl

/-- What is a letter in lower case is one as it stands. -/
lemma isAlpha_of_toLower {c : Char} (h : c.toLower.isAlpha = true) : c.isAlpha = true := by
  by_cases hupper : c.val ≥ 'A'.val ∧ c.val ≤ 'Z'.val
  · have hisUpper : c.isUpper = true := decide_eq_true hupper
    show (c.isUpper || c.isLower) = true
    rw [hisUpper, Bool.true_or]
  · have hsame : c.toLower = c := dif_neg hupper
    rwa [hsame] at h

namespace LetterFree

lemma append {first second : List Char} (hfirst : LetterFree first) (hsecond : LetterFree second) :
    LetterFree (first ++ second) := by
  intro c hc
  rcases List.mem_append.mp hc with hc | hc
  · exact hfirst c hc
  · exact hsecond c hc

lemma cons {c : Char} {rest : List Char} (hc : Text.isAlphabetic c = false)
    (hrest : LetterFree rest) : LetterFree (c :: rest) :=
  List.forall_mem_cons.mpr ⟨hc, hrest⟩

lemma of_isDigit {text : List Char} (h : ∀ c ∈ text, c.isDigit = true) : LetterFree text :=
  fun c hc => isAlphabetic_of_isDigit (h c hc)

end LetterFree

/-! ### Types of numbers -/

inductive NumberType where
  | integer (bits : Nat) (signed : Bool)
  | float (format : BinaryFormat)
  | duration

namespace NumberType

def decoder : NumberType → Decoder Scalar
  | .integer bits signed => .integer bits signed
  | .float format => .float format
  | .duration => .duration

def Accepts (type : NumberType) (text : String) : Prop :=
  ∃ value, type.decoder.decode text = .ok value

/-- The names of floating point numbers, in lower case. -/
def floatNames : List (List Char) :=
  [['i', 'n', 'f'], ['i', 'n', 'f', 'i', 'n', 'i', 't', 'y'], ['n', 'a', 'n']]

/-- A number without its sign is written with an exponent or by its name. -/
def Lettered (body : List Char) : Prop :=
  ('e' ∈ body ∨ 'E' ∈ body) ∨ body.map Char.toLower ∈ floatNames

/-- What a number without its sign starts with. -/
def Starts (body : List Char) : Prop :=
  ∃ c ∈ body.head?, c.isDigit = true ∨ c = '.' ∨ c.toLower = 'i' ∨ c.toLower = 'n'

/-- A text is a sign and a number without one, in which only certain floating point numbers have
letters. -/
structure Spells (type : NumberType) (text sign body : List Char) : Prop where
  parts : text = sign ++ body
  sign : IsSign sign
  start : Starts body
  letters : LetterFree body ∨ (∃ format, type = .float format) ∧ Lettered body

lemma starts_cons_of_isDigit {c : Char} {rest : List Char} (hc : c.isDigit = true) :
    Starts (c :: rest) :=
  ⟨c, rfl, .inl hc⟩

lemma starts_digits (digits : Digits) (rest : List Char) : Starts (digits.text ++ rest) := by
  obtain ⟨c, others, htext⟩ := List.exists_cons_of_ne_nil digits.nonempty
  rw [htext, List.cons_append]
  exact starts_cons_of_isDigit (digits.isDigit c (by simp [htext]))

lemma Starts.ne_sign {body : List Char} (h : Starts body) {sign : Char}
    (hsign : sign ∈ ['+', '-']) (rest : List Char) : body ≠ sign :: rest := by
  obtain ⟨c, hc, hstart⟩ := h
  rintro rfl
  obtain rfl := Option.some.inj hc
  rw [List.mem_cons, List.mem_singleton] at hsign
  rcases hsign with rfl | rfl
  · exact absurd hstart (by decide)
  · exact absurd hstart (by decide)

/-! ### Integers -/

lemma exists_digits_of_digitsWithin {limit n : Nat} {beyond : IntegerFault} {text : List Char}
    (hne : text ≠ []) (h : digitsWithin limit beyond 0 text = .ok n) :
    ∃ digits : Digits, digits.text = text :=
  ⟨⟨text, hne, ((digitsWithin_eq_ok_iff (Nat.zero_le limit)).mp h).1⟩, rfl⟩

lemma exists_digits_of_decode {width : IntegerWidth} {text : List Char} {n : Int}
    (h : width.decode text = .ok n) :
    ∃ sign, IsSign sign ∧ ∃ digits : Digits, text = sign ++ digits.text := by
  unfold IntegerWidth.decode at h
  split at h
  · exact nomatch h
  · exact nomatch h
  · exact nomatch h
  · next rest hne =>
    obtain ⟨_, hrest, -⟩ := Except.map_eq_ok_iff.mp h
    obtain ⟨digits, rfl⟩ := exists_digits_of_digitsWithin (fun hnil => hne hnil) hrest
    exact ⟨['+'], .inr (.inl rfl), digits, rfl⟩
  · next rest hne =>
    split_ifs at h
    obtain ⟨_, hrest, -⟩ := Except.map_eq_ok_iff.mp h
    obtain ⟨digits, rfl⟩ := exists_digits_of_digitsWithin (fun hnil => hne hnil) hrest
    exact ⟨['-'], .inr (.inr rfl), digits, rfl⟩
  · next hnil _ _ _ _ =>
    obtain ⟨_, hrest, -⟩ := Except.map_eq_ok_iff.mp h
    obtain ⟨digits, rfl⟩ := exists_digits_of_digitsWithin hnil hrest
    exact ⟨[], .inl rfl, digits, rfl⟩

lemma spells_integer {bits : Nat} {signed : Bool} {text : String}
    (h : (integer bits signed).Accepts text) :
    ∃ sign body, (integer bits signed).Spells text.toList sign body := by
  obtain ⟨value, hvalue⟩ := h
  obtain ⟨n, hdecode, -⟩ := Decoder.decode_ofReader_eq_ok_iff.mp hvalue
  obtain ⟨sign, hsign, digits, htext⟩ := exists_digits_of_decode hdecode
  refine ⟨sign, digits.text, htext, hsign, ?_, .inl (.of_isDigit digits.isDigit)⟩
  simpa using starts_digits digits []

/-! ### Durations -/

lemma letterFree_dotted (before after : Digits) :
    LetterFree (before.text ++ '.' :: after.text) :=
  (LetterFree.of_isDigit before.isDigit).append
    (LetterFree.cons (by decide) (.of_isDigit after.isDigit))

lemma letterFree_unsigned (spelling : UnsignedSpelling) : LetterFree spelling.text := by
  have hparts : ∀ part ∈ spelling.parts, LetterFree part := by
    rw [UnsignedSpelling.parts, List.forall_mem_cons, List.forall_mem_cons]
    refine ⟨?_, .of_isDigit spelling.minutes.isDigit, ?_⟩
    · unfold HoursSpelling.text
      split
      · exact letterFree_dotted _ _
      · exact .of_isDigit spelling.head.hours.isDigit
    · intro part hpart
      obtain ⟨written, _, rfl⟩ := List.mem_map.mp hpart
      unfold SecondsSpelling.text
      split
      · exact letterFree_dotted _ _
      · exact .of_isDigit written.whole.isDigit
  intro c hc
  by_cases hcolon : c = ':'
  · rw [hcolon]
    decide
  · obtain ⟨part, hpart, hmem⟩ := (mem_joined hcolon).mp hc
    exact hparts part hpart c hmem

lemma spells_duration {text : String} (h : duration.Accepts text) :
    ∃ sign body, duration.Spells text.toList sign body := by
  obtain ⟨value, hvalue⟩ := h
  obtain ⟨span, hspan, -⟩ := Except.map_eq_ok_iff.mp hvalue
  obtain ⟨⟨negative, unsigned⟩, htext, -⟩ :=
    Duration.lawful_operations.read_eq_ok_iff.mp (Decoder.span_eq_ok_iff.mp hspan)
  obtain ⟨c, rest, hhead, hc⟩ := unsigned.exists_head_eq
  have hstart : Starts unsigned.text := by
    rw [UnsignedSpelling.text, UnsignedSpelling.parts, hhead, Text.joined_cons_cons]
    exact starts_cons_of_isDigit hc
  have hletters := letterFree_unsigned unsigned
  cases negative with
  | false => exact ⟨[], unsigned.text, htext.symm, .inl rfl, hstart, .inl hletters⟩
  | true => exact ⟨['-'], unsigned.text, htext.symm, .inr (.inr rfl), hstart, .inl hletters⟩

/-! ### Floating point numbers -/

lemma eq_nil_or_mark_of_decimalExponent {rest : List Char} {exponent : Int}
    (h : decimalExponent rest = some exponent) : rest = [] ∨ 'e' ∈ rest ∨ 'E' ∈ rest := by
  cases rest with
  | nil => exact .inl rfl
  | cons mark later =>
    by_cases hmark : mark = 'e' ∨ mark = 'E'
    · rcases hmark with rfl | rfl
      · exact .inr (.inl (List.mem_cons_self ..))
      · exact .inr (.inr (List.mem_cons_self ..))
    · simp only [decimalExponent, if_neg hmark] at h
      exact nomatch h

lemma starts_of_takeWhile {body : List Char} (h : body.takeWhile Char.isDigit ≠ []) :
    Starts body := by
  cases body with
  | nil => exact absurd rfl h
  | cons c rest =>
    by_cases hc : c.isDigit = true
    · exact starts_cons_of_isDigit hc
    · exact absurd (List.takeWhile_cons_of_neg hc) h

lemma letterFree_takeWhile (text : List Char) : LetterFree (text.takeWhile Char.isDigit) :=
  .of_isDigit fun _ hc => List.mem_takeWhile_imp hc

/-- What follows the digits has no letters, or it has the mark of an exponent. -/
lemma letters_of_decimalExponent {digits rest : List Char} {exponent : Int}
    (hfree : LetterFree digits) (h : decimalExponent rest = some exponent) :
    LetterFree (digits ++ rest) ∨ 'e' ∈ digits ++ rest ∨ 'E' ∈ digits ++ rest := by
  rcases eq_nil_or_mark_of_decimalExponent h with rfl | hmark | hmark
  · left
    rwa [List.append_nil]
  · exact .inr (.inl (List.mem_append_right _ hmark))
  · exact .inr (.inr (List.mem_append_right _ hmark))

lemma starts_and_letters_of_decimal? {body : List Char} {result : Nat × Int}
    (h : decimal? body = some result) :
    Starts body ∧ (LetterFree body ∨ 'e' ∈ body ∨ 'E' ∈ body) := by
  have hbody := List.takeWhile_append_dropWhile (p := Char.isDigit) (l := body)
  have hinteger := letterFree_takeWhile body
  simp only [decimal?] at h
  split at h
  · next more hmore =>
    split_ifs at h
    obtain ⟨exponent, hexponent, -⟩ := Option.map_eq_some_iff.mp h
    have hwhole : body = (body.takeWhile Char.isDigit ++ '.' :: more.takeWhile Char.isDigit) ++
        more.dropWhile Char.isDigit := by
      rw [List.append_assoc, List.cons_append, List.takeWhile_append_dropWhile, ← hmore, hbody]
    constructor
    · by_cases hempty : body.takeWhile Char.isDigit = []
      · rw [hwhole, hempty]
        exact ⟨'.', rfl, .inr (.inl rfl)⟩
      · exact starts_of_takeWhile hempty
    · rw [hwhole]
      exact letters_of_decimalExponent
        (hinteger.append (.cons (by decide) (letterFree_takeWhile more))) hexponent
  · split_ifs at h with hnone
    obtain ⟨exponent, hexponent, -⟩ := Option.map_eq_some_iff.mp h
    have hletters := letters_of_decimalExponent hinteger hexponent
    rw [hbody] at hletters
    exact ⟨starts_of_takeWhile fun hempty => hnone ⟨hempty, rfl⟩, hletters⟩

/-- The first letter of a name. -/
lemma exists_head_of_mem_floatNames {body : List Char} (h : body.map Char.toLower ∈ floatNames) :
    ∃ c ∈ body.head?, c.toLower = 'i' ∨ c.toLower = 'n' := by
  cases body with
  | nil => exact absurd h (by decide)
  | cons c rest =>
    simp only [floatNames, List.map_cons, List.mem_cons, List.cons.injEq, List.not_mem_nil,
      or_false] at h
    rcases h with ⟨hc, -⟩ | ⟨hc, -⟩ | ⟨hc, -⟩
    · exact ⟨c, rfl, .inl hc⟩
    · exact ⟨c, rfl, .inl hc⟩
    · exact ⟨c, rfl, .inr hc⟩

lemma isAlphabetic_of_toLower {c : Char} (h : c.toLower = 'i' ∨ c.toLower = 'n') :
    Text.isAlphabetic c = true := by
  apply Text.isAlphabetic_of_isAlpha
  apply isAlpha_of_toLower
  rcases h with h | h
  · rw [h]
    rfl
  · rw [h]
    rfl

lemma starts_and_letters_of_unsigned? {format : BinaryFormat} {body : List Char} {bits : Nat}
    (h : format.unsigned? body = some bits) : Starts body ∧ (LetterFree body ∨ Lettered body) := by
  unfold BinaryFormat.unsigned? at h
  split at h
  · next digits exponent hdecimal =>
    obtain ⟨hstart, hletters⟩ := starts_and_letters_of_decimal? hdecimal
    exact ⟨hstart, hletters.imp_right .inl⟩
  · have hname : body.map Char.toLower ∈ floatNames := by
      by_contra hname
      simp only [floatNames, List.mem_cons, List.not_mem_nil, or_false, not_or] at hname
      obtain ⟨hinf, hinfinity, hnan⟩ := hname
      simp [hinf, hinfinity, hnan] at h
    obtain ⟨c, hc, hfirst⟩ := exists_head_of_mem_floatNames hname
    exact ⟨⟨c, hc, .inr (.inr hfirst)⟩, .inr (.inr hname)⟩

/-- A number without its sign starts with no other sign. -/
lemma isSign_unique {sign other body rest : List Char} (hsign : IsSign sign) (hother : IsSign other)
    (hbody : Starts body) (hrest : Starts rest) (h : sign ++ body = other ++ rest) :
    sign = other ∧ body = rest := by
  rcases hsign with rfl | rfl | rfl <;> rcases hother with rfl | rfl | rfl
  · exact ⟨rfl, h⟩
  · exact absurd h (hbody.ne_sign (by decide) _)
  · exact absurd h (hbody.ne_sign (by decide) _)
  · exact absurd h.symm (hrest.ne_sign (by decide) _)
  · exact ⟨rfl, (List.cons.inj h).2⟩
  · exact absurd (List.cons.inj h).1 (by decide)
  · exact absurd h.symm (hrest.ne_sign (by decide) _)
  · exact absurd (List.cons.inj h).1 (by decide)
  · exact ⟨rfl, (List.cons.inj h).2⟩

/-- A minus sign shows in the bits. -/
lemma exists_unsigned?_of_decode {format : BinaryFormat} {text : List Char} {x : BinaryFloat}
    (h : format.decode text = .ok x) :
    ∃ sign body bits, IsSign sign ∧ text = sign ++ body ∧ format.unsigned? body = some bits ∧
      x = ⟨format, (if sign = ['-'] then format.signBit else 0) + bits⟩ := by
  unfold BinaryFormat.decode at h
  dsimp only at h
  split at h
  · exact nomatch h
  · next body =>
    cases hbits : format.unsigned? body with
    | none => simp [hbits] at h
    | some bits =>
      rw [hbits] at h
      exact ⟨['-'], body, bits, .inr (.inr rfl), rfl, hbits, (Except.ok.inj h).symm⟩
  · next body =>
    cases hbits : format.unsigned? body with
    | none => simp [hbits] at h
    | some bits =>
      rw [hbits] at h
      exact ⟨['+'], body, bits, .inr (.inl rfl), rfl, hbits, (Except.ok.inj h).symm⟩
  · cases hbits : format.unsigned? text with
    | none => simp [hbits] at h
    | some bits =>
      rw [hbits] at h
      exact ⟨[], text, bits, .inl rfl, rfl, hbits, (Except.ok.inj h).symm⟩

/-- Separators between the digits change neither the start nor the letters. -/
lemma starts_and_letters_of_grouped (number : GroupedNumber)
    (hletters : LetterFree (number.digits ++ number.tail) ∨
      Lettered (number.digits ++ number.tail)) :
    let body := Text.joined ',' (number.first :: number.later) ++ number.tail
    Starts body ∧ (LetterFree body ∨ Lettered body) := by
  intro body
  have hdigits : LetterFree number.digits :=
    .of_isDigit fun _ hc => number.isDigit_of_mem_digits hc
  have hjoined : LetterFree (Text.joined ',' (number.first :: number.later)) := by
    intro c hc
    by_cases hcomma : c = ','
    · rw [hcomma]
      decide
    · obtain ⟨group, hgroup, hmem⟩ := (mem_joined hcomma).mp hc
      exact isAlphabetic_of_isDigit (number.isGrouping.digits group hgroup c hmem)
  have htail {c : Char} (hc : c ∈ number.digits ++ number.tail)
      (hletter : Text.isAlphabetic c = true) : c ∈ body := by
    rcases List.mem_append.mp hc with hc | hc
    · rw [hdigits c hc] at hletter
      exact nomatch hletter
    · exact List.mem_append_right _ hc
  constructor
  · obtain ⟨next, others, hlater⟩ := List.exists_cons_of_ne_nil number.isGrouped
    obtain ⟨c, rest, hfirst⟩ := List.exists_cons_of_ne_nil number.isGrouping.nonempty
    have hc : c.isDigit = true :=
      number.isGrouping.digits number.first (List.mem_cons_self ..) c (by simp [hfirst])
    refine ⟨c, ?_, .inl hc⟩
    simp [body, hlater, Text.joined_cons_cons, hfirst]
  · rcases hletters with hfree | (hmark | hmark) | hname
    · exact .inl (hjoined.append fun c hc => hfree c (List.mem_append_right _ hc))
    · exact .inr (.inl (.inl (htail hmark (by decide))))
    · exact .inr (.inl (.inr (htail hmark (by decide))))
    · -- no name starts with a digit
      obtain ⟨c, hc, hfirst⟩ := exists_head_of_mem_floatNames hname
      obtain ⟨d, rest, hd⟩ := List.exists_cons_of_ne_nil number.digits_ne_nil
      obtain rfl : d = c := by simpa [hd] using hc
      have hdigit := hdigits d (by simp [hd])
      rw [isAlphabetic_of_toLower hfirst] at hdigit
      exact nomatch hdigit

lemma spells_float {format : BinaryFormat} {text : String} (h : (float format).Accepts text) :
    ∃ sign body, (float format).Spells text.toList sign body := by
  obtain ⟨value, hvalue⟩ := h
  obtain ⟨x, hgrouped, -⟩ := Decoder.decode_ofReader_eq_ok_iff.mp hvalue
  obtain ⟨plain, hstrip, hdecode⟩ : ∃ plain, stripGrouping text.toList = some plain ∧
      format.decode plain = .ok x := by
    unfold Decoder.grouped at hgrouped
    split at hgrouped
    · exact nomatch hgrouped
    · next plain hstrip => exact ⟨plain, hstrip, Except.mapError_eq_ok_iff.mp hgrouped⟩
  obtain ⟨sign, body, bits, hsign, hplain, hbits, -⟩ := exists_unsigned?_of_decode hdecode
  obtain ⟨hstart, hletters⟩ := starts_and_letters_of_unsigned? hbits
  by_cases hcomma : ',' ∈ text.toList
  · obtain ⟨number, htext, hnumber⟩ := (stripGrouping_eq_some_iff hcomma).mp hstrip
    obtain ⟨c, rest, hdigits⟩ := List.exists_cons_of_ne_nil number.digits_ne_nil
    have hdigit : c.isDigit = true := number.isDigit_of_mem_digits (by simp [hdigits])
    have hstart' : Starts (number.digits ++ number.tail) := by
      rw [hdigits]
      exact starts_cons_of_isDigit hdigit
    obtain ⟨-, rfl⟩ := isSign_unique number.isSign hsign hstart' hstart (hnumber.trans hplain)
    obtain ⟨hbody, hbodyLetters⟩ := starts_and_letters_of_grouped number hletters
    exact ⟨number.sign, _, htext.symm, number.isSign, hbody,
      hbodyLetters.imp_right fun h => ⟨⟨format, rfl⟩, h⟩⟩
  · obtain rfl : plain = text.toList := by
      rw [stripGrouping_of_not_mem hcomma] at hstrip
      exact (Option.some.inj hstrip).symm
    exact ⟨sign, body, hplain, hsign, hstart, hletters.imp_right fun h => ⟨⟨format, rfl⟩, h⟩⟩

/-- Every number is a sign and a number without one. -/
lemma exists_spells {type : NumberType} {text : String} (h : type.Accepts text) :
    ∃ sign body, type.Spells text.toList sign body := by
  cases type with
  | integer bits signed => exact spells_integer h
  | float format => exact spells_float h
  | duration => exact spells_duration h

/-! ### Tokens -/

/-- A minus sign before a floating point number that is written with an exponent or by its name. -/
def LikeOption (type : NumberType) (text : String) : Prop :=
  (∃ format, type = .float format) ∧ ∃ body, text.toList = '-' :: body ∧ Lettered body

/-- An exponent has a letter, and a name begins with one. -/
lemma Lettered.not_letterFree {body : List Char} (h : Lettered body) : ¬ LetterFree body := by
  intro hfree
  rcases h with (hmark | hmark) | hname
  · exact absurd (hfree 'e' hmark) (by decide)
  · exact absurd (hfree 'E' hmark) (by decide)
  · obtain ⟨c, hc, hfirst⟩ := exists_head_of_mem_floatNames hname
    have hletter := hfree c (List.mem_of_mem_head? hc)
    rw [isAlphabetic_of_toLower hfirst] at hletter
    exact nomatch hletter

lemma letterFree_iff {body : String} : LetterFree body.toList ↔ ¬ HasLetter body := by
  simp [LetterFree, HasLetter]

lemma eq_hyphen_append_iff {text body : String} :
    text = "-" ++ body ↔ text.toList = '-' :: body.toList := by
  rw [← String.toList_inj]
  simp

/-- Of all numbers only those with a minus sign and a letter are no positional arguments. -/
lemma classify_eq_positional_iff_of_accepts {type : NumberType} {text : String}
    (h : type.Accepts text) : classify text = .positional text ↔ ¬ type.LikeOption text := by
  obtain ⟨sign, body, hspells⟩ := exists_spells h
  have hstart (rest : List Char) : body ≠ '-' :: rest := hspells.start.ne_sign (by decide) rest
  rw [classify_eq_positional_iff]
  by_cases hminus : sign = ['-']
  · have htext : text.toList = '-' :: body := by rw [hspells.parts, hminus, List.singleton_append]
    have hlong (rest : String) : text ≠ "--" ++ rest := by
      intro hrest
      rw [two_hyphens, eq_hyphen_append_iff, htext, List.cons.injEq] at hrest
      exact hstart rest.toList (by simpa using hrest.2)
    constructor
    · rintro ⟨-, hfree⟩ ⟨-, other, hother, hletters⟩
      obtain rfl := (List.cons.inj (htext.symm.trans hother)).2
      have hbody := hfree (String.ofList body) (eq_hyphen_append_iff.mpr (by simpa using htext))
      rw [← letterFree_iff, String.toList_ofList] at hbody
      exact hletters.not_letterFree hbody
    · intro hlike
      refine ⟨hlong, fun other hother => ?_⟩
      have hsame : body = other.toList :=
        (List.cons.inj (htext.symm.trans (eq_hyphen_append_iff.mp hother))).2
      rw [← letterFree_iff, ← hsame]
      rcases hspells.letters with hfree | ⟨hfloat, hletters⟩
      · exact hfree
      · exact absurd ⟨hfloat, body, htext, hletters⟩ hlike
  · -- without a minus sign there is no hyphen in front
    have hnone (rest : List Char) : text.toList ≠ '-' :: rest := by
      rw [hspells.parts]
      rcases hspells.sign with rfl | rfl | rfl
      · exact hstart rest
      · intro hplus
        exact absurd (List.cons.inj hplus).1 (by decide)
      · exact absurd rfl hminus
    refine iff_of_true ⟨fun rest hrest => ?_, fun other hother => ?_⟩ ?_
    · rw [two_hyphens, eq_hyphen_append_iff] at hrest
      exact hnone _ hrest
    · exact absurd (eq_hyphen_append_iff.mp hother) (hnone _)
    · rintro ⟨-, other, hother, -⟩
      exact hnone other hother

/-- A number that looks like an option is read as a cluster. -/
lemma exists_cluster_of_likeOption {type : NumberType} {text : String} (h : type.Accepts text)
    (hlike : type.LikeOption text) :
    ∃ cluster, classify text = .short cluster ∧ text = "-" ++ cluster.body := by
  obtain ⟨sign, body, hspells⟩ := exists_spells h
  obtain ⟨-, other, hother, hletters⟩ := hlike
  have hstart (rest : List Char) : body ≠ '-' :: rest := hspells.start.ne_sign (by decide) rest
  have htext : text.toList = '-' :: body := by
    have hparts := hspells.parts
    rcases hspells.sign with rfl | rfl | rfl
    · exact absurd (hparts.symm.trans hother) (hstart other)
    · rw [hparts] at hother
      exact absurd (List.cons.inj hother).1 (by decide)
    · exact hparts
  obtain rfl := (List.cons.inj (htext.symm.trans hother)).2
  have hwritten : text = "-" ++ String.ofList body := by
    rw [eq_hyphen_append_iff, String.toList_ofList, htext]
  have hletter : HasLetter (String.ofList body) := by
    by_contra hnone
    rw [← letterFree_iff, String.toList_ofList] at hnone
    exact hletters.not_letterFree hnone
  have hnonempty : String.ofList body ≠ "" := by
    intro hempty
    rw [hempty] at hletter
    obtain ⟨c, hc, -⟩ := hletter
    simp at hc
  have hone (rest : String) : String.ofList body ≠ "-" ++ rest := by
    intro hrest
    rw [eq_hyphen_append_iff, String.toList_ofList] at hrest
    exact hstart _ hrest
  refine ⟨⟨String.ofList body, hnonempty⟩, ?_, hwritten⟩
  rw [hwritten, classify_of_one_hyphen hone, Token.ofShort_eq_short_iff]
  exact ⟨rfl, hletter⟩

end NumberType

end CommandLine
