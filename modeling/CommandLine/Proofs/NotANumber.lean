import CommandLine.Proofs.Numerals

/-!
# What is not a number

A floating point value is equal to itself unless it is not a number, and the only texts that are
read as such a value are `nan` in any case, with a sign or without one.
-/

namespace CommandLine

/-- Numerical equality is reflexive but for what is not a number. -/
@[simp] lemma BinaryFloat.equal_self (x : BinaryFloat) : x.equal x = !x.isNaN := by
  unfold equal
  cases x.isNaN <;> simp

/-! ### Bits -/

namespace BinaryFormat

variable {format : BinaryFormat}

lemma infinity_lt_nan (format : BinaryFormat) : format.infinity < format.nan :=
  Nat.lt_add_of_pos_right (Nat.pow_pos (by decide))

/-- The sign has a bit of its own. -/
lemma nan_lt_signBit (h : 2 ≤ format.precision) : format.nan < format.signBit := by
  obtain ⟨rest, hrest⟩ := Nat.exists_eq_add_of_le' h
  have hone : 1 ≤ 2 ^ format.exponentBits := Nat.one_le_two_pow
  have hpos : 0 < 2 ^ rest := Nat.two_pow_pos rest
  have hsign : format.signBit = 2 ^ format.exponentBits * (2 ^ rest * 2) := by
    show 2 ^ (format.precision + format.exponentBits - 1) = _
    rw [hrest, show rest + 2 + format.exponentBits - 1 = format.exponentBits + (rest + 1) by omega,
      pow_add, pow_succ]
  have hnan : format.nan = (2 ^ format.exponentBits - 1) * (2 ^ rest * 2) + 2 ^ rest := by
    show (2 ^ format.exponentBits - 1) * 2 ^ (format.precision - 1) + 2 ^ (format.precision - 2) = _
    rw [hrest, show rest + 2 - 1 = rest + 1 by omega, show rest + 2 - 2 = rest by omega, pow_succ]
  rw [hsign, hnan, Nat.sub_mul, Nat.one_mul]
  have hle : 1 * (2 ^ rest * 2) ≤ 2 ^ format.exponentBits * (2 ^ rest * 2) :=
    Nat.mul_le_mul_right _ hone
  omega

/-- A decimal that is too large is infinite. -/
lemma ofDecimal_le_infinity (format : BinaryFormat) (digits : Nat) (exponent : Int) :
    format.ofDecimal digits exponent ≤ format.infinity := by
  have hnearest (numerator denominator : Nat) :
      format.nearest numerator denominator ≤ format.infinity := by
    unfold nearest
    split
    · exact Nat.zero_le _
    · exact Nat.min_le_right _ _
  unfold ofDecimal
  dsimp only
  split_ifs
  · exact Nat.zero_le _
  · exact Nat.le_refl _
  · exact Nat.zero_le _
  · exact hnearest _ _

/-- The sign makes no difference. -/
lemma isNaN_signed_iff {sign bits : Nat} (hsign : sign = 0 ∨ sign = format.signBit)
    (hbits : bits < format.signBit) :
    (BinaryFloat.mk format (sign + bits)).isNaN = true ↔ format.infinity < bits := by
  have hmagnitude : (BinaryFloat.mk format (sign + bits)).magnitude = bits := by
    rcases hsign with rfl | rfl
    · rw [Nat.zero_add]
      exact Nat.mod_eq_of_lt hbits
    · show (format.signBit + bits) % format.signBit = bits
      rw [Nat.add_mod_left, Nat.mod_eq_of_lt hbits]
  rw [BinaryFloat.isNaN, hmagnitude, decide_eq_true_iff]

end BinaryFormat

/-! ### Texts -/

/-- The name of what is not a number, in lower case. -/
def nanName : List Char := ['n', 'a', 'n']

/-- The text is the name of what is not a number in any case, with a sign or without one. -/
def SpellsNaN (text : List Char) : Prop :=
  ∃ sign body, IsSign sign ∧ text = sign ++ body ∧ body.map Char.toLower = nanName

lemma starts_of_nanName {body : List Char} (h : body.map Char.toLower = nanName) :
    NumberType.Starts body := by
  obtain ⟨c, hc, hfirst⟩ := NumberType.exists_head_of_mem_floatNames
    (show body.map Char.toLower ∈ NumberType.floatNames by rw [h]; decide)
  exact ⟨c, hc, .inr (.inr hfirst)⟩

/-- The name starts with a letter. -/
lemma not_isDigit_head_of_nanName {c : Char} {rest : List Char}
    (h : (c :: rest).map Char.toLower = nanName) : c.isDigit = false := by
  have hletter := NumberType.isAlphabetic_of_toLower (.inr (List.cons.inj h).1)
  by_contra hdigit
  rw [isAlphabetic_of_isDigit (by simpa using hdigit)] at hletter
  exact nomatch hletter

lemma decimal?_eq_none_of_nanName {body : List Char} (h : body.map Char.toLower = nanName) :
    decimal? body = none := by
  cases body with
  | nil => exact nomatch h
  | cons c rest =>
    have hdigit := not_isDigit_head_of_nanName h
    have hpoint : c ≠ '.' := by
      rintro rfl
      exact absurd (List.cons.inj h).1 (by decide)
    have htake : (c :: rest).takeWhile Char.isDigit = [] :=
      List.takeWhile_cons_of_neg (by simp [hdigit])
    have hdrop : (c :: rest).dropWhile Char.isDigit = c :: rest :=
      List.dropWhile_cons_of_neg (by simp [hdigit])
    unfold decimal?
    simp only [htake, hdrop]
    split
    · next heq => exact absurd (List.cons.inj heq).1 hpoint
    · simp

namespace BinaryFormat

variable {format : BinaryFormat}

lemma unsigned?_lt_and_iff (hprecision : 2 ≤ format.precision) {body : List Char} {bits : Nat}
    (h : format.unsigned? body = some bits) :
    bits < format.signBit ∧ (format.infinity < bits ↔ body.map Char.toLower = nanName) := by
  have hnan := nan_lt_signBit hprecision
  have hinfinity := infinity_lt_nan format
  unfold unsigned? at h
  split at h
  · next digits exponent hdecimal =>
    obtain rfl := Option.some.inj h
    have hle := ofDecimal_le_infinity format digits exponent
    refine ⟨by omega, iff_of_false (by omega) fun hname => ?_⟩
    rw [decimal?_eq_none_of_nanName hname] at hdecimal
    exact nomatch hdecimal
  · dsimp only at h
    split_ifs at h with hinf hname
    · obtain rfl := Option.some.inj h
      refine ⟨by omega, iff_of_false (by omega) fun hname => ?_⟩
      rw [hname] at hinf
      exact absurd hinf (by decide)
    · obtain rfl := Option.some.inj h
      exact ⟨hnan, iff_of_true hinfinity hname⟩

lemma isNaN_iff_of_decode (hprecision : 2 ≤ format.precision) {text : List Char} {x : BinaryFloat}
    (h : format.decode text = .ok x) : x.isNaN = true ↔ SpellsNaN text := by
  obtain ⟨sign, body, bits, hsign, rfl, hbits, rfl⟩ := NumberType.exists_unsigned?_of_decode h
  obtain ⟨hlt, hiff⟩ := unsigned?_lt_and_iff hprecision hbits
  rw [isNaN_signed_iff (by split <;> simp) hlt, hiff]
  constructor
  · intro hname
    exact ⟨sign, body, hsign, rfl, hname⟩
  · rintro ⟨other, name, hother, heq, hname⟩
    obtain ⟨-, rfl⟩ := NumberType.isSign_unique hsign hother
      (NumberType.starts_and_letters_of_unsigned? hbits).1 (starts_of_nanName hname) heq
    exact hname

end BinaryFormat

/-- Nothing that has separators is the name. -/
lemma not_spellsNaN_of_comma {text : List Char} (h : ',' ∈ text) : ¬ SpellsNaN text := by
  rintro ⟨sign, body, hsign, rfl, hname⟩
  have hbody : ',' ∈ body := (List.mem_append.mp h).resolve_left hsign.comma_not_mem
  have hlower : Char.toLower ',' ∈ nanName := hname ▸ List.mem_map_of_mem hbody
  exact absurd hlower (by decide)

/-- Nothing that starts with a digit is the name. -/
lemma GroupedNumber.not_spellsNaN_plain (number : GroupedNumber) : ¬ SpellsNaN number.plain := by
  rintro ⟨sign, body, hsign, heq, hname⟩
  obtain ⟨c, rest, hdigits⟩ := List.exists_cons_of_ne_nil number.digits_ne_nil
  have hdigit : c.isDigit = true := number.isDigit_of_mem_digits (by simp [hdigits])
  have hplain : number.digits ++ number.tail = c :: (rest ++ number.tail) := by
    rw [hdigits, List.cons_append]
  have hstart : NumberType.Starts (number.digits ++ number.tail) :=
    hplain ▸ NumberType.starts_cons_of_isDigit hdigit
  obtain ⟨-, rfl⟩ :=
    NumberType.isSign_unique number.isSign hsign hstart (starts_of_nanName hname) heq
  rw [hplain] at hname
  rw [not_isDigit_head_of_nanName hname] at hdigit
  exact nomatch hdigit

/-- Of all numbers, with separators or without, those are no numbers that are spelled so. -/
lemma Decoder.isNaN_iff_of_grouped {format : BinaryFormat} (hprecision : 2 ≤ format.precision)
    {text : List Char} {x : BinaryFloat} (h : grouped format text = .ok x) :
    x.isNaN = true ↔ SpellsNaN text := by
  unfold grouped at h
  split at h
  · exact nomatch h
  · next plain hstrip =>
    have hplain := BinaryFormat.isNaN_iff_of_decode hprecision (Except.mapError_eq_ok_iff.mp h)
    by_cases hcomma : ',' ∈ text
    · obtain ⟨number, -, rfl⟩ := (stripGrouping_eq_some_iff hcomma).mp hstrip
      rw [hplain]
      exact iff_of_false number.not_spellsNaN_plain (not_spellsNaN_of_comma hcomma)
    · rw [stripGrouping_of_not_mem hcomma] at hstrip
      rwa [← Option.some.inj hstrip] at hplain

end CommandLine
