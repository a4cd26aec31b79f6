import CommandLine.Number.ByteSize
import CommandLine.Proofs.Digits

/-!
# Byte counts, exactly

A text is cut behind its longest run of digits in front, and the two parts alone decide what it
stands for. There are two limits: the number before the suffix has to fit, and so has its multiple.
Neither is ever passed unnoticed, however many digits there are, and every count that fits can be
written.
-/

namespace CommandLine

/-! ### Digits beyond a limit -/

/-- The only fault of digits is that they go beyond the limit. -/
lemma eq_of_digitsWithin_eq_error {limit value : Nat} {beyond fault : IntegerFault}
    {digits : List Char} (hdigits : ∀ c ∈ digits, c.isDigit = true)
    (h : digitsWithin limit beyond value digits = .error fault) : fault = beyond := by
  induction digits generalizing value with
  | nil => simp [digitsWithin] at h
  | cons c rest ih =>
    obtain ⟨hc, hrest⟩ := List.forall_mem_cons.mp hdigits
    rw [digitsWithin, hc, Bool.not_true, if_neg Bool.false_ne_true] at h
    split_ifs at h
    · exact (Except.error.inj h).symm
    · exact ih hrest h

lemma digitsWithin_zero_eq {limit : Nat} {beyond : IntegerFault} {digits : List Char}
    (hdigits : ∀ c ∈ digits, c.isDigit = true) :
    digitsWithin limit beyond 0 digits =
      if digitsValue digits ≤ limit then .ok (digitsValue digits) else .error beyond := by
  have hread (n : Nat) : digitsWithin limit beyond 0 digits = .ok n ↔ _ :=
    digitsWithin_eq_ok_iff (Nat.zero_le limit)
  simp only [Nat.zero_mul, Nat.zero_add] at hread
  split_ifs with hfits
  · exact (hread _).mpr ⟨hdigits, rfl, hfits⟩
  · cases h : digitsWithin limit beyond 0 digits with
    | ok n =>
      obtain ⟨-, rfl, hle⟩ := (hread n).mp h
      exact absurd hle hfits
    | error fault => rw [eq_of_digitsWithin_eq_error hdigits h]

namespace ByteSize

/-! ### The two parts of a text -/

/-- The text is digits, as many as it has in front, and a rest. -/
structure Parts (text digits rest : List Char) : Prop where
  text : text = digits ++ rest
  isDigit : ∀ c ∈ digits, c.isDigit = true
  longest : ∀ c ∈ rest.head?, c.isDigit = false

namespace Parts

variable {text digits rest : List Char}

lemma of_text (text : List Char) :
    Parts text (text.takeWhile Char.isDigit) (text.dropWhile Char.isDigit) where
  text := List.takeWhile_append_dropWhile.symm
  isDigit := List.all_eq_true.mp List.all_takeWhile
  longest := by
    intro c hc
    have hhead := List.head?_dropWhile_not Char.isDigit text
    rw [Option.mem_def.mp hc] at hhead
    simpa using hhead

lemma takeWhile_eq (h : Parts text digits rest) : text.takeWhile Char.isDigit = digits := by
  have hrest : rest.takeWhile Char.isDigit = [] := by
    cases rest with
    | nil => rfl
    | cons c rest => simp [h.longest c rfl]
  rw [h.text, List.takeWhile_append_of_pos h.isDigit, hrest, List.append_nil]

lemma dropWhile_eq (h : Parts text digits rest) : text.dropWhile Char.isDigit = rest := by
  have htext : text.takeWhile Char.isDigit ++ text.dropWhile Char.isDigit = digits ++ rest :=
    List.takeWhile_append_dropWhile.trans h.text
  rw [h.takeWhile_eq] at htext
  exact List.append_cancel_left htext

/-- Leading zeros are digits like all others. -/
lemma zeros (h : Parts text digits rest) (count : Nat) :
    Parts (List.replicate count '0' ++ text) (List.replicate count '0' ++ digits) rest where
  text := by rw [h.text, List.append_assoc]
  isDigit := by
    rw [List.forall_mem_append]
    refine ⟨fun c hc => ?_, h.isDigit⟩
    rw [List.eq_of_mem_replicate hc]
    decide
  longest := h.longest

end Parts

/-! ### Suffixes -/

/-- The suffixes, with the powers of two that they stand for. -/
def suffixes : List (List Char × Nat) :=
  [([], 0), (['k'], 10), (['K'], 10), (['M'], 20), (['G'], 30)]

lemma mem_suffixes_iff {rest : List Char} {shift : Nat} :
    (rest, shift) ∈ suffixes ↔ shift? rest = some shift := by
  constructor
  · intro h
    simp only [suffixes, List.mem_cons, Prod.mk.injEq, List.not_mem_nil, or_false] at h
    rcases h with ⟨rfl, rfl⟩ | ⟨rfl, rfl⟩ | ⟨rfl, rfl⟩ | ⟨rfl, rfl⟩ | ⟨rfl, rfl⟩
    all_goals rfl
  · intro h
    unfold shift? at h
    split at h
    all_goals simp_all [suffixes]

/-! ### Decoding -/

variable {text digits rest : List Char}

/-- What a text with digits in front stands for, by its two parts. -/
lemma decode_of_parts (h : Parts text digits rest) (hne : digits ≠ []) :
    decode text =
      match shift? rest with
      | none => .error (.suffix (String.ofList rest))
      | some shift =>
        if 2 ^ 64 ≤ digitsValue digits then .error (.number .tooLarge)
        else if 2 ^ 64 ≤ digitsValue digits * 2 ^ shift then .error .overflow
        else .ok (digitsValue digits * 2 ^ shift) := by
  have hgreatest : width.greatest = 2 ^ 64 - 1 := rfl
  rw [decode, h.takeWhile_eq, h.dropWhile_eq]
  simp only [if_neg hne]
  cases shift? rest with
  | none => rfl
  | some shift =>
    have hpow : Nat.pow 2 shift = 2 ^ shift := rfl
    rw [digitsWithin_zero_eq h.isDigit, hgreatest]
    by_cases hfits : digitsValue digits ≤ 2 ^ 64 - 1
    · have hnumber : ¬ 2 ^ 64 ≤ digitsValue digits := by omega
      simp only [if_pos hfits, if_neg hnumber, hpow]
      by_cases hproduct : 2 ^ 64 ≤ digitsValue digits * 2 ^ shift
      · rw [if_pos hproduct, if_pos (by omega)]
      · rw [if_neg hproduct, if_neg (by omega)]
    · have hnumber : 2 ^ 64 ≤ digitsValue digits := by omega
      simp only [if_neg hfits, if_pos hnumber]

lemma decode_of_parts_nil (h : Parts text [] rest) : decode text = .error .empty := by
  rw [decode, h.takeWhile_eq]
  rfl

/-- The five outcomes, of which the conditions exclude each other. -/
lemma decode_cases (h : Parts text digits rest) :
    (digits = [] ∧ decode text = .error .empty) ∨
    (digits ≠ [] ∧ shift? rest = none ∧
      decode text = .error (.suffix (String.ofList rest))) ∨
    (digits ≠ [] ∧ (∃ shift, shift? rest = some shift) ∧ 2 ^ 64 ≤ digitsValue digits ∧
      decode text = .error (.number .tooLarge)) ∨
    ∃ shift, digits ≠ [] ∧ shift? rest = some shift ∧ digitsValue digits < 2 ^ 64 ∧
      ((2 ^ 64 ≤ digitsValue digits * 2 ^ shift ∧ decode text = .error .overflow) ∨
      (digitsValue digits * 2 ^ shift < 2 ^ 64 ∧
        decode text = .ok (digitsValue digits * 2 ^ shift))) := by
  by_cases hne : digits = []
  · subst hne
    exact .inl ⟨rfl, decode_of_parts_nil h⟩
  · have hdecode := decode_of_parts h hne
    cases hshift : shift? rest with
    | none =>
      rw [hshift] at hdecode
      exact .inr (.inl ⟨hne, rfl, hdecode⟩)
    | some shift =>
      rw [hshift] at hdecode
      refine .inr (.inr ?_)
      by_cases hnumber : 2 ^ 64 ≤ digitsValue digits
      · exact .inl ⟨hne, ⟨shift, rfl⟩, hnumber, hdecode.trans (if_pos hnumber)⟩
      · refine .inr ⟨shift, hne, rfl, Nat.lt_of_not_le hnumber, ?_⟩
        have hscaled := hdecode.trans (if_neg hnumber)
        by_cases hproduct : 2 ^ 64 ≤ digitsValue digits * 2 ^ shift
        · exact .inl ⟨hproduct, hscaled.trans (if_pos hproduct)⟩
        · exact .inr ⟨Nat.lt_of_not_le hproduct, hscaled.trans (if_neg hproduct)⟩

lemma decode_eq_empty_iff (h : Parts text digits rest) :
    decode text = .error .empty ↔ digits = [] := by
  grind [decode_cases h]

lemma decode_eq_suffix_iff (h : Parts text digits rest) {unknown : String} :
    decode text = .error (.suffix unknown) ↔
      digits ≠ [] ∧ (∀ shift, (rest, shift) ∉ suffixes) ∧ unknown = String.ofList rest := by
  simp only [mem_suffixes_iff]
  grind [decode_cases h]

lemma decode_eq_number_iff (h : Parts text digits rest) {fault : IntegerFault} :
    decode text = .error (.number fault) ↔
      digits ≠ [] ∧ (∃ shift, (rest, shift) ∈ suffixes) ∧ 2 ^ 64 ≤ digitsValue digits ∧
        fault = .tooLarge := by
  simp only [mem_suffixes_iff]
  grind [decode_cases h]

lemma decode_eq_overflow_iff (h : Parts text digits rest) :
    decode text = .error .overflow ↔
      digits ≠ [] ∧ digitsValue digits < 2 ^ 64 ∧
        ∃ shift, (rest, shift) ∈ suffixes ∧ 2 ^ 64 ≤ digitsValue digits * 2 ^ shift := by
  simp only [mem_suffixes_iff]
  grind [decode_cases h]

lemma decode_eq_ok_iff (h : Parts text digits rest) {count : Nat} :
    decode text = .ok count ↔
      digits ≠ [] ∧ count < 2 ^ 64 ∧
        ∃ shift, (rest, shift) ∈ suffixes ∧ count = digitsValue digits * 2 ^ shift := by
  have hle (shift : Nat) : digitsValue digits ≤ digitsValue digits * 2 ^ shift :=
    Nat.le_mul_of_pos_right _ (Nat.two_pow_pos shift)
  simp only [mem_suffixes_iff]
  grind [decode_cases h]

/-- Leading zeros do not count. -/
lemma decode_zeros (h : Parts text digits rest) (hne : digits ≠ []) (count : Nat) :
    decode (List.replicate count '0' ++ text) = decode text := by
  have hvalue : digitsValue (List.replicate count '0' ++ digits) = digitsValue digits := by
    rw [digitsValue_append, digitsValue_replicate_zero, Nat.zero_mul, Nat.zero_add]
  rw [decode_of_parts (h.zeros count) (by simp [hne]), decode_of_parts h hne, hvalue]

/-- The decimal digits of a number that fits are read as this number. -/
lemma decode_toString {count : Nat} (h : count < 2 ^ 64) :
    decode (toString count).toList = .ok count := by
  have htext : (toString count).toList = (Digits.decimal count).text := by
    rw [Nat.toString_eq_ofList_toDigits, String.toList_ofList]
    rfl
  have hparts : Parts (Digits.decimal count).text (Digits.decimal count).text [] :=
    ⟨(List.append_nil _).symm, (Digits.decimal count).isDigit, by simp⟩
  have hvalue : digitsValue (Digits.decimal count).text = count := Digits.value_decimal count
  have hshift : shift? [] = some 0 := rfl
  rw [htext, decode_of_parts hparts (Digits.decimal count).nonempty, hvalue, hshift]
  simp only [pow_zero, Nat.mul_one, if_neg (Nat.not_le.mpr h)]

/-- A text is cut into the digits in front and the rest in one way only, and these parts decide:
without digits the text is empty; with an unknown suffix this is the fault, however large the
number; then the number has to fit into 64 bits, and then its multiple. In every other case the
multiple is the byte count. Leading zeros do not count, and every number of 64 bits is read from its
decimal digits. -/
theorem decode_exact (text : List Char) :
    ∃ digits rest, Parts text digits rest ∧
      (∀ digits' rest', Parts text digits' rest' → digits' = digits ∧ rest' = rest) ∧
      (decode text = .error .empty ↔ digits = []) ∧
      (∀ unknown, decode text = .error (.suffix unknown) ↔
        digits ≠ [] ∧ (∀ shift, (rest, shift) ∉ suffixes) ∧ unknown = String.ofList rest) ∧
      (∀ fault, decode text = .error (.number fault) ↔
        digits ≠ [] ∧ (∃ shift, (rest, shift) ∈ suffixes) ∧ 2 ^ 64 ≤ digitsValue digits ∧
          fault = .tooLarge) ∧
      (decode text = .error .overflow ↔
        digits ≠ [] ∧ digitsValue digits < 2 ^ 64 ∧
          ∃ shift, (rest, shift) ∈ suffixes ∧ 2 ^ 64 ≤ digitsValue digits * 2 ^ shift) ∧
      (∀ count, decode text = .ok count ↔
        digits ≠ [] ∧ count < 2 ^ 64 ∧
          ∃ shift, (rest, shift) ∈ suffixes ∧ count = digitsValue digits * 2 ^ shift) ∧
      (digits ≠ [] → ∀ zeros, decode (List.replicate zeros '0' ++ text) = decode text) ∧
      ∀ count : UInt64, decode (toString count.toNat).toList = .ok count.toNat := by
  have hparts := Parts.of_text text
  refine ⟨_, _, hparts, fun _ _ h => ?_, decode_eq_empty_iff hparts,
    fun _ => decode_eq_suffix_iff hparts, fun _ => decode_eq_number_iff hparts,
    decode_eq_overflow_iff hparts, fun _ => decode_eq_ok_iff hparts, decode_zeros hparts,
    fun count => decode_toString count.toNat_lt⟩
  exact ⟨h.takeWhile_eq.symm, h.dropWhile_eq.symm⟩

/-- The greatest number of gibibytes, and the next one. -/
example :
    decode "017179869183G".toList = .ok 18446744072635809792 ∧
      decode "17179869184G".toList = .error .overflow ∧
      decode "18446744073709551616G".toList = .error (.number .tooLarge) ∧
      decode "18446744073709551616T".toList = .error (.suffix "T") := by
  decide

end ByteSize

end CommandLine
