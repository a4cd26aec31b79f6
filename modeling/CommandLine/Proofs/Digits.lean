import CommandLine.Number.Integer
import CommandLine.Proofs.Traversal
import Mathlib.Data.List.Induction
import Mathlib.Tactic.Ring

/-!
# Decimal digits

What a row of digits stands for: the digits that follow shift the ones before them, a number of
digits bounds the value, and leading zeros do not count. A row of digits is an integer of a width
exactly if its value is within the limit, however many digits there are.
-/

namespace CommandLine

/-! ### Values -/

lemma digitValue_lt {c : Char} (h : c.isDigit = true) : digitValue c < 10 := by
  rw [Char.isDigit, Bool.and_eq_true, decide_eq_true_eq, decide_eq_true_eq] at h
  have hle : c.toNat ≤ 57 := UInt32.le_iff_toNat_le.mp h.2
  have hzero : '0'.toNat = 48 := rfl
  rw [digitValue, hzero]
  omega

lemma not_lt_zero_of_isDigit {c : Char} (h : c.isDigit = true) : ¬ c < '0' := by
  rw [Char.isDigit, Bool.and_eq_true, decide_eq_true_eq, decide_eq_true_eq] at h
  rw [Char.not_lt]
  exact h.1

lemma digitsValue_append_singleton (digits : List Char) (c : Char) :
    digitsValue (digits ++ [c]) = digitsValue digits * 10 + digitValue c := by
  simp [digitsValue]

/-- Later digits shift the ones before them. -/
lemma digitsValue_append (digits later : List Char) :
    digitsValue (digits ++ later) = digitsValue digits * 10 ^ later.length + digitsValue later := by
  induction later using List.reverseRecOn with
  | nil => simp [digitsValue]
  | append_singleton later c ih =>
    rw [← List.append_assoc, digitsValue_append_singleton, ih, digitsValue_append_singleton,
      List.length_append, List.length_singleton, pow_succ]
    ring

lemma digitsValue_cons (c : Char) (digits : List Char) :
    digitsValue (c :: digits) = digitValue c * 10 ^ digits.length + digitsValue digits := by
  have hone : digitsValue [c] = digitValue c := by simp [digitsValue]
  rw [← hone, ← digitsValue_append]
  rfl

lemma digitsValue_replicate_zero (count : Nat) : digitsValue (List.replicate count '0') = 0 := by
  induction count with
  | zero => rfl
  | succ count ih =>
    have hzero : digitValue '0' = 0 := rfl
    rw [List.replicate_succ, digitsValue_cons, ih, hzero, Nat.zero_mul]

lemma digitsValue_lt {digits : List Char} (h : ∀ c ∈ digits, c.isDigit = true) :
    digitsValue digits < 10 ^ digits.length := by
  induction digits with
  | nil => simp [digitsValue]
  | cons c rest ih =>
    obtain ⟨hc, hrest⟩ := List.forall_mem_cons.mp h
    have hdigit := digitValue_lt hc
    calc
      digitsValue (c :: rest) = digitValue c * 10 ^ rest.length + digitsValue rest :=
        digitsValue_cons c rest
      _ < digitValue c * 10 ^ rest.length + 10 ^ rest.length := Nat.add_lt_add_left (ih hrest) _
      _ = (digitValue c + 1) * 10 ^ rest.length := by ring
      _ ≤ 10 * 10 ^ rest.length := Nat.mul_le_mul_right _ hdigit
      _ = 10 ^ (c :: rest).length := by rw [List.length_cons, pow_succ, Nat.mul_comm]

/-! ### Rows of digits -/

structure Digits where
  text : List Char
  nonempty : text ≠ []
  isDigit : ∀ c ∈ text, c.isDigit = true

namespace Digits

def value (digits : Digits) : Nat :=
  digitsValue digits.text

lemma not_mem_text {c : Char} (digits : Digits) (hc : c.isDigit = false) : c ∉ digits.text := by
  intro hmem
  rw [digits.isDigit c hmem] at hc
  exact Bool.noConfusion hc

lemma exists_of_all {text : List Char} (h : text ≠ [] ∧ text.all Char.isDigit = true) :
    ∃ digits : Digits, digits.text = text :=
  ⟨⟨text, h.1, List.all_eq_true.mp h.2⟩, rfl⟩

lemma ne_nil_and_all (digits : Digits) : digits.text ≠ [] ∧ digits.text.all Char.isDigit = true :=
  ⟨digits.nonempty, List.all_eq_true.mpr digits.isDigit⟩

end Digits

/-! ### Integers of a width -/

/-- Reading stops at the first number beyond the limit; later digits only add to it. -/
lemma digitsWithin_eq_ok_iff {limit value n : Nat} {beyond : IntegerFault} {digits : List Char}
    (hvalue : value ≤ limit) :
    digitsWithin limit beyond value digits = .ok n ↔
      (∀ c ∈ digits, c.isDigit = true) ∧ n = value * 10 ^ digits.length + digitsValue digits ∧
        n ≤ limit := by
  induction digits generalizing value with
  | nil =>
    simp only [digitsWithin, Except.ok.injEq, List.not_mem_nil, false_implies, implies_true,
      List.length_nil, pow_zero, Nat.mul_one, true_and]
    have hnil : digitsValue [] = 0 := rfl
    rw [hnil, Nat.add_zero]
    constructor
    · rintro rfl
      exact ⟨rfl, hvalue⟩
    · rintro ⟨rfl, _⟩
      rfl
  | cons c rest ih =>
    have hshift : value * 10 ^ (c :: rest).length + digitsValue (c :: rest) =
        (value * 10 + digitValue c) * 10 ^ rest.length + digitsValue rest := by
      rw [digitsValue_cons, List.length_cons, pow_succ]
      ring
    rw [hshift, List.forall_mem_cons, digitsWithin]
    by_cases hc : c.isDigit = true
    · by_cases hlimit : limit < value * 10 + digitValue c
      · have hgrows : value * 10 + digitValue c ≤
            (value * 10 + digitValue c) * 10 ^ rest.length :=
          Nat.le_mul_of_pos_right _ (Nat.pow_pos (by decide))
        simp only [hc, Bool.not_true, Bool.false_eq_true, if_false, if_pos hlimit, reduceCtorEq,
          false_iff, not_and]
        rintro _ rfl
        omega
      · simp only [hc, Bool.not_true, Bool.false_eq_true, if_false, if_neg hlimit, true_and]
        exact ih (Nat.le_of_not_lt hlimit)
    · simp [hc]

namespace IntegerWidth

variable {width : IntegerWidth}

/-- Without a sign all of the text is read as digits. -/
lemma decode_cons_of_isDigit {c : Char} {rest : List Char} (hc : c.isDigit = true) :
    width.decode (c :: rest) =
      (digitsWithin width.greatest .tooLarge 0 (c :: rest)).map Int.ofNat := by
  have hplus : c ≠ '+' := by
    rintro rfl
    exact absurd hc (by decide)
  have hminus : c ≠ '-' := by
    rintro rfl
    exact absurd hc (by decide)
  unfold decode
  split <;> simp_all

/-- A row of digits is an integer exactly if it is within the limit of the width. -/
lemma decode_digits_eq_ok_iff {digits : Digits} {n : Int} :
    width.decode digits.text = .ok n ↔ n = digits.value ∧ digits.value ≤ width.greatest := by
  obtain ⟨c, rest, htext⟩ := List.exists_cons_of_ne_nil digits.nonempty
  have hc : c.isDigit = true := digits.isDigit c (by simp [htext])
  rw [htext, decode_cons_of_isDigit hc, ← htext, Except.map_eq_ok_iff]
  simp only [digitsWithin_eq_ok_iff (Nat.zero_le _), Nat.zero_mul, Nat.zero_add]
  constructor
  · rintro ⟨_, ⟨_, rfl, hle⟩, rfl⟩
    exact ⟨rfl, hle⟩
  · rintro ⟨rfl, hle⟩
    exact ⟨digits.value, ⟨digits.isDigit, rfl, hle⟩, rfl⟩

end IntegerWidth

/-! ### Digits of a number -/

lemma isDigit_digitChar : ∀ n < 10, (Nat.digitChar n).isDigit = true := by
  decide

lemma digitValue_digitChar : ∀ n < 10, digitValue (Nat.digitChar n) = n := by
  decide

/-- The last digits of a number, as many as asked for. -/
def lastDigits : Nat → Nat → List Char
  | 0, _ => []
  | count + 1, n => lastDigits count (n / 10) ++ [Nat.digitChar (n % 10)]

lemma length_lastDigits (count n : Nat) : (lastDigits count n).length = count := by
  induction count generalizing n with
  | zero => rfl
  | succ count ih => rw [lastDigits, List.length_append, ih, List.length_singleton]

lemma isDigit_of_mem_lastDigits {count n : Nat} {c : Char} (h : c ∈ lastDigits count n) :
    c.isDigit = true := by
  induction count generalizing n with
  | zero => simp [lastDigits] at h
  | succ count ih =>
    rw [lastDigits, List.mem_append, List.mem_singleton] at h
    rcases h with h | rfl
    · exact ih h
    · exact isDigit_digitChar _ (Nat.mod_lt _ (by decide))

lemma digitsValue_lastDigits (count n : Nat) :
    digitsValue (lastDigits count n) = n % 10 ^ count := by
  induction count generalizing n with
  | zero => rw [pow_zero, Nat.mod_one]; rfl
  | succ count ih =>
    rw [lastDigits, digitsValue_append_singleton, ih,
      digitValue_digitChar _ (Nat.mod_lt _ (by decide)), pow_succ, Nat.mul_comm (10 ^ count),
      Nat.mod_mul]
    omega

lemma isDigit_of_mem_toDigits {n : Nat} {c : Char} (h : c ∈ Nat.toDigits 10 n) :
    c.isDigit = true := by
  induction n using Nat.strongRecOn with
  | ind n ih =>
    rw [Nat.toDigits_eq_if (by decide)] at h
    split_ifs at h with hlt
    · rw [List.mem_singleton.mp h]
      exact isDigit_digitChar n hlt
    · rcases List.mem_append.mp h with h | h
      · exact ih (n / 10) (by omega) h
      · rw [List.mem_singleton.mp h]
        exact isDigit_digitChar _ (Nat.mod_lt _ (by decide))

lemma digitsValue_toDigits (n : Nat) : digitsValue (Nat.toDigits 10 n) = n := by
  induction n using Nat.strongRecOn with
  | ind n ih =>
    rw [Nat.toDigits_eq_if (by decide)]
    split_ifs with hlt
    · simpa [digitsValue] using digitValue_digitChar n hlt
    · rw [digitsValue_append_singleton, ih (n / 10) (by omega),
        digitValue_digitChar _ (Nat.mod_lt _ (by decide))]
      omega

namespace Digits

/-- The digits of a number, without leading zeros. -/
def decimal (n : Nat) : Digits :=
  ⟨Nat.toDigits 10 n, Nat.toDigits_ne_nil, fun _ => isDigit_of_mem_toDigits⟩

def padded (count : Nat) (hcount : count ≠ 0) (n : Nat) : Digits where
  text := lastDigits count n
  nonempty := by
    intro hnil
    exact hcount (by rw [← length_lastDigits count n, hnil, List.length_nil])
  isDigit _ := isDigit_of_mem_lastDigits

@[simp] lemma value_decimal (n : Nat) : (decimal n).value = n :=
  digitsValue_toDigits n

lemma value_padded {count : Nat} (hcount : count ≠ 0) {n : Nat} (hn : n < 10 ^ count) :
    (padded count hcount n).value = n :=
  (digitsValue_lastDigits count n).trans (Nat.mod_eq_of_lt hn)

lemma length_padded {count : Nat} (hcount : count ≠ 0) (n : Nat) :
    (padded count hcount n).text.length = count :=
  length_lastDigits count n

end Digits

end CommandLine
