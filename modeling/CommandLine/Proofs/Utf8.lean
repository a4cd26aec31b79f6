import CommandLine.Text.Utf8
import Mathlib.Data.List.Basic
import Mathlib.Data.String.Basic
import Mathlib.Tactic.Common

/-!
# Bytes that are text

Reading bytes one at a time accepts exactly the encodings of texts: the bytes that make a character
are those that encode it, and there are no others. Bytes that end inside of a character are
malformed.
-/

namespace CommandLine.Text

/-! ### Encodings -/

lemma toList_byteArray (bytes : ByteArray) : bytes.toList = bytes.data.toList := by
  have hloop (count : Nat) : ∀ index read, bytes.size - index = count →
      ByteArray.toList.loop bytes index read = read.reverse ++ bytes.data.toList.drop index := by
    induction count with
    | zero =>
      intro index read h
      have hlength : bytes.data.toList.length = bytes.size := rfl
      rw [ByteArray.toList.loop, if_neg (by omega), List.drop_eq_nil_of_le (by omega),
        List.append_nil]
    | succ count ih =>
      intro index read h
      have hlt : index < bytes.size := by omega
      have hget : bytes.get! index = bytes.data.toList.get ⟨index, hlt⟩ := by
        rw [ByteArray.get!, getElem!_pos bytes.data index hlt]
        rfl
      rw [ByteArray.toList.loop, if_pos hlt, ih (index + 1) _ (by omega), hget, List.reverse_cons,
        List.append_assoc, List.singleton_append, List.get_eq_getElem, List.getElem_cons_drop]
  exact hloop _ 0 [] rfl

def bytesOf (text : List Char) : List UInt8 :=
  text.flatMap String.utf8EncodeChar

@[simp] lemma bytesOf_nil : bytesOf [] = [] :=
  rfl

lemma bytesOf_cons (c : Char) (text : List Char) :
    bytesOf (c :: text) = String.utf8EncodeChar c ++ bytesOf text :=
  List.flatMap_cons

lemma bytesOf_append (text other : List Char) :
    bytesOf (text ++ other) = bytesOf text ++ bytesOf other :=
  List.flatMap_append

lemma encode_eq (text : String) : encode text = bytesOf text.toList := by
  rw [encode, toList_byteArray, String.toUTF8_eq_toByteArray]
  conv_lhs => rw [← String.ofList_toList (s := text), String.toByteArray_ofList]
  rw [List.utf8Encode, List.toList_data_toByteArray, bytesOf]

/-! ### Unfinished characters -/

namespace Partial

variable {unfinished longer : Partial} {byte : UInt8} {c : Char}

lemma next_eq_done_iff :
    unfinished.next byte = .done c ↔
      unfinished.others = 0 ∧ unfinished.low ≤ byte ∧ byte ≤ unfinished.high ∧
        c = Char.ofNat (unfinished.bits * 0x40 + byte.toNat % 0x40) := by
  obtain ⟨others, low, high, bits⟩ := unfinished
  rw [next]
  by_cases h : low ≤ byte ∧ byte ≤ high
  · rw [if_pos h]
    cases others with
    | zero => simp [h, eq_comm]
    | succ others => simp
  · rw [if_neg h]
    simp only [reduceCtorEq, false_iff]
    tauto

lemma next_eq_more_iff :
    unfinished.next byte = .more longer ↔
      unfinished.low ≤ byte ∧ byte ≤ unfinished.high ∧
        ∃ others, unfinished.others = others + 1 ∧
          longer = ⟨others, 0x80, 0xBF, unfinished.bits * 0x40 + byte.toNat % 0x40⟩ := by
  obtain ⟨others, low, high, bits⟩ := unfinished
  rw [next]
  by_cases h : low ≤ byte ∧ byte ≤ high
  · rw [if_pos h]
    cases others with
    | zero => simp
    | succ others => simp [h, eq_comm]
  · rw [if_neg h]
    simp only [reduceCtorEq, false_iff]
    tauto

end Partial

/-- The bytes of the rest of a character that is not finished. -/
inductive Partial.Completes : Partial → List UInt8 → Char → Prop
  | done {unfinished : Partial} {byte : UInt8} {c : Char} (h : unfinished.next byte = .done c) :
      Completes unfinished [byte] c
  | more {unfinished longer : Partial} {byte : UInt8} {bytes : List UInt8} {c : Char}
      (h : unfinished.next byte = .more longer) (hrest : Completes longer bytes c) :
      Completes unfinished (byte :: bytes) c

namespace Partial

variable {low high : UInt8} {bits : Nat} {bytes : List UInt8} {c : Char}

lemma completes_zero_iff :
    Completes ⟨0, low, high, bits⟩ bytes c ↔
      ∃ byte, bytes = [byte] ∧ low ≤ byte ∧ byte ≤ high ∧
        c = Char.ofNat (bits * 0x40 + byte.toNat % 0x40) := by
  constructor
  · intro h
    cases h with
    | done h =>
      obtain ⟨-, hlow, hhigh, hc⟩ := next_eq_done_iff.mp h
      exact ⟨_, rfl, hlow, hhigh, hc⟩
    | more h =>
      obtain ⟨-, -, others, hothers, -⟩ := next_eq_more_iff.mp h
      simp at hothers
  · rintro ⟨byte, rfl, hlow, hhigh, rfl⟩
    exact .done (next_eq_done_iff.mpr ⟨rfl, hlow, hhigh, rfl⟩)

lemma completes_succ_iff {others : Nat} :
    Completes ⟨others + 1, low, high, bits⟩ bytes c ↔
      ∃ byte rest, bytes = byte :: rest ∧ low ≤ byte ∧ byte ≤ high ∧
        Completes ⟨others, 0x80, 0xBF, bits * 0x40 + byte.toNat % 0x40⟩ rest c := by
  constructor
  · intro h
    cases h with
    | done h =>
      obtain ⟨hothers, -⟩ := next_eq_done_iff.mp h
      simp at hothers
    | more h hrest =>
      obtain ⟨hlow, hhigh, others', hothers, rfl⟩ := next_eq_more_iff.mp h
      obtain rfl := Nat.succ.inj hothers
      exact ⟨_, _, rfl, hlow, hhigh, hrest⟩
  · rintro ⟨byte, rest, rfl, hlow, hhigh, hrest⟩
    exact .more (next_eq_more_iff.mpr ⟨hlow, hhigh, _, rfl, rfl⟩) hrest
/-- The first byte tells how many bytes follow and the first bits; the least and the greatest first
byte of a length limit the next one, and so does the one before the surrogates. -/
lemma start_eq (byte : UInt8) :
    start byte =
      if 0xC2 ≤ byte.toNat ∧ byte.toNat ≤ 0xDF then some ⟨0, 0x80, 0xBF, byte.toNat - 0xC0⟩
      else if 0xE0 ≤ byte.toNat ∧ byte.toNat ≤ 0xEF then
        some ⟨1, if byte.toNat = 0xE0 then 0xA0 else 0x80,
          if byte.toNat = 0xED then 0x9F else 0xBF, byte.toNat - 0xE0⟩
      else if 0xF0 ≤ byte.toNat ∧ byte.toNat ≤ 0xF4 then
        some ⟨2, if byte.toNat = 0xF0 then 0x90 else 0x80,
          if byte.toNat = 0xF4 then 0x8F else 0xBF, byte.toNat - 0xF0⟩
      else none := by
  have hlt := byte.toNat_lt
  have hvalue (n : Nat) (hn : n < 0x100) : byte = UInt8.ofNat n ↔ byte.toNat = n := by
    rw [← UInt8.toNat_inj, UInt8.toNat_ofNat', Nat.mod_eq_of_lt hn]
  have h224 : byte = 0xE0 ↔ byte.toNat = 0xE0 := hvalue 0xE0 (by omega)
  have h237 : byte = 0xED ↔ byte.toNat = 0xED := hvalue 0xED (by omega)
  have h240 : byte = 0xF0 ↔ byte.toNat = 0xF0 := hvalue 0xF0 (by omega)
  have h244 : byte = 0xF4 ↔ byte.toNat = 0xF4 := hvalue 0xF4 (by omega)
  simp only [start, UInt8.le_iff_toNat_le, UInt8.toNat_ofNat, h224, h237, h240, h244]
  grind

end Partial

/-- The bytes of a character, as they are read. -/
inductive Spelled : List UInt8 → Char → Prop
  | single {byte : UInt8} (h : byte < 0x80) : Spelled [byte] (Char.ofNat byte.toNat)
  | several {byte : UInt8} {unfinished : Partial} {bytes : List UInt8} {c : Char}
      (h : ¬ byte < 0x80) (hstart : Partial.start byte = some unfinished)
      (hrest : unfinished.Completes bytes c) : Spelled (byte :: bytes) c

lemma toNat_ofNat_of_lt {n : Nat} (h : n < 0x100) : (UInt8.ofNat n).toNat = n := by
  rw [UInt8.toNat_ofNat']
  exact Nat.mod_eq_of_lt h

lemma toNat_ofNat_of_isValidChar {n : Nat} (h : n.isValidChar) : (Char.ofNat n).toNat = n := by
  rw [Char.ofNat, dif_pos h]
  rfl

/-- The bytes of a character by the number of bits that it needs. -/
lemma utf8EncodeChar_ofNat {n : Nat} (h : n.isValidChar) :
    String.utf8EncodeChar (Char.ofNat n) =
      if n < 0x80 then [UInt8.ofNat n]
      else if n < 0x800 then [UInt8.ofNat (0xC0 + n / 0x40), UInt8.ofNat (0x80 + n % 0x40)]
      else if n < 0x10000 then
        [UInt8.ofNat (0xE0 + n / 0x1000), UInt8.ofNat (0x80 + n / 0x40 % 0x40),
          UInt8.ofNat (0x80 + n % 0x40)]
      else
        [UInt8.ofNat (0xF0 + n / 0x40000), UInt8.ofNat (0x80 + n / 0x1000 % 0x40),
          UInt8.ofNat (0x80 + n / 0x40 % 0x40), UInt8.ofNat (0x80 + n % 0x40)] := by
  have hvalue : (Char.ofNat n).val.toNat = n := toNat_ofNat_of_isValidChar h
  have hlt : n < 0x110000 := by
    rcases h with h | h
    all_goals omega
  simp only [String.utf8EncodeChar, hvalue]
  split_ifs
  any_goals omega
  · rfl
  · have h1 : n / 64 % 32 + 192 = 0xC0 + n / 0x40 := by omega
    rw [h1, Nat.add_comm (n % 64)]
  · have h1 : n / 4096 % 16 + 224 = 0xE0 + n / 0x1000 := by omega
    rw [h1, Nat.add_comm (n % 64), Nat.add_comm (n / 64 % 64)]
  · have h1 : n / 262144 % 8 + 240 = 0xF0 + n / 0x40000 := by omega
    rw [h1, Nat.add_comm (n % 64), Nat.add_comm (n / 64 % 64), Nat.add_comm (n / 4096 % 64)]

lemma spelled_cons_iff {byte : UInt8} {bytes : List UInt8} {c : Char} (h : 0x80 ≤ byte.toNat) :
    Spelled (byte :: bytes) c ↔
      ∃ unfinished, Partial.start byte = some unfinished ∧ unfinished.Completes bytes c := by
  have hnot : ¬ byte < 0x80 := fun hlt => absurd (UInt8.lt_iff_toNat_lt.mp hlt) (Nat.not_lt.mpr h)
  constructor
  · intro hspelled
    cases hspelled with
    | single hlt => exact absurd hlt hnot
    | several _ hstart hrest => exact ⟨_, hstart, hrest⟩
  · rintro ⟨unfinished, hstart, hrest⟩
    exact .several hnot hstart hrest

/-- The second byte of some characters has narrower limits than the ones that follow. -/
lemma limits_iff {p q : Prop} [Decidable p] [Decidable q] {low high n : Nat} (hlow : 0x80 ≤ low)
    (hhigh : high ≤ 0xBF) :
    ((if p then low else 0x80) ≤ n ∧ n ≤ if q then high else 0xBF) ↔
      ((p → low ≤ n) ∧ (q → n ≤ high)) ∧ (0x80 ≤ n ∧ n ≤ 0xBF) := by
  by_cases hp : p <;> by_cases hq : q <;>
    simp only [hp, hq, if_true, if_false, true_imp_iff, false_imp_iff, true_and, and_true] <;>
    omega

lemma spelled_two_iff {byte : UInt8} {bytes : List UInt8} {c : Char}
    (h : 0xC2 ≤ byte.toNat ∧ byte.toNat ≤ 0xDF) :
    Spelled (byte :: bytes) c ↔
      ∃ second : UInt8, bytes = [second] ∧ (0x80 ≤ second.toNat ∧ second.toNat ≤ 0xBF) ∧
        c = Char.ofNat ((byte.toNat - 0xC0) * 0x40 + second.toNat % 0x40) := by
  rw [spelled_cons_iff (by omega), Partial.start_eq, if_pos h]
  simp only [Option.some.injEq, exists_eq_left', Partial.completes_zero_iff,
    UInt8.le_iff_toNat_le, and_assoc]
  rfl

lemma spelled_three_iff {byte : UInt8} {bytes : List UInt8} {c : Char}
    (h : 0xE0 ≤ byte.toNat ∧ byte.toNat ≤ 0xEF) :
    Spelled (byte :: bytes) c ↔
      ∃ second third : UInt8, bytes = [second, third] ∧
        ((byte.toNat = 0xE0 → 0xA0 ≤ second.toNat) ∧ (byte.toNat = 0xED → second.toNat ≤ 0x9F)) ∧
        (0x80 ≤ second.toNat ∧ second.toNat ≤ 0xBF) ∧
        (0x80 ≤ third.toNat ∧ third.toNat ≤ 0xBF) ∧
        c = Char.ofNat (((byte.toNat - 0xE0) * 0x40 + second.toNat % 0x40) * 0x40 +
          third.toNat % 0x40) := by
  rw [spelled_cons_iff (by omega), Partial.start_eq, if_neg (by omega), if_pos h]
  simp only [Option.some.injEq, exists_eq_left', Partial.completes_zero_iff,
    Partial.completes_succ_iff, UInt8.le_iff_toNat_le, apply_ite UInt8.toNat]
  constructor
  · rintro ⟨second, _, rfl, hlow, hhigh, third, rfl, hlow', hhigh', rfl⟩
    obtain ⟨hspecial, hsecond⟩ := (limits_iff (by decide) (by decide)).mp ⟨hlow, hhigh⟩
    exact ⟨second, third, rfl, hspecial, hsecond, ⟨hlow', hhigh'⟩, rfl⟩
  · rintro ⟨second, third, rfl, hspecial, hsecond, ⟨hlow', hhigh'⟩, rfl⟩
    obtain ⟨hlow, hhigh⟩ := (limits_iff (by decide) (by decide)).mpr ⟨hspecial, hsecond⟩
    exact ⟨second, _, rfl, hlow, hhigh, third, rfl, hlow', hhigh', rfl⟩

lemma spelled_four_iff {byte : UInt8} {bytes : List UInt8} {c : Char}
    (h : 0xF0 ≤ byte.toNat ∧ byte.toNat ≤ 0xF4) :
    Spelled (byte :: bytes) c ↔
      ∃ second third fourth : UInt8, bytes = [second, third, fourth] ∧
        ((byte.toNat = 0xF0 → 0x90 ≤ second.toNat) ∧ (byte.toNat = 0xF4 → second.toNat ≤ 0x8F)) ∧
        (0x80 ≤ second.toNat ∧ second.toNat ≤ 0xBF) ∧
        (0x80 ≤ third.toNat ∧ third.toNat ≤ 0xBF) ∧ (0x80 ≤ fourth.toNat ∧ fourth.toNat ≤ 0xBF) ∧
        c = Char.ofNat ((((byte.toNat - 0xF0) * 0x40 + second.toNat % 0x40) * 0x40 +
          third.toNat % 0x40) * 0x40 + fourth.toNat % 0x40) := by
  rw [spelled_cons_iff (by omega), Partial.start_eq, if_neg (by omega), if_neg (by omega), if_pos h]
  simp only [Option.some.injEq, exists_eq_left', Partial.completes_zero_iff,
    Partial.completes_succ_iff, UInt8.le_iff_toNat_le, apply_ite UInt8.toNat]
  constructor
  · rintro ⟨second, _, rfl, hlow, hhigh, third, _, rfl, hlow', hhigh', fourth, rfl, hlow'',
      hhigh'', rfl⟩
    obtain ⟨hspecial, hsecond⟩ := (limits_iff (by decide) (by decide)).mp ⟨hlow, hhigh⟩
    exact ⟨second, third, fourth, rfl, hspecial, hsecond, ⟨hlow', hhigh'⟩, ⟨hlow'', hhigh''⟩, rfl⟩
  · rintro ⟨second, third, fourth, rfl, hspecial, hsecond, ⟨hlow', hhigh'⟩, ⟨hlow'', hhigh''⟩, rfl⟩
    obtain ⟨hlow, hhigh⟩ := (limits_iff (by decide) (by decide)).mpr ⟨hspecial, hsecond⟩
    exact ⟨second, _, rfl, hlow, hhigh, third, _, rfl, hlow', hhigh', fourth, rfl, hlow'', hhigh'',
      rfl⟩

/-- From the bytes of a character of two bytes its number can be told, and so its encoding. -/
lemma eq_utf8EncodeChar_two {byte : UInt8} {bytes : List UInt8} {c : Char}
    (hbyte : 0xC2 ≤ byte.toNat ∧ byte.toNat ≤ 0xDF) (h : Spelled (byte :: bytes) c) :
    byte :: bytes = String.utf8EncodeChar c := by
  obtain ⟨second, rfl, hsecond, rfl⟩ := (spelled_two_iff hbyte).mp h
  generalize hn : (byte.toNat - 0xC0) * 0x40 + second.toNat % 0x40 = n
  have h1 : 0xC0 + n / 0x40 = byte.toNat := by omega
  have h2 : 0x80 + n % 0x40 = second.toNat := by omega
  rw [utf8EncodeChar_ofNat (.inl (by omega)), if_neg (by omega), if_pos (by omega), h1, h2,
    UInt8.ofNat_toNat, UInt8.ofNat_toNat]

lemma eq_utf8EncodeChar_three {byte : UInt8} {bytes : List UInt8} {c : Char}
    (hbyte : 0xE0 ≤ byte.toNat ∧ byte.toNat ≤ 0xEF) (h : Spelled (byte :: bytes) c) :
    byte :: bytes = String.utf8EncodeChar c := by
  obtain ⟨second, third, rfl, hspecial, hsecond, hthird, rfl⟩ := (spelled_three_iff hbyte).mp h
  generalize hn : ((byte.toNat - 0xE0) * 0x40 + second.toNat % 0x40) * 0x40 +
      third.toNat % 0x40 = n
  -- The narrower limit of the second byte keeps off the surrogates.
  have hvalid : n.isValidChar := by
    unfold Nat.isValidChar
    omega
  have h1 : 0xE0 + n / 0x1000 = byte.toNat := by omega
  have h2 : 0x80 + n / 0x40 % 0x40 = second.toNat := by omega
  have h3 : 0x80 + n % 0x40 = third.toNat := by omega
  rw [utf8EncodeChar_ofNat hvalid, if_neg (by omega), if_neg (by omega), if_pos (by omega),
    h1, h2, h3, UInt8.ofNat_toNat, UInt8.ofNat_toNat, UInt8.ofNat_toNat]

lemma eq_utf8EncodeChar_four {byte : UInt8} {bytes : List UInt8} {c : Char}
    (hbyte : 0xF0 ≤ byte.toNat ∧ byte.toNat ≤ 0xF4) (h : Spelled (byte :: bytes) c) :
    byte :: bytes = String.utf8EncodeChar c := by
  obtain ⟨second, third, fourth, rfl, hspecial, hsecond, hthird, hfourth, rfl⟩ :=
    (spelled_four_iff hbyte).mp h
  generalize hn : (((byte.toNat - 0xF0) * 0x40 + second.toNat % 0x40) * 0x40 +
      third.toNat % 0x40) * 0x40 + fourth.toNat % 0x40 = n
  have hvalid : n.isValidChar := by
    unfold Nat.isValidChar
    omega
  have h1 : 0xF0 + n / 0x40000 = byte.toNat := by omega
  have h2 : 0x80 + n / 0x1000 % 0x40 = second.toNat := by omega
  have h3 : 0x80 + n / 0x40 % 0x40 = third.toNat := by omega
  have h4 : 0x80 + n % 0x40 = fourth.toNat := by omega
  rw [utf8EncodeChar_ofNat hvalid, if_neg (by omega), if_neg (by omega), if_neg (by omega),
    h1, h2, h3, h4, UInt8.ofNat_toNat, UInt8.ofNat_toNat, UInt8.ofNat_toNat, UInt8.ofNat_toNat]

/-- The bytes of a character are its encoding. -/
lemma eq_utf8EncodeChar_of_spelled {bytes : List UInt8} {c : Char} (h : Spelled bytes c) :
    bytes = String.utf8EncodeChar c := by
  cases h with
  | @single byte h =>
    have hn : byte.toNat < 0x80 := UInt8.lt_iff_toNat_lt.mp h
    rw [utf8EncodeChar_ofNat (.inl (by omega)), if_pos hn, UInt8.ofNat_toNat]
  | @several byte unfinished bytes c h hstart hrest =>
    have hspelled : Spelled (byte :: bytes) c := .several h hstart hrest
    rw [Partial.start_eq] at hstart
    by_cases htwo : 0xC2 ≤ byte.toNat ∧ byte.toNat ≤ 0xDF
    · exact eq_utf8EncodeChar_two htwo hspelled
    by_cases hthree : 0xE0 ≤ byte.toNat ∧ byte.toNat ≤ 0xEF
    · exact eq_utf8EncodeChar_three hthree hspelled
    by_cases hfour : 0xF0 ≤ byte.toNat ∧ byte.toNat ≤ 0xF4
    · exact eq_utf8EncodeChar_four hfour hspelled
    · rw [if_neg htwo, if_neg hthree, if_neg hfour] at hstart
      simp at hstart

/-- The encoding of a character is read as this character. -/
lemma spelled_utf8EncodeChar (c : Char) : Spelled (String.utf8EncodeChar c) c := by
  have hvalid : c.toNat.isValidChar := c.valid
  rw [← Char.ofNat_toNat c]
  generalize c.toNat = n at *
  rw [utf8EncodeChar_ofNat hvalid]
  have hlt : n < 0x110000 := by
    unfold Nat.isValidChar at hvalid
    omega
  split_ifs with h1 h2 h3
  · have hbyte : (UInt8.ofNat n).toNat = n := toNat_ofNat_of_lt (by omega)
    have hspelled : Spelled [UInt8.ofNat n] (Char.ofNat (UInt8.ofNat n).toNat) :=
      .single (UInt8.lt_iff_toNat_lt.mpr (by rwa [hbyte]))
    rwa [hbyte] at hspelled
  · have hfirst : (UInt8.ofNat (0xC0 + n / 0x40)).toNat = 0xC0 + n / 0x40 :=
      toNat_ofNat_of_lt (by omega)
    have hsecond : (UInt8.ofNat (0x80 + n % 0x40)).toNat = 0x80 + n % 0x40 :=
      toNat_ofNat_of_lt (by omega)
    refine (spelled_two_iff (by omega)).mpr ⟨_, rfl, by omega, congrArg _ ?_⟩
    omega
  · have hfirst : (UInt8.ofNat (0xE0 + n / 0x1000)).toNat = 0xE0 + n / 0x1000 :=
      toNat_ofNat_of_lt (by omega)
    have hsecond : (UInt8.ofNat (0x80 + n / 0x40 % 0x40)).toNat = 0x80 + n / 0x40 % 0x40 :=
      toNat_ofNat_of_lt (by omega)
    have hthird : (UInt8.ofNat (0x80 + n % 0x40)).toNat = 0x80 + n % 0x40 :=
      toNat_ofNat_of_lt (by omega)
    unfold Nat.isValidChar at hvalid
    refine (spelled_three_iff (by omega)).mpr
      ⟨_, _, rfl, by omega, by omega, by omega, congrArg _ ?_⟩
    omega
  · have hfirst : (UInt8.ofNat (0xF0 + n / 0x40000)).toNat = 0xF0 + n / 0x40000 :=
      toNat_ofNat_of_lt (by omega)
    have hsecond : (UInt8.ofNat (0x80 + n / 0x1000 % 0x40)).toNat = 0x80 + n / 0x1000 % 0x40 :=
      toNat_ofNat_of_lt (by omega)
    have hthird : (UInt8.ofNat (0x80 + n / 0x40 % 0x40)).toNat = 0x80 + n / 0x40 % 0x40 :=
      toNat_ofNat_of_lt (by omega)
    have hfourth : (UInt8.ofNat (0x80 + n % 0x40)).toNat = 0x80 + n % 0x40 :=
      toNat_ofNat_of_lt (by omega)
    refine (spelled_four_iff (by omega)).mpr
      ⟨_, _, _, rfl, by omega, by omega, by omega, by omega, congrArg _ ?_⟩
    omega

/-- The bytes of a character are exactly its encoding. -/
lemma spelled_iff {bytes : List UInt8} {c : Char} :
    Spelled bytes c ↔ bytes = String.utf8EncodeChar c := by
  constructor
  · exact eq_utf8EncodeChar_of_spelled
  · rintro rfl
    exact spelled_utf8EncodeChar c

/-! ### Reading -/

lemma readFrom_of_completes {unfinished : Partial} {bytes : List UInt8} {c : Char}
    (h : unfinished.Completes bytes c) (rest : List UInt8) :
    readFrom (some unfinished) (bytes ++ rest) = some c :: readFrom none rest := by
  induction h with
  | done h => simp [readFrom, h]
  | more h _ ih => simpa [readFrom, h] using ih

/-- A character of which some bytes are missing is malformed. -/
lemma readFrom_take_of_completes {unfinished : Partial} {bytes : List UInt8} {c : Char}
    (h : unfinished.Completes bytes c) {count : Nat} (hcount : count < bytes.length) :
    readFrom (some unfinished) (bytes.take count) = [none] := by
  induction h generalizing count with
  | done h =>
    obtain rfl : count = 0 := by simpa using hcount
    rfl
  | more h _ ih =>
    cases count with
    | zero => rfl
    | succ count => simpa [readFrom, h] using ih (by simpa using hcount)

lemma readFrom_of_spelled {bytes : List UInt8} {c : Char} (h : Spelled bytes c)
    (rest : List UInt8) : readFrom none (bytes ++ rest) = some c :: readFrom none rest := by
  cases h with
  | single h => simp [readFrom, firstByte, h]
  | several h hstart hrest =>
    simpa [readFrom, firstByte, h, hstart] using readFrom_of_completes hrest rest

lemma readFrom_take_of_spelled {bytes : List UInt8} {c : Char} (h : Spelled bytes c) {count : Nat}
    (hpos : 0 < count) (hcount : count < bytes.length) :
    readFrom none (bytes.take count) = [none] := by
  obtain ⟨count, rfl⟩ : ∃ others, count = others + 1 := ⟨count - 1, by omega⟩
  cases h with
  | single h => simp at hcount
  | several h hstart hrest =>
    simpa [readFrom, firstByte, h, hstart] using
      readFrom_take_of_completes hrest (by simpa using hcount)

lemma readFrom_bytesOf_append (text : List Char) (rest : List UInt8) :
    readFrom none (bytesOf text ++ rest) = text.map some ++ readFrom none rest := by
  induction text with
  | nil => rfl
  | cons c text ih =>
    rw [bytesOf_cons, List.append_assoc, readFrom_of_spelled (spelled_utf8EncodeChar c), ih]
    rfl

/-- What is read after an unfinished character begins with it, if it is not malformed. -/
lemma exists_completes {unfinished : Partial} {bytes : List UInt8} {c : Char}
    {others : List (Option Char)}
    (h : readFrom (some unfinished) bytes = some c :: others) :
    ∃ first rest, bytes = first ++ rest ∧ unfinished.Completes first c ∧
      readFrom none rest = others := by
  induction bytes generalizing unfinished with
  | nil => simp [readFrom] at h
  | cons byte rest ih =>
    rw [readFrom] at h
    cases hnext : unfinished.next byte with
    | more longer =>
      rw [hnext] at h
      obtain ⟨first, rest, rfl, hfirst, hothers⟩ := ih h
      exact ⟨byte :: first, rest, rfl, .more hnext hfirst, hothers⟩
    | done found =>
      rw [hnext] at h
      obtain ⟨hfound, rfl⟩ := List.cons.inj h
      obtain rfl := Option.some.inj hfound
      exact ⟨[byte], rest, rfl, .done hnext, rfl⟩
    | broken =>
      rw [hnext] at h
      simp at h

/-- What is read begins with the bytes of its first character. -/
lemma exists_spelled {bytes : List UInt8} {c : Char} {others : List (Option Char)}
    (h : readFrom none bytes = some c :: others) :
    ∃ first rest, bytes = first ++ rest ∧ Spelled first c ∧ readFrom none rest = others := by
  cases bytes with
  | nil => simp [readFrom] at h
  | cons byte rest =>
    rw [readFrom, firstByte] at h
    by_cases hbyte : byte < 0x80
    · rw [if_pos hbyte] at h
      obtain ⟨hc, rfl⟩ := List.cons.inj h
      obtain rfl := Option.some.inj hc
      exact ⟨[byte], rest, rfl, .single hbyte, rfl⟩
    · rw [if_neg hbyte] at h
      cases hstart : Partial.start byte with
      | none =>
        rw [hstart] at h
        simp at h
      | some unfinished =>
        rw [hstart] at h
        obtain ⟨first, rest, rfl, hfirst, hothers⟩ := exists_completes h
        exact ⟨byte :: first, rest, rfl, .several hbyte hstart hfirst, hothers⟩

/-- Unfinished characters yield something, if only that they are malformed. -/
lemma readFrom_some_ne_nil (unfinished : Partial) (bytes : List UInt8) :
    readFrom (some unfinished) bytes ≠ [] := by
  induction bytes generalizing unfinished with
  | nil => simp [readFrom]
  | cons byte rest ih =>
    rw [readFrom]
    cases unfinished.next byte with
    | more longer => exact ih longer
    | done c => simp
    | broken => simp

lemma readFrom_none_ne_nil (byte : UInt8) (rest : List UInt8) :
    readFrom none (byte :: rest) ≠ [] := by
  rw [readFrom, firstByte]
  split_ifs
  · simp
  · cases Partial.start byte with
    | none => simp
    | some unfinished => exact readFrom_some_ne_nil unfinished rest

lemma eq_bytesOf_of_readFrom {bytes : List UInt8} {text : List Char}
    (h : readFrom none bytes = text.map some) : bytes = bytesOf text := by
  induction text generalizing bytes with
  | nil =>
    cases bytes with
    | nil => rfl
    | cons byte rest => exact absurd h (readFrom_none_ne_nil byte rest)
  | cons c text ih =>
    obtain ⟨first, rest, rfl, hfirst, hothers⟩ := exists_spelled h
    rw [bytesOf_cons, spelled_iff.mp hfirst, ih hothers]

/-! ### Decoding -/

lemma mapM_id_eq_some_iff {reads : List (Option Char)} {text : List Char} :
    reads.mapM id = some text ↔ reads = text.map some := by
  induction reads generalizing text with
  | nil => cases text <;> simp
  | cons read reads ih =>
    simp only [List.mapM_cons, id_eq, bind_pure_comp, Option.bind_eq_bind, Option.bind_eq_some_iff,
      Option.map_eq_map, Option.map_eq_some_iff, ih]
    constructor
    · rintro ⟨c, rfl, others, rfl, rfl⟩
      rfl
    · intro h
      cases text with
      | nil => simp at h
      | cons c text =>
        obtain ⟨rfl, rfl⟩ := List.cons.inj h
        exact ⟨c, rfl, text, rfl, rfl⟩

lemma decode?_eq_some_iff_readFrom {bytes : List UInt8} {text : String} :
    decode? bytes = some text ↔ readFrom none bytes = text.toList.map some := by
  rw [decode?, Option.map_eq_some_iff]
  simp only [mapM_id_eq_some_iff]
  constructor
  · rintro ⟨characters, h, rfl⟩
    rwa [String.toList_ofList]
  · intro h
    exact ⟨text.toList, h, String.ofList_toList⟩

lemma decode?_bytesOf (text : List Char) : decode? (bytesOf text) = some (String.ofList text) := by
  rw [decode?_eq_some_iff_readFrom, String.toList_ofList]
  simpa [readFrom] using readFrom_bytesOf_append text []

/-- Bytes are a text exactly if they are its encoding. -/
lemma decode?_eq_some_iff {bytes : List UInt8} {text : String} :
    decode? bytes = some text ↔ bytes = encode text := by
  rw [encode_eq]
  constructor
  · intro h
    exact eq_bytesOf_of_readFrom (decode?_eq_some_iff_readFrom.mp h)
  · rintro rfl
    rw [decode?_bytesOf, String.ofList_toList]

/-- Bytes that end inside of a character are no text. -/
lemma decode?_append_take (text : List Char) {c : Char} {count : Nat} (hpos : 0 < count)
    (hcount : count < (String.utf8EncodeChar c).length) :
    decode? (bytesOf text ++ (String.utf8EncodeChar c).take count) = none := by
  rw [Option.eq_none_iff_forall_ne_some]
  intro found h
  rw [decode?_eq_some_iff_readFrom, readFrom_bytesOf_append,
    readFrom_take_of_spelled (spelled_utf8EncodeChar c) hpos hcount] at h
  have hmem : (none : Option Char) ∈ found.toList.map some := h ▸ by simp
  simp at hmem

/-! ### Single bytes -/

lemma utf8EncodeChar_ofNat_toNat {byte : UInt8} (hbyte : byte.toNat < 0x80) :
    String.utf8EncodeChar (Char.ofNat byte.toNat) = [byte] := by
  rw [utf8EncodeChar_ofNat (.inl (by omega)), if_pos hbyte, UInt8.ofNat_toNat]

/-- Only the characters below the limit of single bytes have such bytes. -/
lemma mem_utf8EncodeChar_iff {byte : UInt8} (hbyte : byte.toNat < 0x80) {c : Char} :
    byte ∈ String.utf8EncodeChar c ↔ c = Char.ofNat byte.toNat := by
  have hvalid : c.toNat.isValidChar := c.valid
  constructor
  · rw [← Char.ofNat_toNat c]
    generalize c.toNat = n at *
    have hlt : n < 0x110000 := by
      unfold Nat.isValidChar at hvalid
      omega
    -- The bytes of the longer encodings have their highest bit set.
    have hne (m : Nat) (hlow : 0x80 ≤ m) (hhigh : m < 0x100) : byte ≠ UInt8.ofNat m := by
      rintro rfl
      rw [toNat_ofNat_of_lt hhigh] at hbyte
      omega
    rw [utf8EncodeChar_ofNat hvalid]
    split_ifs with h1 h2 h3
    · intro h
      rw [List.mem_singleton.mp h, toNat_ofNat_of_lt (by omega)]
    all_goals
      intro h
      simp only [List.mem_cons, List.not_mem_nil, or_false] at h
    · obtain h | h := h
      all_goals exact absurd h (hne _ (by omega) (by omega))
    · obtain h | h | h := h
      all_goals exact absurd h (hne _ (by omega) (by omega))
    · obtain h | h | h | h := h
      all_goals exact absurd h (hne _ (by omega) (by omega))
  · rintro rfl
    rw [utf8EncodeChar_ofNat_toNat hbyte, List.mem_singleton]

end CommandLine.Text
