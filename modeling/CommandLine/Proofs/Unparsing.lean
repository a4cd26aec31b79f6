import CommandLine.Proofs.Clause

/-!
# Tokens as they are written

A token is written as an argument and an argument is read as a token. Reading loses nothing, so
every argument is what its token is written as. The other way round, a token is read back from what
it is written as exactly if it is canonical: a name ends before the first `=`, what makes up a
cluster has a letter and no further hyphen in front, and a positional text looks like nothing else.
-/

namespace CommandLine

/-! ### What an argument begins with -/

def HasLetter (text : String) : Prop :=
  ∃ c ∈ text.toList, Text.isAlphabetic c = true

lemma two_hyphens (text : String) : "--" ++ text = "-" ++ ("-" ++ text) := by
  rw [← String.append_assoc]
  rfl

/-- Every argument begins with two hyphens, with exactly one, or with none. -/
lemma exists_hyphens_or (argument : String) :
    (∃ text, argument = "--" ++ text) ∨
      (∃ body, argument = "-" ++ body ∧ ∀ rest, body ≠ "-" ++ rest) ∨
      ∀ body, argument ≠ "-" ++ body := by
  by_cases hone : ∃ body, argument = "-" ++ body
  · obtain ⟨body, rfl⟩ := hone
    by_cases htwo : ∃ rest, body = "-" ++ rest
    · obtain ⟨rest, rfl⟩ := htwo
      exact .inl ⟨rest, (two_hyphens rest).symm⟩
    · exact .inr (.inl ⟨body, rfl, fun rest hrest => htwo ⟨rest, hrest⟩⟩)
  · exact .inr (.inr fun body hbody => hone ⟨body, hbody⟩)

lemma classify_of_two_hyphens {text : String} (h : text ≠ "") :
    classify ("--" ++ text) = .ofLong text.toList := by
  cases htext : text.toList with
  | nil => exact absurd (String.toList_eq_nil_iff.mp htext) h
  | cons first rest => simp [classify, Token.ofChars, htext]

/-- Nothing that begins with two hyphens is a cluster or positional. -/
lemma terminator_or_long_of_two_hyphens (text : String) :
    classify ("--" ++ text) = .terminator ∨
      ∃ name value, classify ("--" ++ text) = .long name value := by
  by_cases hempty : text = ""
  · rw [hempty]
    exact .inl rfl
  · right
    rw [classify_of_two_hyphens hempty, Token.ofLong]
    split
    · exact ⟨_, _, rfl⟩
    · exact ⟨_, _, rfl⟩

lemma classify_of_one_hyphen {body : String} (h : ∀ rest, body ≠ "-" ++ rest) :
    classify ("-" ++ body) = .ofShort body.toList := by
  cases hbody : body.toList with
  | nil => simp [classify, Token.ofChars, hbody]
  | cons first rest =>
    have hfirst : first ≠ '-' := by
      rintro rfl
      apply h (String.ofList rest)
      rw [← String.toList_inj, hbody]
      simp
    simp [classify, Token.ofChars, hbody, hfirst]

lemma classify_of_no_hyphen {argument : String} (h : ∀ body, argument ≠ "-" ++ body) :
    classify argument = .positional argument := by
  have hchars (body : List Char) : argument.toList ≠ '-' :: body := by
    intro hbody
    apply h (String.ofList body)
    rw [← String.toList_inj, hbody]
    simp
  unfold classify Token.ofChars
  split
  · next htext => exact absurd htext (hchars _)
  · next htext => exact absurd htext (hchars _)
  · next htext => exact absurd htext (hchars _)
  · rw [String.ofList_toList]

/-! ### Long options and clusters -/

/-- A name ends at the first `=`, and a name without a value has none. -/
lemma Token.ofLong_eq_long_iff {text name : String} {value : Option String} :
    Token.ofLong text.toList = .long name value ↔
      "--" ++ text = (Token.long name value).unparse ∧ '=' ∉ name.toList := by
  unfold Token.ofLong
  cases value with
  | none =>
    have hwritten : "--" ++ text = (Token.long name none).unparse ↔ text = name := by
      simp [Token.unparse]
    rw [hwritten]
    cases hcut : Text.cutFirst '=' text.toList with
    | none =>
      have habsent := Text.cutFirst_eq_none_iff.mp hcut
      constructor
      · intro h
        obtain rfl : text = name := by simpa using h
        exact ⟨rfl, habsent⟩
      · rintro ⟨rfl, -⟩
        simp
    | some parts =>
      have hpresent : '=' ∈ text.toList := by
        rw [(Text.cutFirst_eq_some_iff.mp hcut).1]
        simp
      simp only [Token.long.injEq, reduceCtorEq, and_false, false_iff, not_and, not_not]
      rintro rfl
      exact hpresent
  | some value =>
    have hwritten : "--" ++ text = (Token.long name (some value)).unparse ↔
        text.toList = name.toList ++ '=' :: value.toList := by
      rw [Token.unparse, ← String.toList_inj]
      simp
    rw [hwritten, ← Text.cutFirst_eq_some_iff]
    cases hcut : Text.cutFirst '=' text.toList with
    | none => simp
    | some parts => simp [Prod.ext_iff, ← String.toList_inj]

lemma Token.ofShort_eq_short_iff {body : String} {cluster : Cluster} :
    Token.ofShort body.toList = .short cluster ↔ body = cluster.body ∧ HasLetter body := by
  obtain ⟨other, hother⟩ := cluster
  unfold Token.ofShort
  split_ifs with hletter
  · have hletter' : HasLetter body := by simpa [HasLetter] using hletter
    simp [hletter']
  · have hletter' : ¬ HasLetter body := by simpa [HasLetter] using hletter
    simp [hletter']

lemma Token.ofShort_eq_positional_iff {body text : String} :
    Token.ofShort body.toList = .positional text ↔ text = "-" ++ body ∧ ¬ HasLetter body := by
  unfold Token.ofShort
  split_ifs with hletter
  · have hletter' : HasLetter body := by simpa [HasLetter] using hletter
    simp [hletter']
  · have hletter' : ¬ HasLetter body := by simpa [HasLetter] using hletter
    simp [hletter', ← String.toList_inj, eq_comm]

/-! ### Canonical tokens -/

/-- The tokens that are read back from what they are written as. -/
def Token.Canonical : Token → Prop
  | .terminator => True
  | .long name value => '=' ∉ name.toList ∧ ¬ (name = "" ∧ value = none)
  | .short cluster => (∀ rest, cluster.body ≠ "-" ++ rest) ∧ HasLetter cluster.body
  | .positional text =>
    (∀ rest, text ≠ "--" ++ rest) ∧ ∀ body, text = "-" ++ body → ¬ HasLetter body

lemma classify_unparse_long_iff {name : String} {value : Option String} :
    classify (Token.long name value).unparse = .long name value ↔
      (Token.long name value).Canonical := by
  obtain ⟨text, hwritten, hempty⟩ : ∃ text, (Token.long name value).unparse = "--" ++ text ∧
      (text = "" ↔ name = "" ∧ value = none) := by
    cases value with
    | none => exact ⟨name, rfl, by simp⟩
    | some value =>
      refine ⟨name ++ "=" ++ value, ?_, by simp⟩
      rw [Token.unparse, String.append_assoc, String.append_assoc, String.append_assoc]
  by_cases htext : text = ""
  · -- what is left is a bare terminator
    have hterminator : classify (Token.long name value).unparse = .terminator := by
      rw [hwritten, htext]
      rfl
    rw [hterminator]
    exact iff_of_false (by simp) fun h => h.2 (hempty.mp htext)
  · have hnamed : ¬ (name = "" ∧ value = none) := fun h => htext (hempty.mpr h)
    rw [hwritten, classify_of_two_hyphens htext, Token.ofLong_eq_long_iff, hwritten]
    simp [Token.Canonical, hnamed]

lemma classify_unparse_short_iff {cluster : Cluster} :
    classify (Token.short cluster).unparse = .short cluster ↔
      (Token.short cluster).Canonical := by
  by_cases hhyphen : ∃ rest, cluster.body = "-" ++ rest
  · obtain ⟨rest, hrest⟩ := hhyphen
    refine iff_of_false (fun h => ?_) fun h => h.1 rest hrest
    rw [Token.unparse, hrest, ← two_hyphens] at h
    rcases terminator_or_long_of_two_hyphens rest with hshape | ⟨name, value, hshape⟩ <;>
      simp [hshape] at h
  · have hbody : ∀ rest, cluster.body ≠ "-" ++ rest := fun rest hrest => hhyphen ⟨rest, hrest⟩
    rw [Token.unparse, classify_of_one_hyphen hbody, Token.ofShort_eq_short_iff]
    simp [Token.Canonical, hbody]

/-- A text is positional unless it begins with two hyphens, or with a hyphen and has a letter. -/
lemma classify_eq_positional_iff {text : String} :
    classify text = .positional text ↔ (Token.positional text).Canonical := by
  rcases exists_hyphens_or text with ⟨rest, rfl⟩ | ⟨body, rfl, hbody⟩ | hnone
  · refine iff_of_false (fun h => ?_) fun h => h.1 rest rfl
    rcases terminator_or_long_of_two_hyphens rest with hshape | ⟨name, value, hshape⟩ <;>
      simp [hshape] at h
  · have hopen : ∀ rest, "-" ++ body ≠ "--" ++ rest := by
      intro rest hrest
      rw [two_hyphens, String.append_right_inj] at hrest
      exact hbody rest hrest
    rw [classify_of_one_hyphen hbody, Token.ofShort_eq_positional_iff]
    simp [Token.Canonical, hopen]
  · refine iff_of_true (classify_of_no_hyphen hnone) ⟨fun rest hrest => ?_, fun body hbody => ?_⟩
    · exact hnone ("-" ++ rest) (by rw [hrest, two_hyphens])
    · exact absurd hbody (hnone body)

/-! ### There and back -/

lemma map_fst_splits (text : List Char) : (splits text).map (·.1) = text := by
  induction text with
  | nil => rfl
  | cons c rest ih => rw [splits, List.map_cons, ih]

/-- What is read of an argument is written as this argument. What a token is written as is read back
as this token exactly if the token is canonical. And the options of a cluster are the characters of
its body, one after the other, each with all that follows it. -/
theorem classify_unparse_iff (argument : String) (token : Token) (cluster : Cluster) :
    (classify argument).unparse = argument ∧
      (classify token.unparse = token ↔ token.Canonical) ∧
      cluster.options.map (·.1) = cluster.body.toList ∧
      ∀ before letter after, cluster.body = before ++ String.singleton letter ++ after →
        cluster.options[before.length]? = some (letter, after) := by
  refine ⟨unparse_classify argument, ?_, map_fst_splits cluster.body.toList, ?_⟩
  · cases token with
    | terminator => exact iff_of_true rfl trivial
    | long name value => exact classify_unparse_long_iff
    | short cluster => exact classify_unparse_short_iff
    | positional text => exact classify_eq_positional_iff
  · intro before letter after hbody
    have hchars : cluster.body.toList = before.toList ++ letter :: after.toList := by
      rw [hbody]
      simp
    rw [Cluster.options, splits_getElem?, hchars, ← String.length_toList]
    simp

end CommandLine
