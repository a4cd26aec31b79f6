import CommandLine.Declaration.EntryPoint
import CommandLine.Proofs.Traversal

/-!
# The input of an entry point

A function becomes an entry point if one of its inputs can be told to receive the parsed command
line: the only one, or the first marked one of several. `input_moves_into_body` says when that is so
and what becomes of the function: this input moves into the body, and all others stay in their order.
Every other function is refused for one reason, which `ofFunction_eq_error_iff` tells.
-/

namespace CommandLine.EntryPoint

/-! ### Marked inputs -/

/-- A typed input is marked, and no typed input before it is. -/
structure FirstMarked (inputs before : List Input) (chosen : TypedInput) (after : List Input) :
    Prop where
  parts : inputs = before ++ .typed chosen :: after
  marked : chosen.isMarked = true
  first : ∀ other, Input.typed other ∈ before → other.isMarked = false

/-- An input that is not marked stands before those behind it. -/
lemma firstMarked_cons_iff {input : Input} {rest before after : List Input} {chosen : TypedInput}
    (hinput : ∀ other, input = .typed other → other.isMarked = false) :
    FirstMarked (input :: rest) before chosen after ↔
      ∃ others, before = input :: others ∧ FirstMarked rest others chosen after := by
  constructor
  · rintro ⟨hparts, hmarked, hfirst⟩
    cases before with
    | nil =>
      obtain ⟨rfl, -⟩ := List.cons.inj hparts
      rw [hinput chosen rfl] at hmarked
      exact nomatch hmarked
    | cons other others =>
      obtain ⟨rfl, hrest⟩ := List.cons.inj hparts
      exact ⟨others, rfl, hrest, hmarked, fun other hother => hfirst other (.tail _ hother)⟩
  · rintro ⟨others, rfl, hparts, hmarked, hfirst⟩
    refine ⟨congrArg (input :: ·) hparts, hmarked, fun other hother => ?_⟩
    rcases List.mem_cons.mp hother with heq | hother
    · exact hinput other heq.symm
    · exact hfirst other hother

/-- What was passed over stays in front of all that stands before and after the first marked
input. -/
lemma takeMarked_eq_some_iff {passed inputs others : List Input} {chosen : TypedInput} :
    takeMarked passed inputs = some (chosen, others) ↔
      ∃ before after, FirstMarked inputs before chosen after ∧
        others = passed ++ before ++ after := by
  -- on the inputs that are left, for all that can have been passed over
  induction inputs generalizing passed with
  | nil =>
    constructor
    · intro h
      exact nomatch h
    · rintro ⟨before, after, ⟨hparts, -⟩, -⟩
      simp at hparts
  | cons input rest ih =>
    have hpass (hinput : ∀ other, input = .typed other → other.isMarked = false) :
        takeMarked (passed ++ [input]) rest = some (chosen, others) ↔
          ∃ before after, FirstMarked (input :: rest) before chosen after ∧
            others = passed ++ before ++ after := by
      rw [ih]
      constructor
      · rintro ⟨before, after, hfirst, rfl⟩
        exact ⟨_, after, (firstMarked_cons_iff hinput).mpr ⟨before, rfl, hfirst⟩, by simp⟩
      · rintro ⟨before, after, hfirst, rfl⟩
        obtain ⟨others, rfl, hrest⟩ := (firstMarked_cons_iff hinput).mp hfirst
        exact ⟨others, after, hrest, by simp⟩
    cases input with
    | receiver input => exact hpass fun other heq => nomatch heq
    | typed input =>
      cases hmarked : input.isMarked with
      | false =>
        rw [takeMarked, hmarked]
        apply hpass
        rintro other ⟨⟩
        exact hmarked
      | true =>
        rw [takeMarked, hmarked]
        constructor
        · rintro ⟨⟩
          exact ⟨[], rest, ⟨rfl, hmarked, by simp⟩, by simp⟩
        · rintro ⟨before, after, ⟨hparts, -, hfirst⟩, rfl⟩
          cases before with
          | nil =>
            obtain ⟨⟨⟩, rfl⟩ := List.cons.inj hparts
            simp
          | cons other later =>
            obtain ⟨rfl, -⟩ := List.cons.inj hparts
            rw [hfirst input (.head _)] at hmarked
            exact nomatch hmarked

lemma takeMarked_eq_none_iff {passed inputs : List Input} :
    takeMarked passed inputs = none ↔
      ∀ input, Input.typed input ∈ inputs → input.isMarked = false := by
  induction inputs generalizing passed with
  | nil => simp [takeMarked]
  | cons input rest ih =>
    cases input with
    | receiver input => simp [takeMarked, ih]
    | typed input =>
      cases hmarked : input.isMarked with
      | true => simp [takeMarked, hmarked]
      | false => simp [takeMarked, hmarked, ih]

/-! ### The input that receives the command line -/

/-- One of some inputs receives the command line: the only one, or the first marked one. The other
inputs stand before and after it. -/
inductive Receives : List Input → List Input → TypedInput → List Input → Prop
  | only (input : TypedInput) : Receives [.typed input] [] input []
  | marked {inputs before after : List Input} {chosen : TypedInput}
      (h : FirstMarked inputs before chosen after) : Receives inputs before chosen after

/-- An input has no attribute but the one that marks it. -/
def OnlyMarked (input : TypedInput) : Prop :=
  ∀ name ∈ input.attributes, name = marker

lemma Receives.parts {inputs before after : List Input} {chosen : TypedInput}
    (h : Receives inputs before chosen after) : inputs = before ++ .typed chosen :: after := by
  cases h with
  | only input => rfl
  | marked h => exact h.parts

/-- An only input receives the command line if it is typed. -/
lemma receives_singleton_iff {input : Input} {before after : List Input} {chosen : TypedInput} :
    Receives [input] before chosen after ↔ input = .typed chosen ∧ before = [] ∧ after = [] := by
  constructor
  · intro h
    have hparts := h.parts
    cases before with
    | nil =>
      obtain ⟨rfl, rfl⟩ := List.cons.inj hparts
      exact ⟨rfl, rfl, rfl⟩
    | cons other others => simp at hparts
  · rintro ⟨rfl, rfl, rfl⟩
    exact .only chosen

/-- Of several inputs the first marked one receives the command line. -/
lemma receives_cons_cons_iff {first second : Input} {rest before after : List Input}
    {chosen : TypedInput} :
    Receives (first :: second :: rest) before chosen after ↔
      FirstMarked (first :: second :: rest) before chosen after := by
  constructor
  · rintro ⟨h⟩
    assumption
  · exact .marked

lemma choose_cons_cons (first second : Input) (rest : List Input) :
    choose (first :: second :: rest) =
      match takeMarked [] (first :: second :: rest) with
      | some found => .ok found
      | none => .error .unmarkedInputs := by
  cases first <;> rfl

lemma choose_eq_ok_iff {inputs others : List Input} {chosen : TypedInput} :
    choose inputs = .ok (chosen, others) ↔
      ∃ before after, Receives inputs before chosen after ∧ others = before ++ after := by
  match inputs with
  | [] =>
    constructor
    · intro h
      exact nomatch h
    · rintro ⟨before, after, h, -⟩
      simpa using h.parts
  | [.typed input] => simp [choose, receives_singleton_iff, eq_comm]
  | [.receiver input] => simp [choose, receives_singleton_iff]
  | first :: second :: rest =>
    have htake : choose (first :: second :: rest) = .ok (chosen, others) ↔
        takeMarked [] (first :: second :: rest) = some (chosen, others) := by
      rw [choose_cons_cons]
      cases takeMarked [] (first :: second :: rest) <;> simp
    rw [htake, takeMarked_eq_some_iff]
    simp [receives_cons_cons_iff]

lemma choose_eq_error_iff {inputs : List Input} {fault : EntryFault} :
    choose inputs = .error fault ↔
      inputs = [] ∧ fault = .noInput ∨
      (∃ input, inputs = [.receiver input]) ∧ fault = .onlyReceiver ∨
      (2 ≤ inputs.length ∧ ∀ input, Input.typed input ∈ inputs → input.isMarked = false) ∧
        fault = .unmarkedInputs := by
  match inputs with
  | [] => simp [choose, eq_comm (b := fault)]
  | [.typed input] => simp [choose]
  | [.receiver input] => simp [choose, eq_comm (b := fault)]
  | first :: second :: rest =>
    rw [choose_cons_cons, ← @takeMarked_eq_none_iff []]
    cases takeMarked [] (first :: second :: rest) with
    | none => simp [eq_comm (b := fault)]
    | some found => simp

/-- Some input receives the command line if there is a single one, which is typed, or if there are
several, one of which is typed and marked. -/
lemma exists_receives_iff {inputs : List Input} :
    (∃ before chosen after, Receives inputs before chosen after) ↔
      (∃ input, inputs = [.typed input]) ∨
        2 ≤ inputs.length ∧ ∃ input, Input.typed input ∈ inputs ∧ input.isMarked = true := by
  match inputs with
  | [] =>
    have hnone (before after : List Input) (chosen : TypedInput) :
        ¬ Receives [] before chosen after := fun h => by simpa using h.parts
    simp [hnone]
  | [input] => simp [receives_singleton_iff]
  | first :: second :: rest =>
    have hnone : takeMarked [] (first :: second :: rest) = none ↔ _ := takeMarked_eq_none_iff
    constructor
    · rintro ⟨before, chosen, after, h⟩
      obtain ⟨hparts, hmarked, -⟩ := receives_cons_cons_iff.mp h
      exact .inr ⟨by simp, chosen, by simp [hparts], hmarked⟩
    · rintro (⟨input, h⟩ | ⟨-, input, hmem, hmarked⟩)
      · simp at h
      · cases htake : takeMarked [] (first :: second :: rest) with
        | none =>
          rw [hnone.mp htake input hmem] at hmarked
          exact nomatch hmarked
        | some found =>
          obtain ⟨before, after, h, -⟩ := takeMarked_eq_some_iff.mp htake
          exact ⟨before, found.1, after, .marked h⟩

/-! ### Entry points -/

/-- Once an input is chosen, only its attributes can be wrong. -/
lemma ofFunction_of_choose {function : EntryFunction} {chosen : TypedInput} {others : List Input}
    (h : choose function.inputs = .ok (chosen, others)) :
    (OnlyMarked chosen → ofFunction false function =
      .ok ⟨others, .binding chosen.pattern chosen.type :: function.body⟩) ∧
    (¬ OnlyMarked chosen → ofFunction false function = .error .strangeAttribute) := by
  have hchosen : ofFunction false function =
      if chosen.attributes.any (· ≠ marker) then .error .strangeAttribute
      else .ok ⟨others, .binding chosen.pattern chosen.type :: function.body⟩ := by
    rw [ofFunction, h]
    rfl
  have honly : chosen.attributes.any (· ≠ marker) = true ↔ ¬ OnlyMarked chosen := by
    simp [OnlyMarked]
  rw [hchosen]
  exact ⟨fun hall => if_neg (mt honly.mp (not_not_intro hall)), fun hnot => if_pos (honly.mpr hnot)⟩

lemma ofFunction_of_choose_eq_error {function : EntryFunction} {fault : EntryFault}
    (h : choose function.inputs = .error fault) : ofFunction false function = .error fault := by
  rw [ofFunction, h]
  rfl

lemma ofFunction_eq_ok_iff {function point : EntryFunction} :
    ofFunction false function = .ok point ↔
      ∃ before chosen after, Receives function.inputs before chosen after ∧ OnlyMarked chosen ∧
        point = ⟨before ++ after, .binding chosen.pattern chosen.type :: function.body⟩ := by
  constructor
  · intro hpoint
    cases hchoose : choose function.inputs with
    | error fault =>
      rw [ofFunction_of_choose_eq_error hchoose] at hpoint
      exact nomatch hpoint
    | ok found =>
      obtain ⟨chosen, others⟩ := found
      obtain ⟨hsome, hnone⟩ := ofFunction_of_choose hchoose
      obtain ⟨before, after, hreceives, rfl⟩ := choose_eq_ok_iff.mp hchoose
      by_cases honly : OnlyMarked chosen
      · rw [hsome honly] at hpoint
        exact ⟨before, chosen, after, hreceives, honly, (Except.ok.inj hpoint).symm⟩
      · rw [hnone honly] at hpoint
        exact nomatch hpoint
  · rintro ⟨before, chosen, after, hreceives, honly, rfl⟩
    exact (ofFunction_of_choose (choose_eq_ok_iff.mpr ⟨before, after, hreceives, rfl⟩)).1 honly

/-- No two inputs can receive the command line. -/
lemma Receives.unique {inputs before after earlier later : List Input} {chosen other : TypedInput}
    (h : Receives inputs before chosen after) (hother : Receives inputs earlier other later) :
    chosen = other := by
  have hfirst := choose_eq_ok_iff.mpr ⟨before, after, h, rfl⟩
  have hsecond := choose_eq_ok_iff.mpr ⟨earlier, later, hother, rfl⟩
  exact congrArg Prod.fst (Except.ok.inj (hfirst.symm.trans hsecond))

/-- Why a function is refused: it has no input, or only what it is called on, or several inputs none
of which is marked, or the input that receives the command line has another attribute. -/
theorem ofFunction_eq_error_iff {function : EntryFunction} {fault : EntryFault} :
    ofFunction false function = .error fault ↔
      (function.inputs = [] ∧ fault = .noInput ∨
        (∃ input, function.inputs = [.receiver input]) ∧ fault = .onlyReceiver ∨
        (2 ≤ function.inputs.length ∧
          ∀ input, Input.typed input ∈ function.inputs → input.isMarked = false) ∧
          fault = .unmarkedInputs) ∨
      (∃ before chosen after, Receives function.inputs before chosen after ∧
        ¬ OnlyMarked chosen) ∧ fault = .strangeAttribute := by
  rw [← choose_eq_error_iff]
  cases hchoose : choose function.inputs with
  | error other =>
    rw [ofFunction_of_choose_eq_error hchoose]
    have hnone (before after : List Input) (chosen : TypedInput) :
        ¬ Receives function.inputs before chosen after := by
      intro h
      rw [choose_eq_ok_iff.mpr ⟨before, after, h, rfl⟩] at hchoose
      exact nomatch hchoose
    simp [hnone]
  | ok found =>
    obtain ⟨chosen, others⟩ := found
    obtain ⟨hsome, hnone⟩ := ofFunction_of_choose hchoose
    obtain ⟨before, after, hreceives, rfl⟩ := choose_eq_ok_iff.mp hchoose
    by_cases honly : OnlyMarked chosen
    · rw [hsome honly]
      constructor
      · intro h
        exact nomatch h
      · rintro (h | ⟨⟨_, other, _, hother, hstrange⟩, -⟩)
        · exact nomatch h
        · exact absurd (hreceives.unique hother ▸ honly) hstrange
    · rw [hnone honly]
      constructor
      · rintro ⟨⟩
        exact .inr ⟨⟨before, chosen, after, hreceives, honly⟩, rfl⟩
      · rintro (h | ⟨-, rfl⟩)
        · exact nomatch h
        · rfl

/-- A function becomes an entry point exactly if its only input is typed, or it has several inputs
and a typed one among them is marked, and if the input that is told so (the only one, or the first
marked one) has no other attribute. The entry point then has all other inputs, in their order, and
its body is the old one behind a binding of the pattern of this input, with its type, to the parsed
command line. -/
theorem input_moves_into_body (function : EntryFunction) :
    ((∃ point, ofFunction false function = .ok point) ↔
      ((∃ input, function.inputs = [.typed input]) ∨
        2 ≤ function.inputs.length ∧
          ∃ input, .typed input ∈ function.inputs ∧ input.isMarked = true) ∧
      ∀ before chosen after, Receives function.inputs before chosen after → OnlyMarked chosen) ∧
    ∀ point, ofFunction false function = .ok point →
      ∃ before chosen after, Receives function.inputs before chosen after ∧
        function.inputs = before ++ .typed chosen :: after ∧ point.inputs = before ++ after ∧
        point.body = .binding chosen.pattern chosen.type :: function.body := by
  constructor
  · rw [← exists_receives_iff]
    constructor
    · rintro ⟨point, hpoint⟩
      obtain ⟨before, chosen, after, hreceives, honly, -⟩ := ofFunction_eq_ok_iff.mp hpoint
      refine ⟨⟨before, chosen, after, hreceives⟩, fun _ other _ hother => ?_⟩
      exact hreceives.unique hother ▸ honly
    · rintro ⟨⟨before, chosen, after, hreceives⟩, honly⟩
      exact ⟨_, ofFunction_eq_ok_iff.mpr
        ⟨before, chosen, after, hreceives, honly before chosen after hreceives, rfl⟩⟩
  · intro point hpoint
    obtain ⟨before, chosen, after, hreceives, -, rfl⟩ := ofFunction_eq_ok_iff.mp hpoint
    exact ⟨before, chosen, after, hreceives, hreceives.parts, rfl, rfl⟩

/-- The second of four inputs is the first marked one; the mark of the last one stays. -/
example :
    let input (name : String) (attributes : List String) : TypedInput :=
      ⟨name, .path "Args" "Args", attributes⟩
    (ofFunction false
      ⟨[.receiver ⟨"&self", ["args"]⟩, .typed (input "a" ["args", "args"]), .typed (input "b" []),
        .typed (input "c" ["args"])], [.other "first()"]⟩).toOption =
      some ⟨[.receiver ⟨"&self", ["args"]⟩, .typed (input "b" []), .typed (input "c" ["args"])],
        [.binding "a" (.path "Args" "Args"), .other "first()"]⟩ := by
  decide

end CommandLine.EntryPoint
