import CommandLine.Proofs.Lookahead

/-!
# Parts of a command line in context

Two parts of a command line are interchangeable if both lead every reader to the same state with the
same events, unless the reader is verbatim. Then one can take the place of the other in every
command line, before its `--`, and the outcome stays the same.
-/

namespace CommandLine

namespace Reader

variable {model : Model} {reader : Reader}

/-- Where anything but verbatim arguments is expected, both parts lead to the same. -/
def Interchangeable (model : Model) (first second : List String) : Prop :=
  ∀ reader : Reader, reader.expectation ≠ .verbatim →
    readMany model reader first = readMany model reader second

lemma Interchangeable.append {first second : List String}
    (h : Interchangeable model first second) (hopen : reader.expectation ≠ .verbatim)
    (after : List String) :
    readMany model reader (first ++ after) = readMany model reader (second ++ after) := by
  rw [readMany_append, readMany_append, h reader hopen]

/-- Without a `--` nothing becomes verbatim. -/
lemma expectation_readMany_ne_verbatim (model : Model) {arguments : List String}
    (hopen : "--" ∉ arguments) :
    (readMany model ready arguments).1.expectation ≠ .verbatim :=
  (readMany_accounts hopen (Matches.ready model) (by simp [ready]) (by simp [ready])).1

/-- The last argument is read from where those before it lead. -/
lemma readAll_concat {before : List String} {argument : String}
    (start : ∀ word ∈ (before ++ [argument]).head?, model.findCommand word = none) :
    readAll model initial (before ++ [argument]) =
      .ok ((read model (readMany model ready before).1 argument).1,
        (readMany model ready before).2 ++
          (read model (readMany model ready before).1 argument).2) := by
  obtain ⟨outcome, hread⟩ := exists_readAll start
  rcases eq_of_readAll_initial hread with ⟨-, hnil⟩ | rfl
  · simp at hnil
  · rw [hread, readMany_append, readMany_cons, readMany_nil, List.append_nil]

/-- An argument that is not positional puts an end to whatever is expected, and is read as if
nothing were. -/
lemma read_of_not_isLoose {argument : String} (h : isLoose argument = false)
    (hverbatim : reader.expectation ≠ .verbatim) :
    read model reader argument =
      ((read model (reader.expecting .fresh) argument).1,
        reader.abandoned ++ (read model (reader.expecting .fresh) argument).2) := by
  have hfresh : (reader.expecting .fresh).expectation ≠ .verbatim := by simp
  rw [isLoose] at h
  rw [read_of_ne_verbatim hverbatim, read_of_ne_verbatim hfresh]
  cases hshape : classify argument with
  | positional text => simp [hshape, Token.isPositional] at h
  | terminator => rfl
  | long name value => rfl
  | short cluster => rfl

lemma readMany_of_not_isLoose {argument : String} (h : isLoose argument = false)
    (hverbatim : reader.expectation ≠ .verbatim) (rest : List String) :
    readMany model reader (argument :: rest) =
      ((readMany model (reader.expecting .fresh) (argument :: rest)).1,
        reader.abandoned ++ (readMany model (reader.expecting .fresh) (argument :: rest)).2) := by
  rw [readMany_cons, read_of_not_isLoose h hverbatim, List.append_assoc]
  rfl

/-- Parts that begin with no positional argument are compared only where nothing is pending. -/
lemma interchangeable_of_fresh {first second : List String}
    (hfirst : ∃ argument ∈ first.head?, isLoose argument = false)
    (hsecond : ∃ argument ∈ second.head?, isLoose argument = false)
    (h : ∀ reader : Reader, reader.expectation = .fresh →
      readMany model reader first = readMany model reader second) :
    Interchangeable model first second := by
  intro reader hverbatim
  obtain ⟨argument, hargument, hloose⟩ := hfirst
  obtain ⟨other, hother, hloose'⟩ := hsecond
  obtain ⟨rest, rfl⟩ := List.head?_eq_some_iff.mp hargument
  obtain ⟨more, rfl⟩ := List.head?_eq_some_iff.mp hother
  rw [readMany_of_not_isLoose hloose hverbatim, readMany_of_not_isLoose hloose' hverbatim,
    h (reader.expecting .fresh) rfl]

end Reader

namespace Program

variable {σ α : Type} {program : Program σ α}

/-- An interchangeable part is replaced in an unchanged context. -/
theorem parse_congr {first second : List String}
    (h : Reader.Interchangeable program.model first second) {before after : List String}
    (hopen : "--" ∉ before)
    (startFirst : ∀ argument ∈ (before ++ (first ++ after)).head?,
      program.model.findCommand argument = none)
    (startSecond : ∀ argument ∈ (before ++ (second ++ after)).head?,
      program.model.findCommand argument = none) :
    program.parse (before ++ (first ++ after)) = program.parse (before ++ (second ++ after)) := by
  have hverbatim := Reader.expectation_readMany_ne_verbatim program.model hopen
  rw [parse_eq_conclude_readMany startFirst, parse_eq_conclude_readMany startSecond,
    Reader.readMany_append, Reader.readMany_append _ _ before, h.append hverbatim]

end Program

end CommandLine
