import CommandLine.Token
import Mathlib.Data.List.TakeWhile
import Mathlib.Tactic.Common

/-!
# Clauses of a command line

By the shapes of its arguments alone, a command line falls apart as follows. Everything after the
first `--` is verbatim. Before it, every argument that is not positional by its shape is a head, and
a head makes a clause with the positional arguments up to the next head, its followers. The
positional arguments in front of the first head belong to no clause.

Cutting looks ahead to the end of every clause. It knows neither a model nor a state.
-/

namespace CommandLine

/-! ### Shapes -/

/-- The argument is positional by its shape. -/
def isLoose (argument : String) : Bool :=
  (classify argument).isPositional

/-- Only a bare `--` ends the options. -/
lemma classify_eq_terminator_iff {argument : String} :
    classify argument = .terminator ↔ argument = "--" := by
  constructor
  · intro h
    unfold classify Token.ofChars at h
    split at h
    · next htext => exact String.toList_inj.mp htext
    · rw [Token.ofLong] at h
      split at h <;> simp at h
    · rw [Token.ofShort] at h
      split at h <;> simp at h
    · simp at h
  · rintro rfl
    rfl

/-- Nothing of an argument is lost in its token. -/
lemma unparse_classify (argument : String) : (classify argument).unparse = argument := by
  rw [← String.toList_inj]
  unfold classify Token.ofChars
  split
  · next htext => rw [htext]; rfl
  · next text _ htext =>
    rw [htext, Token.ofLong]
    split
    · next name value hcut =>
      obtain ⟨rfl, -⟩ := Text.cutFirst_eq_some_iff.mp hcut
      simp [Token.unparse]
    · simp [Token.unparse]
  · next body _ htext =>
    rw [htext, Token.ofShort]
    split <;> simp [Token.unparse]
  · simp [Token.unparse]

/-- A positional token holds the whole argument. -/
lemma eq_of_classify_eq_positional {argument text : String}
    (h : classify argument = .positional text) : text = argument := by
  have hunparse := unparse_classify argument
  rw [h] at hunparse
  exact hunparse

lemma classify_of_isLoose {argument : String} (h : isLoose argument = true) :
    classify argument = .positional argument := by
  rw [isLoose] at h
  cases hc : classify argument with
  | positional text => rw [eq_of_classify_eq_positional hc]
  | terminator => simp [hc, Token.isPositional] at h
  | long name value => simp [hc, Token.isPositional] at h
  | short cluster => simp [hc, Token.isPositional] at h

/-! ### Cutting -/

/-- A head with its followers. -/
structure Clause where
  head : String
  followers : List String
  deriving DecidableEq, Repr

/-- The positional arguments in front of the first head, and the clauses. -/
def clauses : List String → List String × List Clause
  | [] => ([], [])
  | argument :: rest =>
    let (loose, others) := clauses rest
    if isLoose argument then (argument :: loose, others) else ([], ⟨argument, loose⟩ :: others)

def beforeTerminator (arguments : List String) : List String :=
  arguments.takeWhile (· ≠ "--")

def afterTerminator (arguments : List String) : List String :=
  (arguments.dropWhile (· ≠ "--")).tail

@[simp] lemma clauses_nil : clauses [] = ([], []) := rfl

lemma clauses_cons_of_isLoose {argument : String} (h : isLoose argument = true)
    (rest : List String) :
    clauses (argument :: rest) = (argument :: (clauses rest).1, (clauses rest).2) := by
  simp [clauses, h]

lemma clauses_cons_of_not_isLoose {argument : String} (h : isLoose argument = false)
    (rest : List String) :
    clauses (argument :: rest) = ([], ⟨argument, (clauses rest).1⟩ :: (clauses rest).2) := by
  simp [clauses, h]

lemma clauses_append_of_isLoose {texts : List String} (h : ∀ text ∈ texts, isLoose text = true)
    (rest : List String) :
    clauses (texts ++ rest) = (texts ++ (clauses rest).1, (clauses rest).2) := by
  induction texts with
  | nil => rfl
  | cons text others ih =>
    rw [List.cons_append, clauses_cons_of_isLoose (h text (by simp)),
      ih fun other hother => h other (by simp [hother])]
    rfl

/-- A head takes all positional arguments after it. -/
lemma clauses_clause {clause : Clause} (hhead : isLoose clause.head = false)
    (hfollowers : ∀ text ∈ clause.followers, isLoose text = true) {rest : List String}
    (hrest : (clauses rest).1 = []) :
    clauses (clause.head :: clause.followers ++ rest) = ([], clause :: (clauses rest).2) := by
  rw [List.cons_append, clauses_cons_of_not_isLoose hhead, clauses_append_of_isLoose hfollowers,
    hrest, List.append_nil]

/-- The first `--` is where the options end. -/
lemma cut_of_not_mem {first : List String} (h : "--" ∉ first) (second : List String) :
    beforeTerminator (first ++ "--" :: second) = first ∧
      afterTerminator (first ++ "--" :: second) = second := by
  have hopen : ∀ argument ∈ first, decide (argument ≠ "--") = true := by
    intro argument hargument
    rw [decide_eq_true_eq]
    rintro rfl
    exact h hargument
  rw [beforeTerminator, afterTerminator]
  rw [List.takeWhile_append_of_pos hopen, List.dropWhile_append_of_pos hopen]
  simp

lemma not_mem_beforeTerminator (arguments : List String) : "--" ∉ beforeTerminator arguments := by
  intro h
  simpa using List.mem_takeWhile_imp h

/-- A command line without a `--` is all before it, any other one is cut there. -/
lemma eq_beforeTerminator_or (arguments : List String) :
    arguments = beforeTerminator arguments ∧ afterTerminator arguments = [] ∨
      arguments = beforeTerminator arguments ++ "--" :: afterTerminator arguments := by
  have hcut : arguments.takeWhile (fun argument => decide (argument ≠ "--")) ++
      arguments.dropWhile (fun argument => decide (argument ≠ "--")) = arguments :=
    List.takeWhile_append_dropWhile
  rw [beforeTerminator, afterTerminator]
  cases hrest : arguments.dropWhile (fun argument => decide (argument ≠ "--")) with
  | nil =>
    left
    rw [hrest, List.append_nil] at hcut
    exact ⟨hcut.symm, rfl⟩
  | cons first rest =>
    right
    have hfirst : first = "--" := by
      have hhead := List.head?_dropWhile_not (fun argument => decide (argument ≠ "--")) arguments
      rw [hrest] at hhead
      simpa using hhead
    rw [hrest, hfirst] at hcut
    exact hcut.symm

end CommandLine
