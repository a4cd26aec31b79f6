import CommandLine.Error.Table

/-!
# Collected errors

Errors are reported together, in the order in which they were found, and an error that was found
before is not reported again.
-/

namespace CommandLine

/-- The members of a list in order, each at its first place only. -/
def distinct {α : Type} [DecidableEq α] : List α → List α
  | [] => []
  | x :: rest => x :: (distinct rest).filter (· ≠ x)

section Distinct

variable {α : Type} [DecidableEq α]

@[simp] theorem mem_distinct {x : α} {list : List α} : x ∈ distinct list ↔ x ∈ list := by
  induction list with
  | nil => simp [distinct]
  | cons y rest ih =>
    by_cases h : x = y
    · simp [distinct, h]
    · simp [distinct, h, ih]

theorem nodup_distinct (list : List α) : (distinct list).Nodup := by
  induction list with
  | nil => simp [distinct]
  | cons x rest ih =>
    rw [distinct, List.nodup_cons]
    exact ⟨by simp, List.Pairwise.filter _ ih⟩

@[simp] theorem distinct_eq_nil_iff {list : List α} : distinct list = [] ↔ list = [] := by
  cases list <;> simp [distinct]

theorem distinct_eq_self {list : List α} (h : list.Nodup) : distinct list = list := by
  induction list with
  | nil => rfl
  | cons x rest ih =>
    have ⟨absent, nodup⟩ := List.nodup_cons.1 h
    rw [distinct, ih nodup, List.filter_eq_self.2]
    intro y hy
    simp only [ne_eq, decide_eq_true_eq]
    rintro rfl
    exact absent hy

/-- What comes later adds only what is new. -/
theorem distinct_append (first second : List α) :
    distinct (first ++ second) = distinct first ++ (distinct second).filter (· ∉ first) := by
  induction first with
  | nil => simp [distinct, List.filter_eq_self.2]
  | cons x rest ih =>
    simp only [List.cons_append, distinct, ih, List.filter_append, List.filter_filter]
    congr 2
    apply List.filter_congr
    intro y _
    simp

end Distinct

structure ParseErrors where
  errors : List ParseError
  nonempty : errors ≠ []
  nodup : errors.Nodup
  deriving DecidableEq

namespace ParseErrors

/-- The errors of a list, if there are any. -/
def collect (errors : List ParseError) : Option ParseErrors :=
  if h : errors = [] then none
  else some ⟨distinct errors, by simpa using h, nodup_distinct errors⟩

def single (error : ParseError) : ParseErrors :=
  ⟨[error], by simp, by simp⟩

def first (collected : ParseErrors) : ParseError :=
  collected.errors.head collected.nonempty

def last (collected : ParseErrors) : ParseError :=
  collected.errors.getLast collected.nonempty

def contains (collected : ParseErrors) (error : ParseError) : Bool :=
  error ∈ collected.errors

/-- The wordings of the errors under a table, if there is one. -/
def messages (collected : ParseErrors) (table : Option MessageTable) : List String :=
  collected.errors.map (·.messageFrom table)

def display (collected : ParseErrors) : String :=
  "\n".intercalate (collected.messages none)

theorem collect_eq_none_iff {errors : List ParseError} : collect errors = none ↔ errors = [] := by
  simp [collect]

theorem errors_of_collect {errors : List ParseError} {collected : ParseErrors}
    (h : collect errors = some collected) : collected.errors = distinct errors := by
  unfold collect at h
  split at h
  · simp at h
  · cases h; rfl

end ParseErrors

end CommandLine
