/-!
# Records

The options that a program is run with form a record: every field has its name and its value. Two
records of one program are compared field by field.
-/

namespace CommandLine

inductive FieldValue (α : Type) where
  | single (value : α)
  | nullable (value : Option α)
  | sequence (values : List α)
  deriving DecidableEq, Repr

/-- The single values that a field holds. -/
def FieldValue.members {α : Type} : FieldValue α → List α
  | .single value => [value]
  | .nullable value => value.toList
  | .sequence values => values

/-- The fields of a record with their values. -/
abbrev Record (α : Type) := List (String × FieldValue α)

/-- Lists have the same length and their members are the same pairwise. -/
def sameLists {α : Type} (same : α → α → Bool) : List α → List α → Bool
  | [], [] => true
  | x :: xs, y :: ys => same x y && sameLists same xs ys
  | _, _ => false

def FieldValue.same {α : Type} (same : α → α → Bool) : FieldValue α → FieldValue α → Bool
  | .single x, .single y => same x y
  | .nullable none, .nullable none => true
  | .nullable (some x), .nullable (some y) => same x y
  | .sequence xs, .sequence ys => sameLists same xs ys
  | _, _ => false

def Record.same {α : Type} (same : α → α → Bool) (x y : Record α) : Bool :=
  sameLists (fun a b => a.1 = b.1 && a.2.same same b.2) x y

theorem sameLists_self_iff {α : Type} {same : α → α → Bool} {list : List α} :
    sameLists same list list = true ↔ ∀ x ∈ list, same x x = true := by
  induction list with
  | nil => simp [sameLists]
  | cons x rest ih => simp [sameLists, ih]

/-- A field is the same as itself if its values are. -/
theorem FieldValue.same_self_iff {α : Type} {same : α → α → Bool} {value : FieldValue α} :
    value.same same value = true ↔ ∀ x ∈ value.members, same x x = true := by
  cases value with
  | single x => simp [FieldValue.same, members]
  | nullable x => cases x <;> simp [FieldValue.same, members]
  | sequence xs => simp [FieldValue.same, members, sameLists_self_iff]

/-- A record is the same as itself if its fields are. -/
theorem Record.same_self_iff {α : Type} {same : α → α → Bool} {record : Record α} :
    Record.same same record record = true ↔
      ∀ field ∈ record, ∀ x ∈ field.2.members, same x x = true := by
  simp [Record.same, sameLists_self_iff, FieldValue.same_self_iff]

/-- Arrange values in order; equal ones stay in the order in which they came. -/
def insertOrdered {α : Type} (order : α → α → Ordering) (x : α) : List α → List α
  | [] => [x]
  | y :: rest => if order x y = .gt then y :: insertOrdered order x rest else x :: y :: rest

def sorted {α : Type} (order : α → α → Ordering) (list : List α) : List α :=
  list.foldr (insertOrdered order) []

theorem perm_insertOrdered {α : Type} (order : α → α → Ordering) (x : α) (list : List α) :
    (insertOrdered order x list).Perm (x :: list) := by
  induction list with
  | nil => exact .refl _
  | cons y rest ih =>
    unfold insertOrdered
    split
    · exact (ih.cons y).trans (.swap x y rest)
    · exact .refl _

theorem perm_sorted {α : Type} (order : α → α → Ordering) (list : List α) :
    (sorted order list).Perm list := by
  induction list with
  | nil => exact .refl _
  | cons x rest ih => exact (perm_insertOrdered order x _).trans (ih.cons x)

/-- A value joins those that are in order, unless one of them is equal to it. -/
def insertNew {α : Type} (order : α → α → Ordering) (x : α) : List α → List α
  | [] => [x]
  | y :: rest =>
    match order x y with
    | .lt => x :: y :: rest
    | .eq => y :: rest
    | .gt => y :: insertNew order x rest

/-- The values in order, each of them once; of equal ones the first one stays. -/
def sortedDistinct {α : Type} (order : α → α → Ordering) (list : List α) : List α :=
  list.foldl (fun found x => insertNew order x found) []

theorem mem_of_mem_insertNew {α : Type} {order : α → α → Ordering} {x y : α} {list : List α}
    (h : x ∈ insertNew order y list) : x = y ∨ x ∈ list := by
  induction list with
  | nil => simpa [insertNew] using h
  | cons z rest ih =>
    unfold insertNew at h
    split at h
    · exact List.mem_cons.mp h
    · exact .inr h
    · rw [List.mem_cons] at h ⊢
      rcases h with h | h
      · exact .inr (.inl h)
      · exact (ih h).imp_right .inr

end CommandLine
