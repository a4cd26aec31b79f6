/-!
# Cutting at a separator

A text cut at every occurrence of one separator has one piece more than separators, so an empty text
is one empty piece. The lines of a text are its pieces at line feeds.
-/

namespace CommandLine.Text

variable {α : Type} [DecidableEq α]

/-- The pieces between the separators. -/
def pieces (separator : α) : List α → List (List α)
  | [] => [[]]
  | c :: rest =>
    if c = separator then [] :: pieces separator rest
    else
      match pieces separator rest with
      | [] => [[c]]
      | piece :: others => (c :: piece) :: others

/-- The pieces put together again. -/
def joined (separator : α) : List (List α) → List α
  | [] => []
  | [piece] => piece
  | piece :: others => piece ++ separator :: joined separator others

theorem pieces_ne_nil (separator : α) (text : List α) : pieces separator text ≠ [] := by
  cases text with
  | nil => simp [pieces]
  | cons c rest =>
    simp only [pieces]
    split
    · simp
    · split <;> simp

@[simp] theorem joined_pieces (separator : α) (text : List α) :
    joined separator (pieces separator text) = text := by
  induction text with
  | nil => rfl
  | cons c rest ih =>
    have nonempty := pieces_ne_nil separator rest
    unfold pieces
    split
    · next h =>
      cases hp : pieces separator rest with
      | nil => exact absurd hp nonempty
      | cons piece others => simp [joined, hp ▸ ih, h]
    · cases hp : pieces separator rest with
      | nil => exact absurd hp nonempty
      | cons piece others =>
        rw [hp] at ih
        cases others with
        | nil => simpa [joined] using ih
        | cons next more => simpa [joined] using ih

/-- The text before the first separator and the one after it. -/
def cutFirst (separator : α) : List α → Option (List α × List α)
  | [] => none
  | c :: rest =>
    if c = separator then some ([], rest)
    else (cutFirst separator rest).map fun (before, after) => (c :: before, after)

theorem cutFirst_eq_some_iff {separator : α} {text before after : List α} :
    cutFirst separator text = some (before, after) ↔
      text = before ++ separator :: after ∧ separator ∉ before := by
  induction text generalizing before with
  | nil => simp [cutFirst]
  | cons c rest ih =>
    unfold cutFirst
    split
    · next h =>
      subst h
      cases before with
      | nil => simp [eq_comm]
      | cons b bs => simp; rintro rfl; simp
    · next h =>
      cases before with
      | nil => simp; intro h'; exact absurd h' h
      | cons b bs =>
        simp only [Option.map_eq_some_iff, Prod.mk.injEq, Prod.exists, List.cons_append,
          List.cons.injEq, List.mem_cons, not_or]
        constructor
        · rintro ⟨before', after', found, ⟨rfl, rfl⟩, rfl⟩
          exact ⟨⟨rfl, (ih.1 found).1⟩, fun e => h e.symm, (ih.1 found).2⟩
        · rintro ⟨⟨rfl, split⟩, _, absent⟩
          exact ⟨bs, after, ih.2 ⟨split, absent⟩, ⟨rfl, rfl⟩, rfl⟩

theorem cutFirst_eq_none_iff {separator : α} {text : List α} :
    cutFirst separator text = none ↔ separator ∉ text := by
  induction text with
  | nil => simp [cutFirst]
  | cons c rest ih =>
    unfold cutFirst
    split
    · next h => simp [h]
    · next h => simp [ih, Ne.symm h]

/-- The lines of a text. A carriage return before a line feed belongs to the line break, and a line
break at the end starts no further line. -/
def brokenLines (feed carriage : α) (text : List α) : List (List α) :=
  match (pieces feed text).reverse with
  | [] => []
  | last :: broken =>
    let ended := broken.reverse.map fun line =>
      if line.getLast? = some carriage then line.dropLast else line
    if last = [] then ended else ended ++ [last]

end CommandLine.Text
