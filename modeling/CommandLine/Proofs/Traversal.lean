import Mathlib.Data.List.Forall2
import Mathlib.Tactic.Common

/-!
# Traversals that can fail

Computations that give a result or a fault succeed exactly if every step does: two steps one after
the other, a check of all members of a list, and a list of results.
-/

namespace CommandLine

variable {α β ε : Type}

/-! ### Single steps -/

lemma Except.bind_eq_ok_iff {first : Except ε α} {next : α → Except ε β} {result : β} :
    (first >>= next) = .ok result ↔ ∃ value, first = .ok value ∧ next value = .ok result := by
  cases first with
  | error fault => simp [bind, Except.bind]
  | ok value => simp [bind, Except.bind]

lemma Except.map_eq_ok_iff {f : α → β} {first : Except ε α} {result : β} :
    first.map f = .ok result ↔ ∃ value, first = .ok value ∧ f value = result := by
  cases first with
  | error fault => simp [Except.map]
  | ok value => simp [Except.map]

lemma Except.mapError_eq_ok_iff {φ : Type} {f : ε → φ} {first : Except ε α} {result : α} :
    first.mapError f = .ok result ↔ first = .ok result := by
  cases first with
  | error fault => simp [Except.mapError]
  | ok value => simp [Except.mapError]

lemma Except.map_map {γ : Type} (f : α → β) (g : β → γ) (result : Except ε α) :
    (result.map f).map g = result.map (g ∘ f) := by
  cases result <;> rfl

/-! ### Lists -/

/-- A check of all members passes if it passes for every one. -/
lemma forM_eq_ok_iff {check : α → Except ε Unit} {list : List α} :
    list.forM check = .ok () ↔ ∀ x ∈ list, check x = .ok () := by
  induction list with
  | nil => simp [List.forM, pure, Except.pure]
  | cons x rest ih =>
    rw [List.forall_mem_cons, ← ih]
    constructor
    · intro h
      obtain ⟨_, hfirst, hrest⟩ := Except.bind_eq_ok_iff.mp h
      exact ⟨hfirst, hrest⟩
    · rintro ⟨hfirst, hrest⟩
      exact Except.bind_eq_ok_iff.mpr ⟨(), hfirst, hrest⟩

/-- A check of all members that fails, fails for one of them. -/
lemma exists_of_forM_eq_error {check : α → Except ε Unit} {list : List α} {fault : ε}
    (h : list.forM check = .error fault) : ∃ x ∈ list, check x = .error fault := by
  induction list with
  | nil => simp [List.forM, pure, Except.pure] at h
  | cons x rest ih =>
    have hcons : (x :: rest).forM check = (check x >>= fun _ => rest.forM check) := rfl
    rw [hcons] at h
    cases hfirst : check x with
    | error found =>
      rw [hfirst] at h
      exact ⟨x, List.mem_cons_self .., hfirst.trans h⟩
    | ok done =>
      rw [hfirst] at h
      obtain ⟨y, hy, hcheck⟩ := ih h
      exact ⟨y, List.mem_cons_of_mem _ hy, hcheck⟩

/-- A traversal succeeds exactly with what every member gives. -/
lemma mapM_eq_ok_iff {f : α → Except ε β} {list : List α} {results : List β} :
    list.mapM f = .ok results ↔ List.Forall₂ (fun x y => f x = .ok y) list results := by
  induction list generalizing results with
  | nil => cases results <;> simp [pure, Except.pure]
  | cons x rest ih =>
    rw [List.mapM_cons, Except.bind_eq_ok_iff]
    simp only [Except.bind_eq_ok_iff, ih]
    cases results with
    | nil => simp [pure, Except.pure]
    | cons y others => simp [pure, Except.pure]

lemma mapM_eq_ok_map {f : α → Except ε β} {g : α → β} {list : List α}
    (h : ∀ x ∈ list, f x = .ok (g x)) : list.mapM f = .ok (list.map g) := by
  rw [mapM_eq_ok_iff, List.forall₂_map_right_iff, List.forall₂_same]
  exact h

lemma eq_map_of_forall₂ {R : α → β → Prop} {g : α → β} {list : List α} {results : List β}
    (hrel : List.Forall₂ R list results) (h : ∀ x y, R x y → y = g x) :
    results = list.map g := by
  have hflip : List.Forall₂ (fun y x => y = g x) results list := hrel.flip.imp fun y x => h x y
  rwa [← List.forall₂_map_right_iff, List.forall₂_eq_eq_eq] at hflip

/-- If the results are known, they are what a successful traversal gives. -/
lemma eq_map_of_mapM {f : α → Except ε β} {g : α → β} {list : List α} {results : List β}
    (hmap : list.mapM f = .ok results) (h : ∀ x y, f x = .ok y → y = g x) :
    results = list.map g :=
  eq_map_of_forall₂ (mapM_eq_ok_iff.mp hmap) h

lemma forall₂_modifyHead {R : α → β → Prop} {f : α → α} {g : β → β}
    (hhead : ∀ x y, R x y → R (f x) (g y)) {first : List α} {second : List β}
    (hrel : List.Forall₂ R first second) :
    List.Forall₂ R (first.modifyHead f) (second.modifyHead g) := by
  cases hrel with
  | nil => exact .nil
  | cons hfirst hrest => exact .cons (hhead _ _ hfirst) hrest

lemma exists_of_mem_of_forall₂ {R : α → β → Prop} {first : List α} {second : List β}
    (hrel : List.Forall₂ R first second) {x : α} (hx : x ∈ first) : ∃ y ∈ second, R x y := by
  induction hrel with
  | nil => simp at hx
  | cons hfirst _ ih =>
    rcases List.mem_cons.mp hx with rfl | hrest
    · exact ⟨_, by simp, hfirst⟩
    · obtain ⟨y, hy, hxy⟩ := ih hrest
      exact ⟨y, by simp [hy], hxy⟩

/-- Everything in the result comes from a member. -/
lemma exists_of_mem_mapM {f : α → Except ε β} {list : List α} {results : List β}
    (hmap : list.mapM f = .ok results) {y : β} (hy : y ∈ results) :
    ∃ x ∈ list, f x = .ok y :=
  exists_of_mem_of_forall₂ (mapM_eq_ok_iff.mp hmap).flip hy

/-- Every member gives something. -/
lemma exists_of_mem_list {f : α → Except ε β} {list : List α} {results : List β}
    (hmap : list.mapM f = .ok results) {x : α} (hx : x ∈ list) :
    ∃ y ∈ results, f x = .ok y :=
  exists_of_mem_of_forall₂ (mapM_eq_ok_iff.mp hmap) hx

end CommandLine
