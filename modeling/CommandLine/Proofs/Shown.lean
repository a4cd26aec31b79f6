import CommandLine.Proofs.Outcome

/-!
# What a record shows

What a field may show of the values that it was given, said without storage and record: `Shows`. A
list shows the given values in their order, a set shows each of them once, and a heap shows all of
them. The record of a successful run shows every field by the values that the command line gives to
it.
-/

namespace CommandLine

variable {α : Type}

/-! ### Sets -/

section Sets

variable {order : α → α → Ordering} {x y : α} {list members values : List α}

lemma mem_insertNew_of_mem (h : y ∈ list) : y ∈ insertNew order x list := by
  induction list with
  | nil => simp at h
  | cons z rest ih =>
    unfold insertNew
    split
    · exact List.mem_cons_of_mem x h
    · exact h
    · rcases List.mem_cons.mp h with rfl | hrest
      · exact List.mem_cons_self
      · exact List.mem_cons_of_mem z (ih hrest)

/-- A value is among those that it joins, unless an equal one is. -/
lemma exists_mem_insertNew (order : α → α → Ordering) (x : α) (list : List α) :
    ∃ z ∈ insertNew order x list, z = x ∨ order x z = .eq := by
  induction list with
  | nil => exact ⟨x, List.mem_cons_self, .inl rfl⟩
  | cons z rest ih =>
    unfold insertNew
    split
    · exact ⟨x, List.mem_cons_self, .inl rfl⟩
    · next heq => exact ⟨z, List.mem_cons_self, .inr heq⟩
    · obtain ⟨found, hmem, hfound⟩ := ih
      exact ⟨found, List.mem_cons_of_mem z hmem, hfound⟩

lemma pairwise_insertNew [Std.TransCmp order]
    (h : list.Pairwise fun x y => order x y = .lt) :
    (insertNew order x list).Pairwise fun x y => order x y = .lt := by
  induction list with
  | nil => simp [insertNew]
  | cons z rest ih =>
    obtain ⟨hfirst, hrest⟩ := List.pairwise_cons.mp h
    unfold insertNew
    split
    · next hlt =>
      refine List.pairwise_cons.mpr ⟨?_, h⟩
      intro later hlater
      rcases List.mem_cons.mp hlater with rfl | hmem
      · exact hlt
      · exact Std.TransCmp.lt_trans hlt (hfirst later hmem)
    · exact h
    · next hgt =>
      refine List.pairwise_cons.mpr ⟨?_, ih hrest⟩
      intro later hlater
      rcases mem_of_mem_insertNew hlater with rfl | hmem
      · exact Std.OrientedCmp.lt_of_gt hgt
      · exact hfirst later hmem

/-- The members are those of a set of the given values. If the order is one, they are in order and
hence different. -/
structure IsSetOf (order : α → α → Ordering) (values members : List α) : Prop where
  given : ∀ x ∈ members, x ∈ values
  all : ∀ x ∈ values, ∃ y ∈ members, y = x ∨ order x y = .eq
  ordered : Std.TransCmp order → members.Pairwise fun x y => order x y = .lt

/-- One value more. -/
lemma IsSetOf.insertNew (h : IsSetOf order values members) (x : α) :
    IsSetOf order (values ++ [x]) (insertNew order x members) where
  given y hy := by
    rw [List.mem_append, List.mem_singleton]
    exact (mem_of_mem_insertNew hy).symm.imp_left (h.given y)
  all y hy := by
    rcases List.mem_append.mp hy with hbefore | hlast
    · obtain ⟨z, hz, hsame⟩ := h.all y hbefore
      exact ⟨z, mem_insertNew_of_mem hz, hsame⟩
    · obtain rfl := List.mem_singleton.mp hlast
      exact exists_mem_insertNew order y members
  ordered lawful := pairwise_insertNew (h.ordered lawful)

theorem isSetOf_sortedDistinct (order : α → α → Ordering) (values : List α) :
    IsSetOf order values (sortedDistinct order values) := by
  -- the values before count as well, since the ones that come later join the members of theirs
  suffices hall : ∀ before found, IsSetOf order before found →
      IsSetOf order (before ++ values)
        (values.foldl (fun found x => CommandLine.insertNew order x found) found) by
    apply hall [] []
    exact ⟨fun _ h => h, fun _ h => absurd h List.not_mem_nil, fun _ => .nil⟩
  induction values with
  | nil => simp
  | cons x rest ih =>
    intro before found h
    have hlater := ih (before ++ [x]) _ (h.insertNew x)
    rwa [List.append_assoc] at hlater

end Sets

/-! ### Fields -/

/-- What a collection may show of the given values. -/
def Collection.Shows (order : α → α → Ordering) (values members : List α) : Collection → Prop
  | .list => members = values
  | .set => IsSetOf order values members
  | .heap => members.Perm values

lemma Collection.Shows.given {collection : Collection} {order : α → α → Ordering}
    {values members : List α} (h : collection.Shows order values members) {x : α}
    (hx : x ∈ members) : x ∈ values := by
  cases collection with
  | list =>
    obtain rfl : members = values := h
    exact hx
  | set => exact IsSetOf.given h x hx
  | heap => exact (List.Perm.mem_iff h).mp hx

lemma Shape.wrapper_eq_sequence_iff {shape : Shape} :
    shape.wrapper = .sequence ↔ ∃ collection, shape.wrapping = some (.sequence collection) := by
  unfold wrapper
  split <;> simp_all

/-- What a field may show of the values that it was given. -/
inductive FieldBase.Shows (base : FieldBase) (environment : Environment α) :
    List α → FieldValue α → Prop
  | single (hwrapper : base.shape.wrapper = .single) (value : α) :
      Shows base environment [value] (.single value)
  | nullable (hwrapper : base.shape.wrapper = .nullable) (value : α) :
      Shows base environment [value] (.nullable (some value))
  | sequence {collection : Collection}
      (hwrapping : base.shape.wrapping = some (.sequence collection)) {values members : List α}
      (hvalues : values ≠ []) (hmembers : collection.Shows environment.order values members) :
      Shows base environment values (.sequence members)
  /-- The default of the declaration. -/
  | declared {expression : Expression} (hdefault : base.default = .expression expression) :
      Shows base environment [] (environment.value expression)
  /-- The default of the type, by declaration or because the field is a flag that is not set. -/
  | initial (hdefault : base.default = .initial ∨
        base.default = .none ∧ base.shape.isFlag = true)
      (hwrapper : base.shape.wrapper = .single) :
      Shows base environment [] (.single (environment.decoder base.shape.scalar).initial)
  | absent (hdefault : base.default = .initial ∨ base.default = .none)
      (hwrapper : base.shape.wrapper = .nullable) : Shows base environment [] (.nullable none)
  | empty (hdefault : base.default = .initial ∨ base.default = .none)
      (hwrapper : base.shape.wrapper = .sequence) : Shows base environment [] (.sequence [])

namespace FieldBase

variable {base : FieldBase} {environment : Environment α} {values : List α}

lemma shows_arranged {collection : Collection}
    (hwrapping : base.shape.wrapping = some (.sequence collection)) (values : List α) :
    collection.Shows environment.order values (base.arranged environment values) := by
  cases collection with
  | list => simp [Collection.Shows, arranged, hwrapping]
  | set =>
    have hset := isSetOf_sortedDistinct environment.order values
    simpa [Collection.Shows, arranged, hwrapping] using hset
  | heap =>
    have hperm := perm_sorted environment.order values
    simpa [Collection.Shows, arranged, hwrapping] using hperm

lemma shows_initial (hdefault : base.default = .initial ∨ base.default = .none)
    (hflag : base.default = .none → base.shape.wrapper = .single → base.shape.isFlag = true) :
    base.Shows environment [] (base.initial environment) := by
  rw [FieldBase.initial]
  cases hwrapper : base.shape.wrapper with
  | single =>
    apply FieldBase.Shows.initial _ hwrapper
    exact hdefault.imp_right fun hnone => ⟨hnone, hflag hnone hwrapper⟩
  | nullable => exact .absent hdefault hwrapper
  | sequence => exact .empty hdefault hwrapper

lemma shows_shown (hsize : base.shape.wrapper = .sequence ∨ values.length ≤ 1)
    (hflag : values = [] → base.default = .none → base.shape.wrapper = .single →
      base.shape.isFlag = true) :
    base.Shows environment values (base.shown environment values) := by
  cases values with
  | nil =>
    rw [shown]
    cases hdefault : base.default with
    | expression expression => exact .declared hdefault
    | initial => exact shows_initial (.inl hdefault) (hflag rfl)
    | none => exact shows_initial (.inr hdefault) (hflag rfl)
  | cons value rest =>
    cases hwrapper : base.shape.wrapper with
    | sequence =>
      have hshown : base.shown environment (value :: rest) =
          .sequence (base.arranged environment (value :: rest)) := by
        cases hlast : (value :: rest).getLast? with
        | none => simp at hlast
        | some last => simp [shown, hlast, present, hwrapper]
      obtain ⟨collection, hwrapping⟩ := Shape.wrapper_eq_sequence_iff.mp hwrapper
      rw [hshown]
      exact .sequence hwrapping (by simp) (shows_arranged hwrapping _)
    | single =>
      obtain rfl : rest = [] := by simpa [hwrapper] using hsize
      have hshown : base.shown environment [value] = .single value := by
        simp [shown, present, hwrapper]
      rw [hshown]
      exact .single hwrapper value
    | nullable =>
      obtain rfl : rest = [] := by simpa [hwrapper] using hsize
      have hshown : base.shown environment [value] = .nullable (some value) := by
        simp [shown, present, hwrapper]
      rw [hshown]
      exact .nullable hwrapper value

end FieldBase

/-! ### Records -/

namespace Interface

variable {interface : Interface} {environment : Environment α}

/-- The record has the fields of the interface in their order, and every field shows its values. -/
def Shows (interface : Interface) (environment : Environment α) (values : Slot → List α)
    (record : Record α) : Prop :=
  List.Forall₂ (fun (slot, base) (name, value) =>
    name = base.name ∧ base.Shows environment (values slot) value) interface.fields record

lemma shows_record {values : Slot → List α}
    (h : ∀ slot base, interface.base? slot = some base →
      base.Shows environment (values slot) (base.shown environment (values slot))) :
    interface.Shows environment values (interface.record environment values) := by
  rw [Shows, record, List.forall₂_map_right_iff, List.forall₂_same]
  rintro ⟨slot, base⟩ hmem
  exact ⟨rfl, h slot base (base?_of_mem_fields hmem)⟩

/-- Only the values of the fields are shown. -/
lemma Shows.congr {first second : Slot → List α} {record : Record α}
    (hshows : interface.Shows environment first record)
    (h : ∀ slot base, interface.base? slot = some base → first slot = second slot) :
    interface.Shows environment second record := by
  obtain ⟨hlength, hall⟩ := List.forall₂_iff_zip.mp hshows
  refine List.forall₂_iff_zip.mpr ⟨hlength, ?_⟩
  rintro ⟨slot, base⟩ ⟨name, value⟩ hmem
  obtain ⟨hname, hvalue⟩ := hall hmem
  rw [h slot base (base?_of_mem_fields (List.of_mem_zip hmem).1)] at hvalue
  exact ⟨hname, hvalue⟩

/-- The record of a successful run shows the values that the command line gives. -/
theorem shows_of_parse (hsound : interface.Sound) {arguments : List String} {found : Record α}
    (success : (interface.program environment).parse arguments = .options found) :
    interface.Shows environment (interface.values environment arguments) found := by
  obtain ⟨⟨⟨reader, events⟩, hread⟩, hflawless, rfl⟩ := (parse_eq_options_iff hsound).mp success
  have hbuild := (Program.conclude_eq_options_iff.mp
    ((Program.parse_of_readAll hread).symm.trans success)).2
  apply shows_record
  intro slot base hbase
  obtain ⟨hstored, -, hsize⟩ := stored_eq_values hsound hflawless hbase
  apply FieldBase.shows_shown (hsize.imp_right (Nat.le_trans (List.length_filterMap_le _ _)))
  intro hnil hdefault hsingle
  have hslot : slot ≠ .remaining := by
    rintro rfl
    obtain ⟨field, hfield, rfl⟩ := Option.map_eq_some_iff.mp hbase
    simp [hsound.remaining field hfield] at hsingle
  have hrequired : ¬ base.required = true := fun hrequired =>
    ne_nil_of_build hbuild hbase hslot hrequired hdefault (hstored.trans hnil)
  exact hsound.base hbase hslot hdefault (by simpa using hrequired) hsingle

end Interface

end CommandLine
