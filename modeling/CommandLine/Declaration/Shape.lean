import CommandLine.Declaration.TypeExpr
import CommandLine.Kind

/-!
# Shapes of fields

The type of a field tells how many values the field holds: some types wrap another one, which is
then the type of a single value. A wrapper is known by the last name of its path. Wrappers inside
wrappers are refused.
-/

namespace CommandLine

/-- What a collection does with its members. -/
inductive Collection where
  /-- It keeps them in the order in which they came. -/
  | list
  /-- It keeps each of them once. -/
  | set
  /-- It keeps all of them, in no order of their own. -/
  | heap
  deriving DecidableEq, Repr

inductive Wrapping where
  | nullable
  | sequence (collection : Collection)
  deriving DecidableEq, Repr

def Wrapping.ofName? (name : String) : Option Wrapping :=
  if name = "Option" then some .nullable
  else if name ∈ ["Vec", "VecDeque", "LinkedList"] then some (.sequence .list)
  else if name ∈ ["BTreeSet", "HashSet"] then some (.sequence .set)
  else if name = "BinaryHeap" then some (.sequence .heap)
  else none

/-- The wrapper of a type, with the type that it wraps. -/
def TypeExpr.wrapping? (type : TypeExpr) : Option (Wrapping × TypeExpr) :=
  match type.stripped with
  | .applied _ name argument => (Wrapping.ofName? name).map fun wrapping => (wrapping, argument)
  | _ => none

structure Shape where
  wrapping : Option Wrapping
  /-- The type of a single value. -/
  scalar : TypeExpr
  deriving DecidableEq, Repr

namespace Shape

/-- How many values the field holds. -/
def wrapper (shape : Shape) : Wrapper :=
  match shape.wrapping with
  | none => .single
  | some .nullable => .nullable
  | some (.sequence _) => .sequence

/-- The field is spelled as a truth value or a number of them. -/
def isFlag (shape : Shape) : Bool :=
  shape.scalar.isBool

/-- The shape of a type, unless it has wrappers inside wrappers. -/
def ofType? (type : TypeExpr) : Option Shape :=
  match type.wrapping? with
  | none => some ⟨none, type⟩
  | some (wrapping, scalar) =>
    match scalar.wrapping? with
    | none => some ⟨some wrapping, scalar⟩
    | some _ => none

end Shape

end CommandLine
