/-!
# Types of declarations

The type of a field is kept as its source without blanks. What matters besides that is whether it is
a path, such as `std::option::Option<u8>`, the name that the path ends in, and the first type that
the name is applied to. Brackets around a type are seen through.
-/

namespace CommandLine

/-- A type as a declaration spells it. -/
inductive TypeExpr where
  /-- A path that is not applied to a type. -/
  | path (text name : String)
  /-- A path whose last name is applied to some arguments, of which this is the first type. -/
  | applied (text name : String) (argument : TypeExpr)
  /-- A type in round brackets. -/
  | paren (inner : TypeExpr)
  /-- A type in brackets that are not written. -/
  | group (inner : TypeExpr)
  /-- A type that is no path, such as a tuple or a reference. -/
  | other (text : String)
  deriving DecidableEq, Repr

namespace TypeExpr

def text : TypeExpr → String
  | .path text _ | .applied text _ _ | .other text => text
  | .paren inner => "(" ++ inner.text ++ ")"
  | .group inner => inner.text

/-- The type without brackets around it. -/
def stripped : TypeExpr → TypeExpr
  | .paren inner | .group inner => inner.stripped
  | type => type

/-- The type is spelled `bool`. -/
def isBool (type : TypeExpr) : Bool :=
  match type.stripped with
  | .path text _ => text = "bool"
  | _ => false

/-! ### Generic arguments -/

/-- An argument between angle brackets. -/
inductive Argument where
  | lifetime (text : String)
  | type (type : TypeExpr)
  /-- A constant or a binding. -/
  | other (text : String)
  deriving DecidableEq, Repr

namespace Argument

def text : Argument → String
  | .lifetime text | .other text => text
  | .type found => found.text

def type? : Argument → Option TypeExpr
  | .type found => some found
  | _ => none

def isLifetime : Argument → Bool
  | .lifetime _ => true
  | _ => false

/-- The source of arguments in angle brackets; with each of them it is given whether a comma
follows. Lifetimes are written first, and a comma before each argument but the first. The one after
the last argument stays. -/
def listText (items : List (Argument × Bool)) : String :=
  let ordered := items.filter (·.1.isLifetime) ++ items.filter (!·.1.isLifetime)
  let trailing := ordered.getLast?.any (·.2)
  "<" ++ ",".intercalate (ordered.map (·.1.text)) ++ (if trailing then "," else "") ++ ">"

def spaced : List Argument → List (Argument × Bool)
  | [] => []
  | [argument] => [(argument, false)]
  | argument :: others => (argument, true) :: spaced others

end Argument

/-- A path applied to arguments. -/
def apply (path name : String) (arguments : List (Argument × Bool)) : TypeExpr :=
  let text := path ++ Argument.listText arguments
  match arguments.findSome? (·.1.type?) with
  | some argument => .applied text name argument
  | none => .path text name

end TypeExpr

/-! ### Paths -/

structure Segment where
  name : String
  /-- The source of what the name is applied to. -/
  suffix : String
  /-- The arguments in angle brackets, if there are such brackets. -/
  arguments : Option (List TypeExpr.Argument)
  deriving DecidableEq, Repr

/-- A path: names with double colons between them. -/
structure Path where
  /-- Double colons stand in front of it. -/
  absolute : Bool
  first : Segment
  others : List Segment
  deriving DecidableEq, Repr

namespace Path

def segments (path : Path) : List Segment :=
  path.first :: path.others

def last (path : Path) : Segment :=
  path.others.getLast?.getD path.first

def withLast (path : Path) (segment : Segment) : Path :=
  match path.others with
  | [] => { path with first := segment }
  | others => { path with others := others.dropLast ++ [segment] }

def text (path : Path) : String :=
  (if path.absolute then "::" else "") ++
    "::".intercalate (path.segments.map fun segment => segment.name ++ segment.suffix)

/-- No name is applied to anything. -/
def isPlain (path : Path) : Bool :=
  path.segments.all (·.suffix = "")

def toType (path : Path) : TypeExpr :=
  match (path.last.arguments.getD []).findSome? TypeExpr.Argument.type? with
  | some argument => .applied path.text path.last.name argument
  | none => .path path.text path.last.name

end Path

end CommandLine
