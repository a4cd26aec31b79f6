import CommandLine.Declaration.Grammar.Basic

/-!
# Rules for paths and types

A path in an expression needs double colons in front of its arguments, a path in a type does not. A
type is kept as a path or as a bracket around a type; of all other types only the source is kept.
-/

namespace CommandLine.Grammar

open Rule

variable (g : Grammar)

/-! ### Paths -/

/-- The keywords that can stand for a name in a path, without any arguments. -/
def pathWords : List Terminal :=
  [.word "super", .word "self", .word "crate"]

def pathStarts : List Terminal :=
  [.name, .word "Self", .signs "::", .signs "<"] ++ pathWords

/-- Arguments in angle brackets. They are written in order. -/
def arguments : Rule (List TypeExpr.Argument) := do
  let _ ← accept (.signs "::")
  let (items, _) ← apart do
    expect (.signs "<")
    let items ← separated "," (sees (.signs ">")) g.argument
    expect (.signs ">")
    return items
  write (TypeExpr.Argument.listText items)
  return items.map (·.1)

/-- A name in a path, with its arguments. -/
def segment (inExpression : Bool) : Rule Segment := do
  if ← seesAny (.word "try" :: pathWords) then
    return ⟨(← next).text, "", none⟩
  guard (← seesAny [.name, .word "Self"])
  let name := (← next).text
  let direct ← seesOnly "<" ["<="]
  if (!inExpression && direct) || (← seesAll [.signs "::", .signs "<"]) then
    let (items, suffix) ← apart g.arguments
    write suffix
    return ⟨name, suffix, some items⟩
  return ⟨name, "", none⟩

/-- Further segments of a path, as long as a rule says that there are some. -/
def segments (inExpression : Bool) (continues : Rule Bool) : Rule (List Segment) :=
  iterate (fun found => do
    if ← continues then
      expect (.signs "::")
      return some (found ++ [← g.segment inExpression])
    return none) []

/-- A path of which the first segment is read already. Double colons before a round bracket belong
to the bracket. -/
def pathAfter (inExpression absolute : Bool) (first : Segment) : Rule Path := do
  let others ← g.segments inExpression do
    return (← sees (.signs "::")) && !(← seesAll [.signs "::", .opening .round])
  return ⟨absolute, first, others⟩

def path (inExpression : Bool) : Rule Path := do
  let absolute ← accept (.signs "::")
  g.pathAfter inExpression absolute (← g.segment inExpression)

/-- A path, perhaps with a type in front of it, and whether there is one. The type can be seen as
something that has a path of its own, which then comes first. -/
def anyPath (inExpression : Bool) : Rule (Bool × Path) := do
  if ← accept (.signs "<") then
    let _ ← g.type true
    let view ← if ← accept (.word "as") then some <$> g.path false else pure none
    expect (.signs ">")
    expect (.signs "::")
    let first ← g.segment inExpression
    let others ← g.segments inExpression (sees (.signs "::"))
    match view with
    | some base => return (true, { base with others := base.others ++ first :: others })
    | none => return (true, ⟨true, first, others⟩)
  return (false, ← g.path inExpression)

/-! ### Functions -/

/-- The result of a function, if it has one. -/
def result : Rule Unit := do
  if ← accept (.signs "->") then
    let _ ← g.type false

/-- A path whose last segment can be followed by the inputs and the result of a function. Double
colons in front of them are not written. -/
def applied (path : Path) : Rule Path := do
  let signature ← (return (← sees (.opening .round)) ||
    (← seesAll [.signs "::", .opening .round]) : Rule Bool)
  if signature && (path.last.arguments.getD []).isEmpty then
    let _ ← apart (accept (.signs "::"))
    let (_, suffix) ← apart do
      let _ ← enclosed .round (separated "," atEnd (g.type true))
      g.result
    write suffix
    return path.withLast ⟨path.last.name, suffix, none⟩
  return path

def functionInput : Rule Unit := do
  attributes
  if ← accept (.signs "...") then return ()
  let named ← seesAny [.name, .word "_", .word "self"]
  if named && (← seesAll [.anyWord, .signs ":"]) && !(← seesAll [.anyWord, .signs "::"]) then
    skip 2
  if ← accept (.signs "...") then return ()
  let _ ← g.type true

def functionType : Rule Unit := do
  let _ ← accept (.word "unsafe")
  if ← accept (.word "extern") then
    let _ ← accept .string
  expect (.word "fn")
  let _ ← enclosed .round (separated "," atEnd g.functionInput)
  g.result

/-! ### Bounds -/

def boundStarts : List Terminal :=
  [.anyWord, .signs "::", .signs "?", .lifetime, .opening .round]

def traitBound : Rule Unit := do
  let bound ← acceptBinder
  if (← accept (.signs "?")) && !bound then
    let _ ← acceptBinder
  let _ ← g.applied (← g.path false)

/-- A bound, and whether it is no lifetime. -/
def bound : Rule Bool := do
  if ← accept .lifetime then return false
  if ← sees (.opening .round) then enclosed .round g.traitBound else g.traitBound
  return true

/-- Further bounds, and whether one of all bounds is no lifetime. -/
def boundsAfter (first : Bool) : Rule Bool :=
  iterate (fun found => do
    if ← accept (.signs "+") then
      if ← seesAny boundStarts then
        let another ← g.bound
        return some (found || another)
    return none) first

/-- Bounds, of which at least one is no lifetime. -/
def bounds (plus : Bool) : Rule Unit := do
  let first ← g.bound
  guard (← if plus then g.boundsAfter first else pure first)

/-! ### Types -/

/-- What follows a path that starts a type: the type is kept only if it is a path. -/
def pathType (plus bound qualified : Bool) (found : Path) : Rule (Option TypeExpr) := do
  let path ← g.applied found
  if qualified then return none
  if path.isPlain && (← seesOnly "!" ["!="]) then
    expect (.signs "!")
    anyGroup
    return none
  if bound || (plus && (← sees (.signs "+"))) then
    if plus then
      let _ ← g.boundsAfter true
    return none
  return some path.toType

/-- A type that starts with a round bracket. -/
def roundType (plus : Bool) : Rule (Option TypeExpr) := do
  expect (.opening .round)
  if ← accept (.closing .round) then return none
  if ← sees (.signs "?") then
    g.traitBound
    expect (.closing .round)
    let _ ← g.boundsAfter true
    return none
  let inner ← g.type true
  if ← accept (.signs ",") then
    let _ ← separated "," atEnd (g.type true)
    expect (.closing .round)
    return none
  expect (.closing .round)
  match inner with
  | .path .. | .applied .. =>
    if plus && (← sees (.signs "+")) then
      let _ ← g.boundsAfter true
      return none
    return some (.paren inner)
  | _ => return some (.paren inner)

/-- A type, unless only its source is kept. -/
def typeForm (plus : Bool) : Rule (Option TypeExpr) := do
  let bound ← acceptBinder
  let functionStarts := [Terminal.word "fn", .word "unsafe", .word "extern"]
  if bound then
    guard (← seesAny ([.name, .word "Self"] ++ pathWords ++ functionStarts))
  if ← sees (.opening .round) then
    g.roundType plus
  else if ← seesAny functionStarts then
    g.functionType
    return none
  else if ← seesAny pathStarts then
    let (qualified, path) ← g.anyPath false
    g.pathType plus bound qualified path
  else if ← accept (.word "dyn") then
    let _ ← accept (.signs "*")
    g.bounds plus
    return none
  else if ← sees (.opening .square) then
    enclosed .square do
      let _ ← g.type true
      if ← accept (.signs ";") then
        let _ ← g.expression true
    return none
  else if ← accept (.signs "*") then
    if !(← accept (.word "const")) then expect (.word "mut")
    let _ ← g.type false
    return none
  else if ← accept (.signs "&") then
    let _ ← accept .lifetime
    let _ ← accept (.word "mut")
    let _ ← g.type false
    return none
  else if ← accept (.word "impl") then
    g.bounds plus
    return none
  else if ← sees .lifetime then
    g.bounds true
    return none
  else
    guard (← seesAny [.signs "!", .word "_"])
    skip 1
    return none

def anyType (plus : Bool) : Rule TypeExpr := do
  let (form, text) ← apart (g.typeForm plus)
  let type := form.getD (.other text)
  write type.text
  return type

/-! ### Arguments -/

/-- A constant among arguments: a literal or a block. -/
def acceptConstant : Rule Bool := do
  if ← seesAll [.signs "-", .literal] then
    skip 2
    return true
  if ← accept .literal then return true
  if ← sees (.opening .curly) then
    group .curly
    return true
  return false

/-- An argument that is no lifetime: a type, of which perhaps only the source is kept, or a constant
or a binding, of which nothing else is kept. -/
def argumentForm : Rule (Option (Option TypeExpr)) := do
  if ← acceptConstant then return none
  if ← seesAny ([.name, .word "Self"] ++ pathWords) then
    let first ← g.segment false
    if ← accept (.signs "=") then
      if !(← acceptConstant) then
        let _ ← g.type true
      return none
    if ← seesOnly ":" ["::"] then
      expect (.signs ":")
      if !(← seesAny [.signs ",", .signs ">"]) then
        let _ ← g.boundsAfter (← g.bound)
      return none
    return some (← g.pathType true false false (← g.pathAfter false false first))
  return some (some (← g.type true))

def anyArgument : Rule TypeExpr.Argument := do
  if (← sees .lifetime) && !(← seesAll [.lifetime, .signs "+"]) then
    return .lifetime (← next).text
  let (form, text) ← apart g.argumentForm
  return match form with
    | some type => .type (type.getD (.other text))
    | none => .other text

end CommandLine.Grammar
