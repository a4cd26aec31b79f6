/-!
# Generic parameters

Declared types own their data and are described by constants, so they cannot have generic
parameters of any kind.
-/

namespace CommandLine

inductive GenericKind where
  | lifetime
  | type
  | constant
  deriving DecidableEq, Repr

/-- What is made of a declaration. -/
inductive Purpose where
  /-- A program with arguments. -/
  | program
  /-- A type of single values. -/
  | value
  deriving DecidableEq, Repr

def Purpose.name : Purpose → String
  | .program => "derive(Parse)"
  | .value => "derive(Value)"

namespace GenericKind

/-- The kind that is reported: constants come before types, and types before lifetimes. -/
def reported? (kinds : List GenericKind) : Option GenericKind :=
  [.constant, .type, .lifetime].find? (· ∈ kinds)

def message (purpose : Purpose) : GenericKind → String
  | .constant => "const generics aren't supported by `" ++ purpose.name ++ "`"
  | .type => "generic types aren't supported by `" ++ purpose.name ++ "`"
  | .lifetime =>
    "`" ++ purpose.name ++
      "` types can't borrow from the arguments; use owned types like `String` instead"

end GenericKind

end CommandLine
