import CommandLine.Number.Integer
import CommandLine.Text.Quoted

/-!
# Byte counts

A byte count is a decimal number with an optional binary suffix: `512`, `64k`, `2M`, `1G`. The text
is split after its longest run of digits. An unknown suffix is reported whatever the number is, and
the number is checked before it is scaled.
-/

namespace CommandLine

inductive ByteSizeFault where
  | empty
  | suffix (text : String)
  | number (fault : IntegerFault)
  | overflow
  deriving DecidableEq, Repr

def ByteSizeFault.message : ByteSizeFault → String
  | .empty => "size is empty"
  | .suffix text => "unknown size suffix " ++ Text.quote text ++ "; use one of k, M, or G"
  | .number fault => "invalid number: " ++ fault.message
  | .overflow => "size is too large"

namespace ByteSize

def width : IntegerWidth := ⟨64, false⟩

/-- The power of two that a suffix stands for. -/
def shift? : List Char → Option Nat
  | [] => some 0
  | ['k'] => some 10
  | ['K'] => some 10
  | ['M'] => some 20
  | ['G'] => some 30
  | _ => none

def decode (text : List Char) : Except ByteSizeFault Nat :=
  let digits := text.takeWhile Char.isDigit
  let suffix := text.dropWhile Char.isDigit
  if digits = [] then .error .empty
  else
    match shift? suffix with
    | none => .error (.suffix (String.ofList suffix))
    | some shift =>
      match digitsWithin width.greatest .tooLarge 0 digits with
      | .error fault => .error (.number fault)
      | .ok count =>
        let size := count * Nat.pow 2 shift
        if width.greatest < size then .error .overflow else .ok size

end ByteSize

end CommandLine
