import Flowchart.Decimal.Reading
import Flowchart.Template

/-!
# Conditions

A condition compares two operands, `left op right`. The operators are tried in a fixed order, and
the first one that cuts the text into exactly two parts is taken, so `a >= b` never compares with
`>`. Without an operator the whole text is an operand, and the condition holds if it is true.

An operand is the variable of that name, else an integer, a finite number, a truth value, and last
the text itself. The right operand loses the quotes at its ends first.
-/

namespace Flowchart

namespace Condition

/-- A comparison. -/
inductive Operator where
  /-- Equal display texts. -/
  | eq
  /-- Different display texts. -/
  | ne
  /-- Not smaller, as numbers. -/
  | ge
  /-- Not greater, as numbers. -/
  | le
  /-- Greater, as numbers. -/
  | gt
  /-- Smaller, as numbers. -/
  | lt
  /-- The right text occurs in the left one. -/
  | contains
  /-- The left text starts with the right one. -/
  | startsWith
  /-- The left text ends with the right one. -/
  | endsWith
deriving DecidableEq, Inhabited

namespace Operator

/-- The operators in the order in which they are tried. -/
def all : List Operator :=
  [eq, ne, ge, le, gt, lt, contains, startsWith, endsWith]

/-- How an operator is written. -/
def token : Operator → String
  | eq => "=="
  | ne => "!="
  | ge => ">="
  | le => "<="
  | gt => ">"
  | lt => "<"
  | contains => "contains"
  | startsWith => "startsWith"
  | endsWith => "endsWith"

end Operator

/-- Why a condition has no truth value: a side of a numeric comparison is no number. -/
structure Error where
  /-- The side as written. -/
  operand : String
  /-- What it stands for. -/
  value : Json
deriving DecidableEq

/-- The wording of the failure. -/
def Error.message (e : Error) : String :=
  "cannot compare '" ++ e.operand ++ "' numerically: value " ++ e.value.compact ++
    " is not a number"

/-- One side of a comparison. -/
structure Operand where
  /-- The side as written. -/
  text : String
  /-- What it stands for. -/
  value : Json

/-- The least and the greatest integer that an operand can be. -/
def integerRange : Int × Int := (-0x8000000000000000, 0x7FFFFFFFFFFFFFFF)

/-- An integer operand. -/
def integer? (text : List Char) : Option Int :=
  (Decimal.integer? text).filter fun i => integerRange.1 ≤ i ∧ i ≤ integerRange.2

/-- What a text stands for. -/
def resolveValue (text : String) (state : StateMap) : Json :=
  match state.find? text with
  | some v => v
  | none =>
    match integer? text.toList with
    | some i => .number (.int i)
    | none =>
      match Decimal.finite? text.toList with
      | some x => .number (.float x)
      | none =>
        if Text.sameWord text "true" then .bool true
        else if Text.sameWord text "false" then .bool false
        else .string text

/-- The operand of a text. -/
def resolve (text : String) (state : StateMap) : Operand where
  text := text
  value := resolveValue text state

/-- The number of a document's number. -/
def ofNumber : Json.Number → Binary64
  | .int i => Binary64.ofInt i
  | .float x => x

/-- The finite number that an operand is or, being a text, denotes. -/
def Operand.number? (o : Operand) : Option Binary64 :=
  match o.value with
  | .number n => some (ofNumber n)
  | .string s => Decimal.finite? (Text.trim s).toList
  | _ => none

/-- The number of an operand, or the reason why there is none. -/
def Operand.number (o : Operand) : Except Error Binary64 :=
  match o.number? with
  | some x => .ok x
  | none => .error { operand := o.text, value := o.value }

/-- Compares two operands as numbers, the left one looked at first. -/
def compareNumbers (left right : Operand) : Except Error Ordering :=
  match left.number, right.number with
  | .error e, _ => .error e
  | .ok _, .error e => .error e
  | .ok x, .ok y => .ok (x.compare y)

/-- The truth of a comparison. -/
def compare (op : Operator) (left right : Operand) : Except Error Bool :=
  let l := left.value.display
  let r := right.value.display
  match op with
  | .eq => .ok (l == r)
  | .ne => .ok (l != r)
  | .contains => .ok (Text.occurs r.toList l.toList)
  | .startsWith => .ok (Text.starts r.toList l.toList)
  | .endsWith => .ok (Text.ends r.toList l.toList)
  | .ge => (compareNumbers left right).map Ordering.isGE
  | .le => (compareNumbers left right).map Ordering.isLE
  | .gt => (compareNumbers left right).map Ordering.isGT
  | .lt => (compareNumbers left right).map Ordering.isLT

/-- Cuts an expression at an operator that makes exactly two parts of it. -/
def splitAt? (expression : List Char) (op : Operator) :
    Option (Operator × List Char × List Char) :=
  match Text.pieces op.token.toList expression with
  | [l, r] => some (op, l, r)
  | _ => none

/-- The comparison that an expression is read as. -/
def split? (expression : String) : Option (Operator × List Char × List Char) :=
  Operator.all.findSome? (splitAt? expression.toList)

/-- A quote of either kind. -/
def isQuote (c : Char) : Bool :=
  c == '\'' || c == '"'

/-- Whether the condition holds in a state. -/
def evaluate (expression : String) (state : StateMap) : Except Error Bool :=
  match split? expression with
  | some (op, l, r) =>
    let left := String.ofList (Text.trimBy Text.isBlank l)
    let right := String.ofList (Text.trimBy isQuote (Text.trimBy Text.isBlank r))
    compare op (resolve left state) (resolve right state)
  | none => .ok ((resolve (Text.trim expression) state).value == .bool true)

end Condition

end Flowchart
