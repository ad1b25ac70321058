import TransactionRules.Condition.Normal
import TransactionRules.Expression.Grammar
import TransactionRules.Transaction

/-!
# Conditions

A condition is an expression over the fields of a transaction: constants, connectives, comparison
chains, negation and three text methods. `Condition.ofExpr` admits an expression, or says what in it
no condition may contain; a condition has a truth value as its outermost form.
-/

namespace TransactionRules

open Expression (Expr Constant Connective PrefixOp Relation Form)

inductive Condition where
  | field (f : Field)
  | constant (v : Value)
  | all (operands : List Condition)
  | any (operands : List Condition)
  | not (operand : Condition)
  | negate (operand : Condition)
  | chain (first : Condition) (rest : List (Comparison × Condition))
  | call (m : TextMethod) (target argument : Condition)
deriving Inhabited, Repr

/-- Why a text is not a condition. -/
inductive ConditionError where
  | normal (e : NormalError)
  | notExpression
  /-- The text has a character that no text may have. -/
  | nullCharacter
  | tooDeep
  | notBoolean
  | unknownField (name : String)
  | unsupportedConstant (shown : String)
  | attribute (name : String)
  | unknownCall
  | argumentCount (m : TextMethod)
  | unsupportedPrefix
  | unsupportedRelation (r : Relation)
  | unsupportedForm (form : Form)
deriving DecidableEq, Repr

namespace ConditionError

def relationLabel : Relation → String
  | .eq => "Eq"
  | .ne => "NotEq"
  | .lt => "Lt"
  | .le => "LtE"
  | .gt => "Gt"
  | .ge => "GtE"
  | .in => "In"
  | .notIn => "NotIn"
  | .is => "Is"
  | .isNot => "IsNot"

def formLabel : Form → String
  | .tuple => "Tuple"
  | .list => "List"
  | .set => "Set"
  | .dict => "Dict"
  | .lambda => "Lambda"
  | .conditional => "IfExp"
  | .generator => "GeneratorExp"
  | .listOf => "ListComp"
  | .setOf => "SetComp"
  | .dictOf => "DictComp"
  | .await => "Await"
  | .starred => "Starred"
  | .subscript => "Subscript"
  | .binary => "BinOp"
  | .formatted => "JoinedStr"
  | .named => "NamedExpr"
  | .yield => "Yield"
  | .yieldFrom => "YieldFrom"

def message : ConditionError → String
  | .normal .empty => "condition is empty"
  | .normal .emptyConstraint => "empty constraint in comma separated condition"
  | .notExpression => "invalid syntax: <parser>"
  | .nullCharacter => "invalid condition: <parser>"
  | .tooDeep => "condition is nested too deeply"
  | .notBoolean => "condition is not a boolean expression"
  | .unknownField name => s!"unknown field '{name}'"
  | .unsupportedConstant shown => "unsupported literal " ++ shown
  | .attribute name => s!"attribute access '.{name}' is not allowed"
  | .unknownCall => "only .contains(), .startsWith() and .endsWith() calls are allowed"
  | .argumentCount m => s!".{m.name}() takes exactly one argument"
  | .unsupportedPrefix => "unsupported operator Invert"
  | .unsupportedRelation r => s!"unsupported comparison {relationLabel r}"
  | .unsupportedForm form => s!"unsupported syntax: {formLabel form}"

end ConditionError

namespace Condition

/-- A byte string between quotes, bytes beyond ASCII by their codes. -/
def bytesText (cs : List Char) : String :=
  let q := Quoted.quoteFor cs
  let escape (c : Char) : List Char :=
    if c.toNat < 127 then Quoted.escape q c else Quoted.escapeCode c
  String.ofList ('b' :: q :: cs.flatMap escape ++ [q])

/-- The constants that a condition may have. -/
def ofConstant : Constant → Except ConditionError Value
  | .null => .ok .null
  | .bool b => .ok (.bool b)
  | .int n => .ok (.int n)
  | .float x => .ok (.float x)
  | .text s => .ok (.text s)
  | .bytes cs => .error (.unsupportedConstant (bytesText cs))
  | .imaginary x => .error (.unsupportedConstant (FloatStyle.bare.write x ++ "j"))
  | .ellipsis => .error (.unsupportedConstant "Ellipsis")

def comparisonOf (r : Relation) : Except ConditionError Comparison :=
  match r with
  | .eq => .ok .eq
  | .ne => .ok .ne
  | .lt => .ok .lt
  | .le => .ok .le
  | .gt => .ok .gt
  | .ge => .ok .ge
  | r => .error (.unsupportedRelation r)

/-- The method that the function of a call is, and its target. -/
def method? : Expr → Option TextMethod
  | .attribute _ name => TextMethod.ofName? name
  | _ => none

mutual

/-- An expression as a condition, or the first thing in it that no condition may contain. -/
def ofExpr : Expr → Except ConditionError Condition
  | .name s => match Field.ofName? s with
    | some f => .ok (.field f)
    | none => .error (.unknownField s)
  | .constant c => (ofConstant c).map .constant
  | .connective .and es => (ofExprs es).map .all
  | .connective .or es => (ofExprs es).map .any
  | .prefixed op e => do
    let c ← ofExpr e
    match op with
    | .not => return .not c
    | .minus => return .negate c
    | .plus => return c
    | .invert => .error .unsupportedPrefix
  | .chain e rest => do return .chain (← ofExpr e) (← ofChain rest)
  | .call f es keywords =>
    match f with
    | .attribute target name =>
      match TextMethod.ofName? name with
      | none => .error .unknownCall
      | some m =>
        match es with
        | [e] =>
          if keywords then .error (.argumentCount m)
          else do return .call m (← ofExpr target) (← ofExpr e)
        | _ => .error (.argumentCount m)
    | _ => .error .unknownCall
  | .attribute _ name => .error (.attribute name)
  | .other form _ => .error (.unsupportedForm form)

def ofExprs : List Expr → Except ConditionError (List Condition)
  | [] => .ok []
  | e :: es => do return (← ofExpr e) :: (← ofExprs es)

def ofChain : List (Relation × Expr) → Except ConditionError (List (Comparison × Condition))
  | [] => .ok []
  | (r, e) :: rest => do
    let c ← comparisonOf r
    let operand ← ofExpr e
    return (c, operand) :: (← ofChain rest)

end

/-- Whether an expression has a truth value by its outermost form. -/
def isBoolean : Expr → Bool
  | .connective .. | .chain .. | .call .. => true
  | .prefixed op _ => op == .not
  | .constant (.bool _) => true
  | _ => false

/-- The condition that a normal form is. -/
def ofNormal (text : String) : Except ConditionError Condition :=
  if text.toList.contains '\x00' then .error .nullCharacter
  else match Expr.ofChars? text.toList with
    | none => .error .notExpression
    | some e =>
      if Expr.depthLimit < e.depth then .error .tooDeep
      else if isBoolean e then ofExpr e
      else .error .notBoolean

/-- The condition that a text is. -/
def ofText (text : String) : Except ConditionError Condition :=
  match normalForm text with
  | .error e => .error (.normal e)
  | .ok normal => ofNormal normal

/-! ## Evaluation -/

mutual

/-- The value of a condition on a transaction. Operands are evaluated from left to right, and only
until the value is decided. -/
def eval : Condition → Transaction → Except Fault Value
  | .field f, t => .ok (t.get f)
  | .constant v, _ => .ok v
  | .all cs, t => (evalAll cs t).map .bool
  | .any cs, t => (evalAny cs t).map .bool
  | .not c, t => do return .bool !(← eval c t).truthy
  | .negate c, t => do (← eval c t).negate
  | .chain c rest, t => do
    let v ← eval c t
    return .bool (← evalChain v rest t)
  | .call m target argument, t => do
    let v ← eval target t
    let w ← eval argument t
    return .bool (← Value.call m v w)

def evalAll : List Condition → Transaction → Except Fault Bool
  | [], _ => .ok true
  | c :: cs, t => do if (← eval c t).truthy then evalAll cs t else return false

def evalAny : List Condition → Transaction → Except Fault Bool
  | [], _ => .ok false
  | c :: cs, t => do if (← eval c t).truthy then return true else evalAny cs t

/-- Neighbouring operands are compared until one comparison does not hold. -/
def evalChain (v : Value) : List (Comparison × Condition) → Transaction → Except Fault Bool
  | [], _ => .ok true
  | (op, c) :: rest, t => do
    let w ← eval c t
    if ← Value.compare op v w then evalChain w rest t else return false

end

end Condition

/-- What a caller hands in as the text of a condition; a value that does not hold is the empty text. -/
def conditionText (v : Value) : Except Fault String :=
  match v.orElse (.text "") with
  | .text s => .ok s
  | v => .error (.notText v.kind)

end TransactionRules
