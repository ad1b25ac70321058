import TransactionRules.Condition.Token

/-!
# Normal form of a condition

The normal form writes every token once, blanks left out and one space between neighbours, with
the operators and constants of the rule authors in the words of the expression language. Commas
outside round and square brackets separate constraints, each of which becomes a bracketed operand
of one conjunction.
-/

namespace TransactionRules

/-- Why a condition has no normal form. -/
inductive NormalError where
  | empty
  /-- Nothing stands between two commas, or before or after one. -/
  | emptyConstraint
deriving DecidableEq, Repr

namespace Token

/-- The word for an operator or a constant; every other token stands for itself. -/
def word (t : Token) : List Char :=
  match t.kind, String.ofList t.chars with
  | .op, "&&" => "and".toList
  | .op, "||" => "or".toList
  | .op, "!" => "not".toList
  | .name, "true" => "True".toList
  | .name, "false" => "False".toList
  | .name, "null" => "None".toList
  | _, _ => t.chars

def isOther (t : Token) (c : Char) : Bool := t.kind == .other && t.chars == [c]

/-- The change of bracket depth at a token; braces do not count. -/
def depthStep (t : Token) : Int :=
  if t.isOther '(' || t.isOther '[' then 1 else if t.isOther ')' || t.isOther ']' then -1 else 0

/-- The tokens between the commas at depth zero, starting at depth `d`. -/
def segments : Int → List Token → List (List Token)
  | _, [] => [[]]
  | d, t :: ts =>
    if t.isOther ',' && d == 0 then [] :: segments d ts
    else match segments (d + t.depthStep) ts with
      | first :: rest => (t :: first) :: rest
      | [] => [[t]]

theorem segments_ne_nil (d : Int) (ts : List Token) : segments d ts ≠ [] := by
  cases ts with
  | nil => simp [segments]
  | cons t ts =>
    rw [segments]
    split
    · simp
    · split <;> simp

/-- The words of tokens, one space between neighbours. -/
def joined (ts : List Token) : List Char := [' '].intercalate (ts.map word)

end Token

namespace Normal

/-- A constraint as an operand of the conjunction. -/
def bracketed (ts : List Token) : List Char := '(' :: ' ' :: Token.joined ts ++ [' ', ')']

def ofSegments (segments : List (List Token)) : Except NormalError (List Char) :=
  if segments.all List.isEmpty then .error .empty
  else match segments with
    | [ts] => .ok (Token.joined ts)
    | segments =>
      if segments.any List.isEmpty then .error .emptyConstraint
      else .ok (" and ".toList.intercalate (segments.map bracketed))

/-- The tokens of a condition without the blanks. -/
def tokens (cs : List Char) : List Token := (Token.scan cs).filter (·.kind != .space)

def ofChars (cs : List Char) : Except NormalError (List Char) :=
  ofSegments (Token.segments 0 (tokens cs))

end Normal

/-- The normal form of a condition. -/
def normalForm (condition : String) : Except NormalError String :=
  (Normal.ofChars condition.toList).map String.ofList

end TransactionRules
