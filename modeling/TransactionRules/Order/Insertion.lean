/-!
# Sorting with comparisons that can fail

A stable sort for a relation `before` that may have no answer. The longest leading run that is in
order, or strictly in reverse, is taken as it is; every later item is inserted by binary search.
The first comparison without an answer ends the sort.
-/

namespace TransactionRules.Insertion

variable {α ε : Type}

/-- `x` behind the items of `ys` that it is not before. -/
def insert (before : α → α → Except ε Bool) (x : α) (ys : List α) : Except ε (List α) :=
  match _h : ys.drop (ys.length / 2) with
  | [] => .ok [x]
  | y :: rest => do
    if ← before x y then return (← insert before x (ys.take (ys.length / 2))) ++ y :: rest
    else return ys.take (ys.length / 2) ++ y :: (← insert before x rest)
termination_by ys.length
decreasing_by
  all_goals
    have := congrArg List.length _h
    simp only [List.length_drop, List.length_cons] at this
    first | omega | (simp only [List.length_take]; omega)

/-- The leading items of which each one's comparison with its predecessor gives `expected`, and the
rest. -/
def run (before : α → α → Except ε Bool) (expected : Bool) (previous : α) :
    List α → Except ε (List α × List α)
  | [] => .ok ([], [])
  | x :: xs => do
    if (← before x previous) == expected then
      let (leading, rest) ← run before expected x xs
      return (x :: leading, rest)
    else return ([], x :: xs)

def sort (before : α → α → Except ε Bool) : List α → Except ε (List α)
  | x :: y :: zs => do
    let reversed ← before y x
    let (leading, rest) ← run before reversed y zs
    let start := x :: y :: leading
    rest.foldlM (fun sorted z => insert before z sorted) (if reversed then start.reverse else start)
  | xs => .ok xs

end TransactionRules.Insertion
