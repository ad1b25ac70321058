import TransactionRules.Value.Order

/-!
# Categories

What a transaction is classified as. A category is known by its id; the name and the description
do not tell categories apart.
-/

namespace TransactionRules

structure Category where
  name : Value
  description : Value := .text ""
  id : Value := .null
deriving Inhabited, Repr

namespace Category

/-- A category inside a message. -/
def shown (c : Category) : String := s!"Category({c.id.plain}, {c.name.shown})"

def same (a b : Category) : Bool := a.id.equal b.id

/-- The categories of a list that are not the same as an earlier one. -/
def distinct (cs : List Category) : Except Fault (List Category) :=
  cs.foldlM (fun seen c =>
    if !c.id.isHashable then .error (.notHashable c.id.kind)
    else if seen.any (·.same c) then .ok seen
    else .ok (seen ++ [c])) []

end Category

end TransactionRules
