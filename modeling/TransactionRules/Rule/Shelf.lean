import TransactionRules.Rule.Basic

/-!
# Rules in memory

A store of rules that lives in memory only. A rule on the shelf is named by its place, so whoever
holds the name sees later edits of the rule.
-/

namespace TransactionRules

structure RuleShelf where
  rules : List Rule := []
  /-- The names of each customer's rules, in order. -/
  lists : List (String × List Nat) := []
  /-- How often a list was read. -/
  reads : Nat := 0
deriving Inhabited, Repr

/-- A change of one field of a rule. -/
inductive RuleEdit where
  | name (v : Value)
  | condition (v : Value)
  | priority (v : Value)
  | customer (v : Value)
  | category (c : Option Category)
  | active (v : Value)
  | id (v : Value)
deriving Repr

def RuleEdit.apply (e : RuleEdit) (r : Rule) : Rule :=
  match e with
  | .name v => { r with name := v }
  | .condition v => { r with condition := v }
  | .priority v => { r with priority := v }
  | .customer v => { r with customer := v }
  | .category c => { r with category := c }
  | .active v => { r with active := v }
  | .id v => { r with id := v }

namespace RuleShelf

/-- The rule of a name. -/
def view (s : RuleShelf) (name : Nat) : Rule :=
  s.rules.getD name { name := .null, condition := .null, priority := .null, customer := .null }

def names (s : RuleShelf) (customer : String) : List Nat := (s.lists.lookup customer).getD []

def setNames (s : RuleShelf) (customer : String) (names : List Nat) : RuleShelf :=
  { s with lists := (customer, names) :: s.lists.filter (·.1 != customer) }

/-- Reads the names of a customer's rules. -/
def read (s : RuleShelf) (customer : String) : RuleShelf × List Nat :=
  ({ s with reads := s.reads + 1 }, s.names customer)

/-- Replaces the rules of a customer. -/
def put (s : RuleShelf) (customer : String) (rules : List Rule) : RuleShelf :=
  let first := s.rules.length
  { s with rules := s.rules ++ rules }.setNames customer
    ((List.range rules.length).map (first + ·))

def add (s : RuleShelf) (customer : String) (r : Rule) : RuleShelf :=
  { s with rules := s.rules ++ [r] }.setNames customer (s.names customer ++ [s.rules.length])

def remove (s : RuleShelf) (customer : String) (index : Nat) : RuleShelf :=
  s.setNames customer ((s.names customer).eraseIdx index)

/-- Puts the rules of a customer into the order of some of their indices. -/
def reorder (s : RuleShelf) (customer : String) (order : List Nat) : RuleShelf :=
  s.setNames customer (order.filterMap ((s.names customer)[·]?))

def edit (s : RuleShelf) (customer : String) (index : Nat) (e : RuleEdit) : RuleShelf :=
  match (s.names customer)[index]? with
  | none => s
  | some name => { s with rules := s.rules.modify name e.apply }

end RuleShelf

end TransactionRules
