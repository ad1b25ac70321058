import TransactionRules.Store.Basic

/-!
# Stored categories
-/

namespace TransactionRules

namespace CategoryRow

def toCategory (id : Int) (row : CategoryRow) : Category :=
  ⟨.text row.name, .text row.description, .int id⟩

end CategoryRow

namespace Change

/-- Adds a category and gives its id. -/
def insertCategory (c : Category) : Change Int := do
  ofExcept ((← get).check "categories")
  let name ← ofExcept (Cell.bind 1 c.name)
  let description ← ofExcept (Cell.bind 2 c.description)
  match (← get).categories.fresh? with
  | none => throw .full
  | some id =>
    let row ← ofExcept (CategoryRow.ofCells name description)
    set (← ofExcept ((← get).putCategory id row))
    return id

end Change

namespace Store

/-- Adds a category and gives it with its id. -/
def saveCategory (s : Store) (c : Category) : Store × Except StoreError Category :=
  let (s, r) := s.write (Change.insertCategory c)
  (s, r.map fun id => { c with id := .int id })

def category? (s : Store) (id : Value) : Store × Except StoreError (Option Category) :=
  s.read fun db => do
    db.check "categories"
    let id ← Cell.bind 1 id
    return do
      let id ← id.asId?
      let row ← db.categories.get? id
      return row.toCategory id

def categoryNamed? (s : Store) (name : Value) : Store × Except StoreError (Option Category) :=
  s.read fun db => do
    db.check "categories"
    let name ← Cell.bind 1 name
    return do
      let name ← name.asText?
      let (id, row) ← db.categories.rows.find? fun (_, row) => row.name == name
      return row.toCategory id

/-- All categories in the order of their names. -/
def categories (s : Store) : Store × Except StoreError (List Category) :=
  s.read fun db => do
    db.check "categories"
    let rows := db.categories.rows.mergeSort fun a b => textOrder a.2.name b.2.name != .gt
    return rows.map fun (id, row) => row.toCategory id

end Store

end TransactionRules
