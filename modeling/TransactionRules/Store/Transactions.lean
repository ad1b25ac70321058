import TransactionRules.Store.Basic
import TransactionRules.Transaction

/-!
# Stored transactions

Saving replaces the row of a transaction that has an id and is there, and adds a row otherwise. The
transactions get their ids only when all of them are saved.
-/

namespace TransactionRules

namespace TransactionRow

def toTransaction (id : Int) (row : TransactionRow) : Transaction where
  merchant := Cell.ofText? row.merchant
  merchantType := Cell.ofText? row.merchantType
  amount := row.amount.toValue
  location := Cell.ofText? row.location
  category := Cell.ofText? row.category
  id := .int id

end TransactionRow

namespace Change

/-- The cells of a transaction, the first of them at a position in the statement. -/
def bindTransaction (first : Nat) (t : Transaction) : Change TransactionRow := do
  let merchant ← ofExcept (Cell.bind first t.merchant)
  let merchantType ← ofExcept (Cell.bind (first + 1) t.merchantType)
  let amount ← ofExcept (Cell.bind (first + 2) t.amount)
  let location ← ofExcept (Cell.bind (first + 3) t.location)
  let category ← ofExcept (Cell.bind (first + 4) t.category)
  return .ofCells merchant merchantType amount location category

/-- Adds a transaction, under its id if it has one, and gives the id. -/
def insertTransaction (t : Transaction) : Change Value := do
  let cell ← ofExcept (Cell.bind 1 t.id)
  let row ← bindTransaction 2 t
  let id : Int ← match cell with
    | .null => ofExcept (((← get).transactions.fresh?.map .ok).getD (.error .full))
    | cell => ofExcept ((cell.asId?.map .ok).getD (.error .idMismatch))
  modify (·.putTransaction id row)
  return .int id

/-- Saves a transaction and gives its id. -/
def saveTransaction (t : Transaction) : Change Value := do
  ofExcept ((← get).check "transactions")
  if t.id.isNull then insertTransaction t
  else
    let row ← bindTransaction 1 t
    let cell ← ofExcept (Cell.bind 6 t.id)
    match cell.asId?.filter (← get).transactions.contains with
    | some id =>
      modify (·.putTransaction id row)
      return t.id
    | none => insertTransaction t

end Change

namespace Store

/-- Saves a transaction of a pool, which then has its id. -/
def saveTransaction (s : Store) (pool : Pool) (position : Nat) :
    Store × Pool × Except StoreError Unit :=
  match s.write (Change.saveTransaction (pool.get position)) with
  | (s, .ok id) => (s, pool.setId position id, .ok ())
  | (s, .error e) => (s, pool, .error e)

/-- Saves transactions of a pool, or none of them if one is refused. -/
def saveTransactions (s : Store) (pool : Pool) (batch : List Nat) :
    Store × Pool × Except StoreError Unit :=
  match s.write (batch.mapM fun position => Change.saveTransaction (pool.get position)) with
  | (s, .ok ids) => (s, (batch.zip ids).foldl (fun pool (position, id) => pool.setId position id) pool,
      .ok ())
  | (s, .error e) => (s, pool, .error e)

def transaction? (s : Store) (id : Value) : Store × Except StoreError (Option Transaction) :=
  s.read fun db => do
    db.check "transactions"
    let id ← Cell.bind 1 id
    return do
      let id ← id.asId?
      let row ← db.transactions.get? id
      return row.toTransaction id

/-- The transactions of a category, or all if none is named, in the order of their ids. -/
def transactions (s : Store) (category : Value) : Store × Except StoreError (List Transaction) :=
  s.read fun db => do
    db.check "transactions"
    let all := db.transactions.rows
    let rows ← if category.truthy then do
        let category ← Cell.bind 1 category
        let name := category.asText?
        pure (all.filter fun (_, row) => row.category.isSome && row.category == name)
      else pure all
    return rows.map fun (id, row) => row.toTransaction id

end Store

end TransactionRules
