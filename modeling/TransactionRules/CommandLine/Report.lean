import TransactionRules.Classifier
import TransactionRules.Logging
import TransactionRules.Store.Seed
import TransactionRules.Summary

/-!
# Reports

What a command prints: lines, tables and panels. Texts may hold markup in square brackets; how it is
laid out is not decided here.
-/

namespace TransactionRules

/-- Why a value cannot be printed. -/
inductive PrintError where
  /-- Only a number can be printed as an amount. -/
  | notAmount (kind : ValueKind)
  | amountTooLarge
  /-- Only a text can stand in a table. -/
  | notPrintable (kind : ValueKind)
  | fault (f : Fault)
deriving DecidableEq, Repr

def PrintError.message : PrintError → String
  | .notAmount .text => "Unknown format code 'f' for object of type 'str'"
  | .notAmount kind => s!"unsupported format string passed to {kind.label}.__format__"
  | .amountTooLarge => "int too large to convert to float"
  | .notPrintable kind =>
    s!"unable to render {kind.label}; a string or other renderable object is required"
  | .fault f => f.message

/-- Why a command fails. -/
inductive CommandError where
  | settings (e : SettingsError)
  | shape (e : ShapeError)
  | log (e : LogError)
  | file (e : FileError)
  | malformed (source : String) (e : Json.Error)
  | registry (e : RegistryError)
  | store (e : StoreError)
  | seed (e : SeedError)
  | classifier (e : ClassifierError)
  | print (e : PrintError)
deriving Repr

def CommandError.message : CommandError → String
  | .settings e => e.message
  | .shape e => e.message
  | .log e => e.message
  | .file e => e.message
  | .malformed source e => e.message source
  | .registry e => e.message
  | .store e => e.message
  | .seed e => e.message
  | .classifier e => e.message
  | .print e => e.message

inductive Printed where
  | line (text : String)
  | table (title : Option String) (columns : List String) (rows : List (List String))
  | panel (text : String) (title : Option String)
  /-- Where an error comes from. -/
  | origin (e : CommandError)
deriving Repr

namespace Report

def done (text : String) : Printed := .line s!"[green]✓[/green] {text}"

def failed (e : CommandError) : Printed := .line s!"[bold red]Error:[/bold red] {e.message}"

/-- The float of a number that is to be printed as an amount. -/
def amountFloat : Value → Except PrintError Float
  | .float x => .ok x
  | .int n => wholeFloat n
  | .bool b => wholeFloat (if b then 1 else 0)
  | v => .error (.notAmount v.kind)
where
  wholeFloat (n : Int) : Except PrintError Float :=
    let x := Exact.nearestFloat (n < 0) n.natAbs 1
    match Exact.ofFloat x with
    | .infinite _ => .error .amountTooLarge
    | _ => .ok x

def amount (v : Value) : Except PrintError String :=
  if v.isNull then .ok "-" else (amountFloat v).map fun x => "$" ++ AmountStyle.money.write x

/-- A value in a table. -/
def cell (v : Value) : Except PrintError String :=
  match v with
  | .text s => .ok s
  | v => .error (.notPrintable v.kind)

def transactionColumns : List String :=
  ["ID", "Merchant", "Merchant Type", "Location", "Amount", "Category"]

/-- A transaction as a row; the merchant is cut off behind 40 characters. -/
def transactionRow (t : Transaction) : Except PrintError (List String) := do
  let amount ← amount t.amount
  let id := if t.id.isNull then "-" else t.id.plain
  let merchant ← (Transaction.leading 40 (t.merchant.orElse (.text ""))).mapError .fault
  let unclassified := .text s!"[yellow]{Summary.unclassifiedLabel}[/yellow]"
  return [id, ← cell merchant, ← cell (t.merchantType.orElse (.text "")),
    ← cell (t.location.orElse (.text "")), amount, ← cell (t.category.orElse unclassified)]

def transactions (ts : List Transaction) (title : String) : Except PrintError Printed := do
  return .table (some title) transactionColumns (← ts.mapM transactionRow)

def ruleColumns : List String := ["ID", "Name", "Priority", "Condition", "Category", "Active"]

def ruleRow (r : Rule) : Except PrintError (List String) := do
  let category := match r.category with
    | some c => c.name
    | none => .text "[red]missing[/red]"
  let active := if r.active.truthy then "[green]yes[/green]" else "[dim]no[/dim]"
  return [r.id.plain, ← cell r.name, r.priority.plain, ← cell r.condition, ← cell category, active]

def rules (customer : String) (rs : List Rule) : Except PrintError Printed :=
  if rs.isEmpty then
    .ok (.panel s!"[yellow]No rules found for customer '{customer}'[/yellow]" (some "Empty"))
  else do
    return .table (some s!"Rules for {customer}") ruleColumns (← rs.mapM ruleRow)

/-- The summary of a batch: a panel, and a table of the categories if there are any. -/
def summary (s : Summary) : Except PrintError (List Printed) := do
  let counts ← s.byCategory.mapError .fault
  let rows ← counts.mapM fun (category, n) => return [← cell category, toString n]
  let panel : Printed := .panel s.text none
  return if rows.isEmpty then [panel] else [panel, .table none ["Category", "Transactions"] rows]

end Report

end TransactionRules
