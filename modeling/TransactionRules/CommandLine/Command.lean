import TransactionRules.CommandLine.Arguments
import TransactionRules.Engine.Basic
import TransactionRules.Files.Basic
import TransactionRules.Number.Reading
import TransactionRules.Text.Case
import TransactionRules.Transaction

/-!
# Commands

What a command line asks for. The options before the name of the command are about the whole
program; the rest of the words belongs to the command and is looked at later.
-/

namespace TransactionRules

inductive Command where
  | initDb (seed : Bool)
  | rules (customer : String)
  | classify (customer : String) (transaction : Transaction) (save : Bool)
  | classifyBatch (customer : String) (file : Path) (save : Bool)
deriving Repr

/-- Why the words of a command line are no command. -/
inductive NoCommand where
  | help
  | usage (e : UsageError)
deriving DecidableEq, Repr

/-- A command line up to the name of the command. -/
structure Invocation where
  engine : Option Engine
  verbose : Bool
  command : String
  words : List String
deriving Repr

def helpForm : OptionForm := { name := "help" }

namespace Invocation

def forms : List OptionForm :=
  [{ name := "engine", letter := some 'e', takesValue := true },
    { name := "verbose", letter := some 'v' }, helpForm]

/-- The engine of a name in any letter case. -/
def engineOf (name : String) : Except NoCommand Engine :=
  match Engine.ofName? (foldCase name) with
  | some e => .ok e
  | none => .error (.usage (.badValue name))

/-- The names of the commands. -/
def commands : List String := ["init-db", "rules", "classify", "classify-batch"]

def ofWords (words : List String) : Except NoCommand Invocation := do
  let a ← (Arguments.ofWords forms false words).mapError .usage
  if a.has "help" then throw .help
  let engine ← match a.value? "engine" with
    | some name => (engineOf name).map some
    | none => .ok none
  match a.operands with
  | [] => throw (.usage .noCommand)
  | name :: words =>
    if commands.contains name then return ⟨engine, a.has "verbose", name, words⟩
    else throw (.usage (.noSuchCommand name))

end Invocation

namespace Command

def saveForm : OptionForm := { name := "save" }

def forms : String → List OptionForm
  | "init-db" => [{ name := "seed" }, { name := "no-seed" }, helpForm]
  | "classify" =>
    [{ name := "merchant", letter := some 'm', takesValue := true },
      { name := "merchant-type", letter := some 't', takesValue := true },
      { name := "amount", letter := some 'a', takesValue := true },
      { name := "location", letter := some 'l', takesValue := true }, saveForm, helpForm]
  | "classify-batch" => [saveForm, helpForm]
  | _ => [helpForm]

/-- The names of the operands of a command. -/
def operands : String → List String
  | "init-db" => []
  | "classify-batch" => ["CUSTOMER_ID", "FILEPATH"]
  | _ => ["CUSTOMER_ID"]

/-- Whether the demo data are wanted: the last of the two options counts. -/
def wantsSeed (a : Arguments) : Bool :=
  match a.options.reverse.find? fun (name, _) => name == "seed" || name == "no-seed" with
  | some (name, _) => name == "seed"
  | none => true

def amountOf (text : Option String) : Except UsageError Value :=
  match text with
  | none => .ok .null
  | some s => match NumberText.float? s with
    | some x => .ok (.float x)
    | none => .error (.badValue s)

def textOf (text : Option String) : Value :=
  match text with
  | some s => .text s
  | none => .null

/-- The path of a file that is there. -/
def fileOf (fs : Files) (path : String) : Except UsageError Path :=
  match fs.entry (.ofText path) with
  | .file _ => .ok (.ofText path)
  | _ => .error (.badValue path)

/-- The command of a name with its options and operands. -/
def ofArguments (fs : Files) (name : String) (a : Arguments) : Except UsageError Command :=
  match name, a.operands with
  | "init-db", [] => .ok (.initDb (wantsSeed a))
  | "rules", [customer] => .ok (.rules customer)
  | "classify", [customer] => do
    let amount ← amountOf (a.value? "amount")
    let transaction : Transaction :=
      { merchant := textOf (a.value? "merchant"), merchantType := textOf (a.value? "merchant-type")
        amount := amount, location := textOf (a.value? "location") }
    return .classify customer transaction (a.has "save")
  | "classify-batch", [customer, file] => do
    return .classifyBatch customer (← fileOf fs file) (a.has "save")
  | name, given =>
    match (operands name).drop given.length with
    | operand :: _ => .error (.missing operand)
    | [] => .error (.unexpected (given.drop (operands name).length))

/-- The command that the words behind its name ask for. -/
def ofWords (fs : Files) (name : String) (words : List String) : Except NoCommand Command := do
  let a ← (Arguments.ofWords (forms name) true words).mapError .usage
  if a.has "help" then throw .help
  (ofArguments fs name a).mapError .usage

end Command

end TransactionRules
