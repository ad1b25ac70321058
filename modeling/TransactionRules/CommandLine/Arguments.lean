/-!
# Arguments

The words behind a command are options and operands. An option is spelled with two dashes and a name
or with one dash and a letter; letters may share a dash, and a value follows in the same word or in
the next one. Behind two bare dashes all words are operands.
-/

namespace TransactionRules

/-- An option under its name; `takesValue` tells whether a value follows. -/
structure OptionForm where
  name : String
  letter : Option Char := none
  takesValue : Bool := false
deriving Repr

/-- What is wrong with the words of a command line. -/
inductive UsageError where
  | noSuchOption (option : String)
  | noValue (option : String)
  | needlessValue (option : String)
  | missing (operand : String)
  | unexpected (operands : List String)
  | badValue (value : String)
  | noCommand
  | noSuchCommand (name : String)
deriving DecidableEq, Repr

namespace UsageError

def message : UsageError → String
  | .noSuchOption option => s!"No such option: {option}"
  | .noValue option => s!"Option {option} requires an argument."
  | .needlessValue option => s!"Option {option} does not take a value."
  | .missing operand => s!"Missing argument {operand}."
  | .unexpected operands => "Got unexpected extra arguments: " ++ " ".intercalate operands
  | .badValue value => s!"Invalid value: {value}"
  | .noCommand => "Missing command."
  | .noSuchCommand name => s!"No such command: {name}"

end UsageError

/-- Options with their values, in the order of the words, and operands. -/
structure Arguments where
  options : List (String × Option String) := []
  operands : List String := []
deriving DecidableEq, Repr

namespace Arguments

/-- Whether an option is given. -/
def has (a : Arguments) (name : String) : Bool := a.options.any (·.1 == name)

/-- The value of an option: the last one counts. -/
def value? (a : Arguments) (name : String) : Option String :=
  (a.options.reverse.lookup name).join

/-- Options that are complete, and the name of one whose value is the next word. -/
abbrev Spelled := List (String × Option String) × Option String

/-- Letters that share a dash. -/
def letters (forms : List OptionForm) : List Char → Except UsageError Spelled
  | [] => .ok ([], none)
  | c :: cs =>
    match forms.find? (·.letter == some c) with
    | none => .error (.noSuchOption (String.ofList ['-', c]))
    | some form =>
      if form.takesValue then
        if cs.isEmpty then .ok ([], some form.name)
        else .ok ([(form.name, some (String.ofList cs))], none)
      else do
        let (options, open?) ← letters forms cs
        return ((form.name, none) :: options, open?)

/-- A word that is an option. -/
def option (forms : List OptionForm) (word : String) : Except UsageError Spelled :=
  let name := String.ofList (word.toList.takeWhile (· != '='))
  let value := match word.toList.dropWhile (· != '=') with
    | _ :: cs => some (String.ofList cs)
    | [] => none
  match forms.find? fun form => "--" ++ form.name == name, value with
  | some form, some v =>
    if form.takesValue then .ok ([(form.name, some v)], none) else .error (.needlessValue name)
  | some form, none =>
    if form.takesValue then .ok ([], some form.name) else .ok ([(form.name, none)], none)
  | none, _ =>
    if word.startsWith "--" then .error (.noSuchOption name)
    else letters forms (word.toList.drop 1)

/-- A bare dash is no option. -/
def isOption (word : String) : Bool := word.startsWith "-" && word != "-"

/-- The options and operands of some words. Where they are not `mixed`, the first operand ends the
options. -/
def ofWords (forms : List OptionForm) (mixed : Bool) : List String → Except UsageError Arguments
  | [] => .ok {}
  | word :: rest =>
    if word == "--" then .ok { operands := rest }
    else if isOption word then do
      match ← option forms word, rest with
      | (options, none), rest =>
        let more ← ofWords forms mixed rest
        return { more with options := options ++ more.options }
      | (_, some _), [] => throw (.noValue word)
      | (options, some name), v :: rest =>
        let more ← ofWords forms mixed rest
        return { more with options := options ++ (name, some v) :: more.options }
    else if mixed then do
      let more ← ofWords forms mixed rest
      return { more with operands := word :: more.operands }
    else .ok { operands := word :: rest }

end Arguments

end TransactionRules
