import TransactionRules.Engine.Basic
import TransactionRules.Text.Pieces

/-!
# Classes by their dotted names

Settings name the class of an engine by its module and its own name. The catalogue lists the modules
that can be named, and the classes in each.
-/

namespace TransactionRules

/-- What the name of a class stands for. -/
inductive EngineClass where
  | engine (e : Engine)
  /-- The class that all engines belong to; it has no instances of its own. -/
  | abstract
  /-- A thing that is no class of engines, as messages show it. -/
  | other (shown : String)
deriving DecidableEq, Repr

/-- Why the dotted name of a class leads nowhere. -/
inductive ClassNameError where
  | noModulePart
  | emptyModule
  | relativeModule (name : String)
  | noModule (name : String)
  | notPackage (name parent : String)
  | noMember (module name : String)
deriving DecidableEq, Repr

namespace ClassNameError

def message : ClassNameError → String
  | .noModulePart => "not enough values to unpack (expected 2, got 1)"
  | .emptyModule => "Empty module name"
  | .relativeModule name =>
    s!"the 'package' argument is required to perform a relative import for '{name}'"
  | .noModule name => s!"No module named '{name}'"
  | .notPackage name parent => s!"No module named '{name}'; '{parent}' is not a package"
  | .noMember module name => s!"module '{module}' has no attribute '{name}'"

end ClassNameError

namespace Catalogue

/-- A module and the names of the classes that are at home in it. -/
structure Module where
  name : String
  classes : List String
  isPackage : Bool := false

def home : String := "transaction_classifier"

def homeModules : List Module := [
  ⟨"", [], true⟩,
  ⟨".cli", ["State"], false⟩,
  ⟨".config", [], true⟩,
  ⟨".config.logger", [], false⟩,
  ⟨".config.settings", ["ConfigLoader"], false⟩,
  ⟨".database", [], true⟩,
  ⟨".database.connection", ["DatabaseConfig", "DatabaseManager"], false⟩,
  ⟨".database.seed", [], false⟩,
  ⟨".domain", [], true⟩,
  ⟨".domain.enums", ["EngineType"], false⟩,
  ⟨".domain.models", ["Category", "Rule", "Transaction"], false⟩,
  ⟨".engine", [], true⟩,
  ⟨".engine.base", ["EvaluationEngine", "RuleCompilationError", "RuleEngineError",
    "RuleEvaluationError", "UnsupportedOperationError"], false⟩,
  ⟨".engine.cache", ["CompiledRuleSetCache"], false⟩,
  ⟨".engine.compiler", ["ConditionCompiler", "ConditionSyntaxError"], false⟩,
  ⟨".engine.factory", ["EngineFactory"], false⟩,
  ⟨".engine.forward_chaining", ["ForwardChainingEngine", "RuleClause", "RuleProgram",
    "WorkingSession"], false⟩,
  ⟨".engine.priority_expression", ["PriorityExpressionEngine"], false⟩,
  ⟨".engine.ruleset", ["CompiledRule", "CompiledRuleSet"], false⟩,
  ⟨".repositories", [], true⟩,
  ⟨".repositories.base", ["CategoryNotFoundError", "CategoryRepository", "RuleNotFoundError",
    "RuleRepository", "TransactionRepository"], false⟩,
  ⟨".repositories.sqlite_rule_repository", ["SQLiteCategoryRepository", "SQLiteRuleRepository"],
    false⟩,
  ⟨".repositories.sqlite_transaction_repository", ["SQLiteTransactionRepository"], false⟩,
  ⟨".services", [], true⟩,
  ⟨".services.classifier", ["TransactionClassifier"], false⟩,
  ⟨".services.models", ["ClassificationSummary"], false⟩]

/-- The classes that a module uses from elsewhere, and that can be named there as well. -/
def borrowed : List (String × List String) := [
  (".engine", ["CompiledRule", "CompiledRuleSet", "CompiledRuleSetCache", "ConditionCompiler",
    "EngineFactory", "EvaluationEngine", "ForwardChainingEngine", "PriorityExpressionEngine",
    "RuleCompilationError", "RuleEngineError", "RuleEvaluationError", "UnsupportedOperationError",
    "WorkingSession"]),
  (".engine.base", ["CompiledRule", "CompiledRuleSet", "Transaction"]),
  (".engine.cache", ["CompiledRuleSet", "ConditionCompiler", "EvaluationEngine", "Rule",
    "RuleRepository"]),
  (".engine.compiler", ["CompiledRule", "Rule", "RuleCompilationError", "Transaction"]),
  (".engine.factory", ["ConfigLoader", "EngineType", "EvaluationEngine"]),
  (".engine.forward_chaining", ["CompiledRule", "CompiledRuleSet", "EvaluationEngine",
    "Transaction"]),
  (".engine.priority_expression", ["CompiledRule", "CompiledRuleSet", "EvaluationEngine",
    "Transaction"]),
  (".engine.ruleset", ["Rule", "Transaction"]),
  (".services.classifier", ["CompiledRuleSetCache", "EngineFactory", "EvaluationEngine", "Rule",
    "RuleRepository", "Transaction", "UnsupportedOperationError"]),
  (".services.models", ["Transaction"]),
  (".database.seed", ["Category", "CategoryNotFoundError", "ConfigLoader", "DatabaseManager",
    "Rule", "SQLiteCategoryRepository", "SQLiteRuleRepository"]),
  (".cli", ["ClassificationSummary", "CompiledRuleSetCache", "ConfigLoader", "DatabaseConfig",
    "DatabaseManager", "EngineFactory", "EngineType", "SQLiteRuleRepository",
    "SQLiteTransactionRepository", "Transaction", "TransactionClassifier"])]

/-- Classes that can be named in the module of the built-in ones. -/
def builtins : List String := [
  "ArithmeticError", "AssertionError", "AttributeError", "BaseException", "BufferError",
  "EOFError", "Exception", "ImportError", "IndexError", "KeyError", "KeyboardInterrupt",
  "LookupError", "MemoryError", "ModuleNotFoundError", "NameError", "NotImplementedError",
  "OSError", "OverflowError", "RecursionError", "RuntimeError", "StopIteration", "SyntaxError",
  "SystemError", "SystemExit", "TypeError", "UnicodeError", "ValueError", "ZeroDivisionError",
  "bool", "bytearray", "bytes", "classmethod", "complex", "dict", "enumerate", "filter", "float",
  "frozenset", "int", "list", "map", "memoryview", "object", "property", "range", "reversed",
  "set", "slice", "staticmethod", "str", "super", "tuple", "type", "zip"]

/-- What messages show for a class of a module. -/
def classText (module name : String) : String :=
  if name == "EngineType" then "<enum 'EngineType'>" else s!"<class '{module}.{name}'>"

/-- The class of a name that is at home in a module. -/
def classOf (module name : String) : EngineClass :=
  match name with
  | "ForwardChainingEngine" => .engine .forwardChaining
  | "PriorityExpressionEngine" => .engine .firstMatch
  | "EvaluationEngine" => .abstract
  | name => .other (classText (home ++ module) name)

/-- A class by its own name, whichever module it is at home in. -/
def anywhere? (name : String) : Option EngineClass :=
  (homeModules.find? (·.classes.contains name)).map fun m => classOf m.name name

def member? (m : Module) (name : String) : Option EngineClass :=
  if m.classes.contains name then some (classOf m.name name)
  else if ((borrowed.lookup m.name).getD []).contains name then anywhere? name
  else none

/-- The dotted names that lead to a module, from the first part on. -/
def ancestors (parts : List String) : List String :=
  (List.range parts.length).map fun n => ".".intercalate (parts.take (n + 1))

/-- The modules on the way to a dotted name are looked up from the outside inward. -/
def findModule (name : String) : Except ClassNameError Module :=
  if name.isEmpty then .error .emptyModule
  else if name.startsWith "." then .error (.relativeModule name)
  else
    let step (found : Option Module) (path : String) : Except ClassNameError (Option Module) :=
      match homeModules.find? (fun m => home ++ m.name == path) with
      | some m => .ok (some m)
      | none => match found with
        | some m =>
          if m.isPackage then .error (.noModule path) else .error (.notPackage path (home ++ m.name))
        | none => .error (.noModule path)
    match (ancestors (pieces '.' name)).foldlM step none with
    | .ok (some m) => .ok m
    | .ok none => .error (.noModule name)
    | .error e => .error e

/-- The module and the own name in the dotted name of a class. -/
def splitName? (name : String) : Option (String × String) :=
  match (pieces '.' name).reverse with
  | own :: rest => if rest.isEmpty then none else some (".".intercalate rest.reverse, own)
  | [] => none

def find (name : String) : Except ClassNameError EngineClass :=
  match splitName? name with
  | none => .error .noModulePart
  | some ("builtins", own) =>
    if builtins.contains own then .ok (.other s!"<class '{own}'>")
    else .error (.noMember "builtins" own)
  | some (module, own) => do
    let m ← findModule module
    match member? m own with
    | some c => return c
    | none => .error (.noMember module own)

end Catalogue

end TransactionRules
