import TransactionRules.Value.Basic

/-!
# Packaged settings

The settings and the demo rules that are used where a user has not set anything else.
-/

namespace TransactionRules.Settings

def engineEntry (type className : String) : Value :=
  .map [("type", .text type), ("class", .text className)]

/-- The settings file that comes with the library. -/
def defaults : List (String × Value) := [
  ("engine", .text "forward_chaining"),
  ("engines", .list [
    engineEntry "forward_chaining"
      "transaction_classifier.engine.forward_chaining.ForwardChainingEngine",
    engineEntry "priority_expression"
      "transaction_classifier.engine.priority_expression.PriorityExpressionEngine"]),
  ("database", .map [("path", .text "data/rules.db")]),
  ("logging", .map [("level", .text "WARNING"), ("file", .null)])]

def seedCategory (name description : String) : Value :=
  .map [("name", .text name), ("description", .text description)]

def seedRule (name condition : String) (priority : Int) (customer category : String) : Value :=
  .map [("name", .text name), ("condition", .text condition), ("priority", .int priority),
    ("active", .bool true), ("customer_id", .text customer), ("category", .text category)]

/-- The demo categories and rules. -/
def demo : List (String × Value) := [
  ("categories", .list [
    seedCategory "High Electronics" "Expensive electronics purchases",
    seedCategory "Food" "Restaurants and dining",
    seedCategory "Travel" "Airlines and travel"]),
  ("rules", .list [
    seedRule "HighElectro" "amount > 500 && merchantType == \"ELECTRONICS\"" 10 "ngautam"
      "High Electronics",
    seedRule "Food" "merchantType == \"RESTAURANT\"" 10 "demo" "Food",
    seedRule "Travel" "merchantType == \"AIRLINE\"" 5 "demo" "Travel"])]

/-- The packaged files. -/
def packaged : List (String × Value) :=
  [("settings.json", .map defaults), ("seed_data.json", .map demo)]

end TransactionRules.Settings
