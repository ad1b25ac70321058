/-!
# Pieces of text

Dotted names and paths are texts with one character between their parts.
-/

namespace TransactionRules

/-- The parts of a text between the places where a character stands. -/
def pieces (separator : Char) (s : String) : List String :=
  (s.toList.splitOn separator).map String.ofList

end TransactionRules
