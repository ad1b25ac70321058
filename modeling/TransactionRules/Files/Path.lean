import TransactionRules.Text.Pieces

/-!
# Paths

A path is a list of names, from the root or from the working folder. Empty names and single dots
say nothing and are dropped; two dots stay, because what they mean depends on what is there.
-/

namespace TransactionRules

structure Path where
  absolute : Bool := false
  parts : List String := []
deriving DecidableEq, Inhabited, Repr

namespace Path

def ofText (s : String) : Path where
  absolute := s.startsWith "/"
  parts := (pieces '/' s).filter fun part => part != "" && part != "."

def text (p : Path) : String :=
  let rest := "/".intercalate p.parts
  if p.absolute then "/" ++ rest else if rest.isEmpty then "." else rest

/-- The path of a place, whose names start at the root if the first is a slash. -/
def ofPlace : List String → Path
  | "/" :: parts => ⟨true, parts⟩
  | parts => ⟨false, parts⟩

/-- `q` as seen from the folder `p`. -/
def join (p q : Path) : Path := if q.absolute then q else { p with parts := p.parts ++ q.parts }

def parent (p : Path) : Path := { p with parts := p.parts.dropLast }

end Path

end TransactionRules
