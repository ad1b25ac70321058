import TransactionRules.CommandLine.App

/-!
# Layout

What a command prints as plain lines: markup is left out, the columns of a table are as wide as
their widest cell, and a panel is a text under its title.
-/

namespace TransactionRules

namespace Markup

/-- Whether a tag may start with a character. -/
def startsTag (c : Char) : Bool := ('a' ≤ c && c ≤ 'z') || c == '/' || c == '#' || c == '@'

/-- What is left behind a tag, the bracket of which is already read. -/
def behindTag? (cs : List Char) : Option (List Char) :=
  if cs.head?.any startsTag then
    match cs.dropWhile fun c => c != '[' && c != ']' with
    | ']' :: rest => some rest
    | _ => none
  else none

theorem length_behindTag? {cs rest : List Char} (h : behindTag? cs = some rest) :
    rest.length < cs.length := by
  simp only [behindTag?] at h
  split at h
  · split at h
    · next heq =>
      cases h
      have := List.Sublist.length_le (List.dropWhile_sublist (fun c => c != '[' && c != ']') (l := cs))
      rw [heq] at this
      exact this
    · cases h
  · cases h

/-- A text without its tags. -/
def plain (cs : List Char) : List Char :=
  match cs with
  | [] => []
  | c :: cs =>
    if c == '[' then
      match h : behindTag? cs with
      | some rest =>
        have := length_behindTag? h
        plain rest
      | none => c :: plain cs
    else c :: plain cs
termination_by cs.length

def text (s : String) : String := String.ofList (plain s.toList)

end Markup

namespace Layout

/-- A text with blanks up to a width. -/
def padded (width : Nat) (s : String) : String :=
  s ++ String.ofList (List.replicate (width - s.length) ' ')

/-- How wide the columns of some rows are. -/
def widths (rows : List (List String)) : List Nat :=
  rows.foldl (fun widths row => (widths.zip row).map fun (w, cell) => max w cell.length)
    ((rows.head?.getD []).map fun _ => 0)

def row (widths : List Nat) (cells : List String) : String :=
  "  ".intercalate (widths.zipWith padded cells)

def table (columns : List String) (rows : List (List String)) : List String :=
  let rows := rows.map (·.map Markup.text)
  let widths := widths (columns :: rows)
  let rule := widths.map fun w => String.ofList (List.replicate w '-')
  row widths columns :: row widths rule :: rows.map (row widths)

def lines : Printed → List String
  | .line s => [Markup.text s]
  | .table title columns rows => title.toList.map Markup.text ++ table columns rows
  | .panel s title => title.toList.map Markup.text ++ (Markup.text s).splitOn "\n"
  | .origin e => ["Caused by: " ++ e.message]

/-- What is said about the end of a command. -/
def ending : Ending → List String
  | .done | .failed => []
  | .misused e => [e.message]
  | .helped => ["Commands: " ++ ", ".intercalate Invocation.commands]
  | .crashed e => ["Error: " ++ e.message]

end Layout

end TransactionRules
