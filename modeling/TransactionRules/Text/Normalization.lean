import TransactionRules.Text.Ranges
import TransactionRules.Text.Normalization.Table

/-!
# Compatibility normalization

Identifiers that look alike or mean the same are one identifier: its characters are decomposed with
their compatibility mappings, marks are put in the order of their combining classes, and what can be
composed is composed. ASCII is left as it is.
-/

namespace TransactionRules.Normalization

/-- A run of consecutive characters with its value. -/
structure Run where
  start : Nat
  length : Nat
  value : Nat
deriving Repr

def runs : Nat → List Nat → List Run
  | start, gap :: length :: value :: rest =>
    ⟨start + gap, length, value⟩ :: runs (start + gap + length) rest
  | _, _ => []

def find? (table : List Run) (n : Nat) : Option (Run × Nat) :=
  (table.find? fun run => run.start ≤ n && n < run.start + run.length).map fun run =>
    (run, n - run.start)

/-- The first character's gap and length are read, then that many characters. -/
def long : Nat → Nat → List Nat → List (Nat × List Nat)
  | 0, _, _ => []
  | fuel + 1, start, gap :: length :: rest =>
    (start + gap, rest.take length) :: long fuel (start + gap + 1) (rest.drop length)
  | _, _, _ => []

def runTable : List Run := runs 0 (CharRanges.numbers decompositionRuns)

def longTable : List (Nat × List Nat) :=
  let numbers := CharRanges.numbers longDecompositions
  long numbers.length 0 numbers

def classTable : List Run := runs 0 (CharRanges.numbers combiningClasses)

def triples : List Nat → List (Nat × Nat × Nat)
  | a :: b :: c :: rest => (a, b, c) :: triples rest
  | _ => []

def compositionTable : List (Nat × Nat × Nat) := triples (CharRanges.numbers compositions)

/-- Syllables of the Korean script are laid out by their leading, vowel and trailing parts. -/
def syllable (n : Nat) : List Nat :=
  let i := n - 0xac00
  let trail := i % 28
  [0x1100 + i / 588, 0x1161 + i % 588 / 28] ++ (if trail = 0 then [] else [0x11a7 + trail])

def decompose (n : Nat) : List Nat :=
  if n < 128 then [n]
  else if 0xac00 ≤ n && n < 0xd7a4 then syllable n
  else match find? runTable n with
    | some (run, i) => [run.value + i]
    | none => match longTable.find? (·.1 == n) with
      | some (_, parts) => parts
      | none => [n]

def combiningClass (n : Nat) : Nat :=
  if n < 128 then 0 else ((find? classTable n).map (·.1.value)).getD 0

/-- Inserts a mark behind the marks before it that have no greater class; `done` is reversed. -/
def insertMark (n k : Nat) : List (Nat × Nat) → List (Nat × Nat)
  | (m, j) :: done => if k < j then (m, j) :: insertMark n k done else (n, k) :: (m, j) :: done
  | [] => [(n, k)]

/-- Marks in the order of their classes, with their classes. -/
def reorder (ns : List Nat) : List (Nat × Nat) :=
  (ns.foldl (fun done n =>
    let k := combiningClass n
    if k = 0 then (n, 0) :: done else insertMark n k done) []).reverse

def compose? (a b : Nat) : Option Nat :=
  if 0x1100 ≤ a && a < 0x1113 && 0x1161 ≤ b && b < 0x1176 then
    some (0xac00 + ((a - 0x1100) * 21 + (b - 0x1161)) * 28)
  else if 0xac00 ≤ a && a < 0xd7a4 && (a - 0xac00) % 28 == 0 && 0x11a8 ≤ b && b < 0x11c3 then
    some (a + (b - 0x11a7))
  else (compositionTable.find? fun (x, y, _) => x == a && y == b).map (·.2.2)

/-- The composition in progress: what is finished, the last starter with the marks behind it that
stay (reversed), and the class of the last of them. -/
structure Composing where
  done : List Nat := []
  starter : Option Nat := none
  marks : List Nat := []
  lastClass : Nat := 0

namespace Composing

def flush (s : Composing) : List Nat := s.done ++ s.starter.toList ++ s.marks.reverse

/-- A character composes with the starter unless a mark of its class or a higher one, or any
character if it is a starter itself, stands between them. -/
def push (s : Composing) (n k : Nat) : Composing :=
  let blocked := !s.marks.isEmpty && (s.lastClass ≥ k)
  match s.starter, if blocked then none else s.starter.bind (compose? · n) with
  | some _, some c => { s with starter := some c }
  | _, _ =>
    if k = 0 then ⟨s.flush, some n, [], 0⟩ else { s with marks := n :: s.marks, lastClass := k }

end Composing

def compose (ns : List (Nat × Nat)) : List Nat :=
  (ns.foldl (fun s (n, k) => Composing.push s n k) {}).flush

/-- The normal form of a text under compatibility decomposition and composition. -/
def normalize (cs : List Char) : List Char :=
  if cs.all (·.toNat < 128) then cs
  else (compose (reorder (cs.flatMap fun c => decompose c.toNat))).map Char.ofNat

end TransactionRules.Normalization
