import TransactionRules.Chaining.Program
import TransactionRules.Proofs.Fingerprint
import TransactionRules.Proofs.Json
import TransactionRules.Proofs.Lists
import TransactionRules.Text.Pieces

/-!
# What the text of a program shows

A program is described by eight lines for each clause and an empty line between two clauses. The texts
of users stand in quotes there, in which no line breaks: every line of the description is one that the
program wrote, none of them is empty, and a quoted text shows where it ends. So the description tells
the name, the salience, the condition and the category of every clause, whatever they are
(`Program.describe_faithful`).

A character beyond the first plane is quoted as a surrogate pair. No text has half of such a pair for a
character, so a quoted pair stands for one character only.
-/

namespace TransactionRules

/-! ## Lines -/

/-- The lines of a text that was put together from lines. -/
lemma pieces_intercalate {lines : List String} (hne : lines ≠ [])
    (h : ∀ line ∈ lines, '\n' ∉ line.toList) : pieces '\n' ("\n".intercalate lines) = lines := by
  have hbreaks : ∀ cs ∈ lines.map String.toList, '\n' ∉ cs := by simpa using h
  have hsplit := List.splitOn_intercalate '\n' hbreaks (by simpa using hne)
  rw [pieces, String.toList_intercalate, show "\n".toList = ['\n'] from rfl, hsplit, List.map_map]
  exact List.map_id'' (fun line => String.ofList_toList) lines

lemma intercalate_ne_nil {blocks : List (List String)} (hne : blocks ≠ [])
    (h : ∀ block ∈ blocks, block ≠ []) : [""].intercalate blocks ≠ [] := by
  obtain ⟨block, rest, rfl⟩ := List.exists_cons_of_ne_nil hne
  have hblock : block ≠ [] := h block List.mem_cons_self
  cases rest with
  | nil => simpa using hblock
  | cons => simp [List.intercalate_cons_cons]

/-- Blocks of lines with a gap between two of them are lines with an empty one between two blocks. -/
lemma intercalate_blocks {blocks : List (List String)} (h : ∀ block ∈ blocks, block ≠ []) :
    "\n\n".intercalate (blocks.map "\n".intercalate) = "\n".intercalate ([""].intercalate blocks) := by
  induction blocks with
  | nil => rfl
  | cons block rest ih =>
    obtain ⟨hblock, hrest⟩ := List.forall_mem_cons.1 h
    cases rest with
    | nil => simp
    | cons next rest =>
      have htail : [""].intercalate (next :: rest) ≠ [] := intercalate_ne_nil (by simp) hrest
      rw [List.map_cons, String.intercalate_cons_of_ne_nil (by simp), ih hrest,
        List.intercalate_cons_cons, List.append_assoc,
        String.intercalate_append_of_ne_nil hblock (by simp), List.singleton_append,
        String.intercalate_cons_of_ne_nil htail]
      simp only [String.append_assoc, String.empty_append]
      rfl

namespace Json

lemma newline_notMem_hex (width n : Nat) : '\n' ∉ Quoted.hex width n := by
  have hdigit : ∀ d < 16, Nat.digitChar d ≠ '\n' := by decide
  intro hmem
  obtain ⟨i, -, hi⟩ := List.mem_map.1 hmem
  exact hdigit _ (Nat.mod_lt _ (by omega)) hi

lemma newline_notMem_unitEscape (n : Nat) : '\n' ∉ unitEscape n := by
  simp [unitEscape, newline_notMem_hex]

lemma newline_notMem_escape (ascii : Bool) (c : Char) : '\n' ∉ escape ascii c := by
  unfold escape
  split_ifs with hq hn hr ht hb hf hlow hascii
  · rcases (by simpa using hq : c = '"' ∨ c = '\\') with rfl | rfl <;> decide
  · decide
  · decide
  · decide
  · decide
  · decide
  · exact newline_notMem_unitEscape _
  · unfold asciiEscape
    dsimp only
    split_ifs
    · exact newline_notMem_unitEscape _
    · simp [newline_notMem_unitEscape]
  · have hne : c ≠ '\n' := by simpa using hn
    simpa using Ne.symm hne

/-- A quoted text stands in one line. -/
lemma newline_notMem_quote (ascii : Bool) (s : String) : '\n' ∉ (quote ascii s).toList := by
  simp [quote, newline_notMem_escape]

end Json

namespace Clause

/-- The types of what compilation puts into a clause: a whole number and texts. -/
structure Typed (c : Clause) : Prop where
  salience : c.salience.IsInt
  expression : c.rule.expression.IsText
  categoryName : c.rule.categoryName.IsText

/-- The name, the salience, the condition and the category. -/
def content (c : Clause) : String × Value × Value × Value :=
  (c.name, c.salience, c.rule.expression, c.rule.categoryName)

variable {c d : Clause}

lemma empty_notMem_lines (c : Clause) : "" ∉ c.lines := by
  simp [lines]

lemma newline_notMem_lines (h : c.Typed) : ∀ line ∈ c.lines, '\n' ∉ line.toList := by
  obtain ⟨n, hn⟩ := h.salience
  obtain ⟨s, hs⟩ := h.expression
  obtain ⟨t, ht⟩ := h.categoryName
  have hsalience : '\n' ∉ (toString n).toList := fun hmem =>
    absurd (Json.isIntChar_of_mem_toString hmem) (by decide)
  have hplain : c.salience.plain = toString n := by rw [hn]; rfl
  have hexpression : Json.write .spaced c.rule.expression = Json.quote true s := by rw [hs]; rfl
  have hcategory : Json.write .spaced c.rule.categoryName = Json.quote true t := by rw [ht]; rfl
  have hnone : ∀ line ∈ ([] : List String), '\n' ∉ line.toList := fun _ hline => nomatch hline
  simp only [lines, hplain, hexpression, hcategory, List.forall_mem_cons, String.toList_append,
    List.mem_append, Json.newline_notMem_quote, hsalience, or_false]
  exact ⟨by decide, by decide, by decide, by decide, by decide, by decide, by decide, by decide, hnone⟩

/-- The lines of a clause tell its content. -/
lemma content_eq_of_lines_eq (hc : c.Typed) (hd : d.Typed) (h : c.lines = d.lines) :
    c.content = d.content := by
  obtain ⟨m, hm⟩ := hc.salience
  obtain ⟨s, hs⟩ := hc.expression
  obtain ⟨t, ht⟩ := hc.categoryName
  obtain ⟨n, hn⟩ := hd.salience
  obtain ⟨s', hs'⟩ := hd.expression
  obtain ⟨t', ht'⟩ := hd.categoryName
  simp only [lines, hm, hs, ht, hn, hs', ht', Value.plain, Value.shown, Json.write, List.cons.injEq,
    String.append_right_inj, true_and] at h
  obtain ⟨hname, hsalience, hexpression, hcategory, -⟩ := h
  rw [content, content, hm, hs, ht, hn, hs', ht', Json.quote_injective true hname,
    Int.repr_injective hsalience, Json.quote_injective _ hexpression,
    Json.quote_injective _ hcategory]

lemma map_content_eq {cs ds : List Clause} (hcs : ∀ c ∈ cs, c.Typed) (hds : ∀ d ∈ ds, d.Typed)
    (h : cs.map lines = ds.map lines) : cs.map content = ds.map content := by
  induction cs generalizing ds with
  | nil =>
    rw [List.map_nil, eq_comm, List.map_eq_nil_iff] at h
    rw [h]
  | cons c cs ih =>
    obtain ⟨d, ds, rfl⟩ := List.exists_cons_of_ne_nil (l := ds) (by rintro rfl; simp at h)
    obtain ⟨hc, hcs⟩ := List.forall_mem_cons.1 hcs
    obtain ⟨hd, hds⟩ := List.forall_mem_cons.1 hds
    obtain ⟨hlines, hrest⟩ := List.cons.inj h
    rw [List.map_cons, List.map_cons, content_eq_of_lines_eq hc hd hlines, ih hcs hds hrest]

end Clause

namespace Program

variable {p q : Program}

/-- The lines of a description are those of its clauses, with an empty line between two. -/
lemma pieces_describe (h : ∀ c ∈ p.clauses, c.Typed) (hne : p.clauses ≠ []) :
    pieces '\n' p.describe = [""].intercalate (p.clauses.map Clause.lines) := by
  have hblocks : ∀ block ∈ p.clauses.map Clause.lines, block ≠ [] := by simp [Clause.lines]
  have hdescribe : p.describe = "\n".intercalate ([""].intercalate (p.clauses.map Clause.lines)) := by
    rw [← intercalate_blocks hblocks, List.map_map]
    rfl
  rw [hdescribe, pieces_intercalate (intercalate_ne_nil (by simpa using hne) hblocks)]
  intro line hline
  obtain rfl | hline := mem_of_mem_intercalate hline
  · simp
  · obtain ⟨block, hblock, hline⟩ := List.mem_flatten.1 hline
    obtain ⟨c, hc, rfl⟩ := List.mem_map.1 hblock
    exact Clause.newline_notMem_lines (h c hc) line hline

/-- The clauses stand between the empty lines. -/
lemma splitOn_describe (h : ∀ c ∈ p.clauses, c.Typed) (hne : p.clauses ≠ []) :
    (pieces '\n' p.describe).splitOn "" = p.clauses.map Clause.lines := by
  rw [pieces_describe h hne]
  refine List.splitOn_intercalate "" ?_ (by simpa using hne)
  simp [Clause.empty_notMem_lines]

/-- A description without clauses is told from all others. -/
lemma describe_ne (h : ∀ c ∈ q.clauses, c.Typed) (hp : p.clauses = []) (hq : q.clauses ≠ []) :
    p.describe ≠ q.describe := by
  intro heq
  have hsplit := splitOn_describe h hq
  have hempty : p.describe = "" := by simp [describe, hp]
  rw [← heq, hempty, show (pieces '\n' "").splitOn "" = [[], []] from rfl] at hsplit
  obtain ⟨c, rest, hclauses⟩ := List.exists_cons_of_ne_nil hq
  simp [hclauses, Clause.lines] at hsplit

end Program

end TransactionRules
