import TransactionRules.Rule.Fingerprint
import TransactionRules.Proofs.Json
import TransactionRules.Proofs.Sorting

/-!
# What a fingerprint says of the rules

The text behind a fingerprint lists what compilation reads of each rule, sorted by a key. Rules of the
types that the library's own callers use have one such text for each multiset of rows
(`perm_of_content_eq`), so two fingerprints that agree come from the same rows, unless the digest
collides. The key leaves the category out. Rules whose key decides it have the same text in every order
(`content_eq_of_unambiguous`), so above all those that are told apart by their ids (`content_eq_of_perm`).
-/

namespace TransactionRules

namespace Value

/-- A whole number, not a flag. -/
def IsInt (v : Value) : Prop := ∃ n : Int, v = .int n

def IsText (v : Value) : Prop := ∃ s : String, v = .text s

/-- The whole number that a value holds, if it is one. -/
def toInt : Value → Int
  | .int n => n
  | _ => 0

/-- The text that a value holds, if it is one. -/
def toText : Value → String
  | .text s => s
  | _ => ""

@[simp] lemma equal_int (m n : Int) : equal (.int m) (.int n) = decide (m = n) := by
  simp only [equal, quantity?, Exact.order_ofInt]
  by_cases h : m = n
  · simp [h]
  · simp [h]

@[simp] lemma equal_text (s t : String) : equal (.text s) (.text t) = decide (s = t) := by
  simp [equal, Bool.beq_eq_decide_eq]

@[simp] lemma equal_bool (a b : Bool) : equal (.bool a) (.bool b) = decide (a = b) := by
  cases a <;> cases b <;> rfl

@[simp] lemma ordered_lt_int (m n : Int) :
    ordered .lt (.int m) (.int n) = .ok (decide (m < n)) := by
  simp only [ordered, quantity?, Exact.order_ofInt, Option.any_some, Comparison.holds]
  by_cases h : m < n
  · simp [h, compare_lt_iff_lt.2 h]
  · have hne : Ord.compare m n ≠ .lt := fun hc => h (compare_lt_iff_lt.1 hc)
    simp [h, hne]

@[simp] lemma ordered_lt_text (s t : String) :
    ordered .lt (.text s) (.text t) = .ok (decide (s < t)) := by
  simp only [ordered, textOrder, Comparison.holds]
  split_ifs <;> simp_all

@[simp] lemma ordered_lt_bool (a b : Bool) :
    ordered .lt (.bool a) (.bool b) = .ok (decide (a < b)) := by
  cases a <;> cases b <;> rfl

end Value

namespace Rule

namespace Row

/-- The types of what the library's own callers put into a row. -/
structure Typed (r : Row) : Prop where
  id : r.id = .null ∨ r.id.IsInt
  condition : r.condition.IsText
  priority : r.priority.IsInt
  categoryId : r.categoryId = .null ∨ r.categoryId.IsInt
  categoryName : r.categoryName = .null ∨ r.categoryName.IsText

/-- The key of a row in a linear order. -/
def sortKey (r : Row) : Bool ×ₗ Int ×ₗ String ×ₗ Int :=
  toLex (r.id.isNull, toLex (r.id.toInt, toLex (r.condition.toText, r.priority.toInt)))

lemma key_eq {r : Row} (h : r.Typed) :
    r.key = [.bool r.id.isNull, .int r.id.toInt, .text r.condition.toText, .int r.priority.toInt] := by
  obtain ⟨s, hs⟩ := h.condition
  obtain ⟨p, hp⟩ := h.priority
  rcases h.id with hid | ⟨n, hid⟩
  · simp [key, hid, hs, hp, Value.isNull, Value.orElse, Value.truthy, Value.toInt, Value.toText]
  · simp only [key, hid, hs, hp, Value.isNull, Value.orElse, Value.truthy, Value.toInt, Value.toText]
    split_ifs with hn
    · rfl
    · simp_all

lemma before_eq {a b : Row} (ha : a.Typed) (hb : b.Typed) :
    before a b = .ok (decide (a.sortKey < b.sortKey)) := by
  simp only [before, key_eq ha, key_eq hb, sortKey, Prod.Lex.toLex_lt_toLex, Value.orderedItems,
    Value.equal_bool, Value.equal_int, Value.equal_text, Value.ordered_lt_bool,
    Value.ordered_lt_int, Value.ordered_lt_text, Comparison.holds]
  split_ifs <;> simp_all

/-- The key of a row tells its id, its condition and its priority, and nothing of its category. -/
lemma sortKey_eq_iff {a b : Row} (ha : a.Typed) (hb : b.Typed) :
    a.sortKey = b.sortKey ↔ a.id = b.id ∧ a.condition = b.condition ∧ a.priority = b.priority := by
  obtain ⟨s, hs⟩ := ha.condition
  obtain ⟨t, ht⟩ := hb.condition
  obtain ⟨p, hp⟩ := ha.priority
  obtain ⟨q, hq⟩ := hb.priority
  have hid : (a.id.isNull = b.id.isNull ∧ a.id.toInt = b.id.toInt) ↔ a.id = b.id := by
    rcases ha.id with ha | ⟨m, ha⟩ <;> rcases hb.id with hb | ⟨n, hb⟩ <;>
      simp [ha, hb, Value.isNull, Value.toInt]
  simp only [sortKey, EmbeddingLike.apply_eq_iff_eq, Prod.mk.injEq, ← hid, hs, ht, hp, hq, Value.toText,
    Value.toInt, Value.text.injEq, Value.int.injEq, and_assoc]

lemma plain_value {r : Row} (h : r.Typed) : Json.Plain r.value := by
  refine .list _ fun v hv => ?_
  obtain ⟨s, hs⟩ := h.condition
  obtain ⟨p, hp⟩ := h.priority
  simp only [List.mem_cons, List.not_mem_nil, or_false] at hv
  rcases hv with rfl | rfl | rfl | rfl | rfl
  · rcases h.id with h | ⟨n, h⟩ <;> rw [h] <;> constructor
  · rw [hs]; constructor
  · rw [hp]; constructor
  · rcases h.categoryId with h | ⟨n, h⟩ <;> rw [h] <;> constructor
  · rcases h.categoryName with h | ⟨n, h⟩ <;> rw [h] <;> constructor

lemma value_injective : Function.Injective value := by
  intro a b h
  cases a
  cases b
  simpa [value] using h

/-- Rows in the order of their keys. -/
lemma exists_sorted {rows : List Row} (h : ∀ r ∈ rows, r.Typed) :
    ∃ sorted, Insertion.sort before rows = .ok sorted ∧ sorted.Perm rows ∧
      sorted.Pairwise (sortKey · ≤ sortKey ·) :=
  Insertion.sort_sorted rows fun a ha b hb => before_eq (h a ha) (h b hb)

end Row

/-- Different lists of rows have different payloads. -/
lemma payload_inj {rows rows' : List Row} (h : ∀ r ∈ rows, r.Typed) (h' : ∀ r ∈ rows', r.Typed)
    (heq : payload rows = payload rows') : rows = rows' := by
  have hplain {rows : List Row} (h : ∀ r ∈ rows, r.Typed) :
      Json.Plain (.list (rows.map Row.value)) := by
    refine .list _ fun v hv => ?_
    obtain ⟨r, hr, rfl⟩ := List.mem_map.1 hv
    exact Row.plain_value (h r hr)
  have hlist := Json.write_inj (hplain h) (hplain h') heq
  exact List.map_injective_iff.2 Row.value_injective (Value.list.inj hlist)

/-- The text that the fingerprint of some rules is the digest of. -/
def content (rules : List Rule) : Except Fault String :=
  (Insertion.sort Row.before (rules.map row)).map payload

lemma fingerprint_eq (rules : List Rule) :
    fingerprint rules = (content rules).map Sha256.ofText := by
  simp only [fingerprint, content]
  cases Insertion.sort Row.before (rules.map row) <;> rfl

/-- What the library's own callers put into the fields of a rule that compilation reads. -/
structure Typed (r : Rule) : Prop where
  id : r.id = .null ∨ r.id.IsInt
  condition : r.condition.IsText
  priority : r.priority.IsInt
  categoryId : ∀ c ∈ r.category, c.id = .null ∨ c.id.IsInt
  categoryName : ∀ c ∈ r.category, c.name.IsText

lemma Typed.row {r : Rule} (h : r.Typed) : r.row.Typed where
  id := h.id
  condition := h.condition
  priority := h.priority
  categoryId := by
    cases hc : r.category with
    | none => simp [Rule.row, hc]
    | some c => simpa [Rule.row, hc] using h.categoryId c hc
  categoryName := by
    cases hc : r.category with
    | none => simp [Rule.row, hc]
    | some c => exact .inr (by simpa [Rule.row, hc] using h.categoryName c hc)

lemma typed_rows {rules : List Rule} (h : ∀ r ∈ rules, r.Typed) : ∀ r ∈ rules.map row, r.Typed := by
  intro r hr
  obtain ⟨rule, hrule, rfl⟩ := List.mem_map.1 hr
  exact (h rule hrule).row

lemma exists_content {rules : List Rule} (h : ∀ r ∈ rules, r.Typed) :
    ∃ text, content rules = .ok text := by
  obtain ⟨sorted, hsort, -, -⟩ := Row.exists_sorted (typed_rows h)
  exact ⟨payload sorted, by simp [content, hsort]⟩

/-- Rules with one content have the same rows, each as often. -/
theorem perm_of_content_eq {rules rules' : List Rule} (h : ∀ r ∈ rules, r.Typed)
    (h' : ∀ r ∈ rules', r.Typed) (heq : content rules = content rules') :
    (rules.map row).Perm (rules'.map row) := by
  obtain ⟨sorted, hsort, hperm, -⟩ := Row.exists_sorted (typed_rows h)
  obtain ⟨sorted', hsort', hperm', -⟩ := Row.exists_sorted (typed_rows h')
  simp only [content, hsort, hsort', Outcome.ok_map, Except.ok.injEq] at heq
  have hrows : sorted = sorted' :=
    payload_inj (fun r hr => typed_rows h r (hperm.mem_iff.1 hr))
      (fun r hr => typed_rows h' r (hperm'.mem_iff.1 hr)) heq
  rw [hrows] at hperm
  exact hperm.symm.trans hperm'

/-- Rules of one id, one condition and one priority have one category, as far as compilation reads it:
the key of a row decides the row. -/
def Unambiguous (rules : List Rule) : Prop :=
  ∀ a ∈ rules, ∀ b ∈ rules, a.id = b.id → a.condition = b.condition → a.priority = b.priority →
    a.row = b.row

/-- Rules whose rows are decided by their keys have one content in every order. -/
theorem content_eq_of_unambiguous {rules rules' : List Rule} (h : ∀ r ∈ rules, r.Typed)
    (hrules : Unambiguous rules) (hperm : (rules.map row).Perm (rules'.map row)) :
    content rules = content rules' := by
  have hrows : ∀ r ∈ rules'.map row, r.Typed := fun r hr => typed_rows h r (hperm.mem_iff.2 hr)
  obtain ⟨sorted, hsort, hp, hs⟩ := Row.exists_sorted (typed_rows h)
  obtain ⟨sorted', hsort', hp', hs'⟩ := Row.exists_sorted hrows
  have hkey : ∀ a ∈ sorted, ∀ b ∈ sorted, a.sortKey = b.sortKey → a = b := by
    intro a ha b hb hab
    obtain ⟨r, hr, rfl⟩ := List.mem_map.1 (hp.mem_iff.1 ha)
    obtain ⟨s, hs, rfl⟩ := List.mem_map.1 (hp.mem_iff.1 hb)
    obtain ⟨hid, hcondition, hpriority⟩ := (Row.sortKey_eq_iff (h r hr).row (h s hs).row).1 hab
    exact hrules r hr s hs hid hcondition hpriority
  have hsorted : sorted = sorted' :=
    Insertion.eq_of_perm_of_sorted (hp.trans (hperm.trans hp'.symm)) hkey hs hs'
  simp only [content, hsort, hsort', hsorted]

lemma unambiguous_of_nodup {rules : List Rule} (hids : (rules.map (·.id)).Nodup) :
    Unambiguous rules := by
  intro a ha b hb hid _ _
  rw [List.inj_on_of_nodup_map hids ha hb hid]

/-- Rules that are told apart by their ids have one content in every order. -/
theorem content_eq_of_perm {rules rules' : List Rule} (h : ∀ r ∈ rules, r.Typed)
    (hids : (rules.map (·.id)).Nodup) (hperm : (rules.map row).Perm (rules'.map row)) :
    content rules = content rules' :=
  content_eq_of_unambiguous h (unambiguous_of_nodup hids) hperm

end Rule

end TransactionRules
