/-!
# Tables

A table holds rows under ids, in ascending order, and remembers the greatest id that was ever given,
so that the id of an erased row is not given again. The view of a table is `get?`: there is one
lemma for each operation.
-/

namespace TransactionRules

structure Table (α : Type) where
  rows : List (Int × α) := []
  /-- The greatest id that was ever given. -/
  last : Int := 0
  ordered : rows.Pairwise (·.1 < ·.1) := by exact List.Pairwise.nil
  bounded : ∀ r ∈ rows, r.1 ≤ last := by exact fun _ h => (List.not_mem_nil h).elim

namespace Table

variable {α : Type}

instance : Inhabited (Table α) := ⟨{}⟩

/-- The row with an id. -/
def get? (t : Table α) (id : Int) : Option α := t.rows.lookup id

def contains (t : Table α) (id : Int) : Bool := (t.get? id).isSome

/-- The greatest id that a row can have. -/
def greatestId : Int := 0x7fffffffffffffff

/-- An id that no row ever had. -/
def fresh? (t : Table α) : Option Int := if t.last < greatestId then some (t.last + 1) else none

/-- Rows with `a` under `id`, in the place of what was there. -/
def place (id : Int) (a : α) : List (Int × α) → List (Int × α)
  | [] => [(id, a)]
  | r :: rest =>
    if id < r.1 then (id, a) :: r :: rest
    else if id = r.1 then (id, a) :: rest
    else r :: place id a rest

theorem mem_place {id : Int} {a : α} {rows : List (Int × α)} {r : Int × α}
    (h : r ∈ place id a rows) : r = (id, a) ∨ r ∈ rows := by
  induction rows with
  | nil => simpa [place] using h
  | cons s rest ih =>
    simp only [place] at h
    split at h
    · simpa using h
    · split at h
      · rcases List.mem_cons.mp h with h | h
        · exact .inl h
        · exact .inr (List.mem_cons_of_mem _ h)
      · rcases List.mem_cons.mp h with h | h
        · exact .inr (h ▸ List.mem_cons_self)
        · exact (ih h).imp_right (List.mem_cons_of_mem _)

theorem pairwise_place {id : Int} {a : α} {rows : List (Int × α)}
    (h : rows.Pairwise (·.1 < ·.1)) : (place id a rows).Pairwise (·.1 < ·.1) := by
  induction rows with
  | nil => simp [place]
  | cons s rest ih =>
    have ⟨hs, hrest⟩ := List.pairwise_cons.mp h
    simp only [place]
    split
    · next hlt =>
      refine List.pairwise_cons.mpr ⟨fun r hr => ?_, h⟩
      rcases List.mem_cons.mp hr with rfl | hr
      · exact hlt
      · exact Int.lt_trans hlt (hs r hr)
    · split
      · next heq => exact List.pairwise_cons.mpr ⟨fun r hr => heq ▸ hs r hr, hrest⟩
      · next hge hne =>
        refine List.pairwise_cons.mpr ⟨fun r hr => ?_, ih hrest⟩
        rcases mem_place hr with rfl | hr
        · simp only; omega
        · exact hs r hr

theorem lookup_place_self (id : Int) (a : α) (rows : List (Int × α)) :
    (place id a rows).lookup id = some a := by
  induction rows with
  | nil => simp [place]
  | cons s rest ih =>
    simp only [place]
    split
    · simp
    · split
      · simp
      · next hne =>
        obtain ⟨key, b⟩ := s
        rw [List.lookup_cons, beq_false_of_ne (show id ≠ key from hne)]
        exact ih

theorem lookup_place_of_ne {id other : Int} (a : α) (rows : List (Int × α)) (h : other ≠ id) :
    (place id a rows).lookup other = rows.lookup other := by
  induction rows with
  | nil => simp [place, List.lookup_cons, beq_false_of_ne h]
  | cons s rest ih =>
    simp only [place]
    split
    · rw [List.lookup_cons, beq_false_of_ne h]
    · split
      · next heq =>
        obtain ⟨key, b⟩ := s
        rw [List.lookup_cons, List.lookup_cons, beq_false_of_ne h,
          beq_false_of_ne (fun e => h (e.trans heq.symm))]
      · obtain ⟨key, b⟩ := s
        rw [List.lookup_cons, List.lookup_cons, ih]

/-- Puts a row under an id, in the place of what was there. -/
def put (t : Table α) (id : Int) (a : α) : Table α where
  rows := place id a t.rows
  last := max t.last id
  ordered := pairwise_place t.ordered
  bounded := fun r hr => by
    rcases mem_place hr with rfl | hr
    · exact Int.le_max_right ..
    · exact Int.le_trans (t.bounded r hr) (Int.le_max_left ..)

@[simp] theorem get?_put_self (t : Table α) (id : Int) (a : α) : (t.put id a).get? id = some a :=
  lookup_place_self id a t.rows

theorem get?_put_of_ne (t : Table α) {id other : Int} (a : α) (h : other ≠ id) :
    (t.put id a).get? other = t.get? other :=
  lookup_place_of_ne a t.rows h

/-- Removes the row with an id. -/
def erase (t : Table α) (id : Int) : Table α where
  rows := t.rows.filter (·.1 != id)
  last := t.last
  ordered := t.ordered.filter _
  bounded := fun r hr => t.bounded r (List.mem_filter.mp hr).1

theorem lookup_filter_of_ne {id other : Int} (rows : List (Int × α)) (h : other ≠ id) :
    (rows.filter (·.1 != id)).lookup other = rows.lookup other := by
  induction rows with
  | nil => rfl
  | cons s rest ih =>
    obtain ⟨key, b⟩ := s
    by_cases hs : key = id
    · rw [List.filter_cons_of_neg (by simp [hs]), ih, List.lookup_cons,
        beq_false_of_ne (show other ≠ key from hs ▸ h)]
    · rw [List.filter_cons_of_pos (by simp [hs]), List.lookup_cons, List.lookup_cons, ih]

theorem get?_erase_of_ne (t : Table α) {id other : Int} (h : other ≠ id) :
    (t.erase id).get? other = t.get? other :=
  lookup_filter_of_ne t.rows h

@[simp] theorem get?_erase_self (t : Table α) (id : Int) : (t.erase id).get? id = none := by
  have : ∀ rows : List (Int × α), (rows.filter (·.1 != id)).lookup id = none := by
    intro rows
    induction rows with
    | nil => rfl
    | cons s rest ih =>
      obtain ⟨key, b⟩ := s
      by_cases hs : key = id
      · rw [List.filter_cons_of_neg (by simp [hs]), ih]
      · rw [List.filter_cons_of_pos (by simp [hs]), List.lookup_cons,
          beq_false_of_ne (Ne.symm hs), ih]
  exact this t.rows

end Table

end TransactionRules
