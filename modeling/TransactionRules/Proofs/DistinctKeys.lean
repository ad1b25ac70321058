import Mathlib.Data.List.Nodup
import Mathlib.Tactic.Common
import TransactionRules.Json.Reader
import TransactionRules.Proofs.Outcome

/-!
# Maps whose keys are distinct

The entries of a map stand in a list, whose type lets a key occur twice. No map that is read from a
text has a key twice (`Json.read_wellKeyed`), because an entry is set under its key: it replaces the
one that was there.
-/

namespace TransactionRules

namespace Value

/-- No map has a key twice, in the value itself or in the maps that are entries of it. -/
inductive WellKeyed : Value → Prop
  | leaf {v : Value} (h : v.kind ≠ .map) : WellKeyed v
  | map {entries : List (String × Value)} (distinct : (entries.map (·.1)).Nodup)
      (values : ∀ e ∈ entries, WellKeyed e.2) : WellKeyed (.map entries)

variable {entries : List (String × Value)} {key : String} {v : Value}

@[simp] lemma wellKeyed_map :
    (Value.map entries).WellKeyed ↔ (entries.map (·.1)).Nodup ∧ ∀ e ∈ entries, e.2.WellKeyed := by
  constructor
  · intro h
    cases h with
    | leaf hkind => exact absurd rfl hkind
    | map distinct values => exact ⟨distinct, values⟩
  · rintro ⟨distinct, values⟩
    exact .map distinct values

lemma WellKeyed.distinct (h : (Value.map entries).WellKeyed) : (entries.map (·.1)).Nodup :=
  (wellKeyed_map.1 h).1

lemma WellKeyed.values (h : (Value.map entries).WellKeyed) : ∀ e ∈ entries, e.2.WellKeyed :=
  (wellKeyed_map.1 h).2

lemma kind_eq_map : v.kind = .map ↔ ∃ entries, v = .map entries := by
  cases v <;> simp [kind]

/-! ## Entries under a key -/

lemma ofKey?_cons (k : String) (w : Value) (rest : List (String × Value)) (key : String) :
    ofKey? ((k, w) :: rest) key = if k = key then some w else ofKey? rest key := by
  by_cases h : k = key
  · simp [ofKey?, h]
  · simp [ofKey?, h]

lemma mem_of_ofKey? (h : ofKey? entries key = some v) : (key, v) ∈ entries := by
  induction entries with
  | nil => cases h
  | cons e rest ih =>
    obtain ⟨k, w⟩ := e
    rw [ofKey?_cons] at h
    split_ifs at h with hk
    · cases h
      rw [hk]
      exact List.mem_cons_self
    · exact List.mem_cons_of_mem _ (ih h)

lemma ofKey?_eq_none (h : key ∉ entries.map (·.1)) : ofKey? entries key = none := by
  rw [Option.eq_none_iff_forall_ne_some]
  intro v hv
  exact h (List.mem_map.2 ⟨_, mem_of_ofKey? hv, rfl⟩)

lemma ofKey?_of_mem (distinct : (entries.map (·.1)).Nodup) (h : (key, v) ∈ entries) :
    ofKey? entries key = some v := by
  induction entries with
  | nil => cases h
  | cons e rest ih =>
    obtain ⟨k, w⟩ := e
    rw [List.map_cons, List.nodup_cons] at distinct
    rw [ofKey?_cons]
    rcases List.mem_cons.1 h with heq | hrest
    · cases heq
      exact if_pos rfl
    · have hk : k ≠ key := by
        rintro rfl
        exact distinct.1 (List.mem_map.2 ⟨_, hrest, rfl⟩)
      rw [if_neg hk]
      exact ih distinct.2 hrest

end Value

namespace Json

open Value

variable {done : List (String × Value)} {key : String} {v : Value}

/-! ## Setting an entry -/

lemma ofKey?_put (key : String) (v : Value) (done : List (String × Value)) (k : String) :
    ofKey? (put key v done) k = if key = k then some v else ofKey? done k := by
  induction done with
  | nil => rw [put, ofKey?_cons]
  | cons e rest ih =>
    obtain ⟨k', w⟩ := e
    rw [put]
    by_cases hkey : k' = key
    · subst hkey
      rw [if_pos (beq_self_eq_true k'), ofKey?_cons, ofKey?_cons]
      by_cases hk : k' = k
      · simp [hk]
      · simp [hk]
    · rw [if_neg (by simpa using hkey), ofKey?_cons, ofKey?_cons, ih]
      by_cases hk : k' = k
      · subst hk
        simp [Ne.symm hkey]
      · simp [hk]

/-- To set what is there already changes nothing, not even the order. -/
lemma put_of_ofKey? (h : ofKey? done key = some v) : put key v done = done := by
  induction done with
  | nil => cases h
  | cons e rest ih =>
    obtain ⟨k, w⟩ := e
    rw [ofKey?_cons] at h
    rw [put]
    by_cases hk : k = key
    · rw [if_pos hk] at h
      cases h
      rw [if_pos (by simpa using hk), hk]
    · rw [if_neg hk] at h
      rw [if_neg (by simpa using hk), ih h]

lemma keys_put (key : String) (v : Value) (done : List (String × Value)) :
    (put key v done).map (·.1) =
      if key ∈ done.map (·.1) then done.map (·.1) else done.map (·.1) ++ [key] := by
  induction done with
  | nil => rfl
  | cons e rest ih =>
    obtain ⟨k, w⟩ := e
    rw [put]
    by_cases hk : k = key
    · simp [hk]
    · rw [if_neg (by simpa using hk), List.map_cons, ih]
      by_cases hmem : key ∈ rest.map (·.1)
      · simp [hmem]
      · simp [hmem, Ne.symm hk]

lemma mem_put {e : String × Value} (h : e ∈ put key v done) : e = (key, v) ∨ e ∈ done := by
  induction done with
  | nil => exact .inl (List.mem_singleton.1 h)
  | cons first rest ih =>
    rw [put] at h
    split_ifs at h
    · exact (List.mem_cons.1 h).imp_right (List.mem_cons_of_mem _)
    · rcases List.mem_cons.1 h with rfl | hrest
      · exact .inr List.mem_cons_self
      · exact (ih hrest).imp_right (List.mem_cons_of_mem _)

lemma wellKeyed_put (hdone : (Value.map done).WellKeyed) (hv : v.WellKeyed) :
    (Value.map (put key v done)).WellKeyed := by
  apply WellKeyed.map
  · rw [keys_put]
    split_ifs with hmem
    · exact hdone.distinct
    · rw [← List.concat_eq_append]
      exact hdone.distinct.concat hmem
  · intro e he
    rcases mem_put he with rfl | he
    · exact hv
    · exact hdone.values e he

/-! ## Reading -/

lemma wellKeyed_of_magnitude {negative : Bool} {cs rest : List Char}
    (h : magnitude negative cs = some (.ok (v, rest))) : v.WellKeyed := by
  obtain ⟨⟨digits, behind⟩, -, h⟩ := Option.map_eq_some_iff.1 h
  dsimp only at h
  split at h
  · split at h
    · cases h
    · cases h
      exact .leaf (by simp [kind])
  · cases h
    exact .leaf (by simp [kind])

lemma wellKeyed_of_scalar {cs rest : List Char} (h : scalar cs = .ok (v, rest)) : v.WellKeyed := by
  unfold scalar at h
  split at h
  · next w v' hword =>
    cases h
    have hwords : ∀ e ∈ words, e.2.kind ≠ .map := by simp [words, kind]
    exact .leaf (hwords _ (List.mem_of_find?_eq_some hword))
  · rcases Option.getD_eq_iff.1 h with hnumber | ⟨-, hnone⟩
    · split at hnumber
      · exact wellKeyed_of_magnitude hnumber
      · exact wellKeyed_of_magnitude hnumber
    · cases hnone

lemma kind_of_items {fuel : Nat} {done : List Value} {cs rest : List Char}
    (h : items fuel done cs = .ok (v, rest)) : v.kind = .list := by
  induction fuel generalizing done cs with
  | zero => cases h
  | succ fuel ih =>
    rw [items] at h
    obtain ⟨⟨item, behind⟩, -, h⟩ := Outcome.bind_eq_ok.1 h
    dsimp only at h
    split at h
    · cases h
      rfl
    · exact ih h
    · cases h

/-- One induction for values and for the entries of a map: the entries that are done keep their keys
distinct up to the closing brace. -/
lemma wellKeyed_of_fuel (fuel : Nat) :
    (∀ {cs rest v}, value fuel cs = .ok (v, rest) → v.WellKeyed) ∧
      ∀ {done cs rest v}, (Value.map done).WellKeyed → entries fuel done cs = .ok (v, rest) →
        v.WellKeyed := by
  induction fuel with
  | zero =>
    constructor
    · intro cs rest v h
      cases h
    · intro done cs rest v hdone h
      cases h
  | succ fuel ih =>
    obtain ⟨hvalue, hentries⟩ := ih
    have hempty : (Value.map []).WellKeyed := by simp
    constructor
    · intro cs rest v h
      rw [value.eq_def] at h
      dsimp only at h
      split at h
      · obtain ⟨⟨s, behind⟩, -, h⟩ := Outcome.bind_eq_ok.1 h
        cases h
        exact .leaf (by simp [kind])
      · split at h
        · cases h
          exact hempty
        · exact hentries hempty h
      · split at h
        · cases h
          exact .leaf (by simp [kind])
        · exact .leaf (by simp [kind_of_items h])
      · exact wellKeyed_of_scalar h
    · intro done cs rest v hdone h
      rw [entries.eq_def] at h
      dsimp only at h
      split at h
      · obtain ⟨⟨key, behind⟩, -, h⟩ := Outcome.bind_eq_ok.1 h
        dsimp only at h
        split at h
        · obtain ⟨⟨w, behind'⟩, hw, h⟩ := Outcome.bind_eq_ok.1 h
          have hput : (Value.map (put key w done)).WellKeyed := wellKeyed_put hdone (hvalue hw)
          dsimp only at h
          split at h
          · cases h
            exact hput
          · exact hentries hput h
          · cases h
        · cases h
      · cases h

/-- No map that is read from a text has a key twice. -/
theorem read_wellKeyed {s : String} (h : read s = .ok v) : v.WellKeyed := by
  rw [read, readChars] at h
  split_ifs at h
  · cases h
  · obtain ⟨⟨w, rest⟩, hvalue, h⟩ := Outcome.bind_eq_ok.1 h
    dsimp only at h
    split at h
    · cases h
      exact (wellKeyed_of_fuel _).1 hvalue
    · cases h

end Json

end TransactionRules
