import Mathlib.Data.List.Forall2
import Mathlib.Data.List.TakeWhile
import Mathlib.Tactic.Common

/-!
# Lists in pieces

Lists with separators between their parts, prefixes that a test ends, and lists beside each other.
-/

namespace TransactionRules

variable {α β γ : Type}

-- Characters are finitely many, and a statement about the members of a list of them would else be
-- decided over all characters.
namespace Members

scoped instance (priority := high) decidableForallMem (p : α → Prop) [DecidablePred p] (xs : List α) :
    Decidable (∀ x ∈ xs, p x) :=
  List.decidableBAll p xs

end Members

/-- What two parts with the separator between them have, if both have it, all parts together have. -/
lemma intercalate_of_append {P : List α → Prop} {x : α} {xss : List (List α)} (hne : xss ≠ [])
    (happend : ∀ xs ys, P xs → P ys → P (xs ++ x :: ys)) (h : ∀ xs ∈ xss, P xs) :
    P ([x].intercalate xss) := by
  induction xss with
  | nil => exact absurd rfl hne
  | cons xs xss ih =>
    have hxs := h xs (by simp)
    cases xss with
    | nil => simpa using hxs
    | cons ys xss =>
      have htail := ih (by simp) fun zs hzs => h zs (by simp [hzs])
      rw [List.intercalate_cons_cons, List.append_assoc]
      exact happend xs _ hxs htail

lemma mem_of_mem_intercalate {x y : α} {xss : List (List α)} (h : y ∈ [x].intercalate xss) :
    y = x ∨ y ∈ xss.flatten := by
  induction xss with
  | nil => simp at h
  | cons xs xss ih =>
    cases xss with
    | nil => exact .inr (by simpa using h)
    | cons ys xss =>
      rw [List.intercalate_cons_cons, List.append_assoc, List.mem_append, List.mem_append,
        List.mem_singleton] at h
      rw [List.flatten_cons, List.mem_append]
      rcases h with h | h | h
      · exact .inr (.inl h)
      · exact .inl h
      · exact (ih h).imp_right .inr

/-- What stands before and behind one part when all parts are put together. -/
lemma intercalate_append_cons (x : α) (xss rest : List (List α)) (xs : List α) :
    ∃ ys zs, [x].intercalate (xss ++ xs :: rest) = ys ++ (xs ++ zs) ∧
      (∀ y ∈ ys, y = x ∨ y ∈ xss.flatten) ∧ ∀ z ∈ zs, z = x ∨ z ∈ rest.flatten := by
  induction xss with
  | nil =>
    cases rest with
    | nil => exact ⟨[], [], by simp, by simp, by simp⟩
    | cons ws rest =>
      refine ⟨[], x :: [x].intercalate (ws :: rest), by simp [List.intercalate_cons_cons], by simp,
        fun z hz => ?_⟩
      rcases List.mem_cons.1 hz with rfl | hz
      · exact .inl rfl
      · exact mem_of_mem_intercalate hz
  | cons ws xss ih =>
    obtain ⟨ys, zs, hparts, hys, hzs⟩ := ih
    refine ⟨ws ++ x :: ys, zs, ?_, fun y hy => ?_, hzs⟩
    · obtain ⟨vs, vss, hne⟩ := List.exists_cons_of_ne_nil (show xss ++ xs :: rest ≠ [] by simp)
      rw [List.cons_append, hne, List.intercalate_cons_cons, ← hne, hparts]
      simp
    · rw [List.flatten_cons, List.mem_append]
      rcases List.mem_append.1 hy with hy | hy
      · exact .inr (.inl hy)
      · rcases List.mem_cons.1 hy with rfl | hy
        · exact .inl rfl
        · exact (hys y hy).imp_right .inr

lemma mem_intercalate_of_mem {x y : α} {xs : List α} {xss : List (List α)} (hxs : xs ∈ xss)
    (hy : y ∈ xs) : y ∈ [x].intercalate xss := by
  obtain ⟨before, after, rfl⟩ := List.append_of_mem hxs
  obtain ⟨ys, zs, hparts, -, -⟩ := intercalate_append_cons x before after xs
  simp [hparts, hy]

section

variable {p : α → Bool} {xs rest : List α}

lemma takeWhile_append_stop (hxs : ∀ x ∈ xs, p x = true) (hrest : ∀ x ∈ rest.head?, p x = false) :
    (xs ++ rest).takeWhile p = xs := by
  rw [List.takeWhile_append_of_pos hxs]
  cases rest with
  | nil => simp
  | cons x rest => simp [hrest x (by simp)]

lemma dropWhile_append_stop (hxs : ∀ x ∈ xs, p x = true) (hrest : ∀ x ∈ rest.head?, p x = false) :
    (xs ++ rest).dropWhile p = rest := by
  rw [List.dropWhile_append_of_pos hxs]
  cases rest with
  | nil => simp
  | cons x rest => simp [hrest x (by simp)]

end

lemma forall_prefix_cons {P : List α → Prop} {x : α} {xs : List α} :
    (∀ p, p <+: x :: xs → P p) ↔ P [] ∧ ∀ p, p <+: xs → P (x :: p) := by
  constructor
  · exact fun h => ⟨h [] List.nil_prefix, fun p hp => h _ ((List.prefix_cons_inj x).2 hp)⟩
  · rintro ⟨hnil, hcons⟩ p hp
    cases p with
    | nil => exact hnil
    | cons y p =>
      obtain ⟨rfl, htail⟩ := List.cons_prefix_cons.1 hp
      exact hcons p htail

lemma forall_prefix_append {P : List α → Prop} {xs ys : List α} :
    (∀ p, p <+: xs ++ ys → P p) ↔ (∀ p, p <+: xs → P p) ∧ ∀ p, p <+: ys → P (xs ++ p) := by
  induction xs generalizing P with
  | nil =>
    simp only [List.nil_append, List.prefix_nil, forall_eq]
    exact ⟨fun h => ⟨h [] List.nil_prefix, h⟩, fun h => h.2⟩
  | cons x xs ih =>
    rw [List.cons_append, forall_prefix_cons, forall_prefix_cons, ih, and_assoc]
    rfl

/-- What exists for every member of a list stands in a list beside it. -/
lemma exists_beside {P : α → β → Prop} {xs : List α} (h : ∀ x ∈ xs, ∃ y, P x y) :
    ∃ qs : List (α × β), xs = qs.map Prod.fst ∧ ∀ q ∈ qs, P q.1 q.2 := by
  induction xs with
  | nil => exact ⟨[], rfl, by simp⟩
  | cons x xs ih =>
    obtain ⟨y, hy⟩ := h x (by simp)
    obtain ⟨qs, rfl, hqs⟩ := ih fun z hz => h z (by simp [hz])
    refine ⟨(x, y) :: qs, rfl, ?_⟩
    intro q hq
    rcases List.mem_cons.1 hq with rfl | hq
    · exact hy
    · exact hqs q hq

section

variable {R : α → β → Prop} {xs : List α} {ys : List β}

lemma exists_right_of_forall₂ (h : List.Forall₂ R xs ys) : ∀ x ∈ xs, ∃ y ∈ ys, R x y := by
  induction h with
  | nil => simp
  | cons hxy _ ih =>
    intro x hx
    rcases List.mem_cons.1 hx with rfl | hx
    · exact ⟨_, List.mem_cons_self, hxy⟩
    · obtain ⟨y, hy, hxy⟩ := ih x hx
      exact ⟨y, List.mem_cons_of_mem _ hy, hxy⟩

lemma exists_left_of_forall₂ (h : List.Forall₂ R xs ys) : ∀ y ∈ ys, ∃ x ∈ xs, R x y :=
  exists_right_of_forall₂ (R := flip R) h.flip

lemma forall₂_congr_of_mem {S : α → β → Prop} (h : ∀ x ∈ xs, ∀ y, R x y ↔ S x y) :
    List.Forall₂ R xs ys ↔ List.Forall₂ S xs ys := by
  induction xs generalizing ys with
  | nil => simp
  | cons x xs ih =>
    simp only [List.forall₂_cons_left_iff, h x (by simp), ih fun z hz => h z (by simp [hz])]

lemma exists_concat_of_forall₂ {x : α} (h : List.Forall₂ R (xs ++ [x]) ys) :
    ∃ zs y, ys = zs ++ [y] ∧ List.Forall₂ R xs zs ∧ R x y := by
  induction xs generalizing ys with
  | nil =>
    obtain ⟨y, _, hxy, hnil, rfl⟩ := List.forall₂_cons_left_iff.1 h
    obtain rfl := List.forall₂_nil_left_iff.1 hnil
    exact ⟨[], y, rfl, .nil, hxy⟩
  | cons w xs ih =>
    obtain ⟨v, _, hwv, hrest, rfl⟩ := List.forall₂_cons_left_iff.1 h
    obtain ⟨zs, y, rfl, hzs, hxy⟩ := ih hrest
    exact ⟨v :: zs, y, rfl, .cons hwv hzs, hxy⟩

/-- Lists beside each other with a list between them. -/
lemma exists_between_forall₂ {S : β → γ → Prop} {zs : List γ} :
    (∃ ys, List.Forall₂ R xs ys ∧ List.Forall₂ S ys zs) ↔
      List.Forall₂ (fun x z => ∃ y, R x y ∧ S y z) xs zs := by
  constructor
  · rintro ⟨ys, hxy, hyz⟩
    induction hxy generalizing zs with
    | nil =>
      cases hyz
      exact .nil
    | cons h _ ih =>
      obtain ⟨z, zs, hz, hzs, rfl⟩ := List.forall₂_cons_left_iff.1 hyz
      exact .cons ⟨_, h, hz⟩ (ih hzs)
  · intro h
    induction h with
    | nil => exact ⟨[], .nil, .nil⟩
    | cons h _ ih =>
      obtain ⟨y, hxy, hyz⟩ := h
      obtain ⟨ys, hxs, hzs⟩ := ih
      exact ⟨y :: ys, .cons hxy hxs, .cons hyz hzs⟩

end

/-! ## Parts that are all given a value -/

/-- The values of a list are that of its first member and those of the others. -/
lemma mapM_cons_eq_some {f : α → Option β} {x : α} {xs : List α} {ys : List β} :
    (x :: xs).mapM f = some ys ↔ ∃ z zs, f x = some z ∧ xs.mapM f = some zs ∧ z :: zs = ys := by
  simp [List.mapM_cons, Option.bind_eq_some_iff]

/-- All parts together have a value where each of them has one. -/
lemma mapM_eq_some_iff {f : α → Option β} {xs : List α} {ys : List β} :
    xs.mapM f = some ys ↔ List.Forall₂ (fun x y => f x = some y) xs ys := by
  induction xs generalizing ys with
  | nil => cases ys <;> simp
  | cons x xs ih =>
    simp only [mapM_cons_eq_some, List.forall₂_cons_left_iff, ih, eq_comm (b := ys)]

lemma exists_of_mapM_eq_some {f : α → Option β} {xs : List α} {ys : List β} (h : xs.mapM f = some ys) :
    ∀ x ∈ xs, ∃ y, f x = some y := by
  intro x hx
  obtain ⟨y, -, hy⟩ := exists_right_of_forall₂ (mapM_eq_some_iff.1 h) x hx
  exact ⟨y, hy⟩

lemma mapM_eq_filterMap {f : α → Option β} {xs : List α} (h : ∀ x ∈ xs, (f x).isSome = true) :
    xs.mapM f = some (xs.filterMap f) := by
  induction xs with
  | nil => rfl
  | cons x xs ih =>
    obtain ⟨y, hy⟩ := Option.isSome_iff_exists.1 (h x (by simp))
    rw [List.mapM_cons, hy, ih fun z hz => h z (by simp [hz]), List.filterMap_cons_some hy]
    rfl

/-- A second map is applied member by member behind the first. -/
lemma mapM_bind_mapM (f : α → Option β) (g : β → Option γ) (xs : List α) :
    (xs.mapM f).bind (·.mapM g) = xs.mapM fun x => (f x).bind g := by
  induction xs with
  | nil => rfl
  | cons x xs ih =>
    rw [List.mapM_cons, List.mapM_cons, ← ih]
    cases f x with
    | none => rfl
    | some y =>
      cases xs.mapM f with
      | none => cases hg : g y <;> simp [hg]
      | some ys => simp

lemma mapM_flatMap {f : β → Option γ} {g : α → List β} {k : α → List γ} {xs : List α}
    (h : ∀ x ∈ xs, (g x).mapM f = some (k x)) : (xs.flatMap g).mapM f = some (xs.flatMap k) := by
  induction xs with
  | nil => rfl
  | cons x xs ih =>
    rw [List.flatMap_cons, List.mapM_append, h x (by simp), ih fun y hy => h y (by simp [hy])]
    rfl

/-- Parts that are all given a value give their values in order. -/
lemma mapM_eq_some {f : α → Option β} {g : α → β} {xs : List α} (h : ∀ x ∈ xs, f x = some (g x)) :
    xs.mapM f = some (xs.map g) := by
  have hsingle : (xs.flatMap fun x => [x]).mapM f = some (xs.flatMap fun x => [g x]) := by
    refine mapM_flatMap fun x hx => ?_
    simp [h x hx]
  rwa [List.flatMap_singleton', ← List.map_eq_flatMap] at hsingle

/-- Values that are all changed in the same way. -/
lemma mapM_option_map (f : α → Option β) (g : β → γ) (xs : List α) :
    (xs.mapM fun x => (f x).map g) = (xs.mapM f).map (List.map g) := by
  induction xs with
  | nil => rfl
  | cons x xs ih =>
    rw [List.mapM_cons, List.mapM_cons, ih]
    cases f x with
    | none => rfl
    | some y => cases xs.mapM f <;> rfl

/-- Parts that are mapped as a whole keep their places between the separators. -/
lemma mapM_intercalate {f : α → Option β} {x : α} {y : β} (hx : f x = some y)
    (xss : List (List α)) : ([x].intercalate xss).mapM f =
      (xss.mapM (List.mapM f)).map ([y].intercalate ·) := by
  induction xss with
  | nil => rfl
  | cons xs xss ih =>
    cases xss with
    | nil => cases h : xs.mapM f <;> simp [h]
    | cons us xss =>
      rw [List.intercalate_cons_cons, List.append_assoc, List.mapM_append, List.singleton_append,
        List.mapM_cons, hx, ih, List.mapM_cons (a := xs)]
      cases xs.mapM f with
      | none => rfl
      | some ys =>
        cases hrest : (us :: xss).mapM (List.mapM f) with
        | none => rfl
        | some yss =>
          obtain ⟨ws, wss, -, -, rfl⟩ := mapM_cons_eq_some.1 hrest
          simp [List.intercalate_cons_cons]

end TransactionRules
