import Mathlib.Data.List.Sort
import TransactionRules.Order.Insertion
import TransactionRules.Proofs.Outcome

/-!
# Sorting by a key

`Insertion.sort` runs with a comparison that may have no answer. When it ends, it gives a permutation
of the items. When the comparison of the items at hand always answers, and compares them by a key in
a linear order, the sort does end, and the keys ascend. Items with different keys then have only one
such order.
-/

namespace TransactionRules.Insertion

section Permutation

variable {α ε : Type} {before : α → α → Except ε Bool}

/-- Inserting loses and repeats nothing, whatever the comparison answers. -/
lemma perm_of_insert {x : α} {ys zs : List α} (h : insert before x ys = .ok zs) :
    zs.Perm (x :: ys) := by
  induction hn : ys.length using Nat.strong_induction_on generalizing ys zs with
  | _ n ih =>
    subst hn
    have hsplit := List.take_append_drop (ys.length / 2) ys
    rw [insert] at h
    split at h
    · next hd =>
      have := List.drop_eq_nil_iff.1 hd
      have hnil : ys = [] := List.eq_nil_of_length_eq_zero (by omega)
      subst hnil
      rw [← Except.ok.inj h]
    · next y rest hd =>
      rw [hd] at hsplit
      generalize ys.take (ys.length / 2) = lower at hsplit h
      have hlen := congrArg List.length hsplit
      simp only [List.length_append, List.length_cons] at hlen
      obtain ⟨b, -, h⟩ := Outcome.bind_eq_ok.1 h
      cases b with
      | true =>
        obtain ⟨lower', hlower, h⟩ := Outcome.bind_eq_ok.1 h
        rw [← Except.ok.inj h, ← hsplit]
        exact (ih lower.length (by omega) hlower rfl).append_right _
      | false =>
        obtain ⟨rest', hrest, h⟩ := Outcome.bind_eq_ok.1 h
        rw [← Except.ok.inj h, ← hsplit]
        have hswap : (y :: rest').Perm (x :: y :: rest) :=
          ((ih rest.length (by omega) hrest rfl).cons y).trans (.swap x y rest)
        exact (hswap.append_left lower).trans List.perm_middle

lemma append_of_run {expected : Bool} {x : α} {xs leading rest : List α}
    (h : run before expected x xs = .ok (leading, rest)) : leading ++ rest = xs := by
  induction xs generalizing x leading with
  | nil =>
    obtain ⟨rfl, rfl⟩ := Prod.mk.inj (Except.ok.inj h)
    rfl
  | cons y ys ih =>
    rw [run] at h
    obtain ⟨b, -, h⟩ := Outcome.bind_eq_ok.1 h
    split_ifs at h
    · obtain ⟨⟨leading', rest'⟩, hrun, h⟩ := Outcome.bind_eq_ok.1 h
      obtain ⟨rfl, rfl⟩ := Prod.mk.inj (Except.ok.inj h)
      rw [List.cons_append, ih hrun]
    · obtain ⟨rfl, rfl⟩ := Prod.mk.inj (Except.ok.inj h)
      rfl

lemma perm_of_foldlM {xs ys zs : List α}
    (h : xs.foldlM (fun sorted x => insert before x sorted) ys = .ok zs) : zs.Perm (xs ++ ys) := by
  induction xs generalizing ys with
  | nil => rw [← Except.ok.inj h]; rfl
  | cons x xs ih =>
    rw [List.foldlM_cons] at h
    obtain ⟨ys', hinsert, h⟩ := Outcome.bind_eq_ok.1 h
    exact (ih h).trans (((perm_of_insert hinsert).append_left xs).trans List.perm_middle)

/-- What a sort gives is a permutation of the items, whatever the comparison answers. -/
theorem perm_of_sort {xs ys : List α} (h : sort before xs = .ok ys) : ys.Perm xs := by
  match xs with
  | [] => rw [← Except.ok.inj h]
  | [x] => rw [← Except.ok.inj h]
  | x :: y :: zs =>
    obtain ⟨reversed, -, h⟩ := Outcome.bind_eq_ok.1 h
    obtain ⟨⟨leading, rest⟩, hrun, h⟩ := Outcome.bind_eq_ok.1 h
    have hstart : (if reversed then (x :: y :: leading).reverse else x :: y :: leading).Perm
        (x :: y :: leading) := by
      split_ifs
      · exact List.reverse_perm _
      · rfl
    rw [← append_of_run hrun]
    exact (perm_of_foldlM h).trans (List.perm_append_comm.trans (hstart.append_right rest))
end Permutation

variable {α ε κ : Type} [LinearOrder κ] {before : α → α → Except ε Bool} {key : α → κ}

/-- The comparison answers by the keys of the items of two lists. -/
def ComparesBy (before : α → α → Except ε Bool) (key : α → κ) (xs ys : List α) : Prop :=
  ∀ x ∈ xs, ∀ y ∈ ys, before x y = .ok (decide (key x < key y))

lemma ComparesBy.mono {xs ys xs' ys' : List α} (h : ComparesBy before key xs ys)
    (hx : ∀ x ∈ xs', x ∈ xs) (hy : ∀ y ∈ ys', y ∈ ys) : ComparesBy before key xs' ys' :=
  fun x hx' y hy' => h x (hx x hx') y (hy y hy')

/-- Inserting by binary search keeps a list in the order of its keys. -/
lemma insert_sorted (x : α) (ys : List α) (h : ComparesBy before key [x] ys)
    (hys : ys.Pairwise (key · ≤ key ·)) :
    ∃ zs, insert before x ys = .ok zs ∧ zs.Pairwise (key · ≤ key ·) := by
  induction hn : ys.length using Nat.strong_induction_on generalizing ys with
  | _ n ih =>
    subst hn
    have hsplit := List.take_append_drop (ys.length / 2) ys
    rw [insert]
    split
    · exact ⟨[x], rfl, List.pairwise_singleton _ _⟩
    · next y rest hd =>
      rw [hd] at hsplit
      generalize htake : ys.take (ys.length / 2) = lower at hsplit
      have hlen := congrArg List.length hsplit
      simp only [List.length_append, List.length_cons] at hlen
      rw [← hsplit] at h hys
      obtain ⟨hlower, hupper, hcross⟩ := List.pairwise_append.1 hys
      rw [h x (by simp) y (by simp)]
      by_cases hxy : key x < key y
      · obtain ⟨zs, hz, hsorted⟩ := ih lower.length (by omega) lower
          (h.mono (by simp) (by simp +contextual)) hlower rfl
        refine ⟨zs ++ y :: rest, by simp [hxy, hz], ?_⟩
        refine List.pairwise_append.2 ⟨hsorted, hupper, fun a ha b hb => ?_⟩
        rcases List.mem_cons.1 ((perm_of_insert hz).mem_iff.1 ha) with rfl | ha
        · rcases List.mem_cons.1 hb with rfl | hb
          · exact hxy.le
          · exact hxy.le.trans (List.rel_of_pairwise_cons hupper hb)
        · exact hcross a ha b hb
      · obtain ⟨zs, hz, hsorted⟩ := ih rest.length (by omega) rest
          (h.mono (by simp) (by simp +contextual)) hupper.of_cons rfl
        have hle : ∀ b ∈ zs, key y ≤ key b := fun b hb => by
          rcases List.mem_cons.1 ((perm_of_insert hz).mem_iff.1 hb) with rfl | hb
          · exact not_lt.1 hxy
          · exact List.rel_of_pairwise_cons hupper hb
        refine ⟨lower ++ y :: zs, by simp [hxy, hz], ?_⟩
        refine List.pairwise_append.2 ⟨hlower, List.pairwise_cons.2 ⟨hle, hsorted⟩, ?_⟩
        intro a ha b hb
        rcases List.mem_cons.1 hb with rfl | hb
        · exact hcross a ha b (by simp)
        · exact (hcross a ha y (by simp)).trans (hle b hb)

/-- A leading run that is not descending is in order. -/
lemma run_ascending (x : α) (xs : List α) (h : ComparesBy before key (x :: xs) (x :: xs)) :
    ∃ leading rest, run before false x xs = .ok (leading, rest) ∧
      (x :: leading).Pairwise (key · ≤ key ·) := by
  induction xs generalizing x with
  | nil => exact ⟨[], [], rfl, List.pairwise_singleton _ _⟩
  | cons y ys ih =>
    rw [run, h y (by simp) x (by simp)]
    by_cases hyx : key y < key x
    · exact ⟨[], y :: ys, by simp [hyx], List.pairwise_singleton _ _⟩
    · obtain ⟨leading, rest, hrun, hsorted⟩ :=
        ih y (h.mono (by simp +contextual) (by simp +contextual))
      refine ⟨y :: leading, rest, ?_, List.pairwise_cons.2 ⟨fun b hb => ?_, hsorted⟩⟩
      · simp [hyx, hrun]
      · rcases List.mem_cons.1 hb with rfl | hb
        · exact not_lt.1 hyx
        · exact (not_lt.1 hyx).trans (List.rel_of_pairwise_cons hsorted hb)

/-- A leading run that is strictly descending is in order once it is reversed. -/
lemma run_descending (x : α) (xs : List α) (h : ComparesBy before key (x :: xs) (x :: xs)) :
    ∃ leading rest, run before true x xs = .ok (leading, rest) ∧
      (x :: leading).Pairwise (key · > key ·) := by
  induction xs generalizing x with
  | nil => exact ⟨[], [], rfl, List.pairwise_singleton _ _⟩
  | cons y ys ih =>
    rw [run, h y (by simp) x (by simp)]
    by_cases hyx : key y < key x
    · obtain ⟨leading, rest, hrun, hsorted⟩ :=
        ih y (h.mono (by simp +contextual) (by simp +contextual))
      refine ⟨y :: leading, rest, ?_, List.pairwise_cons.2 ⟨fun b hb => ?_, hsorted⟩⟩
      · simp [hyx, hrun]
      · rcases List.mem_cons.1 hb with rfl | hb
        · exact hyx
        · exact (List.rel_of_pairwise_cons hsorted hb).trans hyx
    · exact ⟨[], y :: ys, by simp [hyx], List.pairwise_singleton _ _⟩

/-- Inserting the items of one list after another into a list in order. -/
lemma foldlM_insert_sorted (xs ys : List α) (h : ComparesBy before key xs (xs ++ ys))
    (hys : ys.Pairwise (key · ≤ key ·)) :
    ∃ zs, xs.foldlM (fun sorted x => insert before x sorted) ys = .ok zs ∧
      zs.Pairwise (key · ≤ key ·) := by
  induction xs generalizing ys with
  | nil => exact ⟨ys, rfl, hys⟩
  | cons x xs ih =>
    obtain ⟨zs, hz, hsorted⟩ := insert_sorted x ys (h.mono (by simp) (by simp +contextual)) hys
    obtain ⟨ws, hw, hsorted'⟩ := ih zs
      (h.mono (by simp +contextual) fun y hy => by
        rcases List.mem_append.1 hy with hy | hy
        · simp [hy]
        · have := (perm_of_insert hz).mem_iff.1 hy
          simp only [List.mem_cons, List.mem_append] at this ⊢
          tauto) hsorted
    refine ⟨ws, ?_, hsorted'⟩
    rw [List.foldlM_cons, hz]
    exact hw

/-- The sort succeeds and gives the items in the order of their keys. -/
theorem sort_sorted (xs : List α) (h : ComparesBy before key xs xs) :
    ∃ ys, sort before xs = .ok ys ∧ ys.Perm xs ∧ ys.Pairwise (key · ≤ key ·) := by
  suffices hsort : ∃ ys, sort before xs = .ok ys ∧ ys.Pairwise (key · ≤ key ·) by
    obtain ⟨ys, hys, hsorted⟩ := hsort
    exact ⟨ys, hys, perm_of_sort hys, hsorted⟩
  match xs with
  | [] => exact ⟨[], rfl, .nil⟩
  | [x] => exact ⟨[x], rfl, List.pairwise_singleton _ _⟩
  | x :: y :: zs =>
    have hfold (start leading rest : List α) (hzs : leading ++ rest = zs)
        (hperm : start.Perm (x :: y :: leading)) (hstart : start.Pairwise (key · ≤ key ·)) :
        ∃ ys, rest.foldlM (fun sorted z => insert before z sorted) start = .ok ys ∧
          ys.Pairwise (key · ≤ key ·) := by
      have hall : (rest ++ start).Perm (x :: y :: zs) := by
        rw [← hzs]
        exact List.perm_append_comm.trans (hperm.append_right rest)
      exact foldlM_insert_sorted rest start
        (h.mono (fun a ha => by simp [← hzs, ha]) fun a ha => hall.mem_iff.1 ha) hstart
    simp only [sort, h y (by simp) x (by simp)]
    by_cases hyx : key y < key x
    · obtain ⟨leading, rest, hrun, hsorted⟩ := run_descending y zs
        (h.mono (by simp +contextual) (by simp +contextual))
      have hstart : (x :: y :: leading).Pairwise (key · > key ·) := by
        refine List.pairwise_cons.2 ⟨fun b hb => ?_, hsorted⟩
        rcases List.mem_cons.1 hb with rfl | hb
        · exact hyx
        · exact (List.rel_of_pairwise_cons hsorted hb).trans hyx
      obtain ⟨ys, hys, hres⟩ := hfold (x :: y :: leading).reverse leading rest (append_of_run hrun)
        (List.reverse_perm _) ((List.pairwise_reverse.2 hstart).imp fun hab => le_of_lt hab)
      exact ⟨ys, by simpa [hyx, hrun] using hys, hres⟩
    · obtain ⟨leading, rest, hrun, hsorted⟩ := run_ascending y zs
        (h.mono (by simp +contextual) (by simp +contextual))
      have hstart : (x :: y :: leading).Pairwise (key · ≤ key ·) := by
        refine List.pairwise_cons.2 ⟨fun b hb => ?_, hsorted⟩
        rcases List.mem_cons.1 hb with rfl | hb
        · exact not_lt.1 hyx
        · exact (not_lt.1 hyx).trans (List.rel_of_pairwise_cons hsorted hb)
      obtain ⟨ys, hys, hres⟩ := hfold (x :: y :: leading) leading rest (append_of_run hrun) (.refl _)
        hstart
      exact ⟨ys, by simpa [hyx, hrun] using hys, hres⟩

/-- A leading run that is in order ends with the list. -/
lemma run_of_sorted (x : α) (xs : List α) (h : ComparesBy before key (x :: xs) (x :: xs))
    (hxs : (x :: xs).Pairwise (key · ≤ key ·)) : run before false x xs = .ok (xs, []) := by
  induction xs generalizing x with
  | nil => rfl
  | cons y ys ih =>
    obtain ⟨hx, hys⟩ := List.pairwise_cons.1 hxs
    have hyx : ¬key y < key x := not_lt.2 (hx y List.mem_cons_self)
    have hrest := ih y (h.mono (by simp +contextual) (by simp +contextual)) hys
    rw [run, h y (by simp) x (by simp)]
    simp [hyx, hrest]

/-- Items in the order of their keys stay as they are. -/
lemma sort_of_sorted (xs : List α) (h : ComparesBy before key xs xs)
    (hxs : xs.Pairwise (key · ≤ key ·)) : sort before xs = .ok xs := by
  match xs with
  | [] => rfl
  | [x] => rfl
  | x :: y :: zs =>
    obtain ⟨hx, hys⟩ := List.pairwise_cons.1 hxs
    have hyx : ¬key y < key x := not_lt.2 (hx y List.mem_cons_self)
    have hrun := run_of_sorted y zs (h.mono (by simp +contextual) (by simp +contextual)) hys
    simp [sort, h y (by simp) x (by simp), hyx, hrun]

/-- Two items of one key, with the items of a list around them that have smaller keys on one side and
the others on the other side. -/
def around (key : α → κ) (a b : α) (rest : List α) : List α :=
  let le := fun x y => decide (key x ≤ key y)
  (rest.filter fun x => decide (key x < key a)).mergeSort le ++
    a :: b :: (rest.filter fun x => !decide (key x < key a)).mergeSort le

lemma perm_around (a b : α) (rest : List α) : (around key a b rest).Perm (a :: b :: rest) := by
  have hparts := List.filter_append_perm (fun x => decide (key x < key a)) rest
  have hsorted := (List.mergeSort_perm (rest.filter fun x => decide (key x < key a))
    fun x y => decide (key x ≤ key y)).append
      (List.mergeSort_perm (rest.filter fun x => !decide (key x < key a))
        fun x y => decide (key x ≤ key y))
  have htwo := (List.perm_middle.trans ((hsorted.trans hparts).cons b)).cons a
  exact List.perm_middle.trans htwo

lemma pairwise_around {a b : α} (hkey : key a = key b) (rest : List α) :
    (around key a b rest).Pairwise (key · ≤ key ·) := by
  have hsorted (items : List α) :
      (items.mergeSort fun x y => decide (key x ≤ key y)).Pairwise (key · ≤ key ·) := by
    have htrans (x y z : α) (hxy : decide (key x ≤ key y) = true)
        (hyz : decide (key y ≤ key z) = true) : decide (key x ≤ key z) = true :=
      decide_eq_true ((of_decide_eq_true hxy).trans (of_decide_eq_true hyz))
    have htotal (x y : α) : (decide (key x ≤ key y) || decide (key y ≤ key x)) = true := by
      simpa using le_total (key x) (key y)
    have hle := List.pairwise_mergeSort htrans htotal items
    exact hle.imp fun hxy => of_decide_eq_true hxy
  have hlower : ∀ x ∈ (rest.filter fun x => decide (key x < key a)).mergeSort
      fun x y => decide (key x ≤ key y), key x ≤ key a := by
    intro x hx
    have hlt := (List.mem_filter.1 (List.mem_mergeSort.1 hx)).2
    exact (of_decide_eq_true hlt).le
  have hupper : ∀ x ∈ (rest.filter fun x => !decide (key x < key a)).mergeSort
      fun x y => decide (key x ≤ key y), key a ≤ key x := by
    intro x hx
    have hge := (List.mem_filter.1 (List.mem_mergeSort.1 hx)).2
    simpa using hge
  refine List.pairwise_append.2 ⟨hsorted _, ?_, ?_⟩
  · refine List.pairwise_cons.2 ⟨?_, List.pairwise_cons.2 ⟨?_, hsorted _⟩⟩
    · intro x hx
      rcases List.mem_cons.1 hx with rfl | hx
      · exact hkey.le
      · exact hupper x hx
    · intro x hx
      exact hkey.ge.trans (hupper x hx)
  · intro x hx y hy
    have hxa := hlower x hx
    rcases List.mem_cons.1 hy with rfl | hy
    · exact hxa
    · rcases List.mem_cons.1 hy with rfl | hy
      · exact hxa.trans hkey.le
      · exact hxa.trans (hupper y hy)

/-- Two items that the key does not tell apart stay in the order in which they are given, so some two
permutations of the items are sorted to different lists. -/
theorem exists_perm_of_tie {xs : List α} (h : ComparesBy before key xs xs) {a b : α} (ha : a ∈ xs)
    (hb : b ∈ xs) (hkey : key a = key b) (hne : a ≠ b) :
    ∃ ys zs, ys.Perm xs ∧ zs.Perm xs ∧ ys ≠ zs ∧ sort before ys = .ok ys ∧
      sort before zs = .ok zs := by
  have hnodup : [a, b].Nodup := by simpa using hne
  have hsub : [a, b] ⊆ xs := by simp [ha, hb]
  obtain ⟨pair, hpair, hsublist⟩ := List.subperm_of_subset hnodup hsub
  obtain ⟨rest, hrest⟩ := hsublist.exists_perm_append
  have hrest' : (a :: b :: rest).Perm xs := (hrest.trans (hpair.append_right rest)).symm
  have hys : (around key a b rest).Perm xs := (perm_around a b rest).trans hrest'
  have hzs : (around key b a rest).Perm xs :=
    (perm_around b a rest).trans ((List.Perm.swap a b rest).trans hrest')
  have hsort {ys : List α} (hperm : ys.Perm xs) (hys : ys.Pairwise (key · ≤ key ·)) :
      sort before ys = .ok ys :=
    sort_of_sorted ys (h.mono (fun x => hperm.mem_iff.1) fun x => hperm.mem_iff.1) hys
  refine ⟨around key a b rest, around key b a rest, hys, hzs, fun heq => hne ?_,
    hsort hys (pairwise_around hkey rest), hsort hzs (pairwise_around hkey.symm rest)⟩
  rw [around, around, hkey] at heq
  exact (List.cons.inj (List.append_cancel_left heq)).1

/-- Two lists of the same items in the order of their keys are equal, if the key tells the items
apart. -/
lemma eq_of_perm_of_sorted {xs ys : List α} (hperm : xs.Perm ys)
    (hkey : ∀ a ∈ xs, ∀ b ∈ xs, key a = key b → a = b)
    (hx : xs.Pairwise (key · ≤ key ·)) (hy : ys.Pairwise (key · ≤ key ·)) : xs = ys :=
  hperm.eq_of_pairwise (fun a b ha hb hab hba => hkey a ha b (hperm.mem_iff.2 hb) (hab.antisymm hba))
    hx hy

end TransactionRules.Insertion
