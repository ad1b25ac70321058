import Mathlib.Data.List.Perm.Basic
import TransactionRules.Proofs.Lists

/-!
# Outcomes that are values or errors

What sequences of `Except` steps give, step by step.
-/

namespace TransactionRules.Outcome

variable {ε ε' α β : Type}

@[simp] lemma ok_bind (a : α) (f : α → Except ε β) : (Except.ok a >>= f) = f a := rfl

@[simp] lemma error_bind (e : ε) (f : α → Except ε β) : (Except.error e >>= f) = .error e := rfl

@[simp] lemma pure_eq (a : α) : (pure a : Except ε α) = .ok a := rfl

@[simp] lemma ok_map (a : α) (f : α → β) : (Except.ok a : Except ε α).map f = .ok (f a) := rfl

@[simp] lemma error_map (e : ε) (f : α → β) : (Except.error e : Except ε α).map f = .error e := rfl

@[simp] lemma ok_mapError (a : α) (f : ε → ε') :
    (Except.ok a : Except ε α).mapError f = .ok a := rfl

@[simp] lemma error_mapError (e : ε) (f : ε → ε') :
    (Except.error e : Except ε α).mapError f = .error (f e) := rfl

lemma bind_eq_ok {x : Except ε α} {f : α → Except ε β} {b : β} :
    (x >>= f) = .ok b ↔ ∃ a, x = .ok a ∧ f a = .ok b := by
  cases x <;> simp

lemma bind_eq_error {x : Except ε α} {f : α → Except ε β} {e : ε} :
    (x >>= f) = .error e ↔ x = .error e ∨ ∃ a, x = .ok a ∧ f a = .error e := by
  cases x <;> simp

lemma map_eq_ok {x : Except ε α} {f : α → β} {b : β} :
    x.map f = .ok b ↔ ∃ a, x = .ok a ∧ f a = b := by
  cases x <;> simp

lemma map_eq_error {x : Except ε α} {f : α → β} {e : ε} :
    x.map f = .error e ↔ x = .error e := by
  cases x <;> simp

lemma mapError_eq_ok {x : Except ε α} {f : ε → ε'} {a : α} :
    x.mapError f = .ok a ↔ x = .ok a := by
  cases x <;> simp

lemma exists_bind_eq_ok {x : Except ε α} {f : α → Except ε β} (hx : ∃ a, x = .ok a)
    (hf : ∀ a, ∃ b, f a = .ok b) : ∃ b, (x >>= f) = .ok b := by
  obtain ⟨a, rfl⟩ := hx
  exact hf a

lemma mapM_congr {xs : List α} {f g : α → Except ε β} (h : ∀ x ∈ xs, f x = g x) :
    xs.mapM f = xs.mapM g := by
  induction xs with
  | nil => rfl
  | cons x xs ih =>
    rw [List.mapM_cons, List.mapM_cons, h x (by simp), ih fun y hy => h y (by simp [hy])]

/-- Steps that all succeed give their values in order. -/
lemma mapM_eq_ok {xs : List α} {f : α → Except ε β} {g : α → β} (h : ∀ x ∈ xs, f x = .ok (g x)) :
    xs.mapM f = .ok (xs.map g) := by
  induction xs with
  | nil => rfl
  | cons x xs ih =>
    rw [List.mapM_cons, h x (by simp), ih fun y hy => h y (by simp [hy])]
    rfl

/-- Steps succeed together when each of them succeeds. -/
lemma mapM_eq_ok_iff {xs : List α} {f : α → Except ε β} {ys : List β} :
    xs.mapM f = .ok ys ↔ List.Forall₂ (fun x y => f x = .ok y) xs ys := by
  induction xs generalizing ys with
  | nil => cases ys <;> simp
  | cons x xs ih =>
    rw [List.mapM_cons, bind_eq_ok, List.forall₂_cons_left_iff]
    constructor
    · rintro ⟨y, hy, hys⟩
      obtain ⟨rest, hrest, hcons⟩ := bind_eq_ok.1 hys
      exact ⟨y, rest, hy, ih.1 hrest, (Except.ok.inj hcons).symm⟩
    · rintro ⟨y, rest, hy, hrest, rfl⟩
      exact ⟨y, hy, bind_eq_ok.2 ⟨rest, ih.2 hrest, rfl⟩⟩

/-- Steps that can all succeed do. -/
lemma exists_mapM_eq_ok {xs : List α} {f : α → Except ε β} (h : ∀ x ∈ xs, ∃ y, f x = .ok y) :
    ∃ ys, xs.mapM f = .ok ys := by
  induction xs with
  | nil => exact ⟨[], rfl⟩
  | cons x xs ih =>
    obtain ⟨⟨y, hy⟩, hrest⟩ := List.forall_mem_cons.1 h
    obtain ⟨ys, hys⟩ := ih hrest
    exact ⟨y :: ys, by simp [hy, hys]⟩

lemma exists_of_mapM_eq_ok {xs : List α} {f : α → Except ε β} {ys : List β}
    (h : xs.mapM f = .ok ys) {x : α} (hx : x ∈ xs) : ∃ y ∈ ys, f x = .ok y :=
  exists_right_of_forall₂ (mapM_eq_ok_iff.1 h) x hx

lemma exists_of_mem_mapM {xs : List α} {f : α → Except ε β} {ys : List β}
    (h : xs.mapM f = .ok ys) {y : β} (hy : y ∈ ys) : ∃ x ∈ xs, f x = .ok y :=
  exists_left_of_forall₂ (mapM_eq_ok_iff.1 h) y hy

/-- Steps fail together with the first of them that fails. -/
lemma exists_of_mapM_eq_error {xs : List α} {f : α → Except ε β} {e : ε} (h : xs.mapM f = .error e) :
    ∃ before x rest, xs = before ++ x :: rest ∧ (∀ y ∈ before, ∃ b, f y = .ok b) ∧ f x = .error e := by
  induction xs with
  | nil => cases h
  | cons x xs ih =>
    rw [List.mapM_cons] at h
    cases hx : f x with
    | error e' =>
      rw [hx, error_bind, Except.error.injEq] at h
      exact ⟨[], x, xs, rfl, by simp, h ▸ hx⟩
    | ok b =>
      cases hxs : xs.mapM f with
      | ok bs => simp [hx, hxs] at h
      | error e' =>
        simp only [hx, hxs, ok_bind, error_bind, Except.error.injEq] at h
        obtain ⟨before, y, rest, rfl, hbefore, hy⟩ := ih (h ▸ hxs)
        refine ⟨x :: before, y, rest, rfl, ?_, hy⟩
        rintro z hz
        rcases List.mem_cons.1 hz with rfl | hz
        · exact ⟨b, hx⟩
        · exact hbefore z hz

/-- Steps that succeed in one order succeed in every order. -/
lemma mapM_perm {xs xs' : List α} {f : α → Except ε β} {ys : List β} (hperm : xs.Perm xs')
    (h : xs.mapM f = .ok ys) : ∃ ys', xs'.mapM f = .ok ys' ∧ ys.Perm ys' := by
  obtain ⟨ys', hall, hp⟩ := List.perm_comp_forall₂ hperm.symm (mapM_eq_ok_iff.1 h)
  exact ⟨ys', mapM_eq_ok_iff.2 hall, hp.symm⟩

/-! ## Steps that leave a state -/

section States

variable {σ : Type}

lemma run_bind (act : ExceptT ε (StateM σ) α) (next : α → ExceptT ε (StateM σ) β) (s : σ) :
    (act >>= next).run.run s =
      match act.run.run s with
      | (.ok a, s) => (next a).run.run s
      | (.error e, s) => (.error e, s) := by
  show (match act.run.run s with
    | (r, s) => (ExceptT.bindCont next r).run s) = _
  rcases act.run.run s with ⟨_ | a, s⟩ <;> rfl

/-- What steps that succeed did before the last of them. -/
lemma run_bind_ok {act : ExceptT ε (StateM σ) α} {next : α → ExceptT ε (StateM σ) β} {s s' : σ} {b : β}
    (h : (act >>= next).run.run s = (.ok b, s')) :
    ∃ a between, act.run.run s = (.ok a, between) ∧ (next a).run.run between = (.ok b, s') := by
  rw [run_bind] at h
  split at h
  · next a between ha => exact ⟨a, between, ha, h⟩
  · cases h

end States

end TransactionRules.Outcome
