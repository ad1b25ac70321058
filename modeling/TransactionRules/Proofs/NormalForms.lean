import TransactionRules.Condition.Normal
import TransactionRules.Proofs.Lists

/-!
# Normal forms in tokens

A normal form is a line of tokens: those of its only constraint, or those of every constraint between
brackets, with the sign of a conjunction between neighbours (`Normal.arranged`). Every token of the
condition that is no comma between constraints is one of them, and they keep their order.
-/

namespace TransactionRules

namespace Token

lemma joined_cons (t : Token) {ts : List Token} (hne : ts ≠ []) :
    joined (t :: ts) = t.word ++ ' ' :: joined ts := by
  obtain ⟨u, us, rfl⟩ := List.exists_cons_of_ne_nil hne
  simp [joined, List.intercalate_cons_cons]

lemma joined_append {ts us : List Token} (hts : ts ≠ []) (hus : us ≠ []) :
    joined (ts ++ us) = joined ts ++ ' ' :: joined us := by
  induction ts with
  | nil => exact absurd rfl hts
  | cons t ts ih =>
    cases ts with
    | nil =>
      rw [List.singleton_append, joined_cons t hus]
      simp [joined]
    | cons u ts =>
      rw [List.cons_append, joined_cons t (by simp), ih (by simp), joined_cons t (by simp)]
      simp

/-- A round bracket that opens an operand. -/
def leftBracket : Token := ⟨.other, ['(']⟩

/-- The bracket that closes it. -/
def rightBracket : Token := ⟨.other, [')']⟩

/-- The sign between the operands of a conjunction. -/
def conjunction : Token := ⟨.op, ['&', '&']⟩

/-- A constraint as an operand. -/
def bracketed (ts : List Token) : List Token := leftBracket :: (ts ++ [rightBracket])

lemma joined_bracketed {ts : List Token} (hne : ts ≠ []) :
    joined (bracketed ts) = Normal.bracketed ts := by
  rw [bracketed, joined_cons _ (by simp), joined_append hne (by simp), Normal.bracketed]
  rfl

end Token

namespace Normal

open Token (conjunction)

/-- The tokens of the normal form of constraints. -/
def arranged : List (List Token) → List Token
  | [ts] => ts
  | segments => [conjunction].intercalate (segments.map Token.bracketed)

lemma joined_intercalate {segments : List (List Token)} (hne : ∀ ts ∈ segments, ts ≠ []) :
    Token.joined ([conjunction].intercalate (segments.map Token.bracketed)) =
      " and ".toList.intercalate (segments.map bracketed) := by
  induction segments with
  | nil => rfl
  | cons ts segments ih =>
    have hts := Token.joined_bracketed (hne ts (by simp))
    cases segments with
    | nil => simp [hts]
    | cons us segments =>
      have htail := ih fun vs hvs => hne vs (by simp [hvs])
      have hrest : [conjunction].intercalate ((us :: segments).map Token.bracketed) ≠ [] := by
        cases segments <;> simp [List.intercalate_cons_cons, Token.bracketed]
      have hword : conjunction.word = "and".toList := rfl
      rw [List.map_cons (a := ts), List.map_cons (a := us)] at *
      rw [List.intercalate_cons_cons, List.append_assoc, List.singleton_append,
        Token.joined_append (by simp [Token.bracketed]) (by simp), Token.joined_cons _ hrest, htail,
        hts, hword]
      simp [List.intercalate_cons_cons]

/-- Constraints have a normal form if none of them is empty, and it is the line of their tokens. -/
theorem ofSegments_eq_ok {segments : List (List Token)} (hne : segments ≠ []) {cs : List Char} :
    ofSegments segments = .ok cs ↔
      (∀ ts ∈ segments, ts ≠ []) ∧ Token.joined (arranged segments) = cs := by
  have hall : segments.all List.isEmpty = true → ¬ ∀ ts ∈ segments, ts ≠ [] := by
    intro hall h
    obtain ⟨ts, rest, rfl⟩ := List.exists_cons_of_ne_nil hne
    simp only [List.all_cons, Bool.and_eq_true, List.isEmpty_iff] at hall
    exact h ts (by simp) hall.1
  unfold ofSegments
  split_ifs with hempty
  · simp [hall hempty]
  · match segments, hne with
    | [ts], _ =>
      have hts : ts ≠ [] := by simpa using hempty
      simp [arranged, hts]
    | ts :: us :: segments, _ =>
      simp only
      split_ifs with hany
      · obtain ⟨vs, hvs, hnil⟩ := List.any_eq_true.1 hany
        rw [List.isEmpty_iff] at hnil
        simp only [false_iff, not_and]
        intro h
        exact absurd hnil (h vs hvs)
      · have hnone : ∀ vs ∈ ts :: us :: segments, vs ≠ [] := by
          intro vs hvs hnil
          exact hany (List.any_eq_true.2 ⟨vs, hvs, by simp [hnil]⟩)
        have harranged : Token.joined (arranged (ts :: us :: segments)) =
            " and ".toList.intercalate ((ts :: us :: segments).map bracketed) :=
          joined_intercalate hnone
        rw [harranged, Except.ok.injEq]
        exact ⟨fun h => ⟨hnone, h⟩, fun h => h.2⟩

/-- Where there is a token, only an empty constraint keeps a text from having a normal form. -/
lemma ofSegments_eq_error {segments : List (List Token)} {ts : List Token} (hts : ts ∈ segments)
    (hne : ts ≠ []) {e : NormalError} (h : ofSegments segments = .error e) : e = .emptyConstraint := by
  unfold ofSegments at h
  split_ifs at h with hall
  · have := List.all_eq_true.1 hall ts hts
    exact absurd (List.isEmpty_iff.1 this) hne
  · split at h
    · cases h
    · split_ifs at h
      exact (Except.error.inj h).symm

end Normal

namespace Token

/-! ## What stands before and behind a token -/

/-- Tokens that are only in the normal form, between the constraints and around them. -/
def frame : List Token := [leftBracket, rightBracket, conjunction]

lemma mem_of_mem_segments {d : Int} {ts seg : List Token} (hseg : seg ∈ segments d ts) {u : Token}
    (hu : u ∈ seg) : u ∈ ts := by
  induction ts generalizing d seg with
  | nil =>
    rw [segments, List.mem_singleton] at hseg
    exact hseg ▸ hu
  | cons t ts ih =>
    rw [segments] at hseg
    split_ifs at hseg
    · rcases List.mem_cons.1 hseg with rfl | hseg
      · cases hu
      · exact List.mem_cons_of_mem _ (ih hseg hu)
    · obtain ⟨first, rest, hsegments⟩ :=
        List.exists_cons_of_ne_nil (segments_ne_nil (d + t.depthStep) ts)
      rw [hsegments] at hseg
      rcases List.mem_cons.1 hseg with rfl | hseg
      · rcases List.mem_cons.1 hu with rfl | hu
        · exact List.mem_cons_self
        · exact List.mem_cons_of_mem _ (ih (d := d + t.depthStep) (by simp [hsegments]) hu)
      · exact List.mem_cons_of_mem _ (ih (d := d + t.depthStep) (by simp [hsegments, hseg]) hu)

/-- A token that is no comma is in one segment, and what is in the segments before and behind it
stands before and behind it in the text. -/
lemma segments_append_cons {t : Token} (ht : t.isOther ',' = false) (d : Int)
    (before after : List Token) :
    ∃ segs last first rest,
      segments d (before ++ t :: after) = segs ++ (last ++ t :: first) :: rest ∧
      (∀ u ∈ segs.flatten ++ last, u ∈ before) ∧ ∀ u ∈ first ++ rest.flatten, u ∈ after := by
  induction before generalizing d with
  | nil =>
    obtain ⟨first, rest, hsegments⟩ :=
      List.exists_cons_of_ne_nil (segments_ne_nil (d + t.depthStep) after)
    refine ⟨[], [], first, rest, ?_, by simp, fun u hu => ?_⟩
    · rw [List.nil_append, segments, ht, hsegments]
      rfl
    · rw [← List.flatten_cons, ← hsegments] at hu
      obtain ⟨seg, hseg, hu⟩ := List.mem_flatten.1 hu
      exact mem_of_mem_segments hseg hu
  | cons b before ih =>
    rw [List.cons_append, segments]
    split_ifs
    · obtain ⟨segs, last, first, rest, hsegments, hbefore, hafter⟩ := ih d
      refine ⟨[] :: segs, last, first, rest, by rw [hsegments]; rfl, fun u hu => ?_, hafter⟩
      exact List.mem_cons_of_mem _ (hbefore u (by simpa using hu))
    · obtain ⟨segs, last, first, rest, hsegments, hbefore, hafter⟩ := ih (d + b.depthStep)
      rw [hsegments]
      cases segs with
      | nil =>
        refine ⟨[], b :: last, first, rest, rfl, fun u hu => ?_, hafter⟩
        rcases List.mem_cons.1 (by simpa using hu) with rfl | hu
        · exact List.mem_cons_self
        · exact List.mem_cons_of_mem _ (hbefore u (by simpa using hu))
      | cons seg segs =>
        refine ⟨(b :: seg) :: segs, last, first, rest, rfl, fun u hu => ?_, hafter⟩
        rcases List.mem_cons.1 (show u ∈ b :: (seg ++ (segs.flatten ++ last)) by
          simpa using hu) with rfl | hu
        · exact List.mem_cons_self
        · exact List.mem_cons_of_mem _ (hbefore u (by simpa using hu))

end Token

namespace Normal

open Token (frame conjunction)

lemma mem_bracketed {segments : List (List Token)} {u : Token}
    (hu : u ∈ (segments.map Token.bracketed).flatten) : u ∈ segments.flatten ∨ u ∈ frame := by
  obtain ⟨ts, hts, hu⟩ := List.mem_flatten.1 hu
  obtain ⟨seg, hseg, rfl⟩ := List.mem_map.1 hts
  rw [Token.bracketed, List.mem_cons, List.mem_append, List.mem_singleton] at hu
  rcases hu with rfl | hu | rfl
  · exact .inr (by simp [frame])
  · exact .inl (List.mem_flatten.2 ⟨seg, hseg, hu⟩)
  · exact .inr (by simp [frame])

/-- The order of the tokens is that of the normal form. -/
lemma arranged_append_cons (segs rest : List (List Token)) (last first : List Token) (t : Token) :
    ∃ before after, arranged (segs ++ (last ++ t :: first) :: rest) = before ++ t :: after ∧
      (∀ u ∈ before, u ∈ segs.flatten ++ last ∨ u ∈ frame) ∧
      ∀ u ∈ after, u ∈ first ++ rest.flatten ∨ u ∈ frame := by
  have hconjunction : conjunction ∈ frame := by simp [frame]
  by_cases hsingle : segs = [] ∧ rest = []
  · obtain ⟨rfl, rfl⟩ := hsingle
    exact ⟨last, first, rfl, fun u hu => .inl (by simpa using hu), fun u hu => .inl (by simpa using hu)⟩
  · obtain ⟨ys, zs, hparts, hys, hzs⟩ := intercalate_append_cons conjunction
      (segs.map Token.bracketed) (rest.map Token.bracketed) (Token.bracketed (last ++ t :: first))
    refine ⟨ys ++ Token.leftBracket :: last, first ++ Token.rightBracket :: zs, ?_, fun u hu => ?_,
      fun u hu => ?_⟩
    · have hmany : arranged (segs ++ (last ++ t :: first) :: rest) =
          [conjunction].intercalate
            ((segs ++ (last ++ t :: first) :: rest).map Token.bracketed) := by
        match segs, rest, hsingle with
        | [], [], h => exact absurd ⟨rfl, rfl⟩ h
        | [], _ :: _, _ => rfl
        | [_], _, _ => rfl
        | _ :: _ :: _, _, _ => rfl
      rw [hmany, List.map_append, List.map_cons, hparts]
      simp [Token.bracketed]
    · rw [List.mem_append, List.mem_cons] at hu
      rcases hu with hu | rfl | hu
      · rcases hys u hu with rfl | hu
        · exact .inr hconjunction
        · exact (mem_bracketed hu).imp_left (List.mem_append_left _)
      · exact .inr (by simp [frame])
      · exact .inl (List.mem_append_right _ hu)
    · rw [List.mem_append, List.mem_cons] at hu
      rcases hu with hu | rfl | hu
      · exact .inl (List.mem_append_left _ hu)
      · exact .inr (by simp [frame])
      · rcases hzs u hu with rfl | hu
        · exact .inr hconjunction
        · exact (mem_bracketed hu).imp_left (List.mem_append_right _)

end Normal

end TransactionRules
