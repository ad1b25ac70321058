import TransactionRules.Proofs.Spacing

/-!
# Tokens of normal forms

The normal form of a condition whose literals are closed is cut into the tokens that it was put
together from, each in the words of the expression language (`Token.mapped`), with the brackets and
conjunctions of a list of constraints between them. Where no bracket closes before it opens, the commas
of such a list all end up between brackets, and the normal form is its own normal form.
-/

namespace TransactionRules

namespace Token

/-! ## Tokens in words -/

/-- The token in the words of the expression language. -/
def mapped (t : Token) : Token :=
  match t.kind, String.ofList t.chars with
  | .op, "&&" => ⟨.name, "and".toList⟩
  | .op, "||" => ⟨.name, "or".toList⟩
  | .op, "!" => ⟨.name, "not".toList⟩
  | .name, "true" => ⟨.name, "True".toList⟩
  | .name, "false" => ⟨.name, "False".toList⟩
  | .name, "null" => ⟨.name, "None".toList⟩
  | _, _ => t

lemma chars_mapped (t : Token) : t.mapped.chars = t.word := by
  unfold mapped word
  split <;> simp_all

/-- A token stays what it is, or it becomes a word that stands for itself. -/
lemma mapped_cases (t : Token) : t.mapped = t ∨
    ((t.kind = .op ∨ t.kind = .name) ∧ ∃ cs ∈ rewritten, t.mapped = ⟨.name, cs⟩) := by
  unfold mapped
  split
  case h_7 => exact .inl rfl
  all_goals exact .inr ⟨by simp [*], _, by decide, rfl⟩

lemma word_mapped (t : Token) : t.mapped.word = t.word := by
  rcases mapped_cases t with h | ⟨-, cs, hcs, h⟩
  · rw [h]
  · have hall : ∀ cs ∈ rewritten, word ⟨.name, cs⟩ = cs := by decide
    rw [← chars_mapped t, h, hall cs hcs]

lemma joined_map_mapped (ts : List Token) : joined (ts.map mapped) = joined ts := by
  rw [joined, joined, List.map_map]
  exact congrArg _ (List.map_congr_left fun t _ => word_mapped t)

/-- Punctuation is not rewritten. -/
lemma isOther_mapped (t : Token) (c : Char) : t.mapped.isOther c = t.isOther c := by
  rcases mapped_cases t with h | ⟨hkind, cs, -, h⟩
  · rw [h]
  · rw [h]
    rcases hkind with hkind | hkind <;> rw [isOther, isOther, hkind] <;> rfl

lemma depthStep_mapped (t : Token) : t.mapped.depthStep = t.depthStep := by
  simp only [depthStep, isOther_mapped]

/-! ## Tokens that stand apart -/

/-- The token is found wherever a stop or nothing stands behind it. -/
def Stands (t : Token) : Prop := ∀ rest, (∀ c ∈ rest.head?, isStop c = true) → Starts t rest

section

variable {t : Token} {ts : List Token} {rest : List Char}

lemma Starts.stands (h : Starts t rest) (hspace : t.kind ≠ .space) (hquote : t.isQuote = false) :
    t.Stands :=
  fun _ hrest => h.loosened hspace hquote (.apart hrest)

lemma Stands.mapped (h : t.Stands) : t.mapped.Stands := by
  have hword : ∀ cs ∈ rewritten, Starts ⟨.name, cs⟩ [] := by
    have hall : ∀ cs ∈ rewritten,
        cs.head?.any (fun c => next c (cs.tail ++ []) = (⟨.name, cs⟩, [])) = true := by decide
    intro cs hcs
    have hcs := hall cs hcs
    cases cs with
    | nil => cases hcs
    | cons c cs => exact ⟨c, cs, rfl, of_decide_eq_true hcs⟩
  rcases mapped_cases t with heq | ⟨-, cs, hcs, heq⟩
  · rwa [heq]
  · rw [heq]
    exact (hword cs hcs).stands (by simp) rfl

lemma stands_of_mem_frame : ∀ t ∈ frame, t.Stands ∧ t.kind ≠ .space := by
  have hframe : ∀ t ∈ frame, Starts t [] ∧ t.kind ≠ .space ∧ t.isQuote = false := by
    intro t ht
    simp only [frame, List.mem_cons, List.not_mem_nil, or_false] at ht
    rcases ht with rfl | rfl | rfl
    · exact ⟨⟨'(', [], rfl, rfl⟩, by decide, by decide⟩
    · exact ⟨⟨')', [], rfl, rfl⟩, by decide, by decide⟩
    · exact ⟨⟨'&', ['&'], rfl, rfl⟩, by decide, by decide⟩
  intro t ht
  obtain ⟨hstarts, hspace, hquote⟩ := hframe t ht
  exact ⟨hstarts.stands hspace hquote, hspace⟩

/-- The tokens of a text with closed literals, except its blanks. -/
lemma stands_of_mem_tokens {cs : List Char} (hclosed : LiteralsClosed cs) :
    ∀ t ∈ Normal.tokens cs, t.Stands ∧ t.kind ≠ .space := by
  intro t ht
  obtain ⟨hmem, hspace⟩ := List.mem_filter.1 ht
  have hspace : t.kind ≠ .space := by simpa using hspace
  obtain ⟨before, after, hscan⟩ := List.append_of_mem hmem
  have hbehind : scan ((t :: after).flatMap chars) = t :: after := scan_flatMap_chars hscan
  exact ⟨(starts_of_scan hbehind).1.stands hspace (hclosed.isQuote_eq_false t hmem), hspace⟩

lemma legible_of_mem_tokens {cs : List Char} (hclosed : LiteralsClosed cs) :
    ∀ t ∈ Normal.tokens cs, t.Legible := by
  intro t ht
  obtain ⟨hmem, hspace⟩ := List.mem_filter.1 ht
  exact ⟨scanned_scan cs t hmem, by simpa using hspace, hclosed.isQuote_eq_false t hmem⟩

/-- A line of words is cut into the tokens of the words. -/
theorem tokens_joined (h : ∀ t ∈ ts, t.Stands ∧ t.kind ≠ .space) :
    Normal.tokens (joined ts) = ts.map mapped := by
  have hspace {t : Token} (ht : t.kind ≠ .space) : t.mapped.kind ≠ .space := by
    rcases mapped_cases t with heq | ⟨-, cs, -, heq⟩
    · rwa [heq]
    · simp [heq]
  induction ts with
  | nil => simp [joined, Normal.tokens]
  | cons t ts ih =>
    obtain ⟨ht, hkind⟩ := h t (by simp)
    have htail := ih fun u hu => h u (by simp [hu])
    cases ts with
    | nil =>
      have hsingle : joined [t] = t.mapped.chars ++ [] := by simp [joined, chars_mapped]
      rw [hsingle, (ht.mapped [] (by simp)).tokens_eq (hspace hkind)]
      simp [Normal.tokens]
    | cons u us =>
      have hblank : isBlank ' ' = true := rfl
      have hstarts := ht.mapped (' ' :: joined (u :: us)) (by simp [isStop_of_isBlank hblank])
      rw [joined_cons t (by simp), ← chars_mapped, hstarts.tokens_eq (hspace hkind),
        Normal.tokens_blank hblank, htail]
      rfl

end

/-! ## Commas at depth zero -/

/-- The depth in round and square brackets behind tokens. -/
def depth (ts : List Token) : Int := (ts.map depthStep).sum

/-- The comma between constraints. -/
def comma : Token := ⟨.other, [',']⟩

section

variable {d : Int} {t : Token} {ts us first : List Token} {rest segs : List (List Token)}

lemma depth_cons (t : Token) (ts : List Token) : depth (t :: ts) = t.depthStep + depth ts := by
  simp [depth]

lemma depth_append (ts us : List Token) : depth (ts ++ us) = depth ts + depth us := by
  simp [depth]

lemma isOther_iff {c : Char} : t.isOther c = true ↔ t = ⟨.other, [c]⟩ := by
  obtain ⟨kind, chars⟩ := t
  simp [isOther]

lemma segments_cons (ht : t = comma → d ≠ 0) (hts : segments (d + t.depthStep) ts = first :: rest) :
    segments d (t :: ts) = (t :: first) :: rest := by
  have hcut : (t.isOther ',' && d == 0) = false := by
    rw [Bool.and_eq_false_iff, beq_eq_false_iff_ne]
    by_cases hcomma : t.isOther ',' = true
    · exact .inr (ht (isOther_iff.1 hcomma))
    · exact .inl (by simpa using hcomma)
  rw [segments, hcut, hts]
  rfl

lemma segments_comma (ts : List Token) : segments 0 (comma :: ts) = [] :: segments 0 ts := by
  rw [segments]
  rfl

/-- The segments put together with commas between them are the tokens. -/
lemma intercalate_segments (d : Int) (ts : List Token) : [comma].intercalate (segments d ts) = ts := by
  induction ts generalizing d with
  | nil => rw [segments, List.intercalate_singleton]
  | cons t ts ih =>
    by_cases hcut : t = comma ∧ d = 0
    · obtain ⟨rfl, rfl⟩ := hcut
      obtain ⟨first, rest, hts⟩ := List.exists_cons_of_ne_nil (segments_ne_nil 0 ts)
      have htail := ih 0
      rw [hts] at htail
      rw [segments_comma, hts, List.intercalate_cons_cons, htail]
      rfl
    · obtain ⟨first, rest, hts⟩ := List.exists_cons_of_ne_nil (segments_ne_nil (d + t.depthStep) ts)
      have htail := ih (d + t.depthStep)
      rw [hts] at htail
      rw [segments_cons (fun ht hd => hcut ⟨ht, hd⟩) hts, ← htail]
      cases rest with
      | nil => simp
      | cons => simp [List.intercalate_cons_cons]

/-- Tokens without a comma at depth zero are in one segment. -/
lemma segments_eq_singleton (h : ∀ p, p ++ [comma] <+: ts → d + depth p ≠ 0) :
    segments d ts = [ts] := by
  induction ts generalizing d with
  | nil => rw [segments]
  | cons t ts ih =>
    have hts : segments (d + t.depthStep) ts = [ts] := ih fun p hp => by
      have := h (t :: p) (List.prefix_cons_inj t |>.2 hp)
      rwa [depth_cons, ← Int.add_assoc] at this
    refine segments_cons (fun ht => ?_) hts
    have := h [] (by simp [ht])
    simpa [depth] using this

/-- Tokens in one segment stay together, with those behind them up to the next comma. -/
lemma segments_append (hts : segments d ts = [ts]) (hus : segments (d + depth ts) us = first :: rest) :
    segments d (ts ++ us) = (ts ++ first) :: rest := by
  induction ts generalizing d with
  | nil => simpa [depth] using hus
  | cons t ts ih =>
    by_cases hcut : t = comma ∧ d = 0
    · obtain ⟨rfl, rfl⟩ := hcut
      rw [segments_comma] at hts
      cases (List.cons.inj hts).1
    · have hne : t = comma → d ≠ 0 := fun ht hd => hcut ⟨ht, hd⟩
      obtain ⟨u, more, htail⟩ := List.exists_cons_of_ne_nil (segments_ne_nil (d + t.depthStep) ts)
      have hwhole := segments_cons hne htail
      rw [hts] at hwhole
      obtain ⟨⟨-, rfl⟩, rfl⟩ : (t = t ∧ ts = u) ∧ [] = more := by simpa using hwhole
      rw [depth_cons, ← Int.add_assoc] at hus
      exact segments_cons hne (ih htail hus)

/-- Tokens with commas between them are the segments, if each of them closes its brackets. -/
lemma segments_intercalate (hne : segs ≠ []) (h : ∀ ts ∈ segs, segments 0 ts = [ts] ∧ depth ts = 0) :
    segments 0 ([comma].intercalate segs) = segs := by
  induction segs with
  | nil => exact absurd rfl hne
  | cons ts segs ih =>
    obtain ⟨hts, hdepth⟩ := h ts (by simp)
    cases segs with
    | nil => simpa using hts
    | cons us segs =>
      have htail := ih (by simp) fun vs hvs => h vs (by simp [hvs])
      have hrest : segments (0 + depth ts) (comma :: [comma].intercalate (us :: segs)) =
          [] :: us :: segs := by rw [hdepth, Int.add_zero, segments_comma, htail]
      have happend := segments_append hts hrest
      simpa [List.intercalate_cons_cons] using happend

/-- Between brackets there is no comma at depth zero. -/
lemma segments_bracketed (h : ∀ p, p <+: ts → 0 ≤ depth p) :
    segments 0 (bracketed ts) = [bracketed ts] := by
  have hinner : segments 1 ts = [ts] := segments_eq_singleton fun p hp => by
    have := h p ((List.prefix_append p [comma]).trans hp)
    omega
  have hend (d : Int) : segments d [rightBracket] = [[rightBracket]] :=
    segments_cons (fun h => absurd h (by decide)) (by rw [segments])
  exact segments_cons (fun h => absurd h (by decide)) (segments_append hinner (hend _))

lemma depth_bracketed (ts : List Token) : depth (bracketed ts) = depth ts := by
  rw [bracketed, depth_cons, depth_append]
  have hleft : leftBracket.depthStep = 1 := rfl
  have hright : depth [rightBracket] = -1 := rfl
  omega

/-- Constraints between brackets, with the sign of a conjunction between neighbours. -/
def conjoined (segs : List (List Token)) : List Token :=
  [conjunction].intercalate (segs.map bracketed)

lemma conjoined_cons_cons (ts us : List Token) (segs : List (List Token)) :
    conjoined (ts :: us :: segs) = bracketed ts ++ conjunction :: conjoined (us :: segs) := by
  simp [conjoined, List.intercalate_cons_cons]

lemma conjoined_ne_nil (hne : segs ≠ []) : conjoined segs ≠ [] := by
  rcases segs with _ | ⟨ts, _ | ⟨us, segs⟩⟩
  · exact absurd rfl hne
  · simp [conjoined, bracketed]
  · simp [conjoined_cons_cons]

lemma mem_conjoined (ht : t ∈ conjoined segs) : t ∈ segs.flatten ∨ t ∈ frame := by
  rcases mem_of_mem_intercalate ht with rfl | ht
  · exact .inr (by simp [frame])
  · exact Normal.mem_bracketed ht

/-- Constraints between brackets are one segment, if none of them closes more than it opens and only
the last one may leave a bracket open. -/
lemma segments_conjoined (hne : segs ≠ []) (h : ∀ ts ∈ segs, ∀ p, p <+: ts → 0 ≤ depth p)
    (hzero : ∀ ts ∈ segs.dropLast, depth ts = 0) : segments 0 (conjoined segs) = [conjoined segs] := by
  induction segs with
  | nil => exact absurd rfl hne
  | cons ts segs ih =>
    have hts := segments_bracketed (h ts (by simp))
    cases segs with
    | nil => simpa [conjoined] using hts
    | cons us segs =>
      have htail := ih (by simp) (fun vs hvs => h vs (by simp [hvs]))
        fun vs hvs => hzero vs (by simp [hvs])
      have hdepth : 0 + depth (bracketed ts) = 0 := by
        rw [depth_bracketed, hzero ts (by simp), Int.add_zero]
      have hstep : (0 : Int) + conjunction.depthStep = 0 := rfl
      have hrest : segments (0 + depth (bracketed ts)) (conjunction :: conjoined (us :: segs)) =
          [conjunction :: conjoined (us :: segs)] := by
        rw [hdepth]
        exact segments_cons (fun h => absurd h (by decide)) (by rw [hstep, htail])
      rw [conjoined_cons_cons]
      exact segments_append hts hrest

/-- If no bracket closes before it opens, none does so in a segment, and every comma between segments
finds all brackets closed. -/
lemma depth_segments (h : ∀ p, p <+: ts → 0 ≤ d + depth p) :
    ∃ first rest, segments d ts = first :: rest ∧ (∀ p, p <+: first → 0 ≤ d + depth p) ∧
      (∀ seg ∈ rest, ∀ p, p <+: seg → 0 ≤ depth p) ∧ (rest ≠ [] → d + depth first = 0) ∧
      ∀ seg ∈ rest.dropLast, depth seg = 0 := by
  induction ts generalizing d with
  | nil => exact ⟨[], [], by rw [segments], h, by simp, by simp, by simp⟩
  | cons t ts ih =>
    have htail : ∀ p, p <+: ts → 0 ≤ d + t.depthStep + depth p := fun p hp => by
      have := h (t :: p) (List.prefix_cons_inj t |>.2 hp)
      rwa [depth_cons, ← Int.add_assoc] at this
    obtain ⟨first, rest, hsegments, hfirst, hrest, hend, hends⟩ := ih htail
    by_cases hcut : t = comma ∧ d = 0
    · obtain ⟨rfl, rfl⟩ := hcut
      have hstep : (0 : Int) + comma.depthStep = 0 := rfl
      rw [hstep] at hsegments hfirst hend
      simp only [Int.zero_add] at hfirst hend
      refine ⟨[], first :: rest, by rw [segments_comma, hsegments], ?_, ?_, fun _ => rfl, ?_⟩
      · intro p hp
        rw [List.prefix_nil.1 hp]
        exact Int.le_refl 0
      · simpa using ⟨hfirst, hrest⟩
      · cases rest with
        | nil => simp
        | cons seg rest => simpa using ⟨hend (by simp), hends⟩
    · refine ⟨t :: first, rest, segments_cons (fun ht hd => hcut ⟨ht, hd⟩) hsegments, ?_, hrest,
        fun hne => ?_, hends⟩
      · refine forall_prefix_cons.2 ⟨h [] List.nil_prefix, fun p hp => ?_⟩
        rw [depth_cons, ← Int.add_assoc]
        exact hfirst p hp
      · rw [depth_cons, ← Int.add_assoc]
        exact hend hne

/-- If no bracket closes before it opens, none does so in a segment, and all segments but the last one
close their brackets. -/
lemma level_segments (h : ∀ p, p <+: ts → 0 ≤ depth p) :
    (∀ seg ∈ segments 0 ts, ∀ p, p <+: seg → 0 ≤ depth p) ∧
      ∀ seg ∈ (segments 0 ts).dropLast, depth seg = 0 := by
  obtain ⟨first, rest, hsegments, hfirst, hrest, hend, hends⟩ :=
    depth_segments (d := 0) (by simpa using h)
  simp only [Int.zero_add] at hfirst hend
  rw [hsegments]
  refine ⟨by simpa using ⟨hfirst, hrest⟩, ?_⟩
  cases rest with
  | nil => simp
  | cons seg rest => simpa using ⟨hend (by simp), hends⟩

lemma segments_map_mapped (d : Int) (ts : List Token) :
    segments d (ts.map mapped) = (segments d ts).map (List.map mapped) := by
  induction ts generalizing d with
  | nil => simp [segments]
  | cons t ts ih =>
    obtain ⟨first, rest, hts⟩ := List.exists_cons_of_ne_nil (segments_ne_nil (d + t.depthStep) ts)
    rw [List.map_cons, segments, segments, isOther_mapped, depthStep_mapped, ih, ih, hts]
    split_ifs <;> rfl

end

end Token

/-! ## Normal forms that are read again -/

namespace Normal

open Token (Stands frame mapped segments depth joined)

variable {segs : List (List Token)}

lemma arranged_eq_conjoined (hlen : 2 ≤ segs.length) : arranged segs = Token.conjoined segs := by
  match segs, hlen with
  | _ :: _ :: _, _ => rfl

lemma mem_arranged {u : Token} (hu : u ∈ arranged segs) : u ∈ segs.flatten ∨ u ∈ frame := by
  rcases segs with _ | ⟨ts, _ | ⟨us, segs⟩⟩
  · cases hu
  · exact .inl (by simpa [arranged] using hu)
  · exact Token.mem_conjoined hu

lemma arranged_ne_nil (hne : segs ≠ []) (h : ∀ ts ∈ segs, ts ≠ []) : arranged segs ≠ [] := by
  rcases segs with _ | ⟨ts, _ | ⟨us, segs⟩⟩
  · exact absurd rfl hne
  · exact h ts (by simp)
  · exact Token.conjoined_ne_nil hne

/-- The tokens of a normal form are in one segment. -/
lemma segments_arranged {ts : List Token} (h : ∀ p, p <+: ts → 0 ≤ depth p) :
    segments 0 (arranged (segments 0 ts)) = [arranged (segments 0 ts)] := by
  obtain ⟨hlevel, hzero⟩ := Token.level_segments h
  obtain ⟨first, rest, hsegments⟩ := List.exists_cons_of_ne_nil (Token.segments_ne_nil 0 ts)
  cases rest with
  | nil =>
    have hts := Token.intercalate_segments 0 ts
    rw [hsegments, List.intercalate_singleton] at hts
    rw [hsegments, arranged, hts, hsegments, hts]
  | cons seg rest =>
    rw [hsegments] at hlevel hzero ⊢
    exact Token.segments_conjoined (by simp) hlevel hzero

end Normal

section

open Token

variable {text normal : String}

/-- The normal form of a condition whose literals are closed is cut into the tokens of the condition
in the words of the expression language, in order and with nothing but brackets and conjunctions in
place of the commas of a list. If no bracket of the condition closes before it opens, the normal form
is its own normal form. -/
theorem tokens_normalForm (hclosed : LiteralsClosed text.toList) (h : normalForm text = .ok normal) :
    let ts := Normal.tokens text.toList
    [comma].intercalate (segments 0 ts) = ts ∧
      Normal.tokens normal.toList = (Normal.arranged (segments 0 ts)).map mapped ∧
      ((∀ p, p <+: ts → 0 ≤ depth p) → normalForm normal = .ok normal) := by
  intro ts
  have hsegs := segments_ne_nil 0 ts
  obtain ⟨cs, hcs, rfl⟩ : ∃ cs, Normal.ofSegments (segments 0 ts) = .ok cs ∧
      String.ofList cs = normal := Outcome.map_eq_ok.1 h
  obtain ⟨hne, rfl⟩ := (Normal.ofSegments_eq_ok hsegs).1 hcs
  have hstands : ∀ t ∈ Normal.arranged (segments 0 ts), t.Stands ∧ t.kind ≠ .space := by
    intro t ht
    rcases Normal.mem_arranged ht with ht | ht
    · obtain ⟨seg, hseg, ht⟩ := List.mem_flatten.1 ht
      exact stands_of_mem_tokens hclosed t (mem_of_mem_segments hseg ht)
    · exact stands_of_mem_frame t ht
  have htokens := tokens_joined hstands
  refine ⟨intercalate_segments 0 ts, by rw [String.toList_ofList, htokens], fun hdepth => ?_⟩
  have hone : Normal.ofSegments [(Normal.arranged (segments 0 ts)).map mapped] =
      .ok (joined (Normal.arranged (segments 0 ts))) :=
    (Normal.ofSegments_eq_ok (by simp)).2
      ⟨by simpa using Normal.arranged_ne_nil hsegs hne, joined_map_mapped _⟩
  rw [normalForm, Normal.ofChars, String.toList_ofList, htokens, segments_map_mapped,
    Normal.segments_arranged hdepth, List.map_singleton, hone]
  rfl

/-- A list of two constraints, one with a comma in a literal and one with a comma in brackets. -/
theorem tokens_normalForm_list :
    LiteralsClosed "merchant!='a, b',!(amount in [1,2])".toList ∧
      (∀ p, p <+: Normal.tokens "merchant!='a, b',!(amount in [1,2])".toList → 0 ≤ depth p) ∧
      normalForm "merchant!='a, b',!(amount in [1,2])" =
        .ok "( merchant != 'a, b' ) and ( not ( amount in [ 1 , 2 ] ) )" ∧
      normalForm "( merchant != 'a, b' ) and ( not ( amount in [ 1 , 2 ] ) )" =
        .ok "( merchant != 'a, b' ) and ( not ( amount in [ 1 , 2 ] ) )" := by
  have hclosed : LiteralsClosed "merchant!='a, b',!(amount in [1,2])".toList := by decide +kernel
  have hnormal : normalForm "merchant!='a, b',!(amount in [1,2])" =
      .ok "( merchant != 'a, b' ) and ( not ( amount in [ 1 , 2 ] ) )" := by decide +kernel
  have hinits : ∀ p ∈ (Normal.tokens "merchant!='a, b',!(amount in [1,2])".toList).inits,
      0 ≤ depth p := by decide +kernel
  have hdepth : ∀ p, p <+: Normal.tokens "merchant!='a, b',!(amount in [1,2])".toList → 0 ≤ depth p :=
    fun p hp => hinits p ((List.mem_inits p _).2 hp)
  exact ⟨hclosed, hdepth, hnormal, (tokens_normalForm hclosed hnormal).2.2 hdepth⟩

end

end TransactionRules
