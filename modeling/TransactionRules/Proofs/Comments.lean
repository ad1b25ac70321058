import TransactionRules.Proofs.Conjunctions

/-!
# Comments

A condition has no use for the character `#` outside its literals, where it is a token by itself. In the
expression language a comment starts there, which ends with the line. A normal form is one line unless
a literal has a line break in it, so its words behind such a token are not read at all: the condition
is what stands before it (`Condition.ofText_comment`).
-/

namespace TransactionRules

open Expression

namespace Token

/-- The character that starts a comment, by itself. -/
def hash : Token := ⟨.other, ['#']⟩

/-- A word without line breaks, which would end a comment, and without the null character. -/
def OnLine (t : Token) : Prop := ∀ c ∈ t.word, c ∉ ['\n', '\r', '\x00']

variable {t : Token} {bs as : List Token}

/-! ## Lines with a comment -/

/-- A line that starts with a comment is that comment. -/
lemma exists_comment (h : ∀ t ∈ as, t.OnLine) :
    ∃ rest, Line.unify (joined (hash :: as)) = '#' :: rest ∧ '\n' ∉ rest := by
  obtain ⟨rest, hjoined⟩ : ∃ rest, joined (hash :: as) = '#' :: rest := by
    cases as with
    | nil => exact ⟨[], rfl⟩
    | cons u us => exact ⟨' ' :: joined (u :: us), joined_cons hash (by simp)⟩
  have hplain : ∀ c ∈ joined (hash :: as), c ∉ ['\n', '\r', '\x00'] := by
    intro c hc
    by_cases hspace : c = ' '
    · subst hspace
      decide
    · obtain ⟨t, ht, hc⟩ := (mem_joined hspace).1 hc
      rcases List.mem_cons.1 ht with rfl | ht
      · obtain rfl : c = '#' := List.mem_singleton.1 hc
        decide
      · exact h t ht c hc
  have hunify := Sign.unify_eq_self fun hmem => hplain '\r' hmem (by simp)
  rw [hunify, hjoined]
  refine ⟨rest, rfl, fun hmem => ?_⟩
  exact hplain '\n' (hjoined ▸ List.mem_cons_of_mem _ hmem) (by simp)

/-- The lexemes of a comment are those of nothing. -/
lemma lexemes_comment {rest : List Char} (h : '\n' ∉ rest) (d : Nat) :
    Line.lexemes d ('#' :: rest) = Line.lexemes d [] := by
  have hend : rest.dropWhile (· != '\n') = [] := by
    rw [List.dropWhile_eq_nil_iff]
    intro c hc
    have hne : c ≠ '\n' := fun heq => h (heq ▸ hc)
    simpa using hne
  rw [Line.lexemes.eq_def d ('#' :: rest)]
  simp [hend]

/-- A token at the start of a line of words is its lexeme. -/
lemma lexemes_joined_cons (ht : t.Legible) (hhash : t.isOther '#' = false) (ts : List Token)
    (d : Nat) :
    Line.lexemes d (Line.unify (joined (t :: ts))) =
      t.lexeme?.bind fun l => (l.openAfter Line.bracketLimit d).bind fun e =>
        (Line.lexemes e (Line.unify (joined ts))).map (l :: ·) := by
  cases ts with
  | nil =>
    have hsingle : joined [t] = t.word := by simp [joined]
    have hword := lexemes_token ht hhash (show Parted [] by simp [Parted]) d
    rw [List.append_nil, ← hsingle] at hword
    exact hword
  | cons u us =>
    have hspace (cs : List Char) : Line.unify (' ' :: cs) = ' ' :: Line.unify cs :=
      Line.unify.eq_3 _ _ (fun _ h _ => absurd h (by decide)) (by decide)
    rw [joined_cons t (by simp), unify_append _ (by decide), hspace,
      lexemes_token ht hhash (by simp [Parted])]
    simp only [Sign.lexemes_space]

/-- The words behind the start of a comment have no lexemes. -/
lemma lexemes_append_hash (hbs : ∀ t ∈ bs, t.Legible ∧ t.isOther '#' = false)
    (has : ∀ t ∈ as, t.OnLine) (d : Nat) :
    Line.lexemes d (Line.unify (joined (bs ++ hash :: as))) =
      Line.lexemes d (Line.unify (joined bs)) := by
  induction bs generalizing d with
  | nil =>
    obtain ⟨rest, hline, hrest⟩ := exists_comment has
    rw [List.nil_append, hline, lexemes_comment hrest]
    rfl
  | cons t bs ih =>
    obtain ⟨ht, hhash⟩ := hbs t (by simp)
    have htail := ih fun u hu => hbs u (by simp [hu])
    rw [List.cons_append, lexemes_joined_cons ht hhash, lexemes_joined_cons ht hhash]
    simp only [htail]

lemma start_comment {rest : List Char} (h : '\n' ∉ rest) (indent fixed : Nat) :
    Line.start true indent fixed rest = some [] := by
  induction rest generalizing indent fixed with
  | nil => simp [Line.start]
  | cons c rest ih =>
    obtain ⟨hne, hrest⟩ := not_or.1 (mt List.mem_cons.2 h)
    rw [Line.start.eq_4 _ _ _ _ _ (fun heq => hne heq.symm) fun d r _ heq => hrest (by simp [heq])]
    simp [ih hrest]

/-- A line reads as if it ended where a comment starts. -/
theorem ofChars_append_hash (hbs : ∀ t ∈ bs, t.Legible ∧ t.isOther '#' = false)
    (has : ∀ t ∈ as, t.OnLine) :
    Line.ofChars (joined (bs ++ hash :: as)) = Line.ofChars (joined bs) := by
  cases bs with
  | nil =>
    obtain ⟨rest, hline, hrest⟩ := exists_comment has
    rw [List.nil_append, Line.ofChars, hline, Line.start.eq_4 _ _ _ _ _ (by simp) (by simp)]
    simp [start_comment hrest, Line.ofChars, joined, Line.unify, Line.start]
  | cons t bs =>
    obtain ⟨ht, hhash⟩ := hbs t (by simp)
    obtain ⟨c, cs, hword, hhead, hslash⟩ := exists_word ht hhash
    have hstart (ts : List Token) : Line.ofChars (joined (t :: ts)) =
        Line.lexemes 0 (Line.unify (joined (t :: ts))) := by
      obtain ⟨rest, hjoined, hrest⟩ := exists_joined_cons t ts
      rw [hword, List.cons_append] at hjoined
      exact ofChars_eq_lexemes hjoined hhead (fun hc => (hslash hc).1) hrest
    rw [List.cons_append, hstart, hstart, ← List.cons_append, lexemes_append_hash hbs has]

/-! ## Conditions with a comment -/

lemma not_formatted_of_ofChars (hbs : ∀ t ∈ bs, t.Legible ∧ t.isOther '#' = false)
    {ls : List Lexeme} (h : Line.ofChars (joined bs) = some ls) :
    ∀ l ∈ ls, ∀ sources, l ≠ .formatted sources := by
  by_cases hne : bs = []
  · subst hne
    obtain rfl : [] = ls := by
      simpa [Line.ofChars, joined, Line.unify, Line.start, Line.lexemes] using h
    simp
  · rw [ofChars_joined hne hbs] at h
    obtain ⟨ls', hlexemes, hclosed⟩ := Option.bind_eq_some_iff.1 h
    split_ifs at hclosed
    cases hclosed
    exact not_formatted_of_agrees (agrees_of_mapM (fun t ht => (hbs t ht).1) hlexemes)

lemma ofChars?_append_hash (hbs : ∀ t ∈ bs, t.Legible ∧ t.isOther '#' = false)
    (has : ∀ t ∈ as, t.OnLine) :
    Expr.ofChars? (joined (bs ++ hash :: as)) = Expr.ofChars? (joined bs) := by
  rw [Expr.ofChars?, Expr.ofChars?, ofChars_append_hash hbs has]
  cases hline : Line.ofChars (joined bs) with
  | none => rfl
  | some ls =>
    rw [Option.bind_some]
    cases htrees : Tree.ofLexemes ls with
    | none => rfl
    | some us =>
      have hfixed := Tree.fixed_of_ofLexemes (not_formatted_of_ofChars hbs hline) htrees
      rw [Option.bind_some, Option.bind_some, Tree.ofTrees_of_fixed hfixed]

/-- Nothing is no condition. -/
lemma ofNormal_nil : Condition.ofNormal (String.ofList (joined [])) = .error .notExpression := by
  have hline : Expr.ofChars? (joined []) = none := by decide +kernel
  rw [Condition.ofNormal, String.toList_ofList, hline]
  rfl

/-- A condition ends where a comment starts. -/
theorem ofNormal_append_hash (hbs : ∀ t ∈ bs, t.Legible ∧ t.isOther '#' = false)
    (has : ∀ t ∈ as, t.OnLine) :
    Condition.ofNormal (String.ofList (joined (bs ++ hash :: as))) =
      Condition.ofNormal (String.ofList (joined bs)) := by
  have hnull : '\x00' ∈ joined (bs ++ hash :: as) ↔ '\x00' ∈ joined bs := by
    have hspace : '\x00' ≠ ' ' := by decide
    rw [mem_joined hspace, mem_joined hspace]
    constructor
    · rintro ⟨t, ht, hc⟩
      rcases List.mem_append.1 ht with ht | ht
      · exact ⟨t, ht, hc⟩
      · rcases List.mem_cons.1 ht with rfl | ht
        · exact absurd hc (by decide)
        · exact absurd (by simp) (has t ht _ hc)
    · rintro ⟨t, ht, hc⟩
      exact ⟨t, List.mem_append_left _ ht, hc⟩
  simp only [Condition.ofNormal, String.toList_ofList, List.contains_eq_mem, hnull,
    ofChars?_append_hash hbs has]

/-! ## Constraints before a comment -/

section

variable {segs rest : List (List Token)} {ts last first before after : List Token} {d : Int}

/-- The constraints before another one as operands, and what of this one stands before some token. -/
def opened (segs : List (List Token)) (last : List Token) : List Token :=
  segs.flatMap (fun seg => bracketed seg ++ [conjunction]) ++ leftBracket :: last

lemma mem_opened {u : Token} (hu : u ∈ opened segs last) :
    u ∈ segs.flatten ++ last ∨ u ∈ frame := by
  rw [opened, List.mem_append, List.mem_flatMap, List.mem_cons] at hu
  rcases hu with ⟨seg, hseg, hu⟩ | rfl | hu
  · rw [List.mem_append, List.mem_singleton] at hu
    rcases hu with hu | rfl
    · have hparts : u ∈ (segs.map bracketed).flatten :=
        List.mem_flatten.2 ⟨_, List.mem_map_of_mem hseg, hu⟩
      exact (Normal.mem_bracketed hparts).imp_left (List.mem_append_left _)
    · exact .inr (by simp [frame])
  · exact .inr (by simp [frame])
  · exact .inl (List.mem_append_right _ hu)

/-- A list of constraints up to a token in one of them, and behind it. -/
lemma exists_conjoined (segs rest : List (List Token)) (last first : List Token) (t : Token) :
    ∃ back, conjoined (segs ++ (last ++ t :: first) :: rest) = opened segs last ++ t :: back ∧
      ∀ u ∈ back, u ∈ first ++ rest.flatten ∨ u ∈ frame := by
  induction segs with
  | nil =>
    have hbracketed : bracketed (last ++ t :: first) =
        leftBracket :: last ++ t :: (first ++ [rightBracket]) := by simp [bracketed]
    cases rest with
    | nil =>
      refine ⟨first ++ [rightBracket], ?_, fun u hu => ?_⟩
      · simpa [conjoined, opened] using hbracketed
      · rcases List.mem_append.1 hu with hu | hu
        · exact .inl (by simp [hu])
        · exact .inr (by simp [frame, List.mem_singleton.1 hu])
    | cons seg rest =>
      refine ⟨first ++ rightBracket :: conjunction :: conjoined (seg :: rest), ?_, fun u hu => ?_⟩
      · rw [List.nil_append, conjoined_cons_cons, hbracketed]
        simp [opened]
      · rw [List.mem_append, List.mem_cons, List.mem_cons] at hu
        rcases hu with hu | rfl | rfl | hu
        · exact .inl (by simp [hu])
        · exact .inr (by simp [frame])
        · exact .inr (by simp [frame])
        · exact (mem_conjoined hu).imp_left (List.mem_append_right first)
  | cons seg segs ih =>
    obtain ⟨back, hback, hmem⟩ := ih
    refine ⟨back, ?_, hmem⟩
    obtain ⟨next, more, hnext⟩ := List.exists_cons_of_ne_nil
      (show segs ++ (last ++ t :: first) :: rest ≠ [] by simp)
    rw [hnext] at hback
    rw [List.cons_append, hnext, conjoined_cons_cons, hback]
    simp [opened]

lemma exists_intercalate (segs rest : List (List Token)) (last first : List Token) (t : Token) :
    ∃ more, [comma].intercalate (segs ++ (last ++ t :: first) :: rest) =
      [comma].intercalate (segs ++ [last]) ++ t :: more := by
  induction segs with
  | nil =>
    cases rest with
    | nil => exact ⟨first, by simp⟩
    | cons seg rest =>
      exact ⟨first ++ comma :: [comma].intercalate (seg :: rest),
        by simp [List.intercalate_cons_cons]⟩
  | cons seg segs ih =>
    obtain ⟨more, hmore⟩ := ih
    obtain ⟨next, others, hnext⟩ := List.exists_cons_of_ne_nil
      (show segs ++ (last ++ t :: first) :: rest ≠ [] by simp)
    obtain ⟨next', others', hnext'⟩ := List.exists_cons_of_ne_nil
      (show segs ++ [last] ≠ [] by simp)
    rw [hnext, hnext'] at hmore
    refine ⟨more, ?_⟩
    rw [List.cons_append, List.cons_append, hnext, hnext', List.intercalate_cons_cons,
      List.intercalate_cons_cons, hmore]
    simp only [List.append_assoc]

lemma depth_intercalate (tss : List (List Token)) :
    depth ([comma].intercalate tss) = (tss.map depth).sum := by
  induction tss with
  | nil => rfl
  | cons ts tss ih =>
    cases tss with
    | nil => simp
    | cons us tss =>
      have hcomma : comma.depthStep = 0 := rfl
      rw [List.intercalate_cons_cons, List.append_assoc, List.singleton_append, depth_append,
        depth_cons, ih, hcomma, Int.zero_add, List.map_cons (a := ts), List.sum_cons]

/-- One bracket more is open among operands than among the constraints. -/
lemma depth_opened (segs : List (List Token)) (last : List Token) :
    depth (opened segs last) = depth ([comma].intercalate (segs ++ [last])) + 1 := by
  have hoperands : depth (segs.flatMap fun seg => bracketed seg ++ [conjunction]) =
      (segs.map depth).sum := by
    induction segs with
    | nil => rfl
    | cons seg segs ih =>
      have hconjunction : depth [conjunction] = 0 := rfl
      rw [List.flatMap_cons, depth_append, depth_append, depth_bracketed, ih, hconjunction,
        List.map_cons, List.sum_cons, Int.add_zero]
  have hleft : leftBracket.depthStep = 1 := rfl
  rw [opened, depth_append, hoperands, depth_cons, hleft, depth_intercalate, List.map_append,
    List.sum_append, List.map_singleton, List.sum_singleton]
  omega

/-- The constraints up to a token that stands in none of them before. -/
lemma intercalate_of_segments {t : Token} (hbefore : t ∉ before) (hcomma : t ≠ comma)
    (hflat : t ∉ segs.flatten ++ last)
    (h : segments d (before ++ t :: after) = segs ++ (last ++ t :: first) :: rest) :
    [comma].intercalate (segs ++ [last]) = before := by
  obtain ⟨more, hmore⟩ := exists_intercalate segs rest last first t
  rw [← h, intercalate_segments] at hmore
  have hfront : t ∉ [comma].intercalate (segs ++ [last]) := by
    intro hmem
    rcases mem_of_mem_intercalate hmem with heq | hmem
    · exact hcomma heq
    · exact hflat (by simpa using hmem)
  have htake {us vs : List Token} (hus : t ∉ us) : (us ++ t :: vs).takeWhile (· != t) = us := by
    have hall : ∀ u ∈ us, (u != t) = true := fun u hu => by
      simpa using fun heq : u = t => hus (heq ▸ hu)
    rw [List.takeWhile_append_of_pos hall, List.takeWhile_cons_of_neg (by simp), List.append_nil]
  rw [← htake hfront, ← hmore, htake hbefore]

/-- A first part of tokens in one segment is in one segment. -/
lemma segments_of_append (h : segments d (ts ++ after) = [ts ++ after]) : segments d ts = [ts] := by
  induction ts generalizing d with
  | nil => rw [segments]
  | cons t ts ih =>
    by_cases hcut : t = comma ∧ d = 0
    · obtain ⟨rfl, rfl⟩ := hcut
      rw [List.cons_append, segments_comma] at h
      cases (List.cons.inj h).1
    · have hne : t = comma → d ≠ 0 := fun ht hd => hcut ⟨ht, hd⟩
      obtain ⟨next, more, htail⟩ :=
        List.exists_cons_of_ne_nil (segments_ne_nil (d + t.depthStep) (ts ++ after))
      have hwhole := segments_cons hne htail
      rw [← List.cons_append, h, List.cons_append] at hwhole
      obtain ⟨⟨-, rfl⟩, rfl⟩ : (t = t ∧ ts ++ after = next) ∧ [] = more := by simpa using hwhole
      exact segments_cons hne (ih htail)

lemma tokens_blanks {cs : List Char} (h : ∀ c ∈ cs, isBlank c = true) (rest : List Char) :
    Normal.tokens (cs ++ rest) = Normal.tokens rest := by
  induction cs with
  | nil => rfl
  | cons c cs ih =>
    rw [List.cons_append, Normal.tokens_blank (h c (by simp))]
    exact ih fun c hc => h c (by simp [hc])

/-- The first tokens of a text are the tokens of the text up to there. -/
lemma tokens_front (hscan : scan ((before ++ after).flatMap chars) = before ++ after)
    (hquote : ∀ t ∈ before, t.isQuote = false) :
    Normal.tokens (before.flatMap chars) = before.filter (·.kind != .space) := by
  induction before with
  | nil => simp [Normal.tokens]
  | cons t before ih =>
    rw [List.cons_append] at hscan
    have hscanned := scanned_scan ((t :: (before ++ after)).flatMap chars) t (by rw [hscan]; simp)
    obtain ⟨hstarts, htail⟩ := starts_of_scan hscan
    have hrest := ih htail fun u hu => hquote u (by simp [hu])
    rw [List.flatMap_cons]
    by_cases hspace : t.kind = .space
    · have hblanks : ∀ c ∈ t.chars, isBlank c = true := by
        cases hscanned with
        | space h => exact h
        | _ => cases hspace
      rw [tokens_blanks hblanks, hrest, List.filter_cons_of_neg (by simp [hspace])]
    · -- What stands behind the first part may be taken away, for nothing is a stop.
      have hloosened : Loosened ((before ++ after).flatMap chars) (before.flatMap chars) := by
        have hend : Loosened (after.flatMap chars) [] := .apart (by simp)
        simpa using hend.append (before.flatMap chars)
      have hstarts := hstarts.loosened hspace (hquote t (by simp)) hloosened
      rw [hstarts.tokens_eq hspace, hrest, List.filter_cons_of_pos (by simpa using hspace)]

/-- Blanks open and close no bracket. -/
lemma depth_filter (ts : List Token) : depth (ts.filter (·.kind != .space)) = depth ts := by
  induction ts with
  | nil => rfl
  | cons t ts ih =>
    by_cases hspace : t.kind = .space
    · have hstep : t.depthStep = 0 := by
        obtain ⟨kind, cs⟩ := t
        obtain rfl : kind = .space := hspace
        rfl
      rw [List.filter_cons_of_neg (by simp [hspace]), ih, depth_cons, hstep, Int.zero_add]
    · rw [List.filter_cons_of_pos (by simpa using hspace), depth_cons, depth_cons, ih]

variable (before after) in
/-- The words of a normal form before a token and behind it: those of the text, if it has only one
constraint, and with one bracket more open before the token if it has more. -/
lemma exists_arranged {t : Token} (ht : t.isOther ',' = false) (hbefore : t ∉ before) :
    ∃ bs as, Normal.arranged (segments 0 (before ++ t :: after)) = bs ++ t :: as ∧
      (∀ u ∈ bs, u ∈ before ∨ u ∈ frame) ∧ (∀ u ∈ as, u ∈ after ∨ u ∈ frame) ∧
      (segments 0 (before ++ t :: after) = [before ++ t :: after] ∧ bs = before ∨
        segments 0 (before ++ t :: after) ≠ [before ++ t :: after] ∧ depth bs = depth before + 1) := by
  have hcomma : t ≠ comma := by
    rintro rfl
    cases ht
  obtain ⟨segs, last, first, rest, hsegments, hfirst, hrest⟩ :=
    segments_append_cons ht 0 before after
  have hfront :=
    intercalate_of_segments hbefore hcomma (fun hmem => hbefore (hfirst t hmem)) hsegments
  by_cases hsingle : segs = [] ∧ rest = []
  · obtain ⟨rfl, rfl⟩ := hsingle
    obtain rfl : last = before := by simpa using hfront
    have hwhole := intercalate_segments 0 (last ++ t :: after)
    rw [hsegments, List.nil_append, List.intercalate_singleton] at hwhole
    refine ⟨last, first, by rw [hsegments]; rfl, fun u hu => .inl hu,
      fun u hu => .inl (hrest u (by simpa using hu)), .inl ⟨?_, rfl⟩⟩
    rw [hsegments, List.nil_append, hwhole]
  · obtain ⟨back, hback, hmem⟩ := exists_conjoined segs rest last first t
    have hlength : 2 ≤ (segs ++ (last ++ t :: first) :: rest).length := by
      have hpositive : 0 < segs.length ∨ 0 < rest.length := by
        rw [List.length_pos_iff, List.length_pos_iff]
        exact not_and_or.1 hsingle
      simp only [List.length_append, List.length_cons]
      omega
    refine ⟨opened segs last, back, ?_, fun u hu => ?_, fun u hu => (hmem u hu).imp_left (hrest u),
      .inr ⟨fun hone => ?_, ?_⟩⟩
    · rw [hsegments, ← hback, Normal.arranged_eq_conjoined hlength]
    · exact (mem_opened hu).imp_left (hfirst u)
    · rw [← hsegments, hone] at hlength
      simp at hlength
    · rw [depth_opened, hfront]

end

end Token

section

open Token

variable {before after : List Token} {text : String}

/-- The words of a text are on one line if none of its tokens but a blank has a line break in it. -/
lemma Token.onLine_of_chars {t : Token} (h : ∀ c ∈ t.chars, c ∉ ['\n', '\r', '\x00']) :
    t.OnLine := by
  rcases word_cases t with hword | ⟨-, hword⟩
  · exact fun c hc => h c (hword ▸ hc)
  · have hall : ∀ cs ∈ rewritten, cs.all (fun c => !(['\n', '\r', '\x00']).contains c) = true := by
      decide
    intro c hc
    simpa using List.all_eq_true.1 (hall _ hword) c hc

lemma Token.frame_onLine : ∀ t ∈ frame, t.OnLine := by
  have hall : ∀ t ∈ frame, t.chars.all (fun c => !(['\n', '\r', '\x00']).contains c) = true := by
    decide
  intro t ht
  refine onLine_of_chars fun c hc => ?_
  simpa using List.all_eq_true.1 (hall t ht) c hc

/-- The normal form of one constraint is its own words. -/
lemma normalForm_of_one (hne : Normal.tokens text.toList ≠ [])
    (hone : segments 0 (Normal.tokens text.toList) = [Normal.tokens text.toList]) :
    normalForm text = .ok (String.ofList (Token.joined (Normal.tokens text.toList))) := by
  have hsegments : Normal.ofSegments [Normal.tokens text.toList] =
      .ok (Token.joined (Normal.tokens text.toList)) :=
    (Normal.ofSegments_eq_ok (by simp)).2 ⟨by simpa using hne, rfl⟩
  rw [normalForm, Normal.ofChars, hone, hsegments]
  rfl

/-- The tokens of a text around a character that starts a comment. -/
lemma tokens_of_hash (hscan : scan text.toList = before ++ hash :: after) :
    Normal.tokens text.toList =
      before.filter (·.kind != .space) ++ hash :: after.filter (·.kind != .space) := by
  rw [Normal.tokens, hscan, List.filter_append, List.filter_cons_of_pos rfl]

lemma hash_notMem {ts : List Token} (h : ∀ t ∈ ts, t.isOther '#' = false) : hash ∉ ts :=
  fun hmem => absurd (h hash hmem) (by decide)

/-- What the normal form of a text has before a character that starts a comment. -/
lemma exists_front (hscan : scan text.toList = before ++ hash :: after)
    (hbefore : ∀ t ∈ before, t.isQuote = false ∧ t.isOther '#' = false)
    (hafter : ∀ t ∈ after, t.kind ≠ .space → ∀ c ∈ t.chars, c ∉ ['\n', '\r', '\x00']) :
    let ts := Normal.tokens text.toList
    ∃ bs as, Normal.arranged (segments 0 ts) = bs ++ hash :: as ∧
      (∀ t ∈ bs, t.Legible ∧ t.isOther '#' = false) ∧
      (∀ normal, normalForm text = .ok normal →
        Condition.ofText text = Condition.ofNormal (String.ofList (Token.joined bs))) ∧
      (segments 0 ts = [ts] ∧ bs = before.filter (·.kind != .space) ∨
        segments 0 ts ≠ [ts] ∧ depth bs = depth before + 1) := by
  intro ts
  have htokens : ts = before.filter (·.kind != .space) ++
      hash :: after.filter (·.kind != .space) := tokens_of_hash hscan
  have hlegible : ∀ t ∈ before.filter (·.kind != .space), t.Legible ∧ t.isOther '#' = false := by
    intro t ht
    obtain ⟨ht, hspace⟩ := List.mem_filter.1 ht
    have hscanned := scanned_scan text.toList t (by simp [hscan, ht])
    exact ⟨⟨hscanned, by simpa using hspace, (hbefore t ht).1⟩, (hbefore t ht).2⟩
  obtain ⟨bs, as, harranged, hbs, has, hparts⟩ :=
    exists_arranged (before.filter (·.kind != .space)) (after.filter (·.kind != .space))
      (by rfl : hash.isOther ',' = false) (hash_notMem fun t ht => (hlegible t ht).2)
  rw [← htokens, depth_filter] at hparts
  rw [← htokens] at harranged
  have hfront : ∀ t ∈ bs, t.Legible ∧ t.isOther '#' = false := fun t ht =>
    (hbs t ht).elim (hlegible t) (frame_legible t)
  have hback : ∀ t ∈ as, t.OnLine := by
    intro t ht
    rcases has t ht with ht | ht
    · obtain ⟨ht, hspace⟩ := List.mem_filter.1 ht
      exact onLine_of_chars (hafter t ht (by simpa using hspace))
    · exact frame_onLine t ht
  refine ⟨bs, as, harranged, hfront, fun normal h => ?_, hparts⟩
  obtain ⟨cs, hcs, rfl⟩ : ∃ cs, Normal.ofSegments (segments 0 ts) = .ok cs ∧
      String.ofList cs = normal := Outcome.map_eq_ok.1 h
  obtain ⟨-, rfl⟩ := (Normal.ofSegments_eq_ok (segments_ne_nil 0 ts)).1 hcs
  unfold Condition.ofText
  rw [h, harranged]
  exact ofNormal_append_hash hfront hback

/-- The words of the only constraint before such a character are the condition of the text up to it. -/
lemma ofText_front (hscan : scan text.toList = before ++ hash :: after)
    (hquote : ∀ t ∈ before, t.isQuote = false)
    (hone : segments 0 (Normal.tokens text.toList) = [Normal.tokens text.toList]) :
    Condition.ofNormal (String.ofList (Token.joined (before.filter (·.kind != .space)))) =
      if before.all (·.kind == .space) then .error .notExpression
      else Condition.ofText (String.ofList (before.flatMap chars)) := by
  have hblank : before.all (·.kind == .space) = true ↔ before.filter (·.kind != .space) = [] := by
    simp [List.filter_eq_nil_iff]
  split_ifs with hall
  · rw [hblank.1 hall]
    exact ofNormal_nil
  · have hscanned : scan ((before ++ hash :: after).flatMap chars) = before ++ hash :: after := by
      rw [← hscan, flatMap_chars_scan]
    have hcut : Normal.tokens (String.ofList (before.flatMap chars)).toList =
        before.filter (·.kind != .space) := by
      rw [String.toList_ofList, tokens_front hscanned hquote]
    rw [tokens_of_hash hscan] at hone
    have hself := segments_of_append hone
    rw [← hcut] at hself
    unfold Condition.ofText
    rw [normalForm_of_one (by rwa [hcut, Ne, ← hblank]) hself, hcut]

/-- A condition with a character that starts a comment is the condition that its normal form has before
it. If the text is one constraint, what stands behind the character is not read at all; if it has more,
the bracket around the constraint stays open, and only a bracket too many before the character
makes up for it. -/
theorem Condition.ofText_comment (hscan : scan text.toList = before ++ hash :: after)
    (hbefore : ∀ t ∈ before, t.isQuote = false ∧ t.isOther '#' = false)
    (hafter : ∀ t ∈ after, t.kind ≠ .space → ∀ c ∈ t.chars, c ∉ ['\n', '\r', '\x00']) :
    let ts := Normal.tokens text.toList
    (∀ normal, normalForm text = .ok normal →
      ∃ bs as, Normal.arranged (segments 0 ts) = bs ++ hash :: as ∧ hash ∉ bs ∧
        Condition.ofText text = Condition.ofNormal (String.ofList (Token.joined bs))) ∧
    (segments 0 ts = [ts] → Condition.ofText text =
      if before.all (·.kind == .space) then .error .notExpression
      else Condition.ofText (String.ofList (before.flatMap chars))) ∧
    (segments 0 ts ≠ [ts] → depth before ≠ -1 → ∃ e, Condition.ofText text = .error e) := by
  intro ts
  obtain ⟨bs, as, harranged, hfront, hnormal, hparts⟩ := exists_front hscan hbefore hafter
  refine ⟨fun normal h => ⟨bs, as, harranged, hash_notMem fun t ht => (hfront t ht).2,
    hnormal normal h⟩, fun hone => ?_, fun hmany hdepth => ?_⟩
  · obtain ⟨-, rfl⟩ := hparts.resolve_right fun h => h.1 hone
    have hne : ts ≠ [] := by simp [ts, tokens_of_hash hscan]
    rw [hnormal _ (normalForm_of_one hne hone),
      ofText_front hscan (fun t ht => (hbefore t ht).1) hone]
  · obtain ⟨-, hopen⟩ := hparts.resolve_left fun h => hmany h.1
    have hnonzero : depth bs ≠ 0 := by omega
    cases hline : normalForm text with
    | error e => exact ⟨_, by unfold Condition.ofText; rw [hline]⟩
    | ok normal =>
      rw [hnormal normal hline]
      cases hcondition : Condition.ofNormal (String.ofList (Token.joined bs)) with
      | error e => exact ⟨e, rfl⟩
      | ok c =>
        -- What is accepted closes its brackets, and the first bracket of the list stays open here.
        have hne : bs ≠ [] := by
          rintro rfl
          exact hnonzero rfl
        obtain ⟨r, hr, -⟩ := Reading.exists_of_ofNormal hne hfront hcondition
        exact absurd hr.depth_tokens.2 hnonzero

end

/-- Of `true # false` only `true` is read, and in a list the comment leaves a bracket open. -/
theorem Condition.ofText_comment_cut :
    Condition.ofText "true # false" = Condition.ofText "true " ∧
      ∃ e, Condition.ofText "true, true # false" = .error e := by
  have hafter : ∀ t ∈ [⟨.space, " ".toList⟩, ⟨.name, "false".toList⟩], t.kind ≠ TokenKind.space →
      ∀ c ∈ Token.chars t, c ∉ ['\n', '\r', '\x00'] := by
    simp
  have hscan : Token.scan "true # false".toList = [⟨.name, "true".toList⟩, ⟨.space, " ".toList⟩] ++
      Token.hash :: [⟨.space, " ".toList⟩, ⟨.name, "false".toList⟩] := by decide +kernel
  have hlist : Token.scan "true, true # false".toList =
      [⟨.name, "true".toList⟩, ⟨.other, ",".toList⟩, ⟨.space, " ".toList⟩, ⟨.name, "true".toList⟩,
          ⟨.space, " ".toList⟩] ++
        Token.hash :: [⟨.space, " ".toList⟩, ⟨.name, "false".toList⟩] := by decide +kernel
  obtain ⟨-, hone, -⟩ := ofText_comment hscan (by decide) hafter
  obtain ⟨-, -, hmany⟩ := ofText_comment hlist (by decide) hafter
  exact ⟨hone (by decide +kernel), hmany (by decide +kernel) (by decide)⟩

/-- A condition may have a character that starts a comment. -/
theorem Condition.ofText_comment_accepted :
    ¬ ∀ text : String, Token.hash ∈ Token.scan text.toList →
      ∃ e, Condition.ofText text = .error e := by
  intro h
  obtain ⟨e, he⟩ := h "true # false" (by decide +kernel)
  have haccepted : (Condition.ofText "true # false").isOk = true := by decide +kernel
  rw [he] at haccepted
  cases haccepted

/-- A bracket too many before the character makes up for the one that the comment leaves open. -/
example : (Condition.ofText "true, true) # (").isOk = true := by decide +kernel

end TransactionRules
