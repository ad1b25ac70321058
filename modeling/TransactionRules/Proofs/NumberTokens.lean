import TransactionRules.Proofs.Signs

/-!
# Number tokens in expressions

The digits of a number token may be of any script, those of an expression's number are of ASCII. So a
number token is one number of the expression or nothing that an expression can have: a digit of
another script starts no name, and no number ends before it.
-/

namespace TransactionRules

open scoped Members

namespace CharRanges

/-- The numbers of a text that is given by its characters. -/
def numbersOf (cs : List Char) : List Nat :=
  let step : List Nat × Nat → Char → List Nat × Nat := fun (done, n) c =>
    if c == ' ' then (n :: done, 0) else (done, 16 * n + hexValue c)
  ((cs.foldl step ([], 0)).2 :: (cs.foldl step ([], 0)).1).reverse

lemma ofText_intercalate (lines : List String) :
    ofText (String.intercalate " " lines) =
      (ofGaps 0 (numbersOf ([' '].intercalate (lines.map String.toList)))).toArray := by
  rw [ofText, numbers, String.toList_intercalate]
  rfl

end CharRanges

set_option maxRecDepth 20000 in
/-- The ten digits of a script lie outside all ranges of the characters that start an identifier. -/
lemma digitZeros_outside : (digitZeros.all fun z =>
    identifierStart.toList.all fun r => r.2.ble z || (z + 10).ble r.1) = true := by
  rw [identifierStart, CharRanges.ofText_intercalate]
  simp only [List.map_cons, List.map_nil]
  -- the kernel reads a list of characters at once, but the characters of a literal only slowly
  repeat rw [String.toList_ofList]
  decide +kernel

/-- No digit of any script starts an identifier. -/
lemma isIdentifierStart_eq_false {c : Char} (h : isDecimalDigit c = true) :
    isIdentifierStart c = false := by
  unfold isIdentifierStart
  split_ifs with hascii
  · rw [Sign.isDecimalDigit_eq_isDigit hascii] at h
    by_contra hstart
    rw [Bool.not_eq_false] at hstart
    rw [(Sign.toNat_lt_of_isNameStart (c := c) hstart).2] at h
    cases h
  · obtain ⟨z, hz, hcz⟩ := List.any_eq_true.1 h
    rw [Bool.and_eq_true, decide_eq_true_eq, decide_eq_true_eq] at hcz
    by_contra hstart
    rw [Bool.not_eq_false, CharRanges.contains, Array.any_eq_true'] at hstart
    obtain ⟨⟨low, high⟩, hr, hcr⟩ := hstart
    have houtside := List.all_eq_true.1 (List.all_eq_true.1 digitZeros_outside z hz) (low, high)
      (Array.mem_toList_iff.2 hr)
    simp only [Bool.or_eq_true, Nat.ble_eq, Bool.and_eq_true, decide_eq_true_eq] at houtside hcr
    omega

namespace Token

/-! ## The parts of a number token -/

/-- One or more digits of any script. -/
def Digits (cs : List Char) : Prop := cs ≠ [] ∧ ∀ c ∈ cs, isDecimalDigit c = true

/-- What a number token may have behind its whole digits. -/
inductive IsFraction : List Char → Prop
  | none : IsFraction []
  | point {ds : List Char} (h : Digits ds) : IsFraction ('.' :: ds)

/-- What a number token may have at its end. -/
inductive IsExponent : List Char → Prop
  | none : IsExponent []
  | power {e : Char} {sign ds : List Char} (he : e = 'e' ∨ e = 'E')
      (hsign : sign = [] ∨ sign = ['+'] ∨ sign = ['-']) (h : Digits ds) :
      IsExponent (e :: (sign ++ ds))

lemma digits_takeWhile {c : Char} (hc : isDecimalDigit c = true) (cs : List Char) :
    Digits (c :: cs.takeWhile isDecimalDigit) := by
  refine ⟨by simp, fun d hd => ?_⟩
  rcases List.mem_cons.1 hd with rfl | hd
  · exact hc
  · exact List.mem_takeWhile_imp hd

lemma isFraction_fraction (cs : List Char) : IsFraction (fraction cs).1 := by
  unfold fraction
  split
  · split_ifs with hd
    · exact .point (digits_takeWhile hd _)
    · exact .none
  · exact .none

lemma sign_cases (cs : List Char) :
    (sign cs).1 = [] ∨ (sign cs).1 = ['+'] ∨ (sign cs).1 = ['-'] := by
  unfold sign
  split <;> simp

lemma isExponent_exponent (cs : List Char) : IsExponent (exponent cs).1 := by
  unfold exponent
  split
  · split
    · split_ifs with h
      · simp only [Bool.and_eq_true, Bool.or_eq_true, beq_iff_eq] at h
        rw [List.cons_append]
        exact .power h.1 (sign_cases _) (digits_takeWhile h.2 _)
      · exact .none
    · exact .none
  · exact .none

/-- The characters of a number token. -/
inductive IsNumber : List Char → Prop
  | parts {whole f p : List Char} (h : Digits whole) (hf : IsFraction f) (hp : IsExponent p) :
      IsNumber (whole ++ (f ++ p))

lemma mem_of_isNumber {cs : List Char} (h : IsNumber cs) {c : Char} (hc : c ∈ cs) :
    isDecimalDigit c = true ∨ c ∈ ['.', 'e', 'E', '+', '-'] := by
  obtain ⟨hwhole, hf, hp⟩ := h
  simp only [List.mem_append] at hc
  rcases hc with hc | hc | hc
  · exact .inl (hwhole.2 c hc)
  · cases hf with
    | none => cases hc
    | point h =>
      rcases List.mem_cons.1 hc with rfl | hc
      · exact .inr (by decide)
      · exact .inl (h.2 c hc)
  · cases hp with
    | none => cases hc
    | @power e sign ds he hsign h =>
      rcases List.mem_cons.1 hc with rfl | hc
      · right
        rcases he with rfl | rfl <;> decide
      · rcases List.mem_append.1 hc with hc | hc
        · right
          rcases hsign with rfl | rfl | rfl
          · cases hc
          · rw [List.mem_singleton.1 hc]
            decide
          · rw [List.mem_singleton.1 hc]
            decide
        · exact .inl (h.2 c hc)

end Token

namespace Expression

/-! ## Digits of other scripts -/

/-- Text that starts with a digit which is not of ASCII. -/
def Foreign (cs : List Char) : Prop :=
  ∃ c r, cs = c :: r ∧ isDecimalDigit c = true ∧ c.isDigit = false

section

variable {cs ds rest : List Char}

lemma Foreign.toNat (h : Foreign cs) : ∃ c r, cs = c :: r ∧ 128 ≤ c.toNat := by
  obtain ⟨c, r, rfl, hc, hdigit⟩ := h
  refine ⟨c, r, rfl, ?_⟩
  by_contra hascii
  rw [Sign.isDecimalDigit_eq_isDigit (by omega), hdigit] at hc
  cases hc

/-- Among digits the first one of another script follows those of ASCII. -/
lemma foreign_dropWhile (hds : ∀ d ∈ ds, isDecimalDigit d = true)
    (h : ¬ ∀ d ∈ ds, d.isDigit = true) : Foreign (ds.dropWhile Char.isDigit) := by
  induction ds with
  | nil => simp at h
  | cons d ds ih =>
    cases hd : d.isDigit with
    | true =>
      rw [List.dropWhile_cons_of_pos hd]
      refine ih (fun x hx => hds x (by simp [hx])) fun hall => h fun x hx => ?_
      rcases List.mem_cons.1 hx with rfl | hx
      · exact hd
      · exact hall x hx
    | false =>
      rw [List.dropWhile_cons_of_neg (by simp [hd])]
      exact ⟨d, ds, rfl, hds d (by simp), hd⟩

lemma Foreign.append (h : Foreign cs) (rest : List Char) : Foreign (cs ++ rest) := by
  obtain ⟨c, r, rfl, hc, hdigit⟩ := h
  exact ⟨c, r ++ rest, rfl, hc, hdigit⟩

/-- An expression's digits end where the ASCII digits do. -/
lemma digitTail_foreign (hds : ∀ d ∈ ds, isDecimalDigit d = true)
    (h : ¬ ∀ d ∈ ds, d.isDigit = true) (rest : List Char) :
    ∃ es more, Number.digitTail Char.isDigit (ds ++ rest) = some (es, more) ∧ Foreign more := by
  have hforeign := (foreign_dropWhile hds h).append rest
  refine ⟨ds.takeWhile Char.isDigit, ds.dropWhile Char.isDigit ++ rest, ?_, hforeign⟩
  obtain ⟨c, r, hc, hascii⟩ := hforeign.toNat
  obtain ⟨c', r', hc', -, hdigit⟩ := hforeign
  obtain ⟨rfl, rfl⟩ := List.cons.inj (hc.symm.trans hc')
  have happend : ds ++ rest = ds.takeWhile Char.isDigit ++ (ds.dropWhile Char.isDigit ++ rest) := by
    rw [← List.append_assoc, List.takeWhile_append_dropWhile]
  rw [happend]
  refine digitTail_append (fun d hd => List.mem_takeWhile_imp hd) (by decide) ?_
  rw [hc]
  intro x hx
  obtain rfl : c = x := by simpa using hx
  refine ⟨hdigit, ?_⟩
  rintro rfl
  exact absurd hascii (by decide)

/-- A character that is not of ASCII is none of these. -/
lemma ne_of_toNat {c d : Char} (hc : 128 ≤ c.toNat) (hd : d.toNat < 128) : c ≠ d := by
  rintro rfl
  omega

lemma Foreign.endsBefore (h : Foreign cs) : Number.endsBefore cs = false := by
  obtain ⟨c, r, rfl, hc⟩ := h.toNat
  have hword : isWordChar c = true := by simp [isWordChar, hc]
  have hne {d : Char} (hd : d.toNat < 128) : (d == c) = false := by
    simpa using (ne_of_toNat hc hd).symm
  simp [Number.endsBefore, hword, List.isPrefixOf, hne (show ('a').toNat < 128 by decide),
    hne (show ('e').toNat < 128 by decide), hne (show ('f').toNat < 128 by decide),
    hne (show ('i').toNat < 128 by decide), hne (show ('o').toNat < 128 by decide),
    hne (show ('n').toNat < 128 by decide)]

lemma Foreign.exponent (h : Foreign cs) : Number.exponent cs = some ([], cs) := by
  obtain ⟨c, r, rfl, hc⟩ := h.toNat
  have he : (c != 'e' && c != 'E') = true := by
    simp [ne_of_toNat hc (show ('e').toNat < 128 by decide),
      ne_of_toNat hc (show ('E').toNat < 128 by decide)]
  rw [exponent_cons, if_pos he]

lemma Foreign.pointPart (h : Foreign cs) : pointPart cs = some ([], cs) := by
  obtain ⟨c, r, rfl, hc⟩ := h.toNat
  have hpoint := ne_of_toNat hc (show ('.').toNat < 128 by decide)
  exact pointPart.eq_3 _ (fun _ _ h => hpoint (List.cons.inj h).1)
    fun h => hpoint (List.cons.inj h).1

/-- No number ends before a digit of another script. -/
lemma decimalTail_of_foreign {cs' cs'' fraction power : List Char}
    (hfraction : Expression.pointPart cs = some (fraction, cs'))
    (hpower : Number.exponent cs' = some (power, cs'')) (h : Foreign cs'') (ds : List Char) :
    Number.decimalTail ds cs = none := by
  have hends := h.endsBefore
  obtain ⟨c, r, rfl, hc⟩ := h.toNat
  have hunit : (c == 'j' || c == 'J') = false := by
    simp [ne_of_toNat hc (show ('j').toNat < 128 by decide),
      ne_of_toNat hc (show ('J').toNat < 128 by decide)]
  simp only [decimalTail_eq, hfraction, hpower, Option.bind_some, hunit, hends, Bool.not_false,
    Bool.false_eq_true, if_false, if_true]

end

/-! ## Reading a number token -/

section

variable {cs ds f p rest : List Char}

lemma digits_cons (h : Token.Digits cs) : ∃ d ds, cs = d :: ds ∧ isDecimalDigit d = true ∧
    ∀ x ∈ ds, isDecimalDigit x = true := by
  obtain ⟨hne, hall⟩ := h
  obtain ⟨d, ds, rfl⟩ := List.exists_cons_of_ne_nil hne
  exact ⟨d, ds, rfl, hall d (by simp), fun x hx => hall x (by simp [hx])⟩

/-- Behind the digits of a number token stand an exponent or no more of the token. -/
lemma head?_exponent (hp : Token.IsExponent p) (hrest : Parted rest) :
    ∀ c ∈ (p ++ rest).head?, c ∈ ['e', 'E', ' '] := by
  intro c hc
  cases hp with
  | none =>
    obtain rfl : c = ' ' := hrest c hc
    simp
  | @power e sign ds he hsign h =>
    obtain rfl : e = c := by simpa using hc
    rcases he with rfl | rfl <;> simp

/-- The same behind its whole digits, where the point may stand too. -/
lemma head?_fraction (hf : Token.IsFraction f) (hp : Token.IsExponent p) (hrest : Parted rest) :
    ∀ c ∈ (f ++ (p ++ rest)).head?, c ∈ ['.', 'e', 'E', ' '] := by
  intro c hc
  cases hf with
  | none => exact List.mem_cons_of_mem _ (head?_exponent hp hrest c hc)
  | point h =>
    obtain rfl : '.' = c := by simpa using hc
    simp

/-- An exponent is read as a whole, or it makes the number unreadable. -/
lemma exponent_cases (hp : Token.IsExponent p) :
    (∀ rest, Parted rest → Number.exponent (p ++ rest) = some (p, rest)) ∨
      ∀ rest, Number.exponent (p ++ rest) = none ∨
        ∃ q more, Number.exponent (p ++ rest) = some (q, more) ∧ Foreign more := by
  cases hp with
  | none =>
    left
    intro rest hrest
    cases rest with
    | nil => rfl
    | cons c r =>
      obtain rfl : c = ' ' := hrest c (by simp)
      rfl
  | @power e sign ds he hsign h =>
    by_cases hplain : ∀ d ∈ ds, d.isDigit = true
    · left
      intro rest hrest
      exact Power.read_append ⟨e, sign, ds, he, hsign, h.1, hplain⟩ hrest
    · right
      intro rest
      obtain ⟨d, ds, rfl, hd, hds⟩ := digits_cons h
      have hmark : (e != 'e' && e != 'E') = false := by rcases he with rfl | rfl <;> rfl
      have hsplit : Token.sign (sign ++ (d :: ds ++ rest)) = (sign, d :: (ds ++ rest)) := by
        have hne {c : Char} (hc : isDecimalDigit c = false) : d ≠ c := by
          rintro rfl
          rw [hc] at hd
          cases hd
        rcases hsign with rfl | rfl | rfl
        · exact Token.sign.eq_3 _ (fun _ h => hne (by decide) (List.cons.inj h).1)
            fun _ h => hne (by decide) (List.cons.inj h).1
        · rfl
        · rfl
      rw [List.cons_append, List.append_assoc, exponent_cons, if_neg (by simp [hmark]), hsplit]
      cases hdigit : d.isDigit with
      | true =>
        -- the digits of ASCII are read, and a digit of another script follows them
        right
        obtain ⟨es, more, htail, hmore⟩ := digitTail_foreign hds (fun hall => hplain fun x hx => by
          rcases List.mem_cons.1 hx with rfl | hx
          · exact hdigit
          · exact hall x hx) rest
        exact ⟨e :: (sign ++ d :: es), more, by simp [hdigit, htail], hmore⟩
      | false =>
        left
        have hends : Number.endsBefore (e :: d :: (ds ++ rest)) = false := by
          obtain ⟨d', r, heq, hd'⟩ := Foreign.toNat ⟨d, ds, rfl, hd, hdigit⟩
          obtain ⟨rfl, rfl⟩ := List.cons.inj heq
          have hl : ('l' == d) = false := by
            simpa using (ne_of_toNat hd' (show ('l').toNat < 128 by decide)).symm
          rcases he with rfl | rfl <;>
            simp [Number.endsBefore, List.isPrefixOf, hl, show isWordChar 'e' = true by decide,
              show isWordChar 'E' = true by decide]
        rcases hsign with rfl | rfl | rfl <;> simp [hdigit, hends]

/-- A fraction is read as a whole, or it makes the number unreadable. -/
lemma pointPart_cases (hf : Token.IsFraction f) (hp : Token.IsExponent p) :
    (∀ rest, Parted rest → pointPart (f ++ (p ++ rest)) = some (f, p ++ rest)) ∨
      ∀ rest, ∃ g more, pointPart (f ++ (p ++ rest)) = some (g, more) ∧ Foreign more := by
  have hend : ∀ c ∈ ['e', 'E', ' '], c ≠ '.' ∧ c.isDigit = false ∧ c ≠ '_' := by decide
  cases hf with
  | none =>
    left
    intro rest hrest
    have hpoint : ∀ c r, p ++ rest = c :: r → c ≠ '.' := fun c r hc =>
      (hend c (head?_exponent hp hrest c (by simp [hc]))).1
    exact pointPart.eq_3 _ (fun d r h => hpoint _ _ h rfl) fun h => hpoint _ _ h rfl
  | point h =>
    obtain ⟨d, ds, rfl, hd, hds⟩ := digits_cons h
    cases hdigit : d.isDigit with
    | false =>
      right
      intro rest
      exact ⟨['.'], d :: (ds ++ (p ++ rest)), by simp [pointPart, hdigit], d, _, rfl, hd, hdigit⟩
    | true =>
      by_cases hplain : ∀ x ∈ ds, x.isDigit = true
      · left
        intro rest hrest
        have htail := digitTail_append hplain (by decide) fun c hc =>
          (hend c (head?_exponent hp hrest c hc)).2
        simp [pointPart, hdigit, htail]
      · right
        intro rest
        obtain ⟨es, more, htail, hmore⟩ := digitTail_foreign hds hplain (p ++ rest)
        exact ⟨'.' :: d :: es, more, by simp [pointPart, hdigit, htail], hmore⟩

/-- What a number is does not depend on what stands apart behind it. -/
lemma decimalTail_cases (ds : List Char) (hf : Token.IsFraction f) (hp : Token.IsExponent p) :
    ∃ n : Option Number, ∀ rest, Parted rest →
      Number.decimalTail ds (f ++ (p ++ rest)) = n.map (·, rest) := by
  rcases pointPart_cases hf hp with hpoint | hpoint
  · rcases exponent_cases hp with hpower | hpower
    · exact ⟨numberOf ds f p, fun rest hrest =>
        decimalTail_of_parted (hpoint rest hrest) (hpower rest hrest) hrest⟩
    · refine ⟨none, fun rest hrest => ?_⟩
      rcases hpower rest with hnone | ⟨q, more, hsome, hmore⟩
      · simp only [decimalTail_eq, hpoint rest hrest, Option.bind_some, hnone, Option.bind_none,
          Option.map_none]
      · exact decimalTail_of_foreign (hpoint rest hrest) hsome hmore ds
  · refine ⟨none, fun rest hrest => ?_⟩
    obtain ⟨g, more, hsome, hmore⟩ := hpoint rest
    exact decimalTail_of_foreign hsome hmore.exponent hmore ds

/-- A number that no mark of another base follows. -/
lemma read_digit {c : Char} (hc : c.isDigit = true)
    (hcs : ∀ m ∈ cs.head?, m ∉ ['x', 'X', 'o', 'O', 'b', 'B']) :
    Number.read (c :: cs) =
      (Number.digitTail Char.isDigit cs).bind fun q => Number.decimalTail (c :: q.1) q.2 := by
  unfold Number.read
  split
  · next m r heq =>
    obtain ⟨rfl, rfl⟩ := List.cons.inj heq
    have hmark := hcs m (by simp)
    simp only [List.mem_cons, List.not_mem_nil, or_false, not_or] at hmark
    simp [hmark]
  · next heq =>
    obtain ⟨rfl, -⟩ := List.cons.inj heq
    cases hc
  · next heq =>
    obtain ⟨rfl, rfl⟩ := List.cons.inj heq
    rfl
  · next heq => cases heq

/-- A number token that starts with a digit of ASCII. -/
lemma readNumber_cases {d : Char} (hd : d.isDigit = true) (hds : ∀ x ∈ ds, isDecimalDigit x = true)
    (hf : Token.IsFraction f) (hp : Token.IsExponent p) :
    ∃ n : Option Number, ∀ rest, Parted rest →
      Number.read (d :: (ds ++ (f ++ (p ++ rest)))) = n.map (·, rest) := by
  have hmarks : ∀ rest, Parted rest → ∀ m ∈ (ds ++ (f ++ (p ++ rest))).head?,
      m ∉ ['x', 'X', 'o', 'O', 'b', 'B'] := by
    intro rest hrest m hm
    cases ds with
    | nil =>
      have hall : ∀ c ∈ ['.', 'e', 'E', ' '], c ∉ ['x', 'X', 'o', 'O', 'b', 'B'] := by decide
      exact hall m (head?_fraction hf hp hrest m hm)
    | cons x ds =>
      obtain rfl : x = m := by simpa using hm
      have hall : ∀ c ∈ ['x', 'X', 'o', 'O', 'b', 'B'], isDecimalDigit c = false := by decide
      intro hmark
      have hx := hds x (by simp)
      rw [hall x hmark] at hx
      cases hx
  by_cases hplain : ∀ x ∈ ds, x.isDigit = true
  · obtain ⟨n, hn⟩ := decimalTail_cases (d :: ds) hf hp
    refine ⟨n, fun rest hrest => ?_⟩
    have hall : ∀ c ∈ ['.', 'e', 'E', ' '], c.isDigit = false ∧ c ≠ '_' := by decide
    have htail := digitTail_append hplain (by decide) fun c hc =>
      hall c (head?_fraction hf hp hrest c hc)
    simp only [read_digit hd (hmarks rest hrest), htail, Option.bind_some, hn rest hrest]
  · refine ⟨none, fun rest hrest => ?_⟩
    obtain ⟨es, more, htail, hmore⟩ := digitTail_foreign hds hplain (f ++ (p ++ rest))
    simp only [read_digit hd (hmarks rest hrest), htail, Option.bind_some,
      decimalTail_of_foreign hmore.pointPart hmore.exponent hmore, Option.map_none]

end

/-! ## Words that no letter starts -/

/-- Reserved words are of ASCII. -/
lemma toNat_of_ofString? {s : String} {k : Keyword} (h : Keyword.ofString? s = some k) :
    ∀ c ∈ s.toList, c.toNat < 128 := by
  unfold Keyword.ofString? at h
  split at h
  any_goals decide
  split at h
  · next hmem =>
    simp only [List.contains_eq_mem, decide_eq_true_eq] at hmem
    have hall : ∀ w ∈ ["as", "assert", "break", "class", "continue", "def", "del", "elif",
        "except", "finally", "global", "import", "nonlocal", "pass", "raise", "return", "try",
        "while", "with"], ∀ c ∈ w.toList, c.toNat < 128 := by
      decide
    exact hall s hmem
  · cases h

/-- A digit of another script starts no lexeme. -/
lemma read_foreign {cs rest : List Char} (h : Foreign cs) (hquote : ∀ c ∈ cs, c ≠ '"' ∧ c ≠ '\'')
    (hrest : Parted rest) : Lexeme.read (cs ++ rest) = none := by
  obtain ⟨c, r, rfl, hc, hdigit⟩ := h
  obtain ⟨c', r', heq, hascii⟩ := Foreign.toNat ⟨c, r, rfl, hc, hdigit⟩
  obtain ⟨rfl, rfl⟩ := List.cons.inj heq
  have hword : isWordChar c = true := by simp [isWordChar, hascii]
  have hfirst : (c == '"' || c == '\'') = false := by simp [hquote c (by simp)]
  have hliteral : ∀ q t, (c :: r ++ rest).dropWhile isWordChar = q :: t →
      (q == '"' || q == '\'') = false := by
    intro q t hq
    rw [List.dropWhile_append] at hq
    split_ifs at hq
    · have hmem : q ∈ rest.head? := by
        cases rest with
        | nil => cases hq
        | cons x rest =>
          obtain rfl : x = ' ' := hrest x (by simp)
          rw [List.dropWhile_cons_of_neg (by decide)] at hq
          rw [(List.cons.inj hq).1]
          rfl
      rw [hrest q hmem]
      rfl
    · have hmem : q ∈ c :: r := by
        cases hdrop : (c :: r).dropWhile isWordChar with
        | nil => simp_all
        | cons x xs =>
          rw [hdrop, List.cons_append] at hq
          have hsub := (List.dropWhile_suffix (p := isWordChar) (l := c :: r)).subset
          exact hsub (by simp [hdrop, (List.cons.inj hq).1])
      simp [hquote q hmem]
  have hkeyword : Keyword.ofString? (String.ofList ((c :: r ++ rest).takeWhile isWordChar)) = none := by
    cases hk : Keyword.ofString? (String.ofList ((c :: r ++ rest).takeWhile isWordChar)) with
    | none => rfl
    | some k =>
      have := toNat_of_ofString? hk c (by simp [hword])
      omega
  have hidentifier : isIdentifier ((c :: r ++ rest).takeWhile isWordChar) = false := by
    rw [List.cons_append, List.takeWhile_cons_of_pos hword, isIdentifier,
      isIdentifierStart_eq_false hc]
    rfl
  have hnone : Lexeme.word? (c :: r ++ rest) = none := by
    unfold Lexeme.word?
    simp only [hkeyword, hidentifier, Bool.false_eq_true, if_false]
    split
    · next hsome =>
      split at hsome
      · next q t hq => simp [hliteral q t hq] at hsome
      · cases hsome
    · rfl
  have hnumber : Lexeme.startsNumber (c :: (r ++ rest)) = false := by
    unfold Lexeme.startsNumber
    split
    · next heq =>
      obtain ⟨rfl, -⟩ := List.cons.inj heq
      cases hc
    · next heq =>
      obtain ⟨rfl, -⟩ := List.cons.inj heq
      exact hdigit
    · rfl
  rw [List.cons_append] at hnone ⊢
  rw [Lexeme.read, hnumber, if_neg (by simp)]
  simp only [hfirst, hword, Bool.false_eq_true, if_false, if_true, hnone]

/-- A number token is a number of the expression, whatever stands apart behind it, or it makes the
expression unreadable. -/
theorem read_number {cs : List Char} (h : Token.IsNumber cs) :
    ∃ n : Option Number, ∀ rest, Parted rest →
      Lexeme.read (cs ++ rest) = n.map fun n => (.number n, rest) := by
  obtain @⟨whole, f, p, hwhole, hf, hp⟩ := h
  obtain ⟨d, ds, rfl, hd, hds⟩ := digits_cons hwhole
  cases hdigit : d.isDigit with
  | true =>
    obtain ⟨n, hn⟩ := readNumber_cases hdigit hds hf hp
    refine ⟨n, fun rest hrest => ?_⟩
    have happend : d :: ds ++ (f ++ p) ++ rest = d :: (ds ++ (f ++ (p ++ rest))) := by simp
    have hnumber : Lexeme.startsNumber (d :: (ds ++ (f ++ (p ++ rest)))) = true := by
      unfold Lexeme.startsNumber
      split
      · next heq =>
        obtain ⟨rfl, -⟩ := List.cons.inj heq
        cases hdigit
      · next heq =>
        obtain ⟨rfl, -⟩ := List.cons.inj heq
        exact hdigit
      · next heq => cases heq
    rw [happend, Lexeme.read, hnumber, if_pos rfl, hn rest hrest]
    cases n <;> rfl
  | false =>
    refine ⟨none, fun rest hrest => read_foreign ⟨d, _, rfl, hd, hdigit⟩ ?_ hrest⟩
    intro c hc
    have hmem := Token.mem_of_isNumber (.parts hwhole hf hp) hc
    constructor <;> rintro rfl <;> revert hmem <;> decide

end Expression

end TransactionRules
