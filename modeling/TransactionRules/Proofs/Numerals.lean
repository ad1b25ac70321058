import TransactionRules.Condition.Token
import TransactionRules.Expression.Literal
import TransactionRules.Proofs.Lists

/-!
# Numbers in digits

A `Numeral` is a decimal number without a sign: whole digits, maybe a fraction, maybe an exponent. A
condition has it as one token and an expression as one number; without fraction and exponent that is
the whole number its digits spell, else the nearest float.
-/

namespace TransactionRules.Expression

/-- The exponent of a numeral. -/
structure Power where
  mark : Char
  sign : List Char
  digits : List Char
  isMark : mark = 'e' ∨ mark = 'E'
  isSign : sign = [] ∨ sign = ['+'] ∨ sign = ['-']
  digits_ne_nil : digits ≠ []
  isDigit : ∀ d ∈ digits, d.isDigit = true

namespace Power

def chars (p : Power) : List Char := p.mark :: (p.sign ++ p.digits)

def value (p : Power) : Int := (if p.sign = ['-'] then -1 else 1) * digitsValue p.digits

end Power

/-- A decimal number without leading zeros, of fewer digits before the point than a whole number may
have. Without a point there is no digit behind it. -/
structure Numeral where
  whole : List Char
  fraction : List Char
  power : Option Power
  whole_ne_nil : whole ≠ []
  whole_isDigit : ∀ d ∈ whole, d.isDigit = true
  fraction_isDigit : ∀ d ∈ fraction, d.isDigit = true
  noLeadingZero : whole.head? = some '0' → whole = ['0']
  short : whole.length < Number.digitLimit

namespace Numeral

def fractionChars (n : Numeral) : List Char := if n.fraction = [] then [] else '.' :: n.fraction

def powerChars (n : Numeral) : List Char := (n.power.map Power.chars).getD []

def chars (n : Numeral) : List Char := n.whole ++ (n.fractionChars ++ n.powerChars)

/-- The decimal that the digits spell. -/
def decimal (n : Numeral) : Decimal :=
  ⟨digitsValue (n.whole ++ n.fraction), (n.power.map Power.value).getD 0 - n.fraction.length⟩

def number (n : Numeral) : Number :=
  if n.fraction = [] ∧ n.power = none then .int (digitsValue n.whole)
  else .float (Decimal.toFloat false n.decimal)

end Numeral

namespace Numeral

/-- A numeral is written with digits, a point, and the letter and sign of an exponent. -/
lemma mem_chars (n : Numeral) {c : Char} (hc : c ∈ n.chars) :
    c.isDigit = true ∨ c ∈ ['.', 'e', 'E', '+', '-'] := by
  simp only [chars, fractionChars, powerChars, List.mem_append] at hc
  rcases hc with hc | hc | hc
  · exact .inl (n.whole_isDigit c hc)
  · split_ifs at hc
    · simp at hc
    · rcases List.mem_cons.1 hc with rfl | hc
      · exact .inr (by simp)
      · exact .inl (n.fraction_isDigit c hc)
  · cases hp : n.power with
    | none => simp [hp] at hc
    | some p =>
      simp only [hp, Option.map_some, Option.getD_some, Power.chars, List.mem_cons,
        List.mem_append] at hc
      rcases hc with rfl | hc | hc
      · rcases p.isMark with h | h <;> simp [h]
      · rcases p.isSign with h | h | h <;> simp_all
      · exact .inl (p.isDigit c hc)

end Numeral

/-! ## Runs of digits -/

section

variable {p : Char → Bool} {ds rest : List Char}

lemma digitTail_append (hds : ∀ d ∈ ds, p d = true) (hscore : p '_' = false)
    (hrest : ∀ c ∈ rest.head?, p c = false ∧ c ≠ '_') :
    Number.digitTail p (ds ++ rest) = some (ds, rest) := by
  induction ds with
  | nil =>
    cases rest with
    | nil => rw [List.nil_append, Number.digitTail.eq_4]
    | cons c rest =>
      obtain ⟨hc, hne⟩ := hrest c (by simp)
      rw [List.nil_append, Number.digitTail.eq_3 _ _ _ (fun _ _ h => absurd h hne)
        (fun h => absurd h hne), if_neg (by simp [hc])]
  | cons d ds ih =>
    have hd := hds d (by simp)
    have hne : d ≠ '_' := by
      rintro rfl
      rw [hscore] at hd
      cases hd
    rw [List.cons_append, Number.digitTail.eq_3 _ _ _ (fun _ _ h => absurd h hne)
      (fun h => absurd h hne), if_pos hd, ih fun x hx => hds x (by simp [hx])]
    rfl

end

lemma isDecimalDigit_of_all {ds : List Char} (h : ∀ d ∈ ds, d.isDigit = true) :
    ∀ d ∈ ds, isDecimalDigit d = true := fun d hd => isDecimalDigit_of_isDigit (h d hd)

/-! ## Numerals as tokens -/

/-- What may stand behind a numeral without becoming a part of it. -/
def Detached (rest : List Char) : Prop :=
  (∀ c ∈ rest.head?, c.isAlpha = false ∧ isDecimalDigit c = false) ∧
    ∀ d r, rest = '.' :: d :: r → isDecimalDigit d = false

lemma detached_nil : Detached [] := ⟨by simp, by simp⟩

namespace Power

variable (p : Power) {rest : List Char}

lemma exists_digits : ∃ d ds, p.digits = d :: ds ∧ d.isDigit = true ∧ ∀ x ∈ ds, x.isDigit = true := by
  obtain ⟨d, ds, h⟩ := List.exists_cons_of_ne_nil p.digits_ne_nil
  exact ⟨d, ds, h, p.isDigit d (by simp [h]), fun x hx => p.isDigit x (by simp [h, hx])⟩

lemma sign_append (rest : List Char) :
    Token.sign (p.sign ++ (p.digits ++ rest)) = (p.sign, p.digits ++ rest) := by
  obtain ⟨d, ds, hdigits, hd, -⟩ := p.exists_digits
  rcases p.isSign with h | h | h
  · rw [h, hdigits]
    unfold Token.sign
    split
    · next heq =>
      cases heq
      cases hd
    · next heq =>
      cases heq
      cases hd
    · rfl
  · rw [h]
    rfl
  · rw [h]
    rfl

lemma exponent_append (hrest : ∀ c ∈ rest.head?, isDecimalDigit c = false) :
    Token.exponent (p.chars ++ rest) = (p.chars, rest) := by
  obtain ⟨d, ds, hdigits, hd, hds⟩ := p.exists_digits
  have hmark : (p.mark == 'e' || p.mark == 'E') = true := by
    rcases p.isMark with h | h <;> rw [h] <;> rfl
  have hsign := p.sign_append rest
  rw [hdigits, List.cons_append] at hsign
  simp only [chars, hdigits, List.cons_append, List.append_assoc, Token.exponent, hsign, hmark,
    isDecimalDigit_of_isDigit hd, Bool.and_self, if_true,
    takeWhile_append_stop (isDecimalDigit_of_all hds) hrest,
    dropWhile_append_stop (isDecimalDigit_of_all hds) hrest]

end Power

lemma exponent_of_detached {rest : List Char} (h : ∀ c ∈ rest.head?, c.isAlpha = false) :
    Token.exponent rest = ([], rest) := by
  cases rest with
  | nil => rfl
  | cons c rest =>
    have hc : (c == 'e' || c == 'E') = false := by
      have hc := h c (by simp)
      rw [Bool.or_eq_false_iff, beq_eq_false_iff_ne, beq_eq_false_iff_ne]
      constructor <;> rintro rfl <;> cases hc
    simp only [Token.exponent, hc, Bool.false_and, Bool.false_eq_true, if_false]
    split <;> rfl

namespace Numeral

variable (n : Numeral) {rest : List Char}

lemma exponent_append (hrest : Detached rest) :
    Token.exponent (n.powerChars ++ rest) = (n.powerChars, rest) := by
  unfold powerChars
  cases n.power with
  | none => exact exponent_of_detached fun c hc => (hrest.1 c hc).1
  | some p => exact p.exponent_append fun c hc => (hrest.1 c hc).2

/-- Behind the digits before and after the point stands no digit. -/
lemma head?_powerChars (hrest : Detached rest) :
    ∀ c ∈ (n.powerChars ++ rest).head?, isDecimalDigit c = false := by
  unfold powerChars
  cases n.power with
  | none => exact fun c hc => (hrest.1 c hc).2
  | some p =>
    intro c hc
    obtain rfl : p.mark = c := by simpa [Power.chars] using hc
    rcases p.isMark with h | h <;> rw [h] <;> decide

/-- A point behind a numeral is no decimal point. -/
lemma not_isDecimalDigit_of_point (hrest : Detached rest) {d : Char} {r : List Char}
    (h : n.powerChars ++ rest = '.' :: d :: r) : isDecimalDigit d = false := by
  unfold powerChars at h
  cases hp : n.power with
  | none => exact hrest.2 d r (by simpa [hp] using h)
  | some p =>
    have hmark : p.mark = '.' := by
      rw [hp] at h
      exact (List.cons.inj h).1
    rcases p.isMark with h | h <;> rw [h] at hmark <;> cases hmark

lemma fraction_append (hrest : Detached rest) :
    Token.fraction (n.fractionChars ++ (n.powerChars ++ rest)) =
      (n.fractionChars, n.powerChars ++ rest) := by
  unfold fractionChars
  split_ifs with h
  · rw [List.nil_append]
    unfold Token.fraction
    split
    · next d cs heq =>
      rw [n.not_isDecimalDigit_of_point hrest heq, heq]
      rfl
    · rfl
  · obtain ⟨d, ds, hfraction⟩ := List.exists_cons_of_ne_nil h
    have hall := isDecimalDigit_of_all n.fraction_isDigit
    rw [hfraction] at hall ⊢
    have hds : ∀ x ∈ ds, isDecimalDigit x = true := fun x hx => hall x (by simp [hx])
    have hstop := n.head?_powerChars hrest
    simp only [List.cons_append, Token.fraction, hall d (by simp), if_true,
      takeWhile_append_stop hds hstop, dropWhile_append_stop hds hstop]

/-- The digits before the point end at the point, the exponent or the end. -/
lemma head?_fractionChars (hrest : Detached rest) :
    ∀ c ∈ (n.fractionChars ++ (n.powerChars ++ rest)).head?, isDecimalDigit c = false := by
  unfold fractionChars
  split_ifs
  · exact n.head?_powerChars hrest
  · intro c hc
    obtain rfl : '.' = c := by simpa using hc
    decide

lemma exists_whole : ∃ c ws, n.whole = c :: ws ∧ c.isDigit = true ∧ ∀ d ∈ ws, d.isDigit = true := by
  obtain ⟨c, ws, h⟩ := List.exists_cons_of_ne_nil n.whole_ne_nil
  exact ⟨c, ws, h, n.whole_isDigit c (by simp [h]), fun d hd => n.whole_isDigit d (by simp [h, hd])⟩

lemma next_append (hrest : Detached rest) {c : Char} {cs : List Char} (hcs : n.chars = c :: cs) :
    Token.next c (cs ++ rest) = (⟨.number, n.chars⟩, rest) := by
  obtain ⟨c', ws, hwhole, hc, hws⟩ := n.exists_whole
  obtain ⟨rfl, rfl⟩ : c' = c ∧ ws ++ (n.fractionChars ++ n.powerChars) = cs := by
    simpa [chars, hwhole] using hcs
  have hquote : (c' == '"' || c' == '\'') = false := by
    rw [Bool.or_eq_false_iff, beq_eq_false_iff_ne, beq_eq_false_iff_ne]
    constructor <;> rintro rfl <;> cases hc
  have hall := isDecimalDigit_of_all hws
  have hstop := n.head?_fractionChars hrest
  unfold Token.next
  simp only [hquote, Bool.false_eq_true, if_false, isDecimalDigit_of_isDigit hc, if_true,
    List.append_assoc, takeWhile_append_stop hall hstop, dropWhile_append_stop hall hstop,
    n.fraction_append hrest, n.exponent_append hrest, hcs]
  simp

end Numeral

/-! ## Numerals as numbers -/

/-- A point with digits behind it, and what follows. -/
def splitPoint : List Char → List Char × List Char
  | '.' :: cs => (cs.takeWhile Char.isDigit, cs.dropWhile Char.isDigit)
  | cs => ([], cs)

/-- A sign, and what follows. -/
def splitSign : List Char → Int × List Char
  | '+' :: cs => (1, cs)
  | '-' :: cs => (-1, cs)
  | cs => (1, cs)

lemma ofChars?_eq (cs : List Char) :
    Decimal.ofChars? cs =
      let whole := cs.takeWhile Char.isDigit
      let fraction := (splitPoint (cs.dropWhile Char.isDigit)).1
      let mantissa := digitsValue (whole ++ fraction)
      if whole.isEmpty && fraction.isEmpty then none
      else match (splitPoint (cs.dropWhile Char.isDigit)).2 with
        | [] => some ⟨mantissa, -fraction.length⟩
        | c :: cs =>
          if c != 'e' && c != 'E' then none
          else if (splitSign cs).2.isEmpty || !(splitSign cs).2.all Char.isDigit then none
          else some ⟨mantissa, (splitSign cs).1 * digitsValue (splitSign cs).2 - fraction.length⟩ :=
  rfl

lemma isDigit_eq_false {c : Char} (h : isDecimalDigit c = false) : c.isDigit = false := by
  rw [Bool.eq_false_iff] at h ⊢
  exact fun hc => h (isDecimalDigit_of_isDigit hc)

lemma Power.splitSign_eq (p : Power) :
    splitSign (p.sign ++ p.digits) = (if p.sign = ['-'] then -1 else 1, p.digits) := by
  obtain ⟨d, ds, hdigits, hd, -⟩ := p.exists_digits
  rcases p.isSign with h | h | h
  · rw [h, hdigits, List.nil_append]
    unfold splitSign
    split
    · next heq =>
      cases heq
      cases hd
    · next heq =>
      cases heq
      cases hd
    · rfl
  · rw [h]
    rfl
  · rw [h]
    rfl

namespace Numeral

variable (n : Numeral) {rest : List Char}

lemma splitPoint_eq : splitPoint (n.fractionChars ++ n.powerChars) = (n.fraction, n.powerChars) := by
  have hstop := n.head?_powerChars detached_nil
  rw [List.append_nil] at hstop
  unfold fractionChars
  split_ifs with h
  · rw [List.nil_append, h]
    unfold powerChars
    cases n.power with
    | none => rfl
    | some p =>
      rcases p.isMark with hmark | hmark <;> simp [Power.chars, hmark, splitPoint]
  · simp only [List.cons_append, splitPoint,
      takeWhile_append_stop n.fraction_isDigit fun c hc => isDigit_eq_false (hstop c hc),
      dropWhile_append_stop n.fraction_isDigit fun c hc => isDigit_eq_false (hstop c hc)]

/-- The digits of a numeral spell its decimal. -/
lemma ofChars?_chars : Decimal.ofChars? n.chars = some n.decimal := by
  have hstop := n.head?_fractionChars detached_nil
  rw [List.append_nil] at hstop
  have hempty : n.whole.isEmpty = false := by simpa using n.whole_ne_nil
  have hchars : n.chars = n.whole ++ (n.fractionChars ++ n.powerChars) := rfl
  rw [hchars, ofChars?_eq]
  simp only [takeWhile_append_stop n.whole_isDigit fun c hc => isDigit_eq_false (hstop c hc),
    dropWhile_append_stop n.whole_isDigit fun c hc => isDigit_eq_false (hstop c hc),
    n.splitPoint_eq, hempty, Bool.false_and, Bool.false_eq_true, if_false]
  unfold powerChars decimal
  cases n.power with
  | none => simp
  | some p =>
    have hmark : (p.mark != 'e' && p.mark != 'E') = false := by
      rcases p.isMark with h | h <;> rw [h] <;> rfl
    have hdigits : (p.digits.isEmpty || !p.digits.all Char.isDigit) = false := by
      have hall : p.digits.all Char.isDigit = true := List.all_eq_true.2 p.isDigit
      simpa [hall] using p.digits_ne_nil
    simp only [Option.map_some, Option.getD_some, Power.chars, hmark, Bool.false_eq_true, if_false,
      p.splitSign_eq, hdigits, Power.value]

end Numeral

/-- What stands behind a number in a normal form: a space, or nothing. -/
def Parted (rest : List Char) : Prop := ∀ c ∈ rest.head?, c = ' '

lemma exponent_cons (e : Char) (cs : List Char) :
    Number.exponent (e :: cs) =
      if e != 'e' && e != 'E' then some ([], e :: cs)
      else match Token.sign cs with
        | (sign, digits) => match digits with
          | d :: r =>
            if d.isDigit then
              (Number.digitTail Char.isDigit r).map fun (ds, rest) => (e :: sign ++ d :: ds, rest)
            else if sign.isEmpty && Number.endsBefore (e :: cs) then some ([], e :: cs) else none
          | [] =>
            if sign.isEmpty && Number.endsBefore (e :: cs) then some ([], e :: cs) else none :=
  rfl

/-- A point with the digits behind it. -/
def pointPart : List Char → Option (List Char × List Char)
  | '.' :: d :: r =>
    if d.isDigit then
      (Number.digitTail Char.isDigit r).map fun (fs, rest) => ('.' :: d :: fs, rest)
    else some (['.'], d :: r)
  | '.' :: [] => some (['.'], [])
  | r => some ([], r)

/-- A number whose parts have been read. -/
def numberOf (ds fraction power : List Char) : Option Number :=
  if fraction.isEmpty && power.isEmpty then Number.ofDigits ds
  else some (.float (Number.floatOf (ds ++ fraction ++ power)))

lemma decimalTail_eq (ds cs : List Char) :
    Number.decimalTail ds cs = (pointPart cs).bind fun (fraction, cs) =>
      (Number.exponent cs).bind fun (power, cs) => match cs with
        | j :: r =>
          if j == 'j' || j == 'J' then
            if Number.endsBefore r then
              some (.imaginary (Number.floatOf (ds ++ fraction ++ power)), r)
            else none
          else if !Number.endsBefore cs then none
          else if fraction.isEmpty && power.isEmpty then (Number.ofDigits ds).map (·, cs)
          else some (.float (Number.floatOf (ds ++ fraction ++ power)), cs)
        | [] =>
          if fraction.isEmpty && power.isEmpty then (Number.ofDigits ds).map (·, [])
          else some (.float (Number.floatOf (ds ++ fraction ++ power)), []) := by
  unfold Number.decimalTail
  split
  · next d r =>
    cases h : d.isDigit <;> simp only [pointPart, h, if_true, Bool.false_eq_true, if_false] <;> rfl
  · rfl
  · next hpoint hlast =>
    rw [pointPart.eq_3 _ hpoint hlast]
    rfl

/-- A number ends at a blank, or at the end of the line. -/
lemma decimalTail_of_parted {ds cs fraction cs' power rest : List Char}
    (hfraction : pointPart cs = some (fraction, cs'))
    (hpower : Number.exponent cs' = some (power, rest)) (hrest : Parted rest) :
    Number.decimalTail ds cs = (numberOf ds fraction power).map (·, rest) := by
  simp only [decimalTail_eq, hfraction, Option.bind_some, hpower]
  unfold numberOf
  cases rest with
  | nil => split_ifs <;> rfl
  | cons c r =>
    obtain rfl : c = ' ' := hrest c (by simp)
    have hends : Number.endsBefore (' ' :: r) = true := rfl
    have hunit : (' ' == 'j' || ' ' == 'J') = false := rfl
    simp only [hends, hunit, Bool.not_true, Bool.false_eq_true, if_false]
    split_ifs <;> rfl

lemma Power.read_append (p : Power) {rest : List Char} (hrest : Parted rest) :
    Number.exponent (p.chars ++ rest) = some (p.chars, rest) := by
  obtain ⟨d, ds, hdigits, hd, hds⟩ := p.exists_digits
  have hmark : (p.mark != 'e' && p.mark != 'E') = false := by
    rcases p.isMark with h | h <;> rw [h] <;> rfl
  have hsign := p.sign_append rest
  have hstop : ∀ c ∈ rest.head?, c.isDigit = false ∧ c ≠ '_' := by
    intro c hc
    rw [hrest c hc]
    decide
  have htail := digitTail_append hds (by decide) hstop
  rw [hdigits, List.cons_append] at hsign
  rw [chars, hdigits, List.cons_append, List.append_assoc, List.cons_append, exponent_cons, hmark,
    hsign]
  simp [hd, htail]

namespace Numeral

variable (n : Numeral) {rest : List Char}

lemma head?_powerChars_of_parted (hrest : Parted rest) :
    ∀ c ∈ (n.powerChars ++ rest).head?, c.isDigit = false ∧ c ≠ '_' ∧ c ≠ '.' := by
  unfold powerChars
  cases n.power with
  | none =>
    intro c hc
    rw [hrest c hc]
    decide
  | some p =>
    intro c hc
    obtain rfl : p.mark = c := by simpa [Power.chars] using hc
    rcases p.isMark with h | h <;> rw [h] <;> decide

lemma readPower_append (hrest : Parted rest) :
    Number.exponent (n.powerChars ++ rest) = some (n.powerChars, rest) := by
  unfold powerChars
  cases n.power with
  | none =>
    cases rest with
    | nil => rfl
    | cons c r =>
      obtain rfl : c = ' ' := hrest c (by simp)
      rfl
  | some p => exact p.read_append hrest

lemma pointPart_append (hrest : Parted rest) :
    pointPart (n.fractionChars ++ (n.powerChars ++ rest)) =
      some (n.fractionChars, n.powerChars ++ rest) := by
  have hstop := n.head?_powerChars_of_parted hrest
  unfold fractionChars
  split_ifs with h
  · rw [List.nil_append]
    cases hcs : n.powerChars ++ rest with
    | nil => rfl
    | cons c r =>
      rw [hcs] at hstop
      obtain ⟨-, -, hpoint⟩ := hstop c (by simp)
      unfold pointPart
      split
      · next heq => exact absurd (List.cons.inj heq).1 hpoint
      · next heq => exact absurd (List.cons.inj heq).1 hpoint
      · rfl
  · obtain ⟨d, ds, hfraction⟩ := List.exists_cons_of_ne_nil h
    have hall := n.fraction_isDigit
    rw [hfraction] at hall ⊢
    have hds : ∀ x ∈ ds, x.isDigit = true := fun x hx => hall x (by simp [hx])
    have htail := digitTail_append hds (by decide) fun c hc =>
      ⟨(hstop c hc).1, (hstop c hc).2.1⟩
    simp [pointPart, hall d (by simp), htail]

/-- Digits without a leading zero that are all of a number spell a whole number. -/
lemma ofDigits_whole : Number.ofDigits n.whole = some (.int (digitsValue n.whole)) := by
  have hlimit : ¬ Number.digitLimit < n.whole.length := by
    have := n.short
    omega
  unfold Number.ofDigits
  by_cases hzero : digitsValue n.whole = 0
  · simp [hzero]
  · have hhead : n.whole.head? ≠ some '0' := by
      intro h
      rw [n.noLeadingZero h] at hzero
      exact hzero rfl
    simp [hzero, hhead, hlimit]

lemma numberOf_eq : numberOf n.whole n.fractionChars n.powerChars = some n.number := by
  have hfraction : n.fractionChars.isEmpty = true ↔ n.fraction = [] := by
    unfold fractionChars
    split_ifs with h <;> simp [h]
  have hpower : n.powerChars.isEmpty = true ↔ n.power = none := by
    unfold powerChars
    cases n.power <;> simp [Power.chars]
  unfold numberOf number
  simp only [Bool.and_eq_true, hfraction, hpower]
  split_ifs
  · exact n.ofDigits_whole
  · have hchars : n.whole ++ n.fractionChars ++ n.powerChars = n.chars := List.append_assoc ..
    simp [Number.floatOf, hchars, n.ofChars?_chars]

lemma decimalTail_append (hrest : Parted rest) :
    Number.decimalTail n.whole (n.fractionChars ++ (n.powerChars ++ rest)) =
      some (n.number, rest) := by
  rw [decimalTail_of_parted (n.pointPart_append hrest) (n.readPower_append hrest) hrest,
    n.numberOf_eq]
  rfl

/-- Behind the digits before the point stands neither a digit nor a letter that makes them the mark
of another base. -/
lemma head?_afterWhole (hrest : Parted rest) :
    ∀ c ∈ (n.fractionChars ++ (n.powerChars ++ rest)).head?,
      c.isDigit = false ∧ c ∉ ['_', 'x', 'X', 'o', 'O', 'b', 'B'] := by
  intro c hc
  have hmem : c ∈ ['.', 'e', 'E', ' '] := by
    revert hc
    unfold fractionChars powerChars
    split_ifs
    · cases n.power with
      | none =>
        intro hc
        simp [hrest c (by simpa using hc)]
      | some p =>
        intro hc
        obtain rfl : p.mark = c := by simpa [Power.chars] using hc
        rcases p.isMark with h | h <;> simp [h]
    · intro hc
      obtain rfl : '.' = c := by simpa using hc
      simp
  simp only [List.mem_cons, List.not_mem_nil, or_false] at hmem
  rcases hmem with rfl | rfl | rfl | rfl <;> decide

/-- A numeral is read as its number. -/
lemma read_append (hrest : Parted rest) : Number.read (n.chars ++ rest) = some (n.number, rest) := by
  obtain ⟨c, ws, hwhole, hc, hws⟩ := n.exists_whole
  have hstop := n.head?_afterWhole hrest
  have htail := n.decimalTail_append hrest
  have hchars : n.chars ++ rest = c :: (ws ++ (n.fractionChars ++ (n.powerChars ++ rest))) := by
    simp [chars, hwhole]
  have hdigits := digitTail_append hws (by decide) fun c hc =>
    ⟨(hstop c hc).1, fun h => (hstop c hc).2 (by simp [h])⟩
  rw [hwhole] at htail
  rw [hchars]
  unfold Number.read
  split
  · next m r heq =>
    -- a zero before other digits would be a leading zero
    obtain ⟨rfl, hcs⟩ := List.cons.inj heq
    obtain rfl : ws = [] := by simpa [hwhole] using n.noLeadingZero (by simp [hwhole])
    rw [List.nil_append] at hcs hdigits
    rw [hcs] at hstop hdigits htail
    obtain ⟨-, hmark⟩ := hstop m (by simp)
    simp only [List.mem_cons, List.not_mem_nil, or_false, not_or] at hmark
    simp [hmark, hdigits, htail]
  · next heq =>
    obtain ⟨rfl, -⟩ := List.cons.inj heq
    cases hc
  · next heq =>
    obtain ⟨rfl, rfl⟩ := List.cons.inj heq
    simp [hdigits, htail]
  · next heq => cases heq

end Numeral

end TransactionRules.Expression
