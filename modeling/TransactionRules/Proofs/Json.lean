import Mathlib
import TransactionRules.Json.Reader
import TransactionRules.Json.Writer

/-!
# Written JSON is read in one way

A text that was written in quotes is read back by the reader, so a quoted text shows where it ends.
The same holds of a whole number before a comma or a bracket, and then of lists of such values:
different values have different texts (`write_inj`).
-/

namespace TransactionRules.Json

/-! ## Texts -/

lemma codeUnit?_hex {n : Nat} (h : n < 0x10000) (rest : List Char) :
    codeUnit? (Quoted.hex 4 n ++ rest) = some (n, rest) := by
  have hdigit : ∀ d < 16, hexValue? (Nat.digitChar d) = some d := by decide
  have hhex : Quoted.hex 4 n ++ rest =
      Nat.digitChar (n >>> 12 % 16) :: Nat.digitChar (n >>> 8 % 16) ::
        Nat.digitChar (n >>> 4 % 16) :: Nat.digitChar (n >>> 0 % 16) :: rest := rfl
  have hmod : ∀ m, m % 16 < 16 := fun m => Nat.mod_lt m (by omega)
  rw [hhex, codeUnit?]
  simp only [hdigit _ (hmod _), Option.bind_eq_bind, Option.bind_some, Option.pure_def,
    Nat.shiftRight_eq_div_pow]
  congr 2
  omega

lemma charOf_toNat (c : Char) : charOf c.toNat = c := by
  have h := Char.ofNat_toNat c
  simp only [Char.ofNat, show c.toNat.isValidChar from c.valid, dite_true] at h
  simp only [charOf, show c.toNat.isValidChar from c.valid, dite_true, h]

/-- A character is no surrogate. -/
lemma not_surrogate (c : Char) : ¬ (0xd800 ≤ c.toNat ∧ c.toNat < 0xe000) := by
  have hvalid : c.toNat < 0xd800 ∨ 0xdfff < c.toNat ∧ c.toNat < 0x110000 := c.valid
  omega

lemma four_lt_length_hex (n : Nat) {rest : List Char} (h : rest ≠ []) :
    ¬ (Quoted.hex 4 n ++ rest).length ≤ 4 := by
  have := List.length_pos_iff.2 h
  simp [Quoted.hex]
  omega

/-- A code unit that is no part of a pair is read as a character. -/
lemma text_unit (opening done digits rest : List Char) (fuel : Nat) {n : Nat}
    (hlength : ¬ digits.length ≤ 4) (hread : codeUnit? digits = some (n, rest))
    (hunit : (decide (0xd800 ≤ n) && decide (n < 0xdc00)) = false) :
    text opening (fuel + 1) done ('\\' :: 'u' :: digits) = text opening fuel (charOf n :: done) rest := by
  simp only [text, hlength, if_false, hread, hunit, Bool.false_eq_true]

/-- The reader takes a character back that is escaped by its code unit. -/
lemma text_unitEscape (opening done rest : List Char) (fuel : Nat) {c : Char} (hc : c.toNat < 0x10000)
    (h : rest ≠ []) :
    text opening (fuel + 1) done (unitEscape c.toNat ++ rest) = text opening fuel (c :: done) rest := by
  have hunit : (decide (0xd800 ≤ c.toNat) && decide (c.toNat < 0xdc00)) = false := by
    have := not_surrogate c
    rw [Bool.and_eq_false_iff, decide_eq_false_iff_not, decide_eq_false_iff_not]
    omega
  have hread := text_unit opening done _ rest fuel (four_lt_length_hex c.toNat h) (codeUnit?_hex hc rest)
    hunit
  rwa [charOf_toNat] at hread

/-- Two code units that make a pair are read as one character. -/
lemma text_pair (opening done digits behind rest : List Char) (fuel : Nat) {n : Nat} {c : Char}
    (hlength : ¬ digits.length ≤ 4) (hread : codeUnit? digits = some (n, behind))
    (hunit : (decide (0xd800 ≤ n) && decide (n < 0xdc00)) = true)
    (hpartner : partner? n behind = some (c, rest)) :
    text opening (fuel + 1) done ('\\' :: 'u' :: digits) = text opening fuel (c :: done) rest := by
  simp only [text, hlength, if_false, hread, hunit, if_true, hpartner]

lemma partner?_unitEscape {high low : Nat} {rest : List Char} (hlow : 0xdc00 ≤ low) (hlow' : low < 0xe000)
    (h : rest ≠ []) :
    partner? high (unitEscape low ++ rest) =
      some (charOf (0x10000 + (high - 0xd800) * 0x400 + (low - 0xdc00)), rest) := by
  have hread : codeUnit? (Quoted.hex 4 low ++ rest) = some (low, rest) := codeUnit?_hex (by omega) rest
  have hempty : rest.isEmpty = false := by simpa using h
  simp only [unitEscape, List.cons_append, partner?, hread, Option.bind_eq_bind, Option.bind_some,
    hlow, hlow', hempty, decide_true, Bool.not_false, Bool.and_self, if_true, Option.pure_def]

/-- The reader takes a character back that is escaped by one or two code units. -/
lemma text_asciiEscape (opening done rest : List Char) (fuel : Nat) (c : Char) (h : rest ≠ []) :
    text opening (fuel + 1) done (asciiEscape c ++ rest) = text opening fuel (c :: done) rest := by
  unfold asciiEscape
  dsimp only
  split_ifs with hc
  · exact text_unitEscape opening done rest fuel hc h
  · have hvalid : c.toNat < 0xd800 ∨ 0xdfff < c.toNat ∧ c.toNat < 0x110000 := c.valid
    generalize hm : c.toNat - 0x10000 = m
    have hchar : 0x10000 + (0xd800 + m / 0x400 - 0xd800) * 0x400 + (0xdc00 + m % 0x400 - 0xdc00) =
        c.toNat := by omega
    have hpartner : partner? (0xd800 + m / 0x400) (unitEscape (0xdc00 + m % 0x400) ++ rest) =
        some (c, rest) := by
      rw [partner?_unitEscape (by omega) (by omega) h, hchar, charOf_toNat]
    have hunit : (decide (0xd800 ≤ 0xd800 + m / 0x400) && decide (0xd800 + m / 0x400 < 0xdc00)) = true := by
      rw [Bool.and_eq_true, decide_eq_true_eq, decide_eq_true_eq]
      omega
    have hbehind : unitEscape (0xdc00 + m % 0x400) ++ rest ≠ [] := List.append_ne_nil_of_right_ne_nil _ h
    rw [List.append_assoc]
    exact text_pair opening done _ _ rest fuel (four_lt_length_hex _ hbehind)
      (codeUnit?_hex (by omega) _) hunit hpartner

/-- The reader takes an escaped character back, if something follows it. -/
lemma text_escape (ascii : Bool) (opening done rest : List Char) (fuel : Nat) (c : Char) (h : rest ≠ []) :
    text opening (fuel + 1) done (escape ascii c ++ rest) = text opening fuel (c :: done) rest := by
  unfold escape
  split_ifs with hq hn hr ht hb hf hlow hascii
  · rcases (by simpa using hq : c = '"' ∨ c = '\\') with rfl | rfl
    · simp [text, simpleEscape?]
    · simp [text, simpleEscape?]
  · simp_all [text, simpleEscape?]
  · simp_all [text, simpleEscape?]
  · simp_all [text, simpleEscape?]
  · simp_all [text, simpleEscape?]
  · simp_all [text, simpleEscape?]
  · exact text_unitEscape opening done rest fuel (by omega) h
  · exact text_asciiEscape opening done rest fuel c h
  · have hquote : c ≠ '"' := fun hc => by simp [hc] at hq
    have hslash : c ≠ '\\' := fun hc => by simp [hc] at hq
    rw [List.singleton_append, text.eq_def]
    split
    · next heq => exact absurd heq (by simp)
    · next heq =>
      simp only [Nat.succ.injEq] at heq
      subst heq
      split
      · next heq => simp at heq
      · next heq => exact absurd (List.cons.inj heq).1 hquote
      · next heq => exact absurd (List.cons.inj heq).1 hslash
      · next heq =>
        obtain ⟨rfl, rfl⟩ := List.cons.inj heq
        rw [if_neg hlow]

/-- The reader ends at the quote behind a written text. -/
lemma text_flatMap_escape (ascii : Bool) (opening done cs rest : List Char) (fuel : Nat)
    (h : cs.length < fuel) :
    text opening fuel done (cs.flatMap (escape ascii) ++ '"' :: rest) =
      .ok (String.ofList (done.reverse ++ cs), rest) := by
  induction cs generalizing fuel done with
  | nil =>
    obtain ⟨fuel, rfl⟩ := Nat.exists_eq_succ_of_ne_zero (by omega : fuel ≠ 0)
    simp [text]
  | cons c cs ih =>
    obtain ⟨fuel, rfl⟩ := Nat.exists_eq_succ_of_ne_zero (by omega : fuel ≠ 0)
    rw [List.flatMap_cons, List.append_assoc, text_escape _ _ _ _ _ _ (by simp),
      ih _ _ (by simpa using h)]
    simp

lemma quote_append_inj {ascii : Bool} {s t : String} {r r' : List Char}
    (h : (quote ascii s).toList ++ r = (quote ascii t).toList ++ r') : s = t ∧ r = r' := by
  simp only [quote, String.toList_ofList, List.cons_append, List.append_assoc, List.cons.injEq,
    true_and] at h
  have hread := congrArg (text [] (s.toList.length + t.toList.length + 1) []) h
  rw [List.nil_append, List.nil_append, text_flatMap_escape _ _ _ _ _ _ (by omega),
    text_flatMap_escape _ _ _ _ _ _ (by omega)] at hread
  simpa using hread

/-- Different texts have different quotations, in characters of either kind. -/
lemma quote_injective (ascii : Bool) : Function.Injective (quote ascii) := by
  intro s t h
  have hbefore : (quote ascii s).toList ++ [] = (quote ascii t).toList ++ [] := by rw [h]
  exact (quote_append_inj hbefore).1

/-! ## Whole numbers -/

/-- The characters of a whole number. -/
def isIntChar (c : Char) : Bool := c.isDigit || c == '-'

lemma isIntChar_of_mem_toString {n : Int} {c : Char} (h : c ∈ (toString n).toList) :
    isIntChar c = true := by
  have hnat : ∀ m : Nat, ∀ c ∈ (Nat.repr m).toList, isIntChar c = true := by
    intro m c hc
    rw [Nat.toList_repr] at hc
    simp [isIntChar, Nat.isDigit_of_mem_toDigits (by decide) (by decide) hc]
  cases n with
  | ofNat m => exact hnat m c h
  | negSucc m =>
    change c ∈ ("-" ++ Nat.repr (m + 1)).toList at h
    rw [String.toList_append, List.mem_append] at h
    rcases h with h | h
    · simp_all [isIntChar]
    · exact hnat _ c h

lemma toString_int_ne_nil (n : Int) : (toString n).toList ≠ [] := by
  cases n with
  | ofNat m =>
    change (Nat.repr m).toList ≠ []
    rw [Nat.toList_repr]
    exact Nat.toDigits_ne_nil
  | negSucc m =>
    change ("-" ++ Nat.repr (m + 1)).toList ≠ []
    simp

/-! ## Values -/

/-- The values that have one written form each. -/
inductive Plain : Value → Prop
  | null : Plain .null
  | int (n : Int) : Plain (.int n)
  | text (s : String) : Plain (.text s)
  | list (vs : List Value) (h : ∀ v ∈ vs, Plain v) : Plain (.list vs)

/-- What ends a value inside a list. -/
def Ends (r : List Char) : Prop := ∃ c r', r = c :: r' ∧ (c = ',' ∨ c = ']')

lemma Ends.takeWhile_eq_nil {r : List Char} (h : Ends r) : r.takeWhile isIntChar = [] := by
  obtain ⟨c, r', rfl, rfl | rfl⟩ := h <;> rfl

lemma int_append_inj {m n : Int} {r s : List Char} (hr : Ends r) (hs : Ends s)
    (h : (toString m).toList ++ r = (toString n).toList ++ s) : m = n ∧ r = s := by
  have htake (k : Int) {r : List Char} (hr : Ends r) :
      ((toString k).toList ++ r).takeWhile isIntChar = (toString k).toList := by
    rw [List.takeWhile_append_of_pos fun c hc => isIntChar_of_mem_toString hc,
      hr.takeWhile_eq_nil, List.append_nil]
  have heq : (toString m).toList = (toString n).toList := by
    rw [← htake m hr, h, htake n hs]
  refine ⟨Int.repr_injective (String.toList_inj.1 heq), ?_⟩
  rw [heq] at h
  exact List.append_cancel_left h

lemma writeItems_eq_map (style : JsonStyle) (vs : List Value) :
    writeItems style vs = vs.map (write style) := by
  induction vs with
  | nil => rfl
  | cons v vs ih => rw [writeItems, ih, List.map_cons]

/-- The items behind the first one, each behind a comma, and the closing bracket. -/
def itemsTail (vs : List Value) (r : List Char) : List Char :=
  vs.flatMap (fun v => ',' :: (write .compact v).toList) ++ ']' :: r

lemma itemsTail_cons (v : Value) (vs : List Value) (r : List Char) :
    itemsTail (v :: vs) r = ',' :: ((write .compact v).toList ++ itemsTail vs r) := by
  simp [itemsTail]

lemma ends_itemsTail (vs : List Value) (r : List Char) : Ends (itemsTail vs r) := by
  cases vs with
  | nil => exact ⟨']', r, rfl, .inr rfl⟩
  | cons v vs => exact ⟨',', _, itemsTail_cons v vs r, .inl rfl⟩

lemma write_nil_append (r : List Char) : (write .compact (.list [])).toList ++ r = '[' :: ']' :: r :=
  rfl

lemma write_cons_append (v : Value) (vs : List Value) (r : List Char) :
    (write .compact (.list (v :: vs))).toList ++ r =
      '[' :: ((write .compact v).toList ++ itemsTail vs r) := by
  have hjoin : ∀ (v : List Char) (vs : List (List Char)),
      [','].intercalate (v :: vs) = v ++ vs.flatMap (',' :: ·) := by
    intro v vs
    induction vs generalizing v with
    | nil => simp [List.intercalate]
    | cons w vs ih =>
      have := ih w
      simp_all [List.intercalate]
  rw [write, writeItems_eq_map]
  simp only [JsonStyle.compact, String.toList_append, String.toList_intercalate, List.map_cons]
  rw [show ",".toList = [','] from rfl, hjoin]
  simp [List.flatMap_map, itemsTail, JsonStyle.compact]

/-- The first character of a written value tells its kind. -/
def headKind? (c : Char) : Option ValueKind :=
  if c == 'n' then some .null
  else if c == '"' then some .text
  else if c == '[' then some .list
  else if isIntChar c then some .int
  else none

lemma headKind?_of_isIntChar {c : Char} (h : isIntChar c = true) : headKind? c = some .int := by
  have hne : c ≠ 'n' ∧ c ≠ '"' ∧ c ≠ '[' := by
    refine ⟨?_, ?_, ?_⟩ <;> rintro rfl <;> exact absurd h (by decide)
  simp [headKind?, hne, h]

lemma Plain.exists_head {v : Value} (h : Plain v) :
    ∃ c cs, (write .compact v).toList = c :: cs ∧ headKind? c = some v.kind := by
  cases h with
  | null => exact ⟨'n', _, rfl, rfl⟩
  | int n =>
    obtain ⟨c, cs, hc⟩ := List.exists_cons_of_ne_nil (toString_int_ne_nil n)
    have hint : isIntChar c = true := isIntChar_of_mem_toString (by rw [hc]; simp)
    exact ⟨c, cs, hc, headKind?_of_isIntChar hint⟩
  | text s => exact ⟨'"', _, String.toList_ofList, rfl⟩
  | list vs =>
    cases vs with
    | nil => exact ⟨'[', _, rfl, rfl⟩
    | cons v vs =>
      have := write_cons_append v vs []
      rw [List.append_nil] at this
      exact ⟨'[', _, this, rfl⟩

lemma Plain.write_ne_closing {v : Value} (h : Plain v) (r s : List Char) :
    (write .compact v).toList ++ r ≠ ']' :: s := by
  obtain ⟨c, cs, hc, hkind⟩ := h.exists_head
  rw [hc]
  intro heq
  rw [(List.cons.inj heq).1] at hkind
  exact absurd hkind (by simp [headKind?, isIntChar])

lemma Plain.kind_eq {v w : Value} {r s : List Char} (hv : Plain v) (hw : Plain w)
    (h : (write .compact v).toList ++ r = (write .compact w).toList ++ s) : v.kind = w.kind := by
  obtain ⟨c, cs, hc, hkind⟩ := hv.exists_head
  obtain ⟨d, ds, hd, hkind'⟩ := hw.exists_head
  rw [hc, hd] at h
  rw [(List.cons.inj h).1, hkind'] at hkind
  exact (Option.some.inj hkind).symm

lemma itemsTail_inj {vs ws : List Value} {r s : List Char} (hw : ∀ w ∈ ws, Plain w)
    (item : ∀ v ∈ vs, ∀ {w : Value} {r s : List Char}, Plain w → Ends r → Ends s →
      (write .compact v).toList ++ r = (write .compact w).toList ++ s → v = w ∧ r = s)
    (h : itemsTail vs r = itemsTail ws s) : vs = ws ∧ r = s := by
  induction vs generalizing ws with
  | nil =>
    cases ws with
    | nil => exact ⟨rfl, by simpa [itemsTail] using h⟩
    | cons w ws => simp [itemsTail] at h
  | cons v vs ih =>
    cases ws with
    | nil => simp [itemsTail] at h
    | cons w ws =>
      rw [itemsTail_cons, itemsTail_cons] at h
      obtain ⟨rfl, hrest⟩ := item v (by simp) (hw w (by simp)) (ends_itemsTail vs r)
        (ends_itemsTail ws s) (List.cons.inj h).2
      obtain ⟨rfl, hrs⟩ := ih (fun u hu => hw u (by simp [hu]))
        (fun u hu => item u (by simp [hu])) hrest
      exact ⟨rfl, hrs⟩

/-- A written value shows where it ends and which value it is. -/
theorem write_append_inj {v w : Value} {r s : List Char} (hv : Plain v) (hw : Plain w)
    (hr : Ends r) (hs : Ends s)
    (h : (write .compact v).toList ++ r = (write .compact w).toList ++ s) : v = w ∧ r = s := by
  induction hv generalizing w r s with
  | null =>
    have hkind := Plain.null.kind_eq hw h
    cases hw with
    | null => exact ⟨rfl, List.append_cancel_left h⟩
    | int | text | list => cases hkind
  | int m =>
    have hkind := (Plain.int m).kind_eq hw h
    cases hw with
    | int n =>
      obtain ⟨rfl, hrs⟩ := int_append_inj hr hs h
      exact ⟨rfl, hrs⟩
    | null | text | list => cases hkind
  | text t =>
    have hkind := (Plain.text t).kind_eq hw h
    cases hw with
    | text u =>
      obtain ⟨rfl, hrs⟩ := quote_append_inj h
      exact ⟨rfl, hrs⟩
    | null | int | list => cases hkind
  | list vs hvs ih =>
    have hkind := (Plain.list vs hvs).kind_eq hw h
    cases hw with
    | null | int | text => cases hkind
    | list ws hws =>
      cases vs with
      | nil =>
        cases ws with
        | nil => exact ⟨rfl, by simpa [write_nil_append] using h⟩
        | cons w ws =>
          rw [write_nil_append, write_cons_append] at h
          exact absurd (List.cons.inj h).2.symm ((hws w (by simp)).write_ne_closing _ _)
      | cons v vs =>
        cases ws with
        | nil =>
          rw [write_nil_append, write_cons_append] at h
          exact absurd (List.cons.inj h).2 ((hvs v (by simp)).write_ne_closing _ _)
        | cons w ws =>
          rw [write_cons_append, write_cons_append] at h
          obtain ⟨rfl, htail⟩ := ih v (by simp) (hws w (by simp)) (ends_itemsTail vs r)
            (ends_itemsTail ws s) (List.cons.inj h).2
          obtain ⟨rfl, hrs⟩ := itemsTail_inj (fun u hu => hws u (by simp [hu]))
            (fun u hu => ih u (by simp [hu])) htail
          exact ⟨rfl, hrs⟩

/-- Different values have different texts. -/
theorem write_inj {v w : Value} (hv : Plain v) (hw : Plain w)
    (h : write .compact v = write .compact w) : v = w :=
  (write_append_inj hv hw ⟨']', [], rfl, .inr rfl⟩ ⟨']', [], rfl, .inr rfl⟩
    (congrArg (fun t => t.toList ++ [']']) h)).1

end TransactionRules.Json
