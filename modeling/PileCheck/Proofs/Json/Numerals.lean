import PileCheck.Proofs.Json.Scanning

/-!
# Numerals

A literal that keeps to the grammar (`Literal.WellFormed`) is written in one way (`Literal.chars`),
and what is written so is scanned as one numeral, which is the literal (`Literal.read?_chars`,
`Literal.scans`). Whole numbers are literals without a fraction and an exponent.
-/

namespace PileCheck.Json

namespace Literal

/-! ## Writing a literal -/

/-- The point and the digits after it, if there are any. -/
def fractionChars : Option (List Char) → List Char
  | none => []
  | some ds => '.' :: ds

/-- The exponent with its mark, and its sign if it is negative. -/
def exponentChars : Option (Bool × List Char) → List Char
  | none => []
  | some (true, ds) => 'e' :: '-' :: ds
  | some (false, ds) => 'e' :: ds

/-- Everything after the whole digits. -/
def tailChars (l : Literal) : List Char := fractionChars l.fraction ++ exponentChars l.exponent

/-- The literal without its sign. -/
def unsignedChars (l : Literal) : List Char := l.whole ++ l.tailChars

/-- The literal as it is written. -/
def chars (l : Literal) : List Char :=
  if l.negative then '-' :: l.unsignedChars else l.unsignedChars

/-- At least one digit and nothing else. -/
def IsDigits (ds : List Char) : Prop := ds ≠ [] ∧ ds.all Char.isDigit = true

/-- The grammar of numerals. -/
structure WellFormed (l : Literal) : Prop where
  whole : IsDigits l.whole
  /-- Only a zero alone begins with a zero. -/
  lead : ∀ ds, l.whole = '0' :: ds → ds = []
  fraction : ∀ ds ∈ l.fraction, IsDigits ds
  exponent : ∀ e ∈ l.exponent, IsDigits e.2

variable {l : Literal} {ds : List Char}

/-! ## Reading it -/

/-- Digits are taken up to the first character that is none. -/
theorem span_digits (h : ds.all Char.isDigit = true) (tail : List Char)
    (htail : tail.head?.all (fun c => !c.isDigit) = true) :
    (ds ++ tail).takeWhile Char.isDigit = ds ∧ (ds ++ tail).dropWhile Char.isDigit = tail := by
  have hall := List.all_eq_true.1 h
  rw [List.takeWhile_append_of_pos hall, List.dropWhile_append_of_pos hall]
  cases tail with
  | nil => simp
  | cons c cs =>
    have hc : c.isDigit = false := by simpa using htail
    simp [hc]

theorem head?_exponentChars (e : Option (Bool × List Char)) :
    (exponentChars e).head?.all (fun c => !c.isDigit) = true := by
  rcases e with _ | ⟨_ | _, ds⟩ <;> rfl

theorem head?_tailChars (l : Literal) : l.tailChars.head?.all (fun c => !c.isDigit) = true := by
  unfold tailChars
  cases l.fraction with
  | none => exact head?_exponentChars _
  | some ds => rfl

theorem readExponent?_digits (h : IsDigits ds) : readExponent? ds = some (false, ds) := by
  obtain ⟨hne, hall⟩ := h
  have hempty : ds.isEmpty = false := by cases ds <;> simp_all
  unfold readExponent?
  -- a sign is no digit
  split
  · simp at hall
  · simp at hall
  · simp [hempty, hall]

theorem readExponent?_minus (h : IsDigits ds) : readExponent? ('-' :: ds) = some (true, ds) := by
  obtain ⟨hne, hall⟩ := h
  have hempty : ds.isEmpty = false := by cases ds <;> simp_all
  simp [readExponent?, hempty, hall]

theorem readExponent?_exponentChars {e : Bool × List Char} (h : IsDigits e.2) :
    ∃ ds, exponentChars (some e) = 'e' :: ds ∧ readExponent? ds = some e := by
  rcases e with ⟨_ | _, ds⟩
  · exact ⟨ds, rfl, readExponent?_digits h⟩
  · exact ⟨'-' :: ds, rfl, readExponent?_minus h⟩

/-- The four forms: with and without a fraction, with and without an exponent. -/
theorem readTail?_tailChars (h : l.WellFormed) :
    readTail? l.negative l.whole l.tailChars = some l := by
  obtain ⟨negative, whole, fraction, exponent⟩ := l
  have hfraction := h.fraction
  have hexponent := h.exponent
  simp only [tailChars]
  -- the point begins the fraction and the mark ends it, so each form is told by its first character
  cases fraction with
  | none =>
    cases exponent with
    | none => rfl
    | some e =>
      obtain ⟨ds, hchars, hread⟩ := readExponent?_exponentChars (hexponent e rfl)
      rw [hchars]
      simp [readTail?, fractionChars, isExponentMark, hread]
  | some fr =>
    obtain ⟨hne, hall⟩ := hfraction fr rfl
    obtain ⟨htake, hdrop⟩ :=
      span_digits hall (exponentChars exponent) (head?_exponentChars exponent)
    have hempty : fr.isEmpty = false := by cases fr <;> simp_all
    cases exponent with
    | none =>
      simp only [exponentChars, List.append_nil] at htake hdrop
      simp [readTail?, fractionChars, exponentChars, htake, hdrop, hne]
    | some e =>
      obtain ⟨ds, hchars, hread⟩ := readExponent?_exponentChars (hexponent e rfl)
      rw [hchars] at htake hdrop ⊢
      simp [readTail?, fractionChars, isExponentMark, htake, hdrop, hempty, hread]

/-- The first character of a literal without its sign. -/
theorem unsignedChars_eq_cons (h : l.WellFormed) :
    ∃ d ds, l.unsignedChars = d :: ds ∧ d.isDigit = true := by
  obtain ⟨hne, hall⟩ := h.whole
  unfold unsignedChars
  cases hwhole : l.whole with
  | nil => exact absurd hwhole hne
  | cons d ds =>
    rw [hwhole, List.all_cons, Bool.and_eq_true] at hall
    exact ⟨d, ds ++ l.tailChars, rfl, hall.1⟩

/-- Without its sign a literal is read back: its whole digits first, and then the rest. -/
theorem readUnsigned?_unsignedChars (h : l.WellFormed) :
    readUnsigned? l.negative l.unsignedChars = some l := by
  obtain ⟨htake, hdrop⟩ := span_digits h.whole.2 l.tailChars (head?_tailChars l)
  unfold readUnsigned?
  simp only [unsignedChars, htake, hdrop]
  split
  · next hnil => exact absurd hnil h.whole.1
  · -- no digit may come after a leading zero
    next second rest hzero => exact absurd (h.lead _ hzero) (List.cons_ne_nil _ _)
  · exact readTail?_tailChars h

/-- What a literal is written as is read as the literal. -/
theorem read?_chars (h : l.WellFormed) : Literal.read? l.chars = some l := by
  have hread := readUnsigned?_unsignedChars h
  unfold chars
  cases hnegative : l.negative with
  | true =>
    rw [hnegative] at hread
    exact hread
  | false =>
    rw [hnegative] at hread
    rw [if_neg Bool.false_ne_true]
    unfold Literal.read?
    -- without a sign the first character is a digit
    split
    · next cs hminus =>
      obtain ⟨d, ds, hchars, hdigit⟩ := unsignedChars_eq_cons h
      rw [hminus] at hchars
      obtain ⟨rfl, -⟩ := List.cons.inj hchars
      exact absurd hdigit (by decide)
    · exact hread

end Literal

/-! ## Scanning it -/

/-- A digit between tokens begins a numeral. -/
theorem fresh_of_isDigit {c : Char} (h : c.isDigit = true) (tokens : List Token) :
    Lexer.fresh tokens c = some ⟨.numeral [c], tokens⟩ := by
  have hspace : isSpace c = false := by
    simp only [isSpace, Bool.or_eq_false_iff, beq_eq_false_iff_ne, ne_eq]
    refine ⟨⟨⟨?_, ?_⟩, ?_⟩, ?_⟩ <;>
    · rintro rfl
      exact absurd h (by decide)
  unfold Lexer.fresh
  rw [hspace, if_neg Bool.false_ne_true]
  split <;> simp_all

/-- A numeral goes on as long as its characters do. Induction on the characters. -/
theorem run_numeral (read : List Char) (tokens : List Token) {cs : List Char}
    (h : cs.all inNumeral = true) :
    Lexer.run ⟨.numeral read, tokens⟩ cs = some ⟨.numeral (cs.reverse ++ read), tokens⟩ := by
  induction cs generalizing read with
  | nil => rfl
  | cons c cs ih =>
    obtain ⟨hc, hcs⟩ : inNumeral c = true ∧ cs.all inNumeral = true := by simpa using h
    have hstep : Lexer.step ⟨.numeral read, tokens⟩ c = some ⟨.numeral (c :: read), tokens⟩ := by
      simp [Lexer.step, hc]
    rw [Lexer.run, hstep, Option.bind_some, ih _ hcs, List.reverse_cons, List.append_assoc]
    rfl

namespace Literal

variable {l : Literal}

theorem all_inNumeral_of_isDigit {ds : List Char} (h : ds.all Char.isDigit = true) :
    ds.all inNumeral = true := by
  simp only [List.all_eq_true] at h ⊢
  intro c hc
  simp [inNumeral, h c hc]

theorem all_inNumeral_chars (h : l.WellFormed) : l.chars.all inNumeral = true := by
  have hwhole := all_inNumeral_of_isDigit h.whole.2
  have hfraction : (fractionChars l.fraction).all inNumeral = true := by
    cases hfr : l.fraction with
    | none => rfl
    | some ds => simpa [fractionChars, inNumeral] using
        all_inNumeral_of_isDigit (h.fraction ds hfr).2
  have hexponent : (exponentChars l.exponent).all inNumeral = true := by
    rcases hex : l.exponent with _ | ⟨_ | _, ds⟩
    · rfl
    · simpa [exponentChars, inNumeral] using all_inNumeral_of_isDigit (h.exponent _ hex).2
    · simpa [exponentChars, inNumeral] using all_inNumeral_of_isDigit (h.exponent _ hex).2
  have hunsigned : l.unsignedChars.all inNumeral = true := by
    rw [unsignedChars, tailChars, List.all_append, List.all_append, hwhole, hfraction, hexponent]
    rfl
  unfold chars
  split
  · rw [List.all_cons, hunsigned]
    rfl
  · exact hunsigned

/-- A digit or the minus sign begins the numeral, and what follows belongs to it. -/
theorem scans (h : l.WellFormed) : Scans l.chars [.numeral l] := by
  intro before
  obtain ⟨c, cs, hchars, hfresh⟩ : ∃ c cs, l.chars = c :: cs ∧
      Lexer.fresh before c = some ⟨.numeral [c], before⟩ := by
    unfold chars
    split
    · exact ⟨'-', _, rfl, rfl⟩
    · obtain ⟨d, ds, hunsigned, hdigit⟩ := unsignedChars_eq_cons h
      exact ⟨d, ds, hunsigned, fresh_of_isDigit hdigit before⟩
  have hall := all_inNumeral_chars h
  rw [hchars, List.all_cons, Bool.and_eq_true] at hall
  refine ⟨⟨.numeral (cs.reverse ++ [c]), before⟩, ?_, ?_⟩
  · rw [hchars, Lexer.run]
    show (Lexer.fresh before c).bind _ = _
    rw [hfresh, Option.bind_some, run_numeral _ _ hall.2]
  · -- what follows ends the numeral, which the lexer holds back to front
    have hread : (cs.reverse ++ [c]).reverse = l.chars := by
      rw [List.reverse_append, List.reverse_reverse, hchars]
      rfl
    rw [Lexer.flush?]
    simp only [hread, read?_chars h]
    rfl

end Literal

/-! ## Whole numbers -/

/-- The literal of a whole number. -/
def Literal.ofInt (n : Int) : Literal := ⟨n < 0, Numeral.digits n.natAbs, none, none⟩

theorem isDigits_digits (n : Nat) : Literal.IsDigits (Numeral.digits n) :=
  ⟨Numeral.digits_ne_nil n, Numeral.all_isDigit_digits n⟩

/-- Only zero begins with a zero, and it has no second digit. -/
theorem zero_of_digits {n : Nat} {ds : List Char} (h : Numeral.digits n = '0' :: ds) :
    n = 0 ∧ ds = [] := by
  obtain rfl := Numeral.eq_zero_of_head?_digits (n := n) (by rw [h]; rfl)
  simp [Numeral.digits] at h
  exact ⟨rfl, h.2⟩

theorem wellFormed_ofInt (n : Int) : (Literal.ofInt n).WellFormed where
  whole := isDigits_digits _
  lead _ h := (zero_of_digits h).2
  fraction _ h := by cases h
  exponent _ h := by cases h

theorem chars_ofInt (n : Int) : (Literal.ofInt n).chars = Numeral.intChars n := by
  cases n with
  | ofNat n => exact List.append_nil _
  | negSucc n =>
    rw [Literal.chars, Literal.ofInt, if_pos (decide_eq_true (Int.negSucc_lt_zero n))]
    exact congrArg _ (List.append_nil _)

theorem read?_intChars (n : Int) : Literal.read? (Numeral.intChars n) = some (.ofInt n) :=
  chars_ofInt n ▸ Literal.read?_chars (wellFormed_ofInt n)

theorem scans_intChars (n : Int) : Scans (Numeral.intChars n) [.numeral (.ofInt n)] :=
  chars_ofInt n ▸ Literal.scans (wellFormed_ofInt n)

/-- The width of a number with a sign bounds it from below, and that of one without from above. -/
theorem whole?_ofInt {n : Int} (hmin : Numeral.int64Min ≤ n) (hmax : n ≤ Numeral.nat64Max) :
    (Literal.ofInt n).whole? = some n := by
  unfold Literal.ofInt Literal.whole?
  simp only [Option.isSome_none, Bool.or_self, Bool.false_eq_true, if_false, Numeral.value_digits,
    decide_eq_true_eq]
  by_cases hneg : n < 0
  · have hvalue : -(n.natAbs : Int) = n := by omega
    have hsize : ¬(n.natAbs = 0 ∨ -(n.natAbs : Int) < Numeral.int64Min) := by omega
    rw [if_pos hneg, if_neg (by simpa using hsize), hvalue]
  · have hvalue : (n.natAbs : Int) = n := by omega
    rw [if_neg hneg, if_pos (by omega), hvalue]

end PileCheck.Json
