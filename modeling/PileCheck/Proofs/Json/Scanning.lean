import PileCheck.Json.Token
import PileCheck.Json.Writer

/-!
# Scanning what was written

The scanner takes one character at a time, and only the next character ends a numeral. So what it
makes of some characters is said with what may follow them: they `Scans` as tokens if the scanner
has these tokens when the text ends there, or when a mark comes next. A mark is a bracket, a comma
or a colon.

* `Scans.mark` and `Scans.append` put the pieces of a text together.
* `scans_quoted` is one of the pieces that a writer makes: a quoted text gives back the code points
  of the text (`textOfUnits?_toNat`). A numeral is the other (`Literal.scans`).
-/

namespace PileCheck.Json

/-! ## Pieces of a text -/

/-- Characters are taken one by one, so a text may be cut anywhere. Induction on the first part. -/
theorem Lexer.run_append (l : Lexer) (as bs : List Char) :
    l.run (as ++ bs) = (l.run as).bind fun l => l.run bs := by
  induction as generalizing l with
  | nil => rfl
  | cons c cs ih => simp only [List.cons_append, Lexer.run, Option.bind_assoc, ih]

/-- A character that is a token by itself and ends the one before it. -/
inductive Mark : Char → Token → Prop where
  | openObject : Mark '\x7b' .openObject
  | closeObject : Mark '\x7d' .closeObject
  | openList : Mark '[' .openList
  | closeList : Mark ']' .closeList
  | colon : Mark ':' .colon
  | comma : Mark ',' .comma

namespace Mark

variable {c : Char} {t : Token} {tokens : List Token}

theorem fresh (h : Mark c t) (tokens : List Token) :
    Lexer.fresh tokens c = some ⟨.between, t :: tokens⟩ := by
  cases h <;> rfl

/-- Whatever was being read, unless it is a text, is complete now. -/
theorem step (h : Mark c t) {l : Lexer} (hl : l.flush? = some tokens) :
    l.step c = some ⟨.between, t :: tokens⟩ := by
  obtain ⟨mode, before⟩ := l
  have hnumeral : inNumeral c = false := by cases h <;> rfl
  have hlower : c.isLower = false := by cases h <;> rfl
  cases mode with
  | between =>
    obtain rfl : before = tokens := Option.some.inj hl
    exact h.fresh before
  | numeral read =>
    simp only [Lexer.step, hnumeral, Bool.false_eq_true, if_false, hl]
    exact h.fresh tokens
  | word read =>
    simp only [Lexer.step, hlower, Bool.false_eq_true, if_false, hl]
    exact h.fresh tokens
  | text | escape | unit => cases hl

end Mark

/-- Characters that are scanned as these tokens, whether the text ends after them or a mark
follows. -/
def Scans (cs : List Char) (ts : List Token) : Prop :=
  ∀ before, ∃ l, Lexer.run ⟨.between, before⟩ cs = some l ∧ l.flush? = some (ts.reverse ++ before)

namespace Scans

variable {as cs : List Char} {c : Char} {t : Token} {ss ts : List Token}

theorem nil : Scans [] [] := fun _ => ⟨_, rfl, rfl⟩

/-- A mark begins a text and is a token of it. -/
theorem mark (hc : Mark c t) (h : Scans cs ts) : Scans (c :: cs) (t :: ts) := by
  intro before
  obtain ⟨l, hrun, hflush⟩ := h (t :: before)
  refine ⟨l, ?_, ?_⟩
  · show (Lexer.fresh before c).bind _ = _
    rw [hc.fresh before]
    exact hrun
  · rw [hflush, List.reverse_cons, List.append_assoc]
    rfl

/-- Between two pieces it ends the first, and the second begins after it. -/
theorem append (ha : Scans as ss) (hc : Mark c t) (h : Scans cs ts) :
    Scans (as ++ c :: cs) (ss ++ t :: ts) := by
  intro before
  obtain ⟨l, hrun, hflush⟩ := ha before
  obtain ⟨l', hrun', hflush'⟩ := h (t :: (ss.reverse ++ before))
  refine ⟨l', ?_, ?_⟩
  · rw [Lexer.run_append, hrun]
    show (l.step c).bind _ = _
    rw [hc.step hflush]
    exact hrun'
  · rw [hflush', List.reverse_append, List.reverse_cons]
    simp only [List.append_assoc, List.cons_append, List.nil_append]

/-- A whole text is a piece with nothing before it. -/
theorem scan? (h : Scans cs ts) : scan? cs = some ts := by
  obtain ⟨l, hrun, hflush⟩ := h []
  rw [Json.scan?, hrun]
  show l.flush?.map List.reverse = _
  rw [hflush, List.append_nil, Option.map_some, List.reverse_reverse]

end Scans

/-! ## Quoted texts -/

theorem hexValue?_hexDigit : ∀ n < 16, Numeral.hexValue? (hexDigit n) = some n := by decide

/-- What a character is escaped as is scanned as the character. Seven characters have an escape of
their own; the other control characters are written by their number, and the rest as they are. -/
theorem run_escaped (units : List Nat) (tokens : List Token) (c : Char) :
    Lexer.run ⟨.text units, tokens⟩ (escaped c) = some ⟨.text (c.toNat :: units), tokens⟩ := by
  unfold escaped
  split
  case h_8 hquote hslash _ _ _ _ _ =>
    split
    · next hcontrol =>
      have hhigh := hexValue?_hexDigit (c.toNat / 16) (by omega)
      have hlow := hexValue?_hexDigit (c.toNat % 16) (by omega)
      have hzero : Numeral.hexValue? '0' = some 0 := rfl
      have hsum : c.toNat / 16 * 16 + c.toNat % 16 = c.toNat := by omega
      simp [Lexer.run, Lexer.step, hhigh, hlow, hzero, hsum]
    · next hplain =>
      have hquote : c ≠ '\"' := hquote
      have hslash : c ≠ '\\' := hslash
      simp [Lexer.run, Lexer.step, hplain, hquote, hslash]
  all_goals rfl

/-- So is a text, character by character. Induction on the text. -/
theorem run_flatMap_escaped (units : List Nat) (tokens : List Token) (cs : List Char) :
    Lexer.run ⟨.text units, tokens⟩ (cs.flatMap escaped)
      = some ⟨.text ((cs.map Char.toNat).reverse ++ units), tokens⟩ := by
  induction cs generalizing units with
  | nil => rfl
  | cons c cs ih =>
    rw [List.flatMap_cons, Lexer.run_append, run_escaped, Option.bind_some, ih, List.map_cons,
      List.reverse_cons, List.append_assoc]
    rfl

/-- A text in quotes is one token. -/
theorem scans_quoted (s : String) : Scans (quoted s) [.text (s.toList.map Char.toNat)] := by
  intro before
  have hopen : Lexer.step ⟨.between, before⟩ '\"' = some ⟨.text [], before⟩ := rfl
  refine ⟨⟨.between, .text (s.toList.map Char.toNat) :: before⟩, ?_, rfl⟩
  rw [quoted, List.cons_append, Lexer.run, hopen, Option.bind_some, Lexer.run_append,
    run_flatMap_escaped]
  simp [Lexer.run, Lexer.step]

/-- No character is a surrogate, so each of them is a unit of its own. -/
theorem charsOfUnits?_toNat (cs : List Char) : charsOfUnits? (cs.map Char.toNat) = some cs := by
  have hscalar : ∀ c : Char, isHighSurrogate c.toNat = false ∧ isLowSurrogate c.toNat = false := by
    intro c
    have hvalid := c.valid
    simp only [isHighSurrogate, isLowSurrogate, Bool.and_eq_false_iff, decide_eq_false_iff_not]
    simp only [UInt32.isValidChar, Nat.isValidChar, Char.toNat] at *
    omega
  induction cs with
  | nil => rfl
  | cons c cs ih =>
    obtain ⟨hhigh, hlow⟩ := hscalar c
    cases cs with
    | nil => simp [charsOfUnits?, hhigh, hlow]
    | cons c' cs =>
      simp only [List.map_cons] at ih ⊢
      simp [charsOfUnits?, hhigh, hlow, ih]

theorem textOfUnits?_toNat (s : String) : textOfUnits? (s.toList.map Char.toNat) = some s := by
  rw [textOfUnits?, charsOfUnits?_toNat, Option.map_some, String.ofList_toList]

end PileCheck.Json
