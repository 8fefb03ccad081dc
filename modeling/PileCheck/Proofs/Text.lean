import PileCheck.Numeral
import PileCheck.Text.Blank
import PileCheck.Text.Search

/-!
# Digits and separators in a text

What is written of a number has neither blanks nor separators in it, so it can be trimmed and cut
out of a text without loss. What stands after the last separator of a text is settled by what
follows any one of them (`afterLast?_append_cons`): nothing before a separator is seen from behind.
Two texts that are joined by a separator can be told apart from two others unless one separator
stands for the other (`append_cons_eq_append_cons_iff`).
-/

namespace PileCheck

/-! ## Digits -/

namespace Numeral

theorem not_mem_digits {c : Char} (h : c.isDigit = false) (n : Nat) : c ∉ digits n :=
  fun hmem => Bool.false_ne_true (h.symm.trans (List.all_eq_true.1 (all_isDigit_digits n) c hmem))

theorem isBlank_of_mem_intChars {n : Int} : ∀ c ∈ intChars n, Text.isBlank c = false := by
  have hdigits : ∀ n, ∀ c ∈ digits n, Text.isBlank c = false := fun n c hc =>
    Text.isBlank_of_isDigit (List.all_eq_true.1 (all_isDigit_digits n) c hc)
  intro c hc
  cases n with
  | ofNat n => exact hdigits n c hc
  | negSucc n =>
    rcases List.mem_cons.1 hc with rfl | hc
    · decide
    · exact hdigits _ c hc

end Numeral

namespace Text

theorem trimChars_intChars (n : Int) : trimChars (Numeral.intChars n) = Numeral.intChars n :=
  trimChars_of_not_blank Numeral.isBlank_of_mem_intChars

theorem trimChars_digits (n : Nat) : trimChars (Numeral.digits n) = Numeral.digits n :=
  trimChars_intChars (Int.ofNat n)

/-! ## The last separator -/

variable {sep : Char} {cs before after rest : List Char}

/-- There is a last separator if there is any. Induction on the text. -/
theorem afterLast?_eq_none_iff : afterLast? sep cs = none ↔ sep ∉ cs := by
  induction cs with
  | nil => simp [afterLast?]
  | cons c cs ih =>
    rw [List.mem_cons, not_or, ← ih, afterLast?]
    cases afterLast? sep cs with
    | some after => simp
    | none => simp [eq_comm]

/-- Whatever stands before a separator, the last one is this one or comes after it. Induction on
what stands before. -/
theorem afterLast?_append_cons (sep : Char) (before rest : List Char) :
    afterLast? sep (before ++ sep :: rest) = some ((afterLast? sep rest).getD rest) := by
  induction before with
  | nil =>
    show afterLast? sep (sep :: rest) = _
    rw [afterLast?]
    cases afterLast? sep rest with
    | some after => rfl
    | none => simp
  | cons b before ih => rw [List.cons_append, afterLast?, ih]

/-- What is found stands after a separator and has none in it. Induction on the text, for a last
separator that is here or further on. -/
theorem afterLast?_eq_some_iff :
    afterLast? sep cs = some after ↔ (∃ before, cs = before ++ sep :: after) ∧ sep ∉ after := by
  constructor
  · intro h
    induction cs with
    | nil => cases h
    | cons c cs ih =>
      rw [afterLast?] at h
      cases hlater : afterLast? sep cs with
      | some found =>
        -- the last separator is further on, where it has been found already
        rw [hlater] at h
        obtain ⟨⟨before, rfl⟩, hnone⟩ := ih (hlater.trans h)
        exact ⟨⟨c :: before, rfl⟩, hnone⟩
      | none =>
        simp only [hlater] at h
        split at h
        · next hc =>
          obtain rfl := Option.some.inj h
          exact ⟨⟨[], by rw [hc]; rfl⟩, afterLast?_eq_none_iff.1 hlater⟩
        · cases h
  · rintro ⟨⟨before, rfl⟩, hnone⟩
    exact afterLast?_append_of_not_mem hnone

/-! ## Texts that are joined -/

/-- Two texts and a separator between them. If two others make the same whole, the separator is the
same one, or there is a text between the two. -/
theorem append_cons_eq_append_cons_iff {a b c d : List Char} :
    a ++ sep :: b = c ++ sep :: d ↔ (a = c ∧ b = d) ∨
      (∃ between, c = a ++ sep :: between ∧ b = between ++ sep :: d) ∨
      ∃ between, a = c ++ sep :: between ∧ d = between ++ sep :: b := by
  constructor
  · intro h
    rcases List.append_eq_append_iff.1 h with ⟨more, hc, hb⟩ | ⟨more, ha, hd⟩
    · cases more with
      | nil => exact .inl ⟨by simpa using hc.symm, (List.cons.inj hb).2⟩
      | cons m between =>
        -- what `c` has more than `a` begins with the separator after `a`
        have hsep : sep = m := (List.cons.inj hb).1
        subst hsep
        exact .inr (.inl ⟨between, hc, (List.cons.inj hb).2⟩)
    · cases more with
      | nil => exact .inl ⟨by simpa using ha, (List.cons.inj hd).2.symm⟩
      | cons m between =>
        have hsep : sep = m := (List.cons.inj hd).1
        subst hsep
        exact .inr (.inr ⟨between, ha, (List.cons.inj hd).2⟩)
  · rintro (⟨rfl, rfl⟩ | ⟨between, rfl, rfl⟩ | ⟨between, rfl, rfl⟩) <;> simp

end Text
end PileCheck
