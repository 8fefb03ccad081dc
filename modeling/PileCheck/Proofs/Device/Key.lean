import PileCheck.Device.Key

/-!
# The number in a snapshot key

The number of a module stands at the end of its key, after a mark. `Numbered` says so of a key, and
`moduleIndex?` finds this number and no other: a mark that is followed by digits up to the end is
the only such mark of its key, since there is no digit in the mark. That holds whatever else a
search may take for a digit (`DigitClass`).
-/

namespace PileCheck

namespace Numeral

/-- Digits are a number of 32 bits if their value fits. -/
theorem nat32?_eq_some_iff {ds : List Char} (hne : ds ≠ []) (hdigits : ds.all Char.isDigit = true)
    {n : Nat} : nat32? ds = some n ↔ value ds = n ∧ n ≤ nat32Max := by
  have hread : readNat? ds = some (value ds) := by
    rw [readNat?_of_isDigit hdigits, readDigits?]
    simp [hne, hdigits]
  rw [nat32?, hread, Option.filter_eq_some_iff, Option.some_inj, decide_eq_true_iff]

end Numeral

namespace ModuleKey

variable {key : String} {cs ds : List Char} {n : Nat}

/-- The key ends in the mark and the digits of a number of 32 bits, perhaps with zeros in front. -/
def Numbered (key : String) (n : Nat) : Prop :=
  ∃ stem ds, key.toList = stem ++ mark ++ ds ∧ ds ≠ [] ∧ ds.all Char.isDigit = true ∧
    Numeral.value ds = n ∧ n ≤ Numeral.nat32Max

/-! ## The search -/

/-- What a search may take for digits: the ten digits and perhaps those of other scripts, but
neither a colon nor a sign. -/
structure DigitClass where
  accepts : Char → Bool
  ascii : ∀ c, c.isDigit = true → accepts c = true
  colon : accepts ':' = false
  sign : accepts '+' = false

namespace DigitClass

/-- The ten digits and no others. -/
def ten : DigitClass := ⟨Char.isDigit, fun _ h => h, rfl, rfl⟩

/-- What follows the first mark that is followed by digits of the class up to the end. -/
def finalRun? (digits : DigitClass) : List Char → Option (List Char)
  | [] => none
  | c :: cs =>
    match Text.dropWord? mark (c :: cs) with
    | some ds => if !ds.isEmpty && ds.all digits.accepts then some ds else digits.finalRun? cs
    | none => digits.finalRun? cs

/-- The search as it is, which takes the ten digits. -/
theorem finalRun?_ten : ten.finalRun? cs = finalDigits? cs := by
  induction cs with
  | nil => rfl
  | cons c cs ih =>
    rw [finalRun?, finalDigits?, ih]
    rfl

variable (digits : DigitClass)

/-- A mark with digits up to the end has no other such mark before it. -/
theorem eq_of_mark_append {stem : List Char} (h : mark ++ ds = stem ++ mark ++ cs)
    (hdigits : ds.all digits.accepts = true) : ds = cs := by
  cases stem with
  | nil => exact List.append_cancel_left h
  | cons c stem =>
    -- the colon of the later mark would be in the earlier one or among its digits
    have htail : ['C', 'C', 'U', '#'] ++ ds = stem ++ mark ++ cs := (List.cons.inj h).2
    have hcolon : ':' ∈ ['C', 'C', 'U', '#'] ++ ds := by
      rw [htail]
      simp [mark]
    have hmem : ':' ∈ ds := by simpa using hcolon
    have haccepts := List.all_eq_true.1 hdigits _ hmem
    rw [digits.colon] at haccepts
    cases haccepts

/-- Induction on the text, a character of which is passed over at a time. -/
theorem finalRun?_eq_some_iff : digits.finalRun? cs = some ds ↔
    ∃ stem, cs = stem ++ mark ++ ds ∧ ds ≠ [] ∧ ds.all digits.accepts = true := by
  induction cs with
  | nil => simp [finalRun?, mark]
  | cons c cs ih =>
    -- where the text does not begin with a mark and digits, the mark is further on
    have hlater
        (hnot : ∀ ds, c :: cs = mark ++ ds → ds ≠ [] → ds.all digits.accepts ≠ true) :
        digits.finalRun? cs = some ds ↔
          ∃ stem, c :: cs = stem ++ mark ++ ds ∧ ds ≠ [] ∧ ds.all digits.accepts = true := by
      rw [ih]
      constructor
      · rintro ⟨stem, rfl, hds⟩
        exact ⟨c :: stem, rfl, hds⟩
      · rintro ⟨stem, heq, hne, hdigits⟩
        cases stem with
        | nil => exact absurd hdigits (hnot ds heq hne)
        | cons head stem => exact ⟨stem, (List.cons.inj heq).2, hne, hdigits⟩
    rw [finalRun?]
    cases hdrop : Text.dropWord? mark (c :: cs) with
    | none =>
      refine hlater fun ds heq => ?_
      rw [Text.dropWord?_eq_some_iff.2 heq] at hdrop
      cases hdrop
    -- a mark here: its digits are the answer, or it has none and is passed over
    | some found =>
      have heq := Text.dropWord?_eq_some_iff.1 hdrop
      simp only
      split
      · next hfound =>
        have hfound : found ≠ [] ∧ found.all digits.accepts = true := by simpa using hfound
        rw [heq]
        constructor
        · intro h
          obtain rfl := Option.some.inj h
          exact ⟨[], rfl, hfound⟩
        · rintro ⟨stem, hmark, -, -⟩
          rw [digits.eq_of_mark_append hmark hfound.2]
      · next hfound =>
        refine hlater fun ds hds hne hdigits => hfound ?_
        obtain rfl : found = ds := List.append_cancel_left (heq.symm.trans hds)
        rw [hdigits]
        simp [hne]

end DigitClass

theorem finalDigits?_eq_some_iff : finalDigits? cs = some ds ↔
    ∃ stem, cs = stem ++ mark ++ ds ∧ ds ≠ [] ∧ ds.all Char.isDigit = true := by
  rw [← DigitClass.finalRun?_ten]
  exact DigitClass.ten.finalRun?_eq_some_iff

/-- A key has the number that it ends in, and no other. -/
theorem moduleIndex?_eq_some_iff : moduleIndex? key = some n ↔ Numbered key n := by
  rw [moduleIndex?, Option.bind_eq_some_iff]
  constructor
  · rintro ⟨ds, hds, hn⟩
    obtain ⟨stem, hkey, hne, hdigits⟩ := finalDigits?_eq_some_iff.1 hds
    exact ⟨stem, ds, hkey, hne, hdigits, (Numeral.nat32?_eq_some_iff hne hdigits).1 hn⟩
  · rintro ⟨stem, ds, hkey, hne, hdigits, hn⟩
    exact ⟨ds, finalDigits?_eq_some_iff.2 ⟨stem, hkey, hne, hdigits⟩,
      (Numeral.nat32?_eq_some_iff hne hdigits).2 hn⟩

end ModuleKey
end PileCheck
