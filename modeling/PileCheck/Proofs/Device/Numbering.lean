import PileCheck.Proofs.Device.Key

/-!
# Keys are numbered and read back

A key is written from the texts of its device, which may hold anything, and a number behind them.
What counts is what stands after the last mark (`AfterMark`): the key has a number if that is a run
of ASCII digits whose value fits into 32 bits, and no other key has one (`numbers_read_back`).

The digits of other scripts may end the search, but cannot be read afterwards. So it makes no
difference whether the search takes them for digits (`DigitClass.moduleIndex?_eq`).
-/

namespace PileCheck

namespace Numeral

variable {ds : List Char} {n : Nat}

/-- Without a sign there is a number only where there are digits and nothing else. -/
theorem isDigit_of_nat32? (h : nat32? ds = some n) (hsign : '+' ∉ ds) :
    ds.all Char.isDigit = true := by
  obtain ⟨hread, -⟩ := Option.filter_eq_some_iff.1 h
  unfold readNat? at hread
  split at hread
  · exact absurd List.mem_cons_self hsign
  · unfold readDigits? at hread
    split at hread
    · cases hread
    · next hdigits =>
      have hread : ds ≠ [] ∧ ds.all Char.isDigit = true := by simpa using hdigits
      exact hread.2

end Numeral

namespace ModuleKey

variable {key : String} {cs ds : List Char} {n : Nat}

/-- What stands after the last mark of a text. -/
def AfterMark (cs ds : List Char) : Prop := (∃ stem, cs = stem ++ mark ++ ds) ∧ ¬ mark <:+: ds

theorem not_mark_infix (hdigits : ds.all Char.isDigit = true) : ¬ mark <:+: ds := fun hwithin => by
  have hcolon : ':' ∈ ds := hwithin.subset List.mem_cons_self
  exact absurd (List.all_eq_true.1 hdigits _ hcolon) (by decide)

/-- The mark that is followed by digits up to the end is the last one. -/
theorem numbered_iff : Numbered key n ↔ ∃ ds, AfterMark key.toList ds ∧ ds ≠ [] ∧
    ds.all Char.isDigit = true ∧ Numeral.value ds = n ∧ n ≤ Numeral.nat32Max := by
  constructor
  · rintro ⟨stem, ds, hkey, hne, hdigits, hn⟩
    exact ⟨ds, ⟨⟨stem, hkey⟩, not_mark_infix hdigits⟩, hne, hdigits, hn⟩
  · rintro ⟨ds, ⟨⟨stem, hkey⟩, -⟩, hne, hdigits, hn⟩
    exact ⟨stem, ds, hkey, hne, hdigits, hn⟩

/-- What is before the mark of a key, the mark, and the number. -/
theorem toList_snapshotKey (d : Device) (n : Nat) : (d.snapshotKey n).toList
    = ("selfcheck:" ++ d.typeSegment ++ "#" ++ d.equipNo).toList ++ mark ++ Numeral.digits n := by
  rw [Device.snapshotKey, Numeral.ofNat, String.toList_append, String.toList_ofList,
    Device.snapshotStem, String.toList_append]
  rfl

/-- The number that a key was written with is read back. -/
theorem moduleIndex?_snapshotKey (d : Device) (hn : n ≤ Numeral.nat32Max) :
    moduleIndex? (d.snapshotKey n) = some n :=
  moduleIndex?_eq_some_iff.2 ⟨_, _, toList_snapshotKey d n, Numeral.digits_ne_nil n,
    Numeral.all_isDigit_digits n, Numeral.value_digits n, hn⟩

/-- The number of a key, by a search that takes a class of characters for digits. -/
def DigitClass.moduleIndex? (digits : DigitClass) (key : String) : Option Nat :=
  (digits.finalRun? key.toList).bind Numeral.nat32?

/-- A search that takes more for digits may end elsewhere, but what it has found is then read as a
number of ASCII digits or not at all. -/
theorem DigitClass.moduleIndex?_eq (digits : DigitClass) (key : String) :
    digits.moduleIndex? key = ModuleKey.moduleIndex? key := by
  refine Option.ext fun n => ?_
  rw [DigitClass.moduleIndex?, Option.bind_eq_some_iff, moduleIndex?_eq_some_iff]
  constructor
  · rintro ⟨ds, hds, hn⟩
    obtain ⟨stem, hkey, hne, haccepts⟩ := digits.finalRun?_eq_some_iff.1 hds
    have hsign : '+' ∉ ds := fun hmem => by
      have hplus := List.all_eq_true.1 haccepts _ hmem
      rw [digits.sign] at hplus
      cases hplus
    have hdigits := Numeral.isDigit_of_nat32? hn hsign
    exact ⟨stem, ds, hkey, hne, hdigits, (Numeral.nat32?_eq_some_iff hne hdigits).1 hn⟩
  · rintro ⟨stem, ds, hkey, hne, hdigits, hn⟩
    have haccepts : ds.all digits.accepts = true :=
      List.all_eq_true.2 fun c hc => digits.ascii c (List.all_eq_true.1 hdigits c hc)
    exact ⟨ds, digits.finalRun?_eq_some_iff.2 ⟨stem, hkey, hne, haccepts⟩,
      (Numeral.nat32?_eq_some_iff hne hdigits).2 hn⟩

/-- **Keys are numbered and read back.** The number that a key was written with is read back,
whatever the texts of its device are. Of all keys those have a number that end, after the last mark,
in digits whose value fits, and all others have none. It does not matter what other characters the
search takes for digits. -/
theorem numbers_read_back :
    (∀ (d : Device) (n : Nat), n ≤ Numeral.nat32Max → moduleIndex? (d.snapshotKey n) = some n) ∧
    (∀ (key : String) (n : Nat), moduleIndex? key = some n ↔ ∃ ds, AfterMark key.toList ds ∧
      ds ≠ [] ∧ ds.all Char.isDigit = true ∧ Numeral.value ds = n ∧ n ≤ Numeral.nat32Max) ∧
    (∀ key : String, moduleIndex? key = none ↔ ∀ ds, AfterMark key.toList ds →
      ds = [] ∨ (∃ c ∈ ds, c.isDigit = false) ∨ Numeral.nat32Max < Numeral.value ds) ∧
    ∀ (digits : DigitClass) (key : String), digits.moduleIndex? key = moduleIndex? key := by
  refine ⟨fun d n hn => moduleIndex?_snapshotKey d hn,
    fun key n => moduleIndex?_eq_some_iff.trans numbered_iff, fun key => ?_,
    DigitClass.moduleIndex?_eq⟩
  rw [Option.eq_none_iff_forall_ne_some]
  constructor
  · intro hnone ds hafter
    cases hdigits : ds.all Char.isDigit with
    | false =>
      obtain ⟨c, hc, hother⟩ := List.all_eq_false.1 hdigits
      exact .inr (.inl ⟨c, hc, Bool.not_eq_true _ ▸ hother⟩)
    | true =>
      by_cases hne : ds = []
      · exact .inl hne
      · refine .inr (.inr (Nat.lt_of_not_le fun hfits => ?_))
        exact hnone _ (moduleIndex?_eq_some_iff.2 <| numbered_iff.2
          ⟨ds, hafter, hne, hdigits, rfl, hfits⟩)
  · intro hbad n hn
    obtain ⟨ds, hafter, hne, hdigits, rfl, hfits⟩ :=
      numbered_iff.1 (moduleIndex?_eq_some_iff.1 hn)
    rcases hbad ds hafter with hnil | ⟨c, hc, hother⟩ | hlarge
    · exact hne hnil
    · rw [List.all_eq_true.1 hdigits c hc] at hother
      cases hother
    · exact Nat.not_le_of_lt hlarge hfits

/-- A device whose type and number look like the ends of keys, with the largest number there is. -/
theorem numbers_read_back_largest :
    let d : Device := { equipNo := ":CCU#7", kind := .unknown, typeName := "SWAP:CCU#0" }
    Numeral.nat32Max = 4294967295 ∧ moduleIndex? (d.snapshotKey 4294967295) = some 4294967295 ∧
      AfterMark "a:CCU#1:CCU#09".toList ['0', '9'] ∧ moduleIndex? "a:CCU#1:CCU#09" = some 9 := by
  intro d
  obtain ⟨hback, hread, -, -⟩ := numbers_read_back
  have hafter : AfterMark "a:CCU#1:CCU#09".toList ['0', '9'] :=
    ⟨⟨"a:CCU#1".toList, rfl⟩, not_mark_infix rfl⟩
  exact ⟨rfl, hback d _ (Nat.le_refl _), hafter,
    (hread _ 9).2 ⟨_, hafter, List.cons_ne_nil _ _, rfl, rfl, by decide⟩⟩

/-- A line break, a sign or a digit of another script after the digits or in their place. -/
example : ["a:CCU#1\n", "a:CCU#+1", "a:CCU#\u0661", "a:CCU#4294967296"].map moduleIndex?
    = [none, none, none, none] := by decide

end ModuleKey
end PileCheck
