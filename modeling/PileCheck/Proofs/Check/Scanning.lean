import PileCheck.Proofs.Cache.Glob
import PileCheck.Proofs.Check.Collecting
import PileCheck.Proofs.Device.Numbering

/-!
# Which snapshots the search for a pile finds

The pattern of a pile is its number between two fixed texts, and a star. The number is put there as
it is, so what it holds is read as part of the pattern. If it leaves brackets open these take in the
rest, and otherwise the pattern asks for a text that the number stands for and a mark behind it
(`modules_found`).

A key has a mark behind the number of its pile, and there may be more of them within that number.
Any of these will do for a pattern, as the star is not kept from the marks.
-/

namespace PileCheck.Check

open Glob (finds fits literally sign Choice Place)
open Text (octets)
open ModuleKey (Numbered)

variable {d e : Device} {number : String} {n : Nat}

/-! ## Patterns and keys as bytes -/

/-- The mark before the number of a module. -/
def markOctets : List UInt8 := octets ":CCU#"

/-- What the patterns and keys of piles start with. -/
def pileOctets : List UInt8 := octets "selfcheck:PILE#"

/-- The stem of the keys of a pile, with its number in the middle. -/
theorem snapshotStem_of_pile (hd : d.kind = .pile) :
    d.snapshotStem = "selfcheck:PILE#" ++ (d.equipNo ++ ":CCU#") := by
  have hsegment : d.typeSegment = "PILE" := by simp [Device.typeSegment, hd, DeviceClass.tag]
  rw [Device.snapshotStem, hsegment, ← String.toList_inj]
  simp

/-- The bytes of the pattern for its keys. -/
theorem octets_snapshotPattern (hd : d.kind = .pile) : octets d.snapshotPattern
    = pileOctets ++ (octets d.equipNo ++ (markOctets ++ [sign '*'])) := by
  rw [Device.snapshotPattern, snapshotStem_of_pile hd]
  simp only [Text.octets_append, List.append_assoc]
  rfl

/-- The bytes of one of its keys. -/
theorem octets_snapshotKey (he : e.kind = .pile) : octets (e.snapshotKey n)
    = pileOctets ++ (octets e.equipNo ++ (markOctets ++ octets (Numeral.ofNat n))) := by
  rw [Device.snapshotKey, snapshotStem_of_pile he]
  simp only [Text.octets_append, List.append_assoc]
  rfl

/-- What all piles have in common does not matter. -/
theorem finds_iff_fits (hd : d.kind = .pile) (he : e.kind = .pile) :
    finds d.snapshotPattern (e.snapshotKey n) = true ↔
      fits (Place.outside.parts (octets d.equipNo ++ (markOctets ++ [sign '*'])))
        (octets e.equipNo ++ (markOctets ++ octets (Numeral.ofNat n))) = true := by
  have hplain : Glob.Plain "selfcheck:PILE#" := by decide
  rw [finds, octets_snapshotPattern hd, octets_snapshotKey he, pileOctets,
    Glob.parts_outside_append hplain.octets,
    Glob.fits_literally_append]

/-! ## Marks -/

/-- Bytes are a number, or stand in it before a mark. -/
def Leads (x : List UInt8) (number : String) : Prop :=
  x = octets number ∨ x ++ markOctets <+: octets number

/-- Where the separator begins the mark and is neither further on in it nor after it, the last mark
of a text has no other over its bounds. -/
theorem mark_prefix_iff {sep : UInt8} {tail x stem ds : List UInt8} (htail : sep ∉ tail)
    (hds : sep ∉ ds) : x ++ sep :: tail <+: stem ++ (sep :: tail ++ ds) ↔
      x = stem ∨ x ++ sep :: tail <+: stem := by
  constructor
  · rintro ⟨rest, heq⟩
    rw [List.append_assoc] at heq
    rcases List.append_eq_append_iff.1 heq with ⟨gap, rfl, hgap⟩ | ⟨gap, rfl, hgap⟩
    · cases gap with
      | nil => exact .inl (by simp)
      | cons b gap =>
        obtain rfl : sep = b := (List.cons.inj hgap).1
        have hgap : tail ++ rest = gap ++ (sep :: tail ++ ds) := (List.cons.inj hgap).2
        -- the mark of `x` ends before the last mark begins
        rcases List.append_eq_append_iff.1 hgap with ⟨more, rfl, -⟩ | ⟨more, rfl, hmore⟩
        · exact .inr ⟨more, by simp⟩
        · cases more with
          | nil => exact .inr ⟨[], by simp⟩
          | cons b more =>
            obtain rfl : sep = b := (List.cons.inj hmore).1
            exact absurd (by simp) htail
    · cases gap with
      | nil => exact .inl (by simp)
      | cons b gap =>
        obtain rfl : sep = b := (List.cons.inj hgap).1
        have hgap : tail ++ ds = gap ++ (sep :: tail ++ rest) := (List.cons.inj hgap).2
        have hmem : sep ∈ tail ++ ds := by
          rw [hgap]
          simp
        exact absurd hmem (by simp [htail, hds])
  · rintro (rfl | ⟨rest, rfl⟩)
    · exact ⟨ds, by simp⟩
    · exact ⟨rest ++ (sep :: tail ++ ds), by simp⟩

/-- The number of a module has no colon. -/
theorem colon_notMem_number : sign ':' ∉ octets (Numeral.ofNat n) := by
  have hdigits := Numeral.all_isDigit_digits n
  rw [sign, Text.mem_octets_iff (by decide), Numeral.ofNat, String.toList_ofList]
  exact fun hmem => absurd (List.all_eq_true.1 hdigits _ hmem) (by decide)

/-- A key has the marks of its number and the one behind it. -/
theorem leads_iff {x : List UInt8} (n : Nat) : Leads x number ↔
    x ++ markOctets <+: octets number ++ (markOctets ++ octets (Numeral.ofNat n)) := by
  have htail : sign ':' ∉ octets "CCU#" := by decide
  exact (mark_prefix_iff htail colon_notMem_number).symm

/-! ## What a search finds -/

/-- The number leaves no brackets open in a pattern. -/
def Closed (number : String) : Prop := ¬ (Place.outside.after (octets number)).InBrackets

instance : Decidable (Closed number) := inferInstanceAs (Decidable (¬ _))

/-- In a pattern the number stands for these bytes. A backslash at its end is lost. -/
def StandsFor (number : String) (bs : List UInt8) : Prop :=
  fits (Place.outside.complete (octets number)) bs = true

/-- A number that leaves no brackets open is compared on its own: what it stands for has to lead the
other number, with nothing or with another mark behind it. -/
theorem finds_iff_of_closed (hd : d.kind = .pile) (he : e.kind = .pile) (h : Closed d.equipNo) :
    finds d.snapshotPattern (e.snapshotKey n) = true ↔
      ∃ x, StandsFor d.equipNo x ∧ Leads x e.equipNo := by
  have hplain : Glob.Plain ":CCU#" := by decide
  have hmark : ∀ b ∈ markOctets, b ∉ Glob.special := hplain.octets
  have hne : markOctets ≠ [] := by decide
  have hstar : Place.outside.parts [sign '*'] = [.any] := rfl
  rw [finds_iff_fits hd he, Place.parts_append,
    Glob.parts_append_of_not_inBrackets h hne hmark, hstar, Glob.fits_append]
  simp only [Glob.fits_append, Glob.fits_literally, Glob.fits_any, and_true]
  constructor
  · rintro ⟨x, _, hkey, hx, _, rest, rfl, rfl⟩
    exact ⟨x, hx, (leads_iff n).2 ⟨rest, by rw [List.append_assoc, hkey]⟩⟩
  · rintro ⟨x, hx, hleads⟩
    obtain ⟨rest, hkey⟩ := (leads_iff n).1 hleads
    exact ⟨x, _, by rw [← hkey, List.append_assoc], hx, markOctets, rest, rfl, rfl⟩

/-- Brackets that are left open take in the mark and the star. -/
theorem finds_iff_of_not_closed (hd : d.kind = .pile) (h : ¬ Closed d.equipNo) :
    ∃ c : Choice, ∀ (e : Device) n, e.kind = .pile →
      (finds d.snapshotPattern (e.snapshotKey n) = true ↔
        ∃ x b, octets e.equipNo ++ (markOctets ++ octets (Numeral.ofNat n)) = x ++ [b] ∧
          StandsFor d.equipNo x ∧ c.admits b = true) := by
  have hbracket : sign ']' ∉ markOctets ++ [sign '*'] := by decide
  obtain ⟨c, hc⟩ := Place.parts_of_inBrackets (Decidable.not_not.1 h) hbracket
  refine ⟨c, fun e n he => ?_⟩
  rw [finds_iff_fits hd he, Place.parts_append, hc, Glob.fits_append]
  simp only [Glob.fits_choice_cons, Glob.fits_nil]
  constructor
  · rintro ⟨x, _, hkey, hx, b, _, rfl, hb, rfl⟩
    exact ⟨x, b, hkey, hx, hb⟩
  · rintro ⟨x, b, hkey, hx, hb⟩
    exact ⟨x, [b], hkey, hx, b, [], rfl, hb, rfl⟩

theorem closed_of_plain (h : Glob.Plain number) : Closed number := by
  rw [Closed, (Glob.reads_outside h.octets).2]
  exact id

theorem standsFor_iff_of_plain {bs : List UInt8} (h : Glob.Plain number) :
    StandsFor number bs ↔ bs = octets number := by
  rw [StandsFor, (Glob.reads_outside h.octets).1, Glob.fits_literally]

/-- One number leads another if they are the same, or if the other goes on with the mark of a
module. -/
theorem leads_octets_iff {other : String} :
    Leads (octets number) other ↔
      number = other ∨ (number ++ ":CCU#").toList <+: other.toList := by
  rw [Leads, Text.octets_inj, ← Text.octets_prefix_iff, Text.octets_append]
  rfl

/-- A pattern without anything special asks for a number that begins with its own and a mark. -/
theorem finds_iff_of_plain (hd : d.kind = .pile) (he : e.kind = .pile)
    (h : Glob.Plain d.equipNo) : finds d.snapshotPattern (e.snapshotKey n) = true ↔
      d.equipNo = e.equipNo ∨ (d.equipNo ++ ":CCU#").toList <+: e.equipNo.toList := by
  rw [finds_iff_of_closed hd he (closed_of_plain h), ← leads_octets_iff]
  simp only [standsFor_iff_of_plain h, exists_eq_left]

/-- **Which snapshots the search for a pile finds.** Where the number of the pile leaves no brackets
open, its search finds exactly the modules of the piles whose numbers are something that it stands
for, or begin with that and a mark. A number that leaves them open makes of the rest of the pattern
a choice for the last byte of the key. A number with nothing special in it finds all modules of its
own pile, and those of another exactly if the other number begins with it and a mark. And whatever
is found of a module is collected under its number, as a module of the pile that was asked for. -/
theorem modules_found (d : Device) (hd : d.kind = .pile) :
    (Closed d.equipNo → ∀ (e : Device) n, e.kind = .pile →
      (finds d.snapshotPattern (e.snapshotKey n) = true ↔
        ∃ x, StandsFor d.equipNo x ∧ Leads x e.equipNo)) ∧
    (¬ Closed d.equipNo → ∃ c : Choice, ∀ (e : Device) n, e.kind = .pile →
      (finds d.snapshotPattern (e.snapshotKey n) = true ↔
        ∃ x b, octets e.equipNo ++ (markOctets ++ octets (Numeral.ofNat n)) = x ++ [b] ∧
          StandsFor d.equipNo x ∧ c.admits b = true)) ∧
    (Glob.Plain d.equipNo → (∀ n, finds d.snapshotPattern (d.snapshotKey n) = true) ∧
      ∀ (e : Device) n, e.kind = .pile → e.equipNo ≠ d.equipNo →
        (finds d.snapshotPattern (e.snapshotKey n) = true ↔
          (d.equipNo ++ ":CCU#").toList <+: e.equipNo.toList)) ∧
    ∀ (e : Device) n (present : List String), n ≤ Numeral.nat32Max →
      ((n, e.snapshotKey n) ∈ moduleKeys (present.filter (finds d.snapshotPattern)) ↔
        e.snapshotKey n ∈ present ∧ finds d.snapshotPattern (e.snapshotKey n) = true) := by
  refine ⟨fun h e n he => finds_iff_of_closed hd he h, finds_iff_of_not_closed hd,
    fun h => ⟨fun n => (finds_iff_of_plain hd hd h).2 (.inl rfl), fun e n he hne => ?_⟩,
    fun e n present hn => ?_⟩
  · rw [finds_iff_of_plain hd he h]
    exact or_iff_right fun heq => hne heq.symm
  · -- a key that is found is one of a module, so it is among those that are read
    have hnumbered : Numbered (e.snapshotKey n) n :=
      ModuleKey.moduleIndex?_eq_some_iff.1 (ModuleKey.moduleIndex?_snapshotKey e hn)
    rw [mem_moduleKeys, List.mem_filter]
    exact and_iff_left hnumbered

/-- Two piles, the number of one of which begins with the other and a mark, and a third one with
brackets in its number. -/
theorem modules_found_beyond :
    let d := Device.ofType "EQ-1" "PILE"
    let e := Device.ofType "EQ-1:CCU#2" "PILE"
    let f := Device.ofType "EQ-[1]" "PILE"
    d.kind = .pile ∧ Glob.Plain d.equipNo ∧ finds d.snapshotPattern (d.snapshotKey 4294967295) ∧
      e.kind = .pile ∧ e.equipNo ≠ d.equipNo ∧ finds d.snapshotPattern (e.snapshotKey 7) ∧
      (7, e.snapshotKey 7) ∈ moduleKeys ([e.snapshotKey 7].filter (finds d.snapshotPattern)) ∧
      f.kind = .pile ∧ Closed f.equipNo ∧ finds f.snapshotPattern (d.snapshotKey 7) := by
  intro d e f
  have hd : d.kind = .pile := rfl
  have hplain : Glob.Plain d.equipNo := by decide
  have hne : e.equipNo ≠ d.equipNo := by decide
  have hf : Closed f.equipNo := by decide
  have hstands : StandsFor f.equipNo (octets "EQ-1") := by
    unfold StandsFor
    decide
  obtain ⟨-, -, hown, hcollected⟩ := modules_found d rfl
  obtain ⟨hclosed, -⟩ := modules_found f rfl
  obtain ⟨hall, hothers⟩ := hown hplain
  have hfinds := (hothers e 7 rfl hne).2 (by decide)
  exact ⟨hd, hplain, hall _, rfl, hne, hfinds,
    (hcollected e 7 _ (by decide)).2 ⟨List.mem_singleton_self _, hfinds⟩, rfl, hf,
    (hclosed hf d 7 rfl).2 ⟨octets "EQ-1", hstands, .inl rfl⟩⟩

/-- A search finds a module of another pile, and one that misses the modules of its own. -/
theorem foreign_module_found :
    let d := Device.ofType "EQ-1" "PILE"
    let e := Device.ofType "EQ-1:CCU#2" "PILE"
    let f := Device.ofType "EQ-[1]" "PILE"
    (d.kind = .pile ∧ e.kind = .pile ∧ d.equipNo ≠ e.equipNo ∧
      finds d.snapshotPattern (e.snapshotKey 7) = true) ∧
    f.kind = .pile ∧ finds f.snapshotPattern (f.snapshotKey 7) = false := by
  decide +kernel

end PileCheck.Check
