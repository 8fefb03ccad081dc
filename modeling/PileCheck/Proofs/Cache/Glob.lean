import PileCheck.Text.Search

/-!
# Patterns over keys

A key-value server compares a key with a pattern byte by byte: a star stands for any bytes, a
question mark for one, brackets for one out of a choice, and a backslash takes the byte after it as
it is. `parts` reads a pattern in one pass over its bytes, with `Place` for what has to be
remembered between two of them, and `fits` compares the parts with the bytes of a key.

A pattern that is put together from texts is read in the same order (`parts_append`): what the
later text stands for depends on the place in which the earlier one ends, and on nothing else of it.
Outside of brackets a text without special bytes stands for itself (`parts_outside_append`,
`parts_append_of_not_inBrackets`), and within brackets that are still open it is one more part of
the choice (`parts_of_inBrackets`).
-/

namespace PileCheck

namespace Text

/-! ## Bytes -/

/-- The bytes of a text, as they are sent. -/
def octets (s : String) : List UInt8 := s.toList.flatMap String.utf8EncodeChar

variable {s t : String} {c : Char}

theorem toByteArray_octets : (octets s).toByteArray = s.toUTF8 := String.utf8Encode_toList

@[simp] theorem octets_append : octets (s ++ t) = octets s ++ octets t := by
  simp [octets]

/-- A text does not end within a character of another. -/
theorem octets_prefix_iff : octets s <+: octets t ↔ s.toList <+: t.toList := by
  constructor
  · rintro ⟨rest, hrest⟩
    have hbytes := congrArg List.toByteArray hrest
    rw [List.toByteArray_append] at hbytes
    exact List.isPrefix_of_utf8Encode_append_eq_utf8Encode rest.toByteArray hbytes
  · rintro ⟨rest, hrest⟩
    exact ⟨rest.flatMap String.utf8EncodeChar, by rw [octets, octets, ← hrest, List.flatMap_append]⟩

/-- A text is known by its bytes. -/
theorem octets_inj : octets s = octets t ↔ s = t := by
  constructor
  · intro h
    have hbytes := congrArg List.toByteArray h
    rw [toByteArray_octets, toByteArray_octets] at hbytes
    exact String.toByteArray_inj.1 hbytes
  · rintro rfl
    rfl

/-- An ASCII character is one byte, and this byte is in no other character. -/
theorem mem_utf8EncodeChar_iff {a : Char} (ha : a.toNat < 128) :
    UInt8.ofNat a.toNat ∈ String.utf8EncodeChar c ↔ a = c := by
  have hbyte (n m : Nat) : UInt8.ofNat n = UInt8.ofNat m ↔ n % 256 = m % 256 := by
    rw [← UInt8.toNat_inj, UInt8.toNat_ofNat', UInt8.toNat_ofNat']
  have hchar : a = c ↔ a.toNat = c.val.toNat := Char.toNat_inj.symm
  simp only [hchar, String.utf8EncodeChar]
  -- one byte below 128, or several that are not
  repeat' split
  all_goals
    simp only [List.mem_cons, List.not_mem_nil, or_false, hbyte]
    omega

/-- So an ASCII character is in a text if its byte is among those that are sent. -/
theorem mem_octets_iff {a : Char} (ha : a.toNat < 128) :
    UInt8.ofNat a.toNat ∈ octets s ↔ a ∈ s.toList := by
  simp [octets, List.mem_flatMap, mem_utf8EncodeChar_iff ha]

end Text

namespace Glob

open Text (octets)

/-! ## The parts of a pattern -/

/-- The byte of an ASCII character. -/
def sign (c : Char) : UInt8 := UInt8.ofNat c.toNat

/-- A choice of bytes, by ranges, or of the bytes that are in none of them. -/
structure Choice where
  negated : Bool := false
  ranges : List (UInt8 × UInt8) := []
  deriving DecidableEq, Repr

namespace Choice

/-- The ends of a range may stand in either order. -/
def admits (c : Choice) (b : UInt8) : Bool :=
  (c.ranges.any fun (x, y) => x ≤ b && b ≤ y || y ≤ b && b ≤ x) != c.negated

/-- One more range. -/
def add (c : Choice) (x y : UInt8) : Choice := { c with ranges := c.ranges ++ [(x, y)] }

/-- Every byte. -/
def every : Choice := { negated := true }

/-- One byte. -/
def only (b : UInt8) : Choice := { ranges := [(b, b)] }

@[simp] theorem admits_only {x b : UInt8} : (only x).admits b = true ↔ b = x := by
  simp [admits, only, UInt8.le_antisymm_iff, and_comm]

end Choice

/-- What a pattern is made of. -/
inductive Part where
  /-- Any number of bytes. -/
  | any
  /-- One byte. -/
  | choice (c : Choice)
  deriving DecidableEq, Repr

/-- What has been read last of a pattern. -/
inductive Place where
  | outside
  /-- A backslash. -/
  | escaped
  /-- An opening bracket. -/
  | opened
  | inside (c : Choice)
  /-- A backslash in brackets. -/
  | insideEscaped (c : Choice)
  /-- A byte in brackets, which may be the first of a range. -/
  | held (c : Choice) (x : UInt8)
  /-- A byte in brackets and a hyphen. -/
  | spanning (c : Choice) (x : UInt8)
  deriving DecidableEq, Repr

/-- A byte in brackets, at the beginning of a new range. -/
def Choice.read (c : Choice) (b : UInt8) : List Part × Place :=
  if b = sign ']' then ([.choice c], .outside)
  else if b = sign '\\' then ([], .insideEscaped c)
  else ([], .held c b)

namespace Place

/-- The part that a byte completes, if it does, and the place after it. -/
def read : Place → UInt8 → List Part × Place
  | outside, b =>
    if b = sign '*' then ([.any], outside)
    else if b = sign '?' then ([.choice .every], outside)
    else if b = sign '[' then ([], opened)
    else if b = sign '\\' then ([], escaped)
    else ([.choice (.only b)], outside)
  | escaped, b => ([.choice (.only b)], outside)
  | opened, b => if b = sign '^' then ([], inside .every) else Choice.read {} b
  | inside c, b => c.read b
  | insideEscaped c, b => ([], inside (c.add b b))
  | held c x, b => if b = sign '-' then ([], spanning c x) else (c.add x x).read b
  | spanning c x, b => ([], inside (c.add x b))

/-- What the end of a pattern completes. Open brackets are closed there, and what has no meaning
without a byte after it stands for itself. -/
def finish : Place → List Part
  | outside => []
  | escaped => [.choice (.only (sign '\\'))]
  | opened => [.choice {}]
  | inside c => [.choice c]
  | insideEscaped c => [.choice (c.add (sign '\\') (sign '\\'))]
  | held c x => [.choice (c.add x x)]
  | spanning c x => [.choice ((c.add x x).add (sign '-') (sign '-'))]

/-- The parts that are complete after some bytes. -/
def complete (p : Place) : List UInt8 → List Part
  | [] => []
  | b :: bs => (p.read b).1 ++ (p.read b).2.complete bs

/-- The place after some bytes. -/
def after (p : Place) : List UInt8 → Place
  | [] => p
  | b :: bs => (p.read b).2.after bs

/-- The parts of a pattern from here on. -/
def parts (p : Place) (bs : List UInt8) : List Part := p.complete bs ++ (p.after bs).finish

end Place

/-- Whether bytes are the parts of a pattern one after another. -/
def fits : List Part → List UInt8 → Bool
  | [], bs => bs.isEmpty
  | .any :: ps, bs =>
    (List.range (bs.length + 1)).any fun skipped => fits ps (bs.drop skipped)
  | .choice _ :: _, [] => false
  | .choice c :: ps, b :: bs => c.admits b && fits ps bs

/-- Whether a search with a pattern finds a key. -/
def finds (pattern key : String) : Bool := fits (Place.outside.parts (octets pattern)) (octets key)

/-! ## Reading a pattern in pieces -/

namespace Place

variable {p : Place} {b : UInt8} {xs ys bs : List UInt8}

/-- What has been read first is read the same whatever comes later. -/
theorem complete_append : p.complete (xs ++ ys) = p.complete xs ++ (p.after xs).complete ys := by
  induction xs generalizing p with
  | nil => rfl
  | cons x xs ih => rw [List.cons_append, complete, complete, ih, List.append_assoc, after]

theorem after_append : p.after (xs ++ ys) = (p.after xs).after ys := by
  induction xs generalizing p with
  | nil => rfl
  | cons x xs ih => exact ih

/-- The later text is read from the place in which the earlier one ends. -/
theorem parts_append : p.parts (xs ++ ys) = p.complete xs ++ (p.after xs).parts ys := by
  rw [parts, complete_append, after_append, List.append_assoc, parts]

/-- Brackets are open. -/
def InBrackets : Place → Prop
  | outside | escaped => False
  | _ => True

instance : DecidablePred InBrackets := fun p => by
  cases p <;> unfold InBrackets <;> infer_instance

/-- In brackets only their end has an effect outside. -/
theorem inBrackets_read (hp : p.InBrackets) (hb : b ≠ sign ']') :
    (p.read b).1 = [] ∧ (p.read b).2.InBrackets := by
  -- a byte in a set that does not close it
  have hread (c : Choice) : (c.read b).1 = [] ∧ (c.read b).2.InBrackets := by
    rw [Choice.read, if_neg hb]
    split <;> exact ⟨rfl, trivial⟩
  cases p with
  | outside => exact hp.elim
  | escaped => exact hp.elim
  | opened =>
    rw [read]
    split
    · exact ⟨rfl, trivial⟩
    · exact hread {}
  | inside c => exact hread c
  | insideEscaped c => exact ⟨rfl, trivial⟩
  | held c x =>
    rw [read]
    split
    · exact ⟨rfl, trivial⟩
    · exact hread (c.add x x)
  | spanning c x => exact ⟨rfl, trivial⟩

/-- Brackets that are never closed take in the rest of the pattern. -/
theorem parts_of_inBrackets (hp : p.InBrackets) (hbs : sign ']' ∉ bs) :
    ∃ c, p.parts bs = [.choice c] := by
  induction bs generalizing p with
  | nil =>
    cases p with
    | outside => exact hp.elim
    | escaped => exact hp.elim
    | opened | inside | insideEscaped | held | spanning => exact ⟨_, rfl⟩
  | cons b bs ih =>
    obtain ⟨hb, hbs⟩ := not_or.1 (mt List.mem_cons.2 hbs)
    obtain ⟨hnone, hopen⟩ := inBrackets_read hp (Ne.symm hb)
    have hstep : p.parts (b :: bs) = (p.read b).2.parts bs := by
      rw [parts, complete, hnone]
      rfl
    rw [hstep]
    exact ih hopen hbs

end Place

/-! ## Texts that stand for themselves -/

/-- The bytes that do not stand for themselves outside of brackets. -/
def special : List UInt8 := [sign '*', sign '?', sign '[', sign '\\']

/-- There is nothing in a text that does not stand for itself. -/
def Plain (s : String) : Prop := ∀ c ∈ ['*', '?', '[', '\\'], c ∉ s.toList

instance (s : String) : Decidable (Plain s) := List.decidableBAll (fun c => c ∉ s.toList) _

/-- A text in which no character is special has no special bytes either. -/
theorem Plain.octets {s : String} (h : Plain s) : ∀ b ∈ octets s, b ∉ special := by
  intro b hb hspecial
  have hwild {c : Char} (hc : c ∈ ['*', '?', '[', '\\']) (hascii : c.toNat < 128)
      (heq : b = sign c) : False := by
    rw [heq, sign, Text.mem_octets_iff hascii] at hb
    exact h c hc hb
  simp only [special, List.mem_cons, List.not_mem_nil, or_false] at hspecial
  rcases hspecial with heq | heq | heq | heq <;> exact hwild (by decide) (by decide) heq

/-- Bytes that each stand for themselves. -/
def literally (bs : List UInt8) : List Part := bs.map fun b => .choice (.only b)

section Literally

variable {b : UInt8} {xs ys bs : List UInt8}

/-- A byte that is not special stands for itself. -/
theorem read_outside (hb : b ∉ special) :
    Place.outside.read b = ([.choice (.only b)], .outside) := by
  simp only [special, List.mem_cons, List.not_mem_nil, or_false, not_or] at hb
  obtain ⟨hstar, hquestion, hbracket, hbackslash⟩ := hb
  rw [Place.read, if_neg hstar, if_neg hquestion, if_neg hbracket, if_neg hbackslash]

/-- And so do many of them. Induction on the bytes. -/
theorem reads_outside (hxs : ∀ b ∈ xs, b ∉ special) :
    Place.outside.complete xs = literally xs ∧ Place.outside.after xs = .outside := by
  induction xs with
  | nil => exact ⟨rfl, rfl⟩
  | cons x xs ih =>
    obtain ⟨hcomplete, hafter⟩ := ih fun b hb => hxs b (List.mem_cons_of_mem _ hb)
    rw [Place.complete, Place.after, read_outside (hxs x List.mem_cons_self), hcomplete]
    exact ⟨rfl, hafter⟩

/-- A text with nothing special in it stands for itself. -/
theorem parts_outside_append (hxs : ∀ b ∈ xs, b ∉ special) :
    Place.outside.parts (xs ++ ys) = literally xs ++ Place.outside.parts ys := by
  obtain ⟨hcomplete, hafter⟩ := reads_outside hxs
  rw [Place.parts_append, hcomplete, hafter]

/-- After a backslash as well, which is lost. -/
theorem parts_append_of_not_inBrackets {p : Place} (hp : ¬ p.InBrackets) (hne : xs ≠ [])
    (hxs : ∀ b ∈ xs, b ∉ special) :
    p.parts (xs ++ ys) = literally xs ++ Place.outside.parts ys := by
  cases p with
  | outside => exact parts_outside_append hxs
  | escaped =>
    obtain ⟨x, xs, rfl⟩ := List.exists_cons_of_ne_nil hne
    have hread : Place.escaped.parts (x :: (xs ++ ys))
        = .choice (.only x) :: Place.outside.parts (xs ++ ys) := rfl
    rw [List.cons_append, hread,
      parts_outside_append fun b hb => hxs b (List.mem_cons_of_mem x hb)]
    rfl
  | opened | inside | insideEscaped | held | spanning => exact absurd trivial hp

end Literally

/-! ## Comparing -/

section Fits

variable {p : Part} {ps qs : List Part} {b : UInt8} {xs bs : List UInt8}

@[simp] theorem fits_nil : fits [] bs = true ↔ bs = [] := List.isEmpty_iff

/-- A star takes some bytes and leaves the rest. -/
theorem fits_any_cons :
    fits (.any :: ps) bs = true ↔ ∃ skipped rest, bs = skipped ++ rest ∧ fits ps rest = true := by
  rw [fits, List.any_eq_true]
  constructor
  · rintro ⟨k, -, hfits⟩
    exact ⟨bs.take k, bs.drop k, (List.take_append_drop k bs).symm, hfits⟩
  · rintro ⟨skipped, rest, rfl, hfits⟩
    refine ⟨skipped.length, List.mem_range.2 ?_, ?_⟩
    · rw [List.length_append]
      omega
    · rwa [List.drop_left]

/-- A choice takes one byte that it admits. -/
theorem fits_choice_cons {c : Choice} : fits (.choice c :: ps) bs = true ↔
    ∃ b rest, bs = b :: rest ∧ c.admits b = true ∧ fits ps rest = true := by
  cases bs with
  | nil => simp [fits]
  | cons b bs =>
    rw [fits, Bool.and_eq_true]
    constructor
    · exact fun h => ⟨b, bs, rfl, h⟩
    · rintro ⟨_, _, heq, h⟩
      obtain ⟨rfl, rfl⟩ := List.cons.inj heq
      exact h

/-- Induction on the parts, the first of which takes what it takes either way. -/
theorem fits_append : fits (ps ++ qs) bs = true ↔
    ∃ xs ys, bs = xs ++ ys ∧ fits ps xs = true ∧ fits qs ys = true := by
  induction ps generalizing bs with
  | nil =>
    rw [List.nil_append]
    constructor
    · exact fun h => ⟨[], bs, rfl, rfl, h⟩
    · rintro ⟨_, ys, rfl, hxs, hys⟩
      rwa [fits_nil.1 hxs]
  | cons p ps ih =>
    cases p with
    | any =>
      -- what the star skips belongs to the first part
      simp only [List.cons_append, fits_any_cons, ih]
      constructor
      · rintro ⟨skipped, _, rfl, xs, ys, rfl, hxs, hys⟩
        exact ⟨skipped ++ xs, ys, by simp, ⟨skipped, xs, rfl, hxs⟩, hys⟩
      · rintro ⟨_, ys, rfl, ⟨skipped, xs, rfl, hxs⟩, hys⟩
        exact ⟨skipped, xs ++ ys, by simp, xs, ys, rfl, hxs, hys⟩
    | choice c =>
      simp only [List.cons_append, fits_choice_cons, ih]
      constructor
      · rintro ⟨b, _, rfl, hb, xs, ys, rfl, hxs, hys⟩
        exact ⟨b :: xs, ys, rfl, ⟨b, xs, rfl, hb, hxs⟩, hys⟩
      · rintro ⟨_, ys, rfl, ⟨b, xs, rfl, hb, hxs⟩, hys⟩
        exact ⟨b, xs ++ ys, rfl, hb, xs, ys, rfl, hxs, hys⟩

/-- Literal bytes are found in themselves only. -/
theorem fits_literally : fits (literally xs) bs = true ↔ bs = xs := by
  induction xs generalizing bs with
  | nil => exact fits_nil
  | cons x xs ih =>
    have hcons : literally (x :: xs) = .choice (.only x) :: literally xs := rfl
    simp [hcons, fits_choice_cons, ih]

/-- A literal beginning is cut off on both sides. -/
theorem fits_literally_append :
    fits (literally xs ++ ps) (xs ++ bs) = true ↔ fits ps bs = true := by
  simp only [fits_append, fits_literally]
  constructor
  · rintro ⟨_, ys, heq, rfl, hys⟩
    rwa [List.append_cancel_left heq]
  · exact fun h => ⟨xs, bs, rfl, rfl, h⟩

theorem fits_any : fits [.any] bs = true :=
  fits_any_cons.2 ⟨bs, [], (List.append_nil bs).symm, rfl⟩

end Fits

end Glob
end PileCheck
