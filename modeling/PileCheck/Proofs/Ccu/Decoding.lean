import PileCheck.Ccu.Snapshot
import PileCheck.Proofs.Ccu.Slots
import PileCheck.Proofs.Places
import PileCheck.Proofs.Text

/-!
# What a hash says of a unit

A hash comes in any order, and several of its fields may have the number of one flag. It `Says` that
a flag is set or clear if some field does. Where no two fields contradict each other, decoding finds
exactly what the hash says, whatever the order of its fields. The fold over the fields keeps the
last word on each flag (`flag_foldl`), and without contradictions the last word is the only one.

`Attributes.publish` is the hash of a unit that says all its flags. Decoding takes it back.
-/

namespace PileCheck

namespace Ccu

variable {hash other : Hash} {field value : String} {i : Nat} {b : Bool} {a : Attributes}

/-! ## Fields -/

/-- Some field of the hash has the number before its first `;`, and the value `1` if the flag is set
and `2` if it is clear, blanks around either left aside. -/
def Hash.Says (hash : Hash) (i : Nat) (b : Bool) : Prop :=
  ∃ field value before after, (field, value) ∈ hash ∧
    field.toList = before ++ ';' :: after ∧ ';' ∉ before ∧
    Numeral.int64? (Text.trimChars before) = some (i : Int) ∧
    Numeral.int64? (Text.trimChars value.toList) = some (if b then 1 else 2)

/-- No two fields say that a flag is set and clear. -/
def Hash.Agrees (hash : Hash) : Prop :=
  ∀ i < flagCount, ∀ b b', hash.Says i b → hash.Says i b' → b = b'

/-- A field name stands once in a hash. -/
def Hash.Distinct (hash : Hash) : Prop := (hash.map Prod.fst).Nodup

instance (hash : Hash) : Decidable hash.Distinct :=
  inferInstanceAs (Decidable (hash.map Prod.fst).Nodup)

/-- The number of a field, when it is that of a flag. -/
theorem fieldIndex?_eq_some_iff : fieldIndex? field = some i ↔
    i < flagCount ∧ ∃ before after, field.toList = before ++ ';' :: after ∧ ';' ∉ before ∧
      Numeral.int64? (Text.trimChars before) = some (i : Int) := by
  have hrange : ∀ n : Int,
      (if 0 ≤ n ∧ n < flagCount then some n.toNat else none) = some i ↔ i < flagCount ∧ n = i := by
    intro n
    split
    · rw [Option.some_inj]
      omega
    · simp only [reduceCtorEq, false_iff]
      omega
  simp only [fieldIndex?, Option.bind_eq_some_iff, Prod.exists, Text.splitFirst?_eq_some_iff,
    hrange]
  constructor
  · rintro ⟨before, after, ⟨hfield, hnone⟩, n, hn, hlt, rfl⟩
    exact ⟨hlt, before, after, hfield, hnone, hn⟩
  · rintro ⟨hlt, before, after, hfield, hnone, hn⟩
    exact ⟨before, after, ⟨hfield, hnone⟩, i, hn, hlt, rfl⟩

/-- The value of a field, when it is that of a flag. -/
theorem flagValue?_eq_some_iff : flagValue? value = some b ↔
    Numeral.int64? (Text.trimChars value.toList) = some (if b then 1 else 2) := by
  have hvalue : ∀ n : Int,
      (if n = 1 then some true else if n = 2 then some false else none) = some b
        ↔ n = if b then 1 else 2 := by
    intro n
    cases b <;> grind
  simp only [flagValue?, Option.bind_eq_some_iff, hvalue, exists_eq_right]

/-- The readings of a hash are what it says of the flags that there are. -/
theorem mem_readings_iff : (i, b) ∈ readings hash ↔ i < flagCount ∧ hash.Says i b := by
  simp only [readings, List.mem_filterMap, reading?, Option.bind_eq_some_iff,
    Option.map_eq_some_iff, fieldIndex?_eq_some_iff, flagValue?_eq_some_iff, Prod.mk.injEq,
    Prod.exists]
  constructor
  · rintro ⟨field, value, hmem, _, ⟨hlt, before, after, hfield, hnone, hi⟩, _, hb, rfl, rfl⟩
    exact ⟨hlt, field, value, before, after, hmem, hfield, hnone, hi, hb⟩
  · rintro ⟨hlt, field, value, before, after, hmem, hfield, hnone, hi, hb⟩
    exact ⟨field, value, hmem, i, ⟨hlt, before, after, hfield, hnone, hi⟩, b, hb, rfl, rfl⟩

/-! ## The fold -/

/-- No reading touches the number of the unit. -/
theorem index_foldl (found : List (Nat × Bool)) (a : Attributes) :
    (found.foldl (fun a (i, b) => a.setFlag i b) a).index = a.index := by
  induction found generalizing a with
  | nil => rfl
  | cons r rest ih => exact ih _

/-- The last reading of a flag counts. Induction on the readings, the first of which is hidden by
those after it. -/
theorem flag_foldl (found : List (Nat × Bool)) (a : Attributes) (hi : i < flagCount) :
    (found.foldl (fun a (i, b) => a.setFlag i b) a).flag i
      = (found.reverse.lookup i).getD (a.flag i) := by
  induction found generalizing a with
  | nil => rfl
  | cons r rest ih =>
    obtain ⟨j, b⟩ := r
    rw [List.foldl_cons, ih, Attributes.flag_setFlag _ _ _ hi, List.reverse_cons,
      List.lookup_append]
    cases rest.reverse.lookup i with
    | some b' => rfl
    | none =>
      by_cases hj : i = j
      · simp [hj]
      · simp [hj, List.lookup_cons, beq_eq_false_iff_ne.2 hj]

/-! ## The order of the fields -/

theorem Hash.Distinct.perm (h : hash.Distinct) (hperm : other.Perm hash) : other.Distinct :=
  (hperm.map Prod.fst).nodup_iff.2 h

/-- The number of the unit is found wherever its field stands. -/
theorem moduleNumber?_perm (h : hash.Distinct) (hperm : other.Perm hash) :
    moduleNumber? other = moduleNumber? hash := by
  have hlookup : other.lookup indexField = hash.lookup indexField :=
    Option.ext fun v => by
      rw [lookup_eq_some_iff_mem h, lookup_eq_some_iff_mem (h.perm hperm), hperm.mem_iff]
  rw [moduleNumber?, moduleNumber?, hlookup]

theorem says_perm (hperm : other.Perm hash) : other.Says i b ↔ hash.Says i b := by
  simp only [Hash.Says, hperm.mem_iff]

/-! ## Decoding -/

/-- What was decoded is what the hash says. -/
structure Decoded.Reflects (d : Decoded) (hash : Hash) : Prop where
  index : d.attributes.index = moduleNumber? hash
  ascending : d.seen.Pairwise (· < ·)
  mem_seen : ∀ i, i ∈ d.seen ↔ i < flagCount ∧ ∃ b, hash.Says i b
  flag : ∀ i < flagCount, d.attributes.flag i = true ↔ hash.Says i true

/-- Only one outcome reflects a hash. -/
theorem Decoded.Reflects.unique {d e : Decoded} (hd : d.Reflects hash) (he : e.Reflects hash) :
    d = e := by
  have hattributes : d.attributes = e.attributes :=
    Attributes.ext_flag (hd.index.trans he.index.symm) fun i hi =>
      Bool.eq_iff_iff.2 ((hd.flag i hi).trans (he.flag i hi).symm)
  have hperm : d.seen.Perm e.seen :=
    (List.perm_ext_iff_of_nodup (hd.ascending.imp Nat.ne_of_lt) (he.ascending.imp Nat.ne_of_lt)).2
      fun i => (hd.mem_seen i).trans (he.mem_seen i).symm
  have hseen : d.seen = e.seen :=
    hperm.eq_of_pairwise (fun i j _ _ hij hji => absurd hij (Nat.lt_asymm hji)) hd.ascending
      he.ascending
  cases d
  cases e
  exact Decoded.mk.injEq .. ▸ ⟨hattributes, hseen⟩

/-- What reflects a hash reflects it in any order. -/
theorem Decoded.Reflects.perm {d : Decoded} (h : d.Reflects other) (hdistinct : hash.Distinct)
    (hperm : other.Perm hash) : d.Reflects hash where
  index := h.index.trans (moduleNumber?_perm hdistinct hperm)
  ascending := h.ascending
  mem_seen i := by simpa only [says_perm hperm] using h.mem_seen i
  flag i hi := (h.flag i hi).trans (says_perm hperm)

theorem Hash.Agrees.perm (h : hash.Agrees) (hperm : other.Perm hash) : other.Agrees :=
  fun i hi b b' hb hb' => h i hi b b' ((says_perm hperm).1 hb) ((says_perm hperm).1 hb')

/-- The last word on a flag is what the hash says of it. -/
theorem lookup_readings (hagree : hash.Agrees) (hi : i < flagCount) :
    (readings hash).reverse.lookup i = some true ↔ hash.Says i true := by
  have hsaid : ∀ {b}, (i, b) ∈ (readings hash).reverse ↔ hash.Says i b := by
    intro b
    rw [List.mem_reverse, mem_readings_iff, and_iff_right hi]
  constructor
  · intro hlookup
    obtain ⟨before, after, hsplit, -⟩ := List.lookup_eq_some_iff.1 hlookup
    exact hsaid.1 (by simp [hsplit])
  · intro hset
    cases hlookup : (readings hash).reverse.lookup i with
    | none =>
      have hne : (i != i) = true := List.lookup_eq_none_iff.1 hlookup _ (hsaid.2 hset)
      simp at hne
    | some b =>
      obtain ⟨before, after, hsplit, -⟩ := List.lookup_eq_some_iff.1 hlookup
      have hword : hash.Says i b := hsaid.1 (by simp [hsplit])
      rw [hagree i hi b true hword hset]

/-- A hash with a field is decoded, to what it says. -/
theorem decode_reflects (hne : hash ≠ []) (hagree : hash.Agrees) :
    ∃ d, decode hash = .ok d ∧ d.Reflects hash := by
  refine ⟨_, if_neg (by simpa using hne), index_foldl _ _, ?_, fun i => ?_, fun i hi => ?_⟩
  · exact List.pairwise_lt_range.filter _
  · simp only [List.mem_filter, List.mem_range, List.any_eq_true, beq_iff_eq, Prod.exists,
      mem_readings_iff]
    grind
  · rw [flag_foldl _ _ hi, ← lookup_readings hagree hi]
    rw [Attributes.flag_clear]
    cases (readings hash).reverse.lookup i <;> simp

/-! ## Publishing -/

/-- The hash of a unit that says all its flags, each with a note of its own, and its number if it
has one. -/
def Attributes.publish (a : Attributes) (note : Nat → String) : Hash :=
  (List.range flagCount).map
      (fun i => (Numeral.ofNat i ++ ";" ++ note i, if a.flag i then "1" else "2"))
    ++ a.index.toList.map fun n => (indexField, Numeral.ofNat n)

namespace Attributes

variable {note : Nat → String} {n : Nat}

theorem mem_publish {e : String × String} : e ∈ a.publish note ↔
    (∃ i < flagCount, e = (Numeral.ofNat i ++ ";" ++ note i, if a.flag i then "1" else "2")) ∨
      ∃ n, a.index = some n ∧ e = (indexField, Numeral.ofNat n) := by
  simp only [publish, List.mem_append, List.mem_map, List.mem_range, Option.mem_toList, eq_comm]

/-- A published field has its number before the first `;`. -/
theorem split_publish {before after : List Char} (j : Nat)
    (h : (Numeral.ofNat j ++ ";" ++ note j).toList = before ++ ';' :: after)
    (hnone : ';' ∉ before) : before = Numeral.digits j := by
  have hlist : (Numeral.ofNat j ++ ";" ++ note j).toList
      = Numeral.digits j ++ ';' :: (note j).toList := by
    simp [Numeral.ofNat]
  have hread := Text.splitFirst?_eq_some_iff.2 ⟨h, hnone⟩
  rw [Text.splitFirst?_eq_some_iff.2 ⟨hlist, Numeral.not_mem_digits rfl j⟩] at hread
  exact (Prod.mk.inj (Option.some.inj hread)).1.symm

/-- A unit says of each flag what the flag is. -/
theorem says_publish : (a.publish note).Says i b ↔ i < flagCount ∧ a.flag i = b := by
  have hfits : ∀ {j}, j < flagCount → (j : Int) ≤ Numeral.int64Max := by
    intro j hj
    have hcount : (flagCount : Int) ≤ Numeral.int64Max := by decide
    omega
  have hvalue : ∀ c : Bool, Numeral.int64? (Text.trimChars (if c then "1" else "2").toList)
      = some (if c then 1 else 2) := by
    intro c
    cases c <;> decide
  constructor
  · rintro ⟨field, value, before, after, hmem, hfield, hnone, hi, hb⟩
    obtain ⟨j, hj, heq⟩ | ⟨n, -, heq⟩ := mem_publish.1 hmem
    · obtain ⟨rfl, rfl⟩ := Prod.mk.inj heq
      -- the note beside a flag may have separators of its own, but the number stands before the
      -- first
      rw [split_publish j hfield hnone, Text.trimChars_digits,
        Numeral.int64?_digits (hfits hj)] at hi
      obtain rfl : j = i := Int.ofNat_inj.1 (Option.some.inj hi)
      rw [hvalue] at hb
      refine ⟨hj, ?_⟩
      cases hflag : a.flag j <;> cases b <;> simp_all
    · -- the number of the unit stands in a field without a separator
      obtain ⟨rfl, rfl⟩ := Prod.mk.inj heq
      have hmem : ';' ∈ indexField.toList := by
        rw [hfield]
        simp
      exact absurd hmem (by decide)
  · rintro ⟨hi, rfl⟩
    refine ⟨_, _, Numeral.digits i, (note i).toList, mem_publish.2 (.inl ⟨i, hi, rfl⟩), ?_,
      Numeral.not_mem_digits rfl i, ?_, hvalue _⟩
    · simp [Numeral.ofNat]
    · rw [Text.trimChars_digits, Numeral.int64?_digits (hfits hi)]

/-- No flag is published under the name of the number. -/
theorem indexField_ne (i : Nat) : Numeral.ofNat i ++ ";" ++ note i ≠ indexField := by
  intro heq
  have hmem : ';' ∈ indexField.toList := by
    rw [← heq]
    simp
  exact absurd hmem (by decide)

/-- No name is published twice: the numbers before the first `;` are those of different flags. -/
theorem distinct_publish (a : Attributes) (note : Nat → String) : (a.publish note).Distinct := by
  have hfields : ∀ {i j}, Numeral.ofNat i ++ ";" ++ note i = Numeral.ofNat j ++ ";" ++ note j →
      i = j := by
    intro i j heq
    have hlist : (Numeral.ofNat j ++ ";" ++ note j).toList
        = Numeral.digits i ++ ';' :: (note i).toList := by
      rw [← heq]
      simp [Numeral.ofNat]
    have hdigits := split_publish j hlist (Numeral.not_mem_digits rfl i)
    rw [← Numeral.value_digits i, hdigits, Numeral.value_digits]
  show ((_ ++ _ : Hash).map Prod.fst).Nodup
  rw [List.map_append, List.map_map, List.map_map]
  refine List.pairwise_append.2 ⟨?_, ?_, ?_⟩
  · exact List.pairwise_map.2 (List.nodup_range.imp fun hne heq => hne (hfields heq))
  · cases a.index <;> simp
  · intro field hfield key hkey
    obtain ⟨i, -, rfl⟩ := List.mem_map.1 hfield
    obtain ⟨n, -, rfl⟩ := List.mem_map.1 hkey
    exact indexField_ne i

/-- A unit is read back with its number, or with none. -/
theorem moduleNumber?_publish (h : ∀ n ∈ a.index, n ≤ Numeral.nat32Max) (note : Nat → String) :
    moduleNumber? (a.publish note) = a.index := by
  have hdistinct := distinct_publish a note
  cases hindex : a.index with
  | some n =>
    have hlookup : (a.publish note).lookup indexField = some (Numeral.ofNat n) :=
      (lookup_eq_some_iff_mem hdistinct).2 (mem_publish.2 (.inr ⟨n, hindex, rfl⟩))
    have hread : Numeral.nat32? (Text.trimChars (Numeral.ofNat n).toList) = some n := by
      rw [Numeral.ofNat, String.toList_ofList, Text.trimChars_digits,
        Numeral.nat32?_digits (h n hindex)]
    rw [moduleNumber?, hlookup]
    exact hread
  | none =>
    -- every field that there is names a flag
    have hlookup : (a.publish note).lookup indexField = none := by
      refine Option.eq_none_iff_forall_ne_some.2 fun v hv => ?_
      obtain ⟨i, -, heq⟩ | ⟨n, hn, -⟩ := mem_publish.1 ((lookup_eq_some_iff_mem hdistinct).1 hv)
      · exact indexField_ne i (Prod.mk.inj heq).1.symm
      · rw [hindex] at hn
        cases hn
    rw [moduleNumber?, hlookup]
    rfl

/-- What a unit publishes says its number and all its flags. -/
theorem reflects_publish (h : ∀ n ∈ a.index, n ≤ Numeral.nat32Max) (note : Nat → String) :
    Decoded.Reflects { attributes := a, seen := List.range flagCount } (a.publish note) where
  index := (moduleNumber?_publish h note).symm
  ascending := List.pairwise_lt_range
  mem_seen i := by simp [says_publish]
  flag i hi := by simp [says_publish, hi]

end Attributes

/-! ## The headline -/

theorem Decoded.ascending_missing (d : Decoded) : d.missing.Pairwise (· < ·) :=
  List.pairwise_lt_range.filter _

/-- Missing is what was not seen. -/
theorem Decoded.mem_missing_iff {d : Decoded} : i ∈ d.missing ↔ i < flagCount ∧ i ∉ d.seen := by
  simp [missing]

/-- **A hash is read for what it says.** A hash with a field and without a contradiction is decoded.
The flags seen are those that it says anything of, a flag is set, under its number and under its
name, if the hash says so, and no other; the order of the fields makes no difference; the flags
missing are all others, ascending. And a unit that publishes its number and all its flags is read
back as it is, whatever notes stand beside the flags and in whatever order they come. -/
theorem flags_read_back :
    (∀ hash : Hash, hash ≠ [] → hash.Distinct → hash.Agrees →
      ∃ d, decode hash = .ok d ∧
        (∀ i, i ∈ d.seen ↔ i < flagCount ∧ ∃ b, hash.Says i b) ∧
        (∀ i slot, slots[i]? = some slot →
          d.attributes.shown? slot = some (.bool (d.attributes.flag i)) ∧
          (d.attributes.flag i = true ↔ hash.Says i true)) ∧
        (∀ other : Hash, other.Perm hash → decode other = .ok d) ∧
        d.missing.Pairwise (· < ·) ∧ ∀ i, i ∈ d.missing ↔ i < flagCount ∧ i ∉ d.seen) ∧
    ∀ (a : Attributes) (note : Nat → String) (hash : Hash),
      (∀ n ∈ a.index, n ≤ Numeral.nat32Max) → hash.Perm (a.publish note) →
      decode hash = .ok { attributes := a, seen := List.range flagCount } := by
  -- one hash in another order reflects the same attributes, and they are unique
  have horder : ∀ {hash other : Hash} {d : Decoded}, d.Reflects hash → hash ≠ [] →
      hash.Distinct → hash.Agrees → other.Perm hash → decode other = .ok d := by
    intro hash other d hd hne hdistinct hagree hperm
    have hother : other ≠ [] := fun hnil => hne (hnil ▸ hperm).nil_eq.symm
    obtain ⟨e, hdecode, he⟩ := decode_reflects hother (hagree.perm hperm)
    rw [hdecode, hd.unique (he.perm hdistinct hperm)]
  constructor
  · intro hash hne hdistinct hagree
    obtain ⟨d, hdecode, hd⟩ := decode_reflects hne hagree
    refine ⟨d, hdecode, hd.mem_seen, fun i slot hslot => ?_,
      fun other hperm => horder hd hne hdistinct hagree hperm, d.ascending_missing,
      fun i => Decoded.mem_missing_iff⟩
    have hi : i < flagCount := (List.getElem?_eq_some_iff.1 hslot).1
    exact ⟨d.attributes.shown?_slot hslot, hd.flag i hi⟩
  · intro a note hash hindex hperm
    refine horder (Attributes.reflects_publish hindex note) ?_ (Attributes.distinct_publish a note)
      ?_ hperm
    · simp [Attributes.publish, flagCount]
    · intro i _ b b' hb hb'
      rw [Attributes.says_publish] at hb hb'
      exact hb.2.symm.trans hb'.2

/-- One flag said twice in two spellings, one said to be clear, and a comment; and a unit with the
largest number, read from its last field to its first. -/
theorem flags_read_back_spelled :
    let hash : Hash := [("7;negative stuck", "1"), ("5;", " 2"), ("comment", "hello"),
      (" +07 ;again;", " 01 ")]
    let a : Attributes := .ofFlags (some Numeral.nat32Max) fun i => i % 3 = 0
    (hash ≠ [] ∧ hash.Distinct ∧ hash.Agrees ∧
      ∃ d, decode hash = .ok d ∧ 7 ∈ d.seen ∧ 5 ∈ d.seen ∧ 3 ∈ d.missing ∧
        d.attributes.shown? ("parallel_contactor", "negative_stuck") = some (.bool true) ∧
        decode hash.reverse = .ok d) ∧
    ((∀ n ∈ a.index, n ≤ Numeral.nat32Max) ∧
      decode (a.publish fun _ => ";").reverse
        = .ok { attributes := a, seen := List.range 32 }) := by
  intro hash a
  have hreadings : readings hash = [(7, true), (5, false), (7, true)] := by decide
  have hsaid : ∀ {i b}, i < flagCount → (hash.Says i b ↔ (i, b) ∈ readings hash) := fun hi => by
    rw [mem_readings_iff, and_iff_right hi]
  have hagree : hash.Agrees := by
    intro i hi b b' hb hb'
    rw [hsaid hi, hreadings] at hb hb'
    grind
  have hindex : ∀ n ∈ a.index, n ≤ Numeral.nat32Max := by decide
  have hset : hash.Says 7 true := (hsaid (by decide)).2 (by rw [hreadings]; decide)
  have hclear : hash.Says 5 false := (hsaid (by decide)).2 (by rw [hreadings]; decide)
  have hsilent : ∀ b, ¬hash.Says 3 b := fun b h => by
    rw [hsaid (by decide), hreadings] at h
    revert b
    decide
  obtain ⟨d, hdecode, hseen, hflag, horder, -, hmissing⟩ :=
    flags_read_back.1 hash (by decide) (by decide) hagree
  refine ⟨⟨by decide, by decide, hagree, d, hdecode, ?_, ?_, ?_, ?_, ?_⟩, hindex, ?_⟩
  · exact (hseen 7).2 ⟨by decide, true, hset⟩
  · exact (hseen 5).2 ⟨by decide, false, hclear⟩
  · exact (hmissing 3).2 ⟨by decide, fun h => ((hseen 3).1 h).2.elim hsilent⟩
  · obtain ⟨hshown, hiff⟩ := hflag 7 _ rfl
    rw [hshown, hiff.2 hset]
  · exact horder _ hash.reverse_perm
  · exact flags_read_back.2 a _ _ hindex (List.reverse_perm _)

end Ccu
end PileCheck
