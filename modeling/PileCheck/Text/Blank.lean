/-!
Blank characters and trimming.

`isBlank` is the White_Space property of the character database; `trim` cuts it from both ends of
a text and touches nothing inside.
-/
namespace PileCheck.Text

/-- The characters with the White_Space property, among them no zero-width mark and no information
separator. -/
def isBlank (c : Char) : Bool :=
  let n := c.toNat
  (9 ≤ n && n ≤ 13) || n == 0x20 || n == 0x85 || n == 0xA0 || n == 0x1680
    || (0x2000 ≤ n && n ≤ 0x200A) || n == 0x2028 || n == 0x2029 || n == 0x202F || n == 0x205F
    || n == 0x3000

/-- What is left of a character list once the blanks at both ends are gone. -/
def trimChars (cs : List Char) : List Char :=
  ((cs.dropWhile isBlank).reverse.dropWhile isBlank).reverse

def trim (s : String) : String := String.ofList (trimChars s.toList)

/-- A text without a blank at either end is its own trimming. -/
theorem trimChars_eq_self {cs : List Char} (hhead : cs.dropWhile isBlank = cs)
    (hlast : cs.reverse.dropWhile isBlank = cs.reverse) : trimChars cs = cs := by
  rw [trimChars, hhead, hlast, List.reverse_reverse]

/-- A text without any blank is its own trimming. -/
theorem trimChars_of_not_blank {cs : List Char} (h : ∀ c ∈ cs, isBlank c = false) :
    trimChars cs = cs := by
  have keeps : ∀ ds : List Char, (∀ c ∈ ds, isBlank c = false) → ds.dropWhile isBlank = ds := by
    intro ds hds
    cases ds with
    | nil => rfl
    | cons d ds => rw [List.dropWhile_cons, hds d List.mem_cons_self, if_neg Bool.false_ne_true]
  exact trimChars_eq_self (keeps cs h) (keeps _ fun c hc => h c (List.mem_reverse.1 hc))

/-- Blanks at both ends are cut, and nothing of a text between them that has none. -/
theorem trimChars_append {before cs after : List Char} (hbefore : ∀ c ∈ before, isBlank c = true)
    (hafter : ∀ c ∈ after, isBlank c = true) (hne : cs ≠ []) (hcs : ∀ c ∈ cs, isBlank c = false) :
    trimChars (before ++ cs ++ after) = cs := by
  have keeps : ∀ {ds : List Char} (es : List Char), ds ≠ [] → (∀ c ∈ ds, isBlank c = false) →
      (ds ++ es).dropWhile isBlank = ds ++ es := by
    intro ds es hds hblank
    cases ds with
    | nil => exact absurd rfl hds
    | cons d ds =>
      rw [List.cons_append, List.dropWhile_cons, hblank d List.mem_cons_self,
        if_neg Bool.false_ne_true]
  have hreverse : cs.reverse.dropWhile isBlank = cs.reverse := by
    have hkeeps := keeps [] (fun h => hne (List.reverse_eq_nil_iff.1 h))
      fun c hc => hcs c (List.mem_reverse.1 hc)
    rwa [List.append_nil] at hkeeps
  rw [trimChars, List.append_assoc, List.dropWhile_append_of_pos hbefore, keeps _ hne hcs,
    List.reverse_append, List.dropWhile_append_of_pos fun c hc => hafter c (List.mem_reverse.1 hc),
    hreverse, List.reverse_reverse]

theorem isBlank_of_isDigit {c : Char} (h : c.isDigit = true) : isBlank c = false := by
  have hrange : '0'.val.toNat ≤ c.val.toNat ∧ c.val.toNat ≤ '9'.val.toNat := by
    simpa only [Char.isDigit, Bool.and_eq_true, decide_eq_true_eq, ge_iff_le,
      UInt32.le_iff_toNat_le] using h
  have hzero : '0'.val.toNat = 48 := rfl
  have hnine : '9'.val.toNat = 57 := rfl
  simp only [isBlank, Char.toNat, Bool.or_eq_false_iff, Bool.and_eq_false_iff,
    decide_eq_false_iff_not, beq_eq_false_iff_ne]
  omega

end PileCheck.Text
