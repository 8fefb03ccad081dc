/-!
Finding and cutting text.

All of it works on character lists: whether a word occurs, the two sides of the first or last
separator, and replacing every occurrence of a word.
-/
namespace PileCheck.Text

/-- What follows `word` in a text that starts with it. -/
def dropWord? : List Char → List Char → Option (List Char)
  | [], cs => some cs
  | _ :: _, [] => none
  | w :: ws, c :: cs => if w = c then dropWord? ws cs else none

/-- Whether `word` occurs anywhere in the text. -/
def occurs (word : List Char) : List Char → Bool
  | [] => word.isEmpty
  | c :: cs => (dropWord? word (c :: cs)).isSome || occurs word cs

/-- The two sides of the first separator. -/
def splitFirst? (sep : Char) : List Char → Option (List Char × List Char)
  | [] => none
  | c :: cs =>
    if c = sep then some ([], cs)
    else (splitFirst? sep cs).map fun (before, after) => (c :: before, after)

/-- What follows the last separator. -/
def afterLast? (sep : Char) : List Char → Option (List Char)
  | [] => none
  | c :: cs =>
    match afterLast? sep cs with
    | some after => some after
    | none => if c = sep then some cs else none

/-- `skip` characters of an occurrence already replaced are passed over, then the search goes on. -/
def replaceFrom (word new : List Char) : Nat → List Char → List Char
  | _, [] => []
  | skip + 1, _ :: cs => replaceFrom word new skip cs
  | 0, c :: cs =>
    if (dropWord? word (c :: cs)).isSome then new ++ replaceFrom word new (word.length - 1) cs
    else c :: replaceFrom word new 0 cs

/-- Every occurrence of a non-empty `word`, from the left and without overlap, becomes `new`. -/
def replaceAll (word new text : List Char) : List Char := replaceFrom word new 0 text

theorem dropWord?_append (word rest : List Char) : dropWord? word (word ++ rest) = some rest := by
  induction word with
  | nil => rfl
  | cons w ws ih => simp [dropWord?, ih]

/-- A text starts with a word exactly when it is the word and then what follows. -/
theorem dropWord?_eq_some_iff {word cs rest : List Char} :
    dropWord? word cs = some rest ↔ cs = word ++ rest := by
  constructor
  · intro h
    induction word generalizing cs with
    | nil => simpa [dropWord?] using h
    | cons w ws ih =>
      cases cs with
      | nil => simp [dropWord?] at h
      | cons c cs =>
        by_cases hw : w = c
        · simp only [dropWord?, hw, if_true] at h
          rw [hw, List.cons_append, ih h]
        · simp [dropWord?, hw] at h
  · rintro rfl
    exact dropWord?_append word rest

/-- The two sides of a separator with none before it. -/
theorem splitFirst?_eq_some_iff {sep : Char} {cs before after : List Char} :
    splitFirst? sep cs = some (before, after) ↔ cs = before ++ sep :: after ∧ sep ∉ before := by
  induction cs generalizing before after with
  | nil => simp [splitFirst?]
  | cons c cs ih =>
    rw [splitFirst?]
    by_cases hc : c = sep
    · subst hc
      rw [if_pos rfl]
      cases before with
      | nil => simp
      | cons b bs => simp +contextual [eq_comm]
    · have hsep : sep ≠ c := fun heq => hc heq.symm
      rw [if_neg hc]
      cases before with
      | nil => simp [hc]
      | cons b bs =>
        simp only [Option.map_eq_some_iff, Prod.exists, ih, Prod.mk.injEq, List.cons.injEq,
          List.cons_append, List.mem_cons, not_or]
        constructor
        · rintro ⟨bs, after, ⟨rfl, hbs⟩, ⟨rfl, rfl⟩, rfl⟩
          exact ⟨⟨rfl, rfl⟩, hsep, hbs⟩
        · rintro ⟨⟨rfl, rfl⟩, -, hbs⟩
          exact ⟨bs, after, ⟨rfl, hbs⟩, ⟨rfl, rfl⟩, rfl⟩

/-- A text without the separator has no side after it, and any other has what stands after the
last one. -/
theorem afterLast?_append_of_not_mem {sep : Char} {before after : List Char} (h : sep ∉ after) :
    afterLast? sep (before ++ sep :: after) = some after := by
  have hnone : ∀ cs : List Char, sep ∉ cs → afterLast? sep cs = none := by
    intro cs
    induction cs with
    | nil => intro _; rfl
    | cons c cs ih =>
      intro hc
      simp only [List.mem_cons, not_or] at hc
      have hne : c ≠ sep := fun heq => hc.1 heq.symm
      simp [afterLast?, ih hc.2, hne]
  induction before with
  | nil => simp [afterLast?, hnone after h]
  | cons b bs ih => simp [afterLast?, ih]

end PileCheck.Text
