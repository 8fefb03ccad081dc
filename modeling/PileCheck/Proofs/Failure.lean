import PileCheck.Failure

/-!
# What a message is judged by

A message is searched for phrases and for numbers, wherever in it they stand. `NamesLoss` says what
the search looks for: a phrase anywhere in the small form of the text, or one of the two numbers
with no digit on either side of it. An apostrophe is in no phrase and no number, so a message that
is put together with apostrophes names a loss exactly if one of its parts does
(`namesLoss_quote`). What was quoted in it counts like what the server itself has to say.
-/

namespace PileCheck

namespace Text

variable {word cs xs ys : List Char} {sep : Char}

theorem isSome_dropWord?_iff : (dropWord? word cs).isSome = true ↔ word <+: cs := by
  rw [Option.isSome_iff_exists]
  exact exists_congr fun rest => dropWord?_eq_some_iff.trans eq_comm

/-- Induction on the text, for a word that starts here or further on. -/
theorem occurs_iff : occurs word cs = true ↔ word <:+: cs := by
  induction cs with
  | nil => rw [occurs, List.isEmpty_iff, List.infix_nil]
  | cons c cs ih => rw [occurs, Bool.or_eq_true, isSome_dropWord?_iff, ih, List.infix_cons_iff]

/-- A word does not reach over a character that is not in it. -/
theorem infix_append_cons_iff (h : sep ∉ word) :
    word <:+: xs ++ sep :: ys ↔ word <:+: xs ∨ word <:+: ys := by
  have hbegins {ws : List Char} (hws : sep ∉ ws) (hpre : ws <+: sep :: ys) : ws = [] := by
    rcases List.prefix_cons_iff.1 hpre with hnil | ⟨rest, rfl, -⟩
    · exact hnil
    · exact absurd List.mem_cons_self hws
  constructor
  · intro hwithin
    rcases List.infix_append_iff.1 hwithin with hxs | hys | ⟨before, after, rfl, hsuffix, hpre⟩
    · exact .inl hxs
    · rcases List.infix_cons_iff.1 hys with hpre | hys
      · rw [hbegins h hpre]
        exact .inr (List.nil_infix)
      · exact .inr hys
    · obtain rfl := hbegins (fun hmem => h (List.mem_append_right _ hmem)) hpre
      rw [List.append_nil]
      exact .inl hsuffix.isInfix
  · rintro (hxs | hys)
    · exact hxs.trans (List.prefix_append _ _).isInfix
    · exact hys.trans ⟨xs ++ [sep], [], by simp⟩

theorem smallForms_append (s t : String) :
    smallForms (s ++ t) = smallForms s ++ smallForms t := by
  rw [smallForms, String.toList_append, List.flatMap_append]
  rfl

end Text

/-! ## Numbers of their own -/

variable {number run cs xs ys : List Char} {sep : Char}

/-- The number stands in the text with no digit before it and none after it. -/
def StandsAlone (number cs : List Char) : Prop :=
  ∃ before after, cs = before ++ number ++ after ∧
    (∀ c ∈ before.getLast?, c.isDigit = false) ∧ ∀ c ∈ after.head?, c.isDigit = false

/-- Among digits only the whole of them stands alone. -/
theorem standsAlone_iff_of_isDigit (hrun : ∀ c ∈ run, c.isDigit = true) :
    StandsAlone number run ↔ number = run := by
  constructor
  · rintro ⟨before, after, rfl, hbefore, hafter⟩
    obtain rfl : before = [] := List.getLast?_eq_none_iff.1 <| Option.eq_none_iff_forall_not_mem.2
      fun c hc => by simpa [hbefore c hc] using hrun c (by simp [List.mem_of_getLast? hc])
    obtain rfl : after = [] := List.head?_eq_none_iff.1 <| Option.eq_none_iff_forall_not_mem.2
      fun c hc => by simpa [hafter c hc] using hrun c (by simp [List.mem_of_head? hc])
    simp
  · rintro rfl
    exact ⟨[], [], by simp, by simp, by simp⟩

/-- A number does not reach over a character that is no digit, and such a character does not stand
in the way of it. -/
theorem standsAlone_append_cons (hdigits : ∀ c ∈ number, c.isDigit = true) (hne : number ≠ [])
    (hsep : sep.isDigit = false) :
    StandsAlone number (xs ++ sep :: ys) ↔ StandsAlone number xs ∨ StandsAlone number ys := by
  have hnot : sep ∉ number := fun hmem => by simpa [hsep] using hdigits sep hmem
  constructor
  · rintro ⟨before, after, hsplit, hbefore, hafter⟩
    rw [List.append_assoc] at hsplit
    rcases List.append_eq_append_iff.1 hsplit with ⟨gap, rfl, hys⟩ | ⟨gap, rfl, hrest⟩
    · -- the number stands after the character
      cases gap with
      | nil =>
        obtain ⟨c, cs, rfl⟩ := List.exists_cons_of_ne_nil hne
        obtain ⟨rfl, -⟩ := List.cons.inj hys
        exact absurd List.mem_cons_self hnot
      | cons c gap =>
        obtain ⟨rfl, rfl⟩ := List.cons.inj hys
        refine .inr ⟨gap, after, by simp, fun c hc => hbefore c ?_, hafter⟩
        rw [List.getLast?_append, List.getLast?_cons, Option.mem_def.1 hc]
        rfl
    · rcases List.append_eq_append_iff.1 hrest with ⟨more, rfl, hafter'⟩ | ⟨more, rfl, hys⟩
      · -- it stands before the character
        refine .inl ⟨before, more, by simp, hbefore, fun c hc => hafter c ?_⟩
        rw [hafter', List.head?_append, Option.mem_def.1 hc]
        rfl
      · -- the character is the first of what follows, or in the number
        cases more with
        | nil => exact .inl ⟨before, [], by simp, hbefore, by simp⟩
        | cons c more =>
          obtain ⟨rfl, -⟩ := List.cons.inj hys
          exact absurd (by simp) hnot
  · rintro (⟨before, after, rfl, hbefore, hafter⟩ | ⟨before, after, rfl, hbefore, hafter⟩)
    · refine ⟨before, after ++ sep :: ys, by simp, hbefore, fun c hc => ?_⟩
      cases after with
      | nil => simpa [← Option.some.inj hc] using hsep
      | cons d after => exact hafter c hc
    · -- before it stands what stood there, or the character if nothing did
      refine ⟨xs ++ sep :: before, after, by simp, fun c hc => ?_, hafter⟩
      rw [List.getLast?_append, List.getLast?_cons] at hc
      cases hlast : before.getLast? with
      | none =>
        rw [hlast] at hc
        simpa [← Option.some.inj hc] using hsep
      | some d =>
        rw [hlast] at hc
        exact hbefore c (hlast ▸ hc)

/-- Induction on the text, with the run that is being read before it. -/
theorem mem_digitRuns_iff (hdigits : ∀ c ∈ number, c.isDigit = true) (hne : number ≠ [])
    (hrun : ∀ c ∈ run, c.isDigit = true) :
    number ∈ digitRuns run cs ↔ StandsAlone number (run ++ cs) := by
  induction cs generalizing run with
  | nil =>
    rw [digitRuns, List.mem_singleton, List.append_nil, standsAlone_iff_of_isDigit hrun]
  | cons c cs ih =>
    rw [digitRuns]
    cases hc : c.isDigit with
    | true =>
      have hmore : ∀ d ∈ run ++ [c], d.isDigit = true := by
        simpa [hc, or_imp, forall_and] using hrun
      rw [if_pos rfl, ih hmore, List.append_assoc]
      rfl
    | false =>
      -- the run is over, and whatever follows stands apart from it
      rw [if_neg Bool.false_ne_true, List.mem_cons, ih (by simp),
        standsAlone_append_cons hdigits hne hc, standsAlone_iff_of_isDigit hrun]
      rfl

/-! ## Messages -/

/-- A text that would be taken for the report of a lost connection. -/
def NamesLoss (text : String) : Prop :=
  (∃ phrase ∈ lostConnectionPhrases, phrase.toList <:+: Text.smallForms text) ∨
    ∃ code ∈ lostConnectionCodes, StandsAlone code.toList (Text.smallForms text)

/-- The codes are numbers, so they are found as such. -/
theorem isDigit_of_lostConnectionCode : ∀ code ∈ lostConnectionCodes,
    (∀ c ∈ code.toList, c.isDigit = true) ∧ code.toList ≠ [] := by
  have hall : ∀ code ∈ lostConnectionCodes,
      code.toList.all Char.isDigit = true ∧ code.toList ≠ [] := by decide
  exact fun code hcode => ⟨List.all_eq_true.1 (hall code hcode).1, (hall code hcode).2⟩

/-- What the search finds, phrase by phrase and number by number, is what it looks for. -/
theorem isTransientMessage_iff {message : String} :
    isTransientMessage message = true ↔ NamesLoss message := by
  rw [isTransientMessage, Bool.or_eq_true, List.any_eq_true, List.any_eq_true]
  refine or_congr (exists_congr fun phrase => and_congr_right fun _ => Text.occurs_iff) ?_
  constructor
  · rintro ⟨run, hrun, hany⟩
    obtain ⟨code, hcode, heq⟩ := List.any_eq_true.1 hany
    obtain ⟨hdigits, hne⟩ := isDigit_of_lostConnectionCode code hcode
    rw [← eq_of_beq heq] at hrun
    exact ⟨code, hcode, (mem_digitRuns_iff hdigits hne (by simp)).1 hrun⟩
  · rintro ⟨code, hcode, halone⟩
    obtain ⟨hdigits, hne⟩ := isDigit_of_lostConnectionCode code hcode
    exact ⟨_, (mem_digitRuns_iff hdigits hne (by simp)).2 halone,
      List.any_eq_true.2 ⟨code, hcode, BEq.rfl⟩⟩

namespace StoreFailure

variable {message : String}

theorem isTransient_ofMessage : (ofMessage message).isTransient = isTransientMessage message := by
  unfold ofMessage
  split
  · next h =>
    rw [h]
    rfl
  · next h =>
    rw [Bool.not_eq_true] at h
    rw [h]
    rfl

theorem ofMessage_eq_transient_iff :
    ofMessage message = .transient message ↔ (ofMessage message).isTransient = true := by
  unfold ofMessage
  split <;> simp [isTransient]

theorem ofMessage_eq_permanent_iff :
    ofMessage message = .permanent message ↔ (ofMessage message).isTransient = false := by
  unfold ofMessage
  split <;> simp [isTransient]

end StoreFailure

/-- **A message names a loss where a part of it does.** What stands between apostrophes counts like
the rest. -/
theorem namesLoss_quote {before after : String} :
    NamesLoss (before ++ "'" ++ after) ↔ NamesLoss before ∨ NamesLoss after := by
  have hquote : ∀ phrase ∈ lostConnectionPhrases, '\'' ∉ phrase.toList := by decide
  -- the two parts are searched with an apostrophe between them, which neither search gets over
  have hsmall : Text.smallForms (before ++ "'" ++ after)
      = Text.smallForms before ++ '\'' :: Text.smallForms after := by
    rw [Text.smallForms_append, Text.smallForms_append, List.append_assoc]
    rfl
  have hphrase : (∃ phrase ∈ lostConnectionPhrases,
        phrase.toList <:+: Text.smallForms (before ++ "'" ++ after)) ↔
      (∃ phrase ∈ lostConnectionPhrases, phrase.toList <:+: Text.smallForms before) ∨
        ∃ phrase ∈ lostConnectionPhrases, phrase.toList <:+: Text.smallForms after := by
    rw [hsmall, ← exists_or]
    refine exists_congr fun phrase => ?_
    rw [← and_or_left]
    exact and_congr_right fun hmem => Text.infix_append_cons_iff (hquote phrase hmem)
  have hcode : (∃ code ∈ lostConnectionCodes,
        StandsAlone code.toList (Text.smallForms (before ++ "'" ++ after))) ↔
      (∃ code ∈ lostConnectionCodes, StandsAlone code.toList (Text.smallForms before)) ∨
        ∃ code ∈ lostConnectionCodes, StandsAlone code.toList (Text.smallForms after) := by
    rw [hsmall, ← exists_or]
    refine exists_congr fun code => ?_
    rw [← and_or_left]
    refine and_congr_right fun hmem => ?_
    obtain ⟨hdigits, hne⟩ := isDigit_of_lostConnectionCode code hmem
    exact standsAlone_append_cons hdigits hne rfl
  rw [NamesLoss, hphrase, hcode]
  exact or_or_or_comm

end PileCheck
