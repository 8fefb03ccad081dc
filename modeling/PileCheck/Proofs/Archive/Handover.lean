import PileCheck.Proofs.Archive.Basic
import PileCheck.Proofs.Check.Keeping

/-!
# Records that a duty waits for

Between a record that is handed over and its answer the conclusion of the request waits, and an
answer is told to the conclusion that is found by its request. That this is the right one is shown
here. Nothing else that a duty does takes it away or answers in its place (`Beside`), and there is
one conclusion for a request at most (`conclusion_unique`), so the answer finds it and takes no
other (`step_stored`).
-/

namespace PileCheck.Check.Duty

variable {d : Duty} {r : Recording}

/-! ## What a duty does without an answer -/

/-- Nothing was answered, and what was on its way to the store still is. -/
structure Beside (d d' : Duty) : Prop where
  journal : ∃ entries, d'.journal = d.journal ++ entries ∧
    ∀ request a, .answered request a ∉ entries
  storing : ∀ r, .storing r ∈ d.conclusions → .storing r ∈ d'.conclusions

theorem beside_of_quiet (d : Duty) {d' : Duty} (hjournal : d'.journal = d.journal)
    (hstoring : ∀ r, .storing r ∈ d.conclusions → .storing r ∈ d'.conclusions) : d.Beside d' :=
  ⟨⟨[], by rw [hjournal, List.append_nil], fun _ _ => List.not_mem_nil⟩, hstoring⟩

/-- An answer of the cache is for those that still ask. -/
theorem storing_mem_modify {l : List Conclusion} (h : .storing r ∈ l) (i : Nat)
    (a : Cache.Answers) : .storing r ∈ l.modify i (·.answer a) := by
  obtain ⟨j, hget⟩ := List.mem_iff_getElem?.1 h
  refine List.mem_iff_getElem?.2 ⟨j, ?_⟩
  rw [List.getElem?_modify, hget]
  by_cases hij : i = j <;> simp [hij, Conclusion.answer]

/-- What changes or goes at a place is not what was elsewhere. -/
theorem storing_mem_of_ne {l : List Conclusion} {e : Conclusion} {i : Nat} (h : .storing r ∈ l)
    (hget : l[i]? = some e) (hne : e ≠ .storing r) :
    .storing r ∈ l.eraseIdx i ∧ ∀ e', .storing r ∈ l.set i e' := by
  obtain ⟨before, after, hsplit, herase, hset, -⟩ := exists_split_of_getElem? hget
  have hmem : .storing r ∈ before ++ after := by
    rw [hsplit, List.mem_append, List.mem_cons] at h
    exact List.mem_append.2 (h.imp_right fun h => h.resolve_left (Ne.symm hne))
  refine ⟨herase ▸ hmem, fun e' => ?_⟩
  rw [hset, List.mem_append, List.mem_cons]
  exact (List.mem_append.1 hmem).imp_right .inr

/-- What handing a record over does to a duty. -/
theorem step_record {i : Nat} {c : Closing} {device : Option Device} {f : Findings}
    (hget : d.conclusions[i]? = some (.reading c device (.done f))) (m : Moment) :
    d.step (.record i m) = note { d with
        conclusions := d.conclusions.set i (.storing (c.recording d.desk.settings device f m)) }
      [.inserting c.session.request (c.recording d.desk.settings device f m).record] := by
  show d.record i m = _
  rw [record, hget]

/-- A conclusion that hands its record over takes the place of one that was reading. -/
theorem beside_record {i : Nat} {c : Closing} {device : Option Device} {f : Findings}
    (hget : d.conclusions[i]? = some (.reading c device (.done f))) (m : Moment) :
    d.Beside (d.step (.record i m)) := by
  rw [step_record hget]
  exact ⟨⟨_, rfl, by simp⟩, fun r hr => (storing_mem_of_ne hr hget nofun).2 _⟩

/-- No other act answers. Case by case of the act: triggers and their publishes have to do with
sessions, messages may add a conclusion, and an answer of the cache is for those that read. -/
theorem beside_step (d : Duty) {a : Act} (ha : Archive.passes a = true) : d.Beside (d.step a) := by
  cases a with
  | trigger device m => exact ⟨⟨_, rfl, by simp⟩, fun _ => id⟩
  | published i failure =>
    unfold step
    simp only
    split
    · exact ⟨⟨_, rfl, by simp⟩, fun _ => id⟩
    · exact d.beside_of_quiet rfl fun _ => id
  | receive payload m devices =>
    exact ⟨⟨_, rfl, by simp⟩, fun _ => List.mem_append_left _⟩
  | read i a => exact d.beside_of_quiet rfl fun _ hr => storing_mem_modify hr i a
  | expire now => exact ⟨⟨_, rfl, by simp⟩, fun _ => id⟩
  | record i m | stored i a => cases ha

/-! ## What goes through the store -/

/-- A request has one conclusion at most. -/
theorem Kept.conclusion_unique (h : Kept d) {e e' : Conclusion} (he : e ∈ d.conclusions)
    (he' : e' ∈ d.conclusions) (hrequest : e'.request = e.request) : e' = e := by
  obtain ⟨hat, -⟩ := h.of_conclusion he
  have hmem : e' ∈ d.conclusions.filter (·.request = e.request) :=
    List.mem_filter.2 ⟨he', by simp [hrequest]⟩
  rw [hat.conclusions] at hmem
  exact List.mem_singleton.1 hmem

/-- What is on its way to the store was handed over. -/
theorem Kept.inserting_mem (h : Kept d) (hr : .storing r ∈ d.conclusions) :
    .inserting r.closing.session.request r.record ∈ d.journal := by
  obtain ⟨-, hcourse⟩ := h.of_conclusion hr
  change Course r.closing.session.request _ _ (d.lifeline r.closing.session.request) at hcourse
  suffices hmem : .inserting r.closing.session.request r.record
      ∈ d.lifeline r.closing.session.request from (mem_lifeline.1 hmem).1
  generalize d.lifeline r.closing.session.request = l at hcourse ⊢
  cases hcourse with
  | storing => simp

/-- What is still being read was not. -/
theorem Kept.inserting_not_mem (h : Kept d) {c : Closing} {device : Option Device}
    {f : Cache.Reading Findings} (hc : .reading c device f ∈ d.conclusions) (record : Record) :
    .inserting c.session.request record ∉ d.journal := by
  obtain ⟨-, hcourse⟩ := h.of_conclusion hc
  intro hmem
  have hlifeline := mem_lifeline.2 ⟨hmem, rfl⟩
  change Course c.session.request _ _ (d.lifeline c.session.request) at hcourse
  generalize d.lifeline c.session.request = l at hcourse hlifeline
  cases hcourse with
  | reading => simp at hlifeline

/-- The conclusion that waits for the answer is found, and is the only one that goes. -/
theorem Kept.step_stored (h : Kept d) (hr : .storing r ∈ d.conclusions) (a : Sql.Answer) :
    ∃ i, d.conclusions.findIdx? (·.request = r.closing.session.request) = some i ∧
      (d.step (.stored i a)).journal = d.journal
        ++ [.answered r.closing.session.request a, .heard (r.outcome a)] ∧
      ∀ r', .storing r' ∈ d.conclusions →
        r'.closing.session.request ≠ r.closing.session.request →
        .storing r' ∈ (d.step (.stored i a)).conclusions := by
  cases hfind : d.conclusions.findIdx? (·.request = r.closing.session.request) with
  | none =>
    have hnone := List.findIdx?_eq_none_iff.1 hfind _ hr
    simp [Conclusion.request, Conclusion.closing] at hnone
  | some i =>
    obtain ⟨hi, hrequest, -⟩ := List.findIdx?_eq_some_iff_getElem.1 hfind
    -- requests have one conclusion each, so the one found is this one
    have hfound : d.conclusions[i] = .storing r :=
      h.conclusion_unique hr (List.getElem_mem hi) (of_decide_eq_true hrequest)
    have hget : d.conclusions[i]? = some (.storing r) := by
      rw [List.getElem?_eq_getElem hi, hfound]
    have hstep : d.step (.stored i a) = note { d with conclusions := d.conclusions.eraseIdx i }
        [.answered r.closing.session.request a, .heard (r.outcome a)] := by
      show d.stored i a = _
      rw [Duty.stored, hget]
    refine ⟨i, rfl, by rw [hstep]; rfl, fun r' hr' hne => ?_⟩
    rw [hstep]
    refine (storing_mem_of_ne hr' hget fun hsame => ?_).1
    cases hsame
    exact hne rfl

end PileCheck.Check.Duty
