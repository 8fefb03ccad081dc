import PileCheck.Proofs.Check.Course

/-!
# What can happen to a request

An act does one of four things to a request: its session leaves the table (`Kept.leave`), a new
session enters it (`Kept.enter`), a session in it is touched (`Kept.touch`), or its conclusion goes
on (`Kept.conclude`). Each is said here through the view of the table (`session?`) and through the
journal, so that it holds of whatever code has this effect.

The common part is `Kept.of_move`: entries about one request leave the courses of the others alone,
and what is left to show is the course of that one.
-/

namespace PileCheck.Check.Duty

variable {d d' : Duty} {request : Nat} {k : String} {s : Session} {entries : List Entry}

/-- Entries that belong to one request at most and give no number out. -/
def SpeakOf (request : Nat) (entries : List Entry) : Prop :=
  ∀ x ∈ entries, (x.request? = none ∨ x.request? = some request) ∧ ∀ r k, x ≠ .allocated r k

/-- The part of some entries that belongs to a request. -/
def partOf (request : Nat) (entries : List Entry) : List Entry :=
  entries.filter fun e => e.request? = some request

/-- Entries of one request are all part of its lifeline. -/
theorem partOf_of_forall (h : ∀ x ∈ entries, x.request? = some request) :
    partOf request entries = entries :=
  List.filter_eq_self.2 fun x hx => by simp [h x hx]

/-- And of no other one. -/
theorem SpeakOf.partOf_of_ne (h : SpeakOf request entries) {other : Nat} (hne : other ≠ request) :
    partOf other entries = [] := by
  refine List.filter_eq_nil_iff.2 fun x hx hother => ?_
  have hother : x.request? = some other := by simpa using hother
  rcases (h x hx).1 with hnone | hsome
  · rw [hnone] at hother
    cases hother
  · rw [hsome] at hother
    exact hne (Option.some.inj hother).symm

theorem partOf_of_quiet (h : ∀ r, SpeakOf r entries) (request : Nat) :
    partOf request entries = [] :=
  -- they speak of another request as well
  (h (request + 1)).partOf_of_ne (by omega)

/-- No number is given out in them. -/
theorem SpeakOf.allocated_mem (h : SpeakOf request entries)
    (hjournal : d'.journal = d.journal ++ entries) {r : Nat}
    (hr : .allocated r k ∈ d'.journal) : .allocated r k ∈ d.journal := by
  rw [hjournal] at hr
  rcases List.mem_append.1 hr with hr | hr
  · exact hr
  · exact absurd rfl ((h _ hr).2 r k)

/-- A conclusion belongs to its own request and to no other. -/
theorem filter_toList {c : Option Conclusion} (hc : ∀ x ∈ c, x.request = request) (other : Nat) :
    c.toList.filter (·.request = other) = if other = request then c.toList else [] := by
  cases c with
  | none =>
    show [] = if other = request then [] else []
    rw [ite_self]
  | some x =>
    have hx : x.request = request := hc x rfl
    by_cases hother : other = request
    · simp [hx, hother]
    · simp [hx, hother, Ne.symm hother]

/-- What is added to the journal is added to the lifelines it belongs to. -/
theorem lifeline_append (hjournal : d'.journal = d.journal ++ entries) (request : Nat) :
    d'.lifeline request = d.lifeline request ++ partOf request entries := by
  simp [lifeline, partOf, hjournal]

namespace Kept

/-! ## Moves of one request -/

/-- An act that adds entries about one request and leaves the others where they are keeps the
invariant, if it keeps the course of that one. -/
theorem of_move (h : Kept d) (hjournal : d'.journal = d.journal ++ entries)
    (hspeak : SpeakOf request entries) (hnext : d'.desk.nextRequest = d.desk.nextRequest)
    (hrequest : d.lifeline request ≠ [])
    (hsessions : ∀ k s, d'.desk.session? k = some s →
      s.device = k ∧ (s.state = .sent ∨ s.state = .started) ∧
        ∃ old, d.desk.session? k = some old ∧ old.request = s.request)
    (htable : ∀ other ≠ request, ∀ k, (∃ s, d.desk.session? k = some s ∧ s.request = other) →
      ∃ s, d'.desk.session? k = some s ∧ s.request = other)
    (hconclusions : ∀ other ≠ request, d'.conclusions.filter (·.request = other)
      = d.conclusions.filter (·.request = other))
    (hcourse : ∃ key e, d'.At request key e ∧
      Course request key e (d.lifeline request ++ partOf request entries)) : Kept d' where
  course other := by
    by_cases hother : other = request
    · subst hother
      rwa [lifeline_append hjournal]
    -- nothing was said of another request, and it is where it was
    · refine h.course_of_frame (fun k => ⟨?_, htable other hother k⟩) (hconclusions other hother) ?_
      · rintro ⟨s, hs, rfl⟩
        exact (hsessions k s hs).2.2
      · rw [lifeline_append hjournal, hspeak.partOf_of_ne hother, List.append_nil]
  keyed hs := (hsessions _ _ hs).1
  live hs := (hsessions _ _ hs).2.1
  counting := hnext ▸ h.counting
  born other := by
    -- no number is given out, and the lifeline of `request` had begun already
    rw [hnext, ← h.born other, lifeline_append hjournal]
    by_cases hother : other = request
    · subst hother
      simp [hrequest]
    · rw [hspeak.partOf_of_ne hother, List.append_nil]
  latest hs := by
    intro r hr
    obtain ⟨old, hold, hsame⟩ := (hsessions _ _ hs).2.2
    exact hsame ▸ h.latest hold (hspeak.allocated_mem hjournal hr)

/-- Nothing happens but that observers hear something that is of no request's course. -/
theorem quiet (h : Kept d) (entries : List Entry) (hdesk : d'.desk = d.desk)
    (hconclusions : d'.conclusions = d.conclusions)
    (hjournal : d'.journal = d.journal ++ entries) (hspeak : ∀ r, SpeakOf r entries) : Kept d' := by
  -- entries of no request leave every lifeline as it was
  have hlifeline : ∀ r, d'.lifeline r = d.lifeline r := by
    intro r
    rw [lifeline_append hjournal, partOf_of_quiet hspeak, List.append_nil]
  refine { course := fun r => h.course_of_frame ?table ?conclusions (hlifeline r),
           keyed := hdesk ▸ h.keyed, live := hdesk ▸ h.live, counting := hdesk ▸ h.counting,
           born := fun r => ?born, latest := ?latest }
  case table =>
    rw [hdesk]
    exact fun k => Iff.rfl
  case conclusions => rw [hconclusions]
  case born =>
    rw [hlifeline, hdesk]
    exact h.born r
  case latest =>
    rw [hdesk]
    intro k s hs r hr
    exact h.latest hs ((hspeak r).allocated_mem hjournal hr)

/-- A session leaves the table, perhaps for a conclusion. -/
theorem leave (h : Kept d) (entries : List Entry) (hs : d.desk.session? k = some s)
    (hsessions : ∀ k', d'.desk.session? k' = if k' = k then none else d.desk.session? k')
    (hnext : d'.desk.nextRequest = d.desk.nextRequest) {e : Option Conclusion}
    (hconclusions : d'.conclusions = d.conclusions ++ e.toList)
    (he : ∀ c ∈ e, c.request = s.request)
    (hjournal : d'.journal = d.journal ++ entries) (hspeak : SpeakOf s.request entries)
    (hcourse : Course s.request none e (.allocated s.request k :: partOf s.request entries)) :
    Kept d' := by
  obtain ⟨hat, hlifeline⟩ := h.of_session hs
  -- what is in the table now was there, under another key
  have hstill : ∀ k' s', d'.desk.session? k' = some s' →
      k' ≠ k ∧ d.desk.session? k' = some s' := by
    intro k' s' hs'
    rw [hsessions] at hs'
    by_cases hk : k' = k <;> simp_all
  refine h.of_move hjournal hspeak hnext (by simp [hlifeline]) ?_ ?_ ?_ ?_
  · intro k' s' hs'
    obtain ⟨-, hold⟩ := hstill k' s' hs'
    exact ⟨h.keyed hold, h.live hold, s', hold, rfl⟩
  · rintro other hother k' ⟨s', hs', rfl⟩
    have hk : k' ≠ k := by
      rintro rfl
      rw [hs] at hs'
      exact hother (congrArg Session.request (Option.some.inj hs')).symm
    exact ⟨s', by rw [hsessions, if_neg hk, hs'], rfl⟩
  · intro other hother
    rw [hconclusions, List.filter_append, filter_toList he, if_neg hother, List.append_nil]
  · refine ⟨none, e, ⟨fun k' => ⟨?_, nofun⟩, ?_⟩, by rw [hlifeline]; exact hcourse⟩
    · -- the only key that the request had is empty now
      rintro ⟨s', hs', hreq⟩
      obtain ⟨hk, hold⟩ := hstill k' s' hs'
      have hkey := (hat.table k').1 ⟨s', hold, hreq⟩
      exact absurd (Option.some.inj hkey).symm hk
    · rw [hconclusions, List.filter_append, hat.conclusions, filter_toList he, if_pos rfl]
      rfl

/-- A session in the table is replaced by a later state of itself. -/
theorem touch (h : Kept d) (hs : d.desk.session? k = some s) {s' : Session}
    (hrequest : s'.request = s.request) (hdevice : s'.device = k)
    (hlive : s'.state = .sent ∨ s'.state = .started)
    (hsessions : ∀ k', d'.desk.session? k' = if k' = k then some s' else d.desk.session? k')
    (hnext : d'.desk.nextRequest = d.desk.nextRequest)
    (hconclusions : d'.conclusions = d.conclusions)
    (hjournal : d'.journal = d.journal ++ entries) (hspeak : ∀ r, SpeakOf r entries) :
    Kept d' := by
  obtain ⟨hat, hlifeline⟩ := h.of_session hs
  -- the key holds the same request as before, so no request has moved
  have htable : ∀ r k', (∃ t, d'.desk.session? k' = some t ∧ t.request = r) ↔
      ∃ t, d.desk.session? k' = some t ∧ t.request = r := by
    intro r k'
    rw [hsessions]
    by_cases hk : k' = k
    · subst hk
      simp [hs, hrequest]
    · simp [hk]
  refine h.of_move hjournal (hspeak s.request) hnext (by simp [hlifeline]) ?_ ?_ ?_ ?_
  · intro k' t ht
    rw [hsessions] at ht
    by_cases hk : k' = k
    · subst hk
      obtain rfl : s' = t := by simpa using ht
      exact ⟨hdevice, hlive, s, hs, hrequest.symm⟩
    · rw [if_neg hk] at ht
      exact ⟨h.keyed ht, h.live ht, t, ht, rfl⟩
  · intro other _ k' hother
    exact (htable other k').2 hother
  · intro other _
    rw [hconclusions]
  · refine ⟨some k, none, ⟨fun k' => (htable _ k').trans (hat.table k'), ?_⟩, ?_⟩
    · rw [hconclusions, hat.conclusions]
    · rw [hlifeline, partOf_of_quiet hspeak]
      exact .active k

/-- Nothing was said of a number that was not given out. -/
theorem lifeline_eq_nil (h : Kept d) (hnext : d.desk.nextRequest ≤ request) :
    d.lifeline request = [] := by
  cases hl : d.lifeline request with
  | nil => rfl
  | cons x rest =>
    have hborn := (h.born request).1 (by simp [hl])
    omega

/-- A new session enters the table under a key that is free. -/
theorem enter (h : Kept d) (hfree : d.desk.session? k = none)
    (hrequest : s.request = d.desk.nextRequest) (hdevice : s.device = k) (hstate : s.state = .sent)
    (hsessions : ∀ k', d'.desk.session? k' = if k' = k then some s else d.desk.session? k')
    (hnext : d'.desk.nextRequest = d.desk.nextRequest + 1)
    (hconclusions : d'.conclusions = d.conclusions)
    (hjournal : d'.journal = d.journal ++ [.allocated s.request k]) : Kept d' := by
  -- no number above the last has been given out, so this request has no lifeline yet
  have hunborn : d.lifeline s.request = [] := h.lifeline_eq_nil (by omega)
  have hlifeline : ∀ r, d'.lifeline r
      = d.lifeline r ++ if r = s.request then [.allocated s.request k] else [] := by
    intro r
    rw [lifeline_append hjournal]
    by_cases hr : r = s.request
    · simp [partOf, Entry.request?, hr]
    · simp [partOf, Entry.request?, hr, Ne.symm hr]
  -- the new session under its key, and under every other what was there
  have holder : ∀ {k' s'}, d'.desk.session? k' = some s' →
      k' = k ∧ s' = s ∨ k' ≠ k ∧ d.desk.session? k' = some s' := by
    intro k' s' hs'
    rw [hsessions] at hs'
    by_cases hk : k' = k
    · exact .inl ⟨hk, by simpa [hk, eq_comm] using hs'⟩
    · exact .inr ⟨hk, by simpa [hk] using hs'⟩
  refine { course := fun r => ?course, keyed := fun hs' => ?keyed, live := fun hs' => ?live,
           counting := by omega, born := fun r => ?born, latest := fun hs' r hr => ?latest }
  case course =>
    by_cases hr : r = s.request
    · -- the new request was nowhere, and is now under its device
      obtain ⟨key, e, hat, hcourse⟩ := h.course s.request
      rw [hunborn] at hcourse
      obtain ⟨rfl, rfl⟩ := hcourse.of_nil
      refine ⟨some k, none, ⟨fun k' => ⟨?_, ?_⟩, ?_⟩, ?_⟩
      · rintro ⟨s', hs', hreq⟩
        rcases holder hs' with ⟨rfl, -⟩ | ⟨-, hold⟩
        · rfl
        · exact absurd ((hat.table k').1 ⟨s', hold, hreq.trans hr⟩) nofun
      · rintro hk
        obtain rfl := Option.some.inj hk
        exact ⟨s, by simp [hsessions], hr.symm⟩
      · rw [hconclusions, hr, hat.conclusions]
      · rw [hlifeline, if_pos hr, hr, hunborn]
        exact .active k
    · refine h.course_of_frame (fun k' => ?_) (by rw [hconclusions]) ?_
      · rw [hsessions]
        by_cases hk : k' = k
        · subst hk
          simp [hfree, Ne.symm hr]
        · simp [hk]
      · rw [hlifeline, if_neg hr, List.append_nil]
  case keyed =>
    rcases holder hs' with ⟨rfl, rfl⟩ | ⟨-, hold⟩
    · exact hdevice
    · exact h.keyed hold
  case live =>
    rcases holder hs' with ⟨-, rfl⟩ | ⟨-, hold⟩
    · exact .inl hstate
    · exact h.live hold
  case born =>
    have hborn := h.born r
    have hcounting := h.counting
    rw [hlifeline, hnext]
    by_cases hr : r = s.request
    · simp [hr]
      omega
    · simp only [hr, if_false, List.append_nil, hborn]
      omega
  case latest =>
    rw [hjournal] at hr
    rcases List.mem_append.1 hr with hr | hr
    · -- numbers given out before are smaller
      have hborn := (h.born r).1 (List.ne_nil_of_mem (mem_lifeline.2 ⟨hr, rfl⟩))
      rcases holder hs' with ⟨-, rfl⟩ | ⟨-, hold⟩
      · omega
      · exact h.latest hold hr
    · obtain ⟨rfl, rfl⟩ : r = s.request ∧ _ = k := by simpa using hr
      rcases holder hs' with ⟨-, rfl⟩ | ⟨hk, -⟩
      · exact Nat.le_refl _
      · exact absurd rfl hk

/-- A conclusion goes on, or is over. -/
theorem conclude (h : Kept d) {before after : List Conclusion} {e : Conclusion}
    (hsplit : d.conclusions = before ++ e :: after) {c : Option Conclusion}
    (hrequest : ∀ x ∈ c, x.request = e.request)
    (hconclusions : d'.conclusions = before ++ (c.toList ++ after)) (hdesk : d'.desk = d.desk)
    (hjournal : d'.journal = d.journal ++ entries) (hspeak : SpeakOf e.request entries)
    (hcourse : Course e.request none (some e) (d.lifeline e.request) →
      Course e.request none c (d.lifeline e.request ++ partOf e.request entries)) : Kept d' := by
  obtain ⟨hat, hbefore⟩ := h.of_conclusion (e := e) (by simp [hsplit])
  refine h.of_move hjournal hspeak (by rw [hdesk]) ?_ ?_ ?_ ?_ ?_
  · -- a conclusion is always preceded by an allocation
    intro hnil
    rw [hnil] at hbefore
    exact absurd hbefore.of_nil.2 nofun
  · intro k s hs
    rw [hdesk] at hs
    exact ⟨h.keyed hs, h.live hs, s, hs, rfl⟩
  · intro other _ k hother
    rwa [hdesk]
  · intro other hother
    have hnone := filter_toList hrequest other
    rw [if_neg hother] at hnone
    rw [hconclusions, hsplit]
    simp [List.filter_append, hnone, Ne.symm hother]
  · refine ⟨none, c, ⟨fun k => ?_, ?_⟩, hcourse hbefore⟩
    · rw [hdesk]
      exact hat.table k
    · -- it was the only one of its request
      have honly := hat.conclusions
      rw [hsplit] at honly
      simp only [List.filter_append, List.filter_cons, decide_true, if_true] at honly
      have hlength := congrArg List.length honly
      simp only [List.length_append, List.length_cons, Option.toList_some, List.length_nil]
        at hlength
      have hb : before.filter (·.request = e.request) = [] :=
        List.eq_nil_of_length_eq_zero (by omega)
      have ha : after.filter (·.request = e.request) = [] :=
        List.eq_nil_of_length_eq_zero (by omega)
      rw [hconclusions, List.filter_append, List.filter_append, hb, ha, filter_toList hrequest,
        if_pos rfl, List.nil_append, List.append_nil]

end Kept
end PileCheck.Check.Duty
