import PileCheck.Proofs.Check.Grounds

/-!
# Where a request stands

Each request that was given out stands in exactly one of five places, and observers have heard one
result of it if it is finished and none before. Both are read off its course: `Course.standing` and
`Course.results` are the case analyses, and what `Kept` and `Grounded` say of a run turns the
course back into what the table, the conclusions and the journal hold.
-/

namespace PileCheck.Check

/-- Where a request is, or what has become of it. -/
inductive Standing where
  | active
  | superseded
  | withdrawn
  | concluding
  | finished
  deriving DecidableEq, Repr

/-- Where a request stands in a duty. -/
def Duty.Stands (d : Duty) (request : Nat) : Standing → Prop
  | .active => ∃ s ∈ d.desk.sessions.values, s.request = request
  | .superseded => ∃ device later, request < later ∧ .allocated request device ∈ d.journal ∧
      .allocated later device ∈ d.journal ∧ .superseded request later ∈ d.journal
  | .withdrawn => .refused request ∈ d.journal ∧ .withdrawn request ∈ d.journal
  | .concluding => (∃ payload, .ended request payload ∈ d.journal) ∧
      ∃ e ∈ d.conclusions, e.request = request
  | .finished => (∃ a, .answered request a ∈ d.journal) ∨
      ∃ device, .heard (.timedOut device request) ∈ d.journal

namespace Course

variable {request : Nat} {key : Option String} {e : Option Conclusion} {l : List Entry}

/-- Where a request stands by its course alone. -/
def Tells (request : Nat) (key : Option String) (e : Option Conclusion) (l : List Entry) :
    Standing → Prop
  | .active => key ≠ none
  | .superseded => ∃ later, .superseded request later ∈ l
  | .withdrawn => .withdrawn request ∈ l
  | .concluding => e ≠ none
  | .finished => (∃ a, .answered request a ∈ l) ∨ ∃ device, .heard (.timedOut device request) ∈ l

/-- A course that has begun tells one standing. -/
theorem standing (h : Course request key e l) (hl : l ≠ []) :
    ∃ c, Tells request key e l c ∧ ∀ c', Tells request key e l c' → c' = c := by
  cases h with
  | unborn => exact absurd rfl hl
  | active device => exact ⟨.active, by simp [Tells], fun c' => by cases c' <;> simp [Tells]⟩
  | superseded device later =>
    exact ⟨.superseded, by simp [Tells], fun c' => by cases c' <;> simp [Tells]⟩
  | withdrawn device => exact ⟨.withdrawn, by simp [Tells], fun c' => by cases c' <;> simp [Tells]⟩
  | timedOut device => exact ⟨.finished, by simp [Tells], fun c' => by cases c' <;> simp [Tells]⟩
  | reading => exact ⟨.concluding, by simp [Tells], fun c' => by cases c' <;> simp [Tells]⟩
  | storing => exact ⟨.concluding, by simp [Tells], fun c' => by cases c' <;> simp [Tells]⟩
  | recorded => exact ⟨.finished, by simp [Tells], fun c' => by cases c' <;> simp [Tells]⟩

/-- A result is the last that is heard of a request, and makes it finished. -/
theorem results (h : Course request key e l) :
    (Tells request key e l .finished → l.countP (·.isResultOf request) = 1) ∧
      (¬Tells request key e l .finished → l.countP (·.isResultOf request) = 0) := by
  cases h <;> simp [Tells, Entry.isResultOf]

/-- A request with a conclusion has ended on a message. -/
theorem ended_of_conclusion {c : Conclusion} (h : Course request key (some c) l) :
    ∃ payload, .ended request payload ∈ l := by
  cases h with
  | reading payload => exact ⟨payload, by simp⟩
  | storing payload => exact ⟨payload, by simp⟩

/-- A request of which anything is said was given out for a device. -/
theorem allocated_of_mem (h : Course request key e l) {x : Entry} (hx : x ∈ l) :
    ∃ device, .allocated request device ∈ l := by
  cases h with
  | unborn => cases hx
  | _ => exact ⟨_, List.mem_cons_self⟩

end Course

namespace Duty

variable {d : Duty} {request : Nat}

/-- The results of a request are counted on its own course. -/
theorem results_eq (d : Duty) (request : Nat) :
    d.results request = (d.lifeline request).countP (·.isResultOf request) := by
  rw [results, lifeline, List.countP_filter]
  -- a result of the request belongs to its course, so the filter takes none away
  refine List.countP_congr fun x _ => ?_
  rcases x with _ | _ | _ | _ | _ | _ | _ | ⟨_ | _ | _⟩ <;> simp [Entry.isResultOf, Entry.request?]

/-- A request has a session if it is under a key. -/
theorem At.mem_values_iff {key : Option String} {e : Option Conclusion} (h : d.At request key e) :
    (∃ s ∈ d.desk.sessions.values, s.request = request) ↔ key ≠ none := by
  constructor
  · rintro ⟨s, hs, hrequest⟩
    obtain ⟨k, hk⟩ := Table.mem_values_iff.1 hs
    rw [(h.table k).1 ⟨s, hk, hrequest⟩]
    exact nofun
  · intro hkey
    obtain ⟨k, rfl⟩ := Option.ne_none_iff_exists'.1 hkey
    obtain ⟨s, hs, hrequest⟩ := (h.table k).2 rfl
    exact ⟨s, Table.mem_values_iff.2 ⟨k, hs⟩, hrequest⟩

/-- A request has a conclusion under way if that is where it is. -/
theorem At.mem_conclusions_iff {key : Option String} {e : Option Conclusion}
    (h : d.At request key e) : (∃ c ∈ d.conclusions, c.request = request) ↔ e ≠ none := by
  -- the conclusions of the request are `e`, if there is one
  have hmem : ∀ c, (c ∈ d.conclusions ∧ c.request = request) ↔ e = some c := by
    intro c
    have htoList : c ∈ e.toList ↔ e = some c := Option.mem_toList
    rw [← htoList, ← h.conclusions, List.mem_filter, decide_eq_true_iff]
  constructor
  · rintro ⟨c, hc, hrequest⟩
    rw [(hmem c).1 ⟨hc, hrequest⟩]
    exact nofun
  · intro he
    obtain ⟨c, rfl⟩ := Option.ne_none_iff_exists'.1 he
    exact ⟨c, (hmem c).2 rfl⟩

/-- A request stands where its course tells. -/
theorem Grounded.stands_iff (h : d.Grounded) {key : Option String}
    {e : Option Conclusion} (hat : d.At request key e)
    (hcourse : Course request key e (d.lifeline request)) (c : Standing) :
    d.Stands request c ↔ Course.Tells request key e (d.lifeline request) c := by
  cases c with
  | active => exact hat.mem_values_iff
  | superseded =>
    constructor
    · rintro ⟨-, later, -, -, -, hmem⟩
      exact ⟨later, mem_lifeline.2 ⟨hmem, rfl⟩⟩
    · -- the course names the later request, and the journal says that it was given out
      rintro ⟨later, hmem⟩
      have hmem := (mem_lifeline.1 hmem).1
      obtain ⟨hlt, device, hrequest, hlater⟩ := h _ hmem
      exact ⟨device, later, hlt, hrequest, hlater, hmem⟩
  | withdrawn =>
    constructor
    · rintro ⟨-, hmem⟩
      exact mem_lifeline.2 ⟨hmem, rfl⟩
    · intro hmem
      have hmem := (mem_lifeline.1 hmem).1
      exact ⟨h _ hmem, hmem⟩
  | concluding =>
    constructor
    · rintro ⟨-, hconclusion⟩
      exact hat.mem_conclusions_iff.1 hconclusion
    · intro he
      obtain ⟨c, rfl⟩ := Option.ne_none_iff_exists'.1 he
      obtain ⟨payload, hended⟩ := hcourse.ended_of_conclusion
      exact ⟨⟨payload, (mem_lifeline.1 hended).1⟩, hat.mem_conclusions_iff.2 he⟩
  | finished => simp [Stands, Course.Tells, mem_lifeline, Entry.request?]

/-- A session of the table stands under its own device, is live, and is the last that its device was
given. -/
theorem Kept.session (h : Kept d) {k : String} {s : Session}
    (hs : (k, s) ∈ d.desk.sessions.entries) :
    s.device = k ∧ (s.state = .sent ∨ s.state = .started) ∧
      .allocated s.request k ∈ d.journal ∧
      ∀ request, .allocated request k ∈ d.journal → request ≤ s.request := by
  have hs : d.desk.session? k = some s := Table.find?_eq_some_iff.2 hs
  exact ⟨h.keyed hs, h.live hs, h.allocated_of_session hs, fun request => h.latest hs⟩

/-- The numbers that were given out are those that the desk has counted past. -/
theorem Kept.allocated_iff (h : Kept d) (request : Nat) :
    (∃ device, .allocated request device ∈ d.journal) ↔
      1 ≤ request ∧ request < d.desk.nextRequest := by
  rw [← h.born request]
  constructor
  · rintro ⟨device, hmem⟩
    exact List.ne_nil_of_mem (mem_lifeline.2 ⟨hmem, rfl⟩)
  · intro hne
    obtain ⟨key, e, -, hcourse⟩ := h.course request
    obtain ⟨x, hx⟩ := List.exists_mem_of_ne_nil _ hne
    obtain ⟨device, hmem⟩ := hcourse.allocated_of_mem hx
    exact ⟨device, (mem_lifeline.1 hmem).1⟩

/-- **Every request has one standing.** After any acts in any order, the table holds live sessions
under their own devices, each the last of its device; each number given out stands in one place; and
observers have heard one result of a finished request and none of any other. -/
theorem requests_stand (settings : Settings) (acts : List Act) :
    let d := (start settings).run acts
    (∀ k s, (k, s) ∈ d.desk.sessions.entries → s.device = k ∧
      (s.state = .sent ∨ s.state = .started) ∧ .allocated s.request k ∈ d.journal ∧
      ∀ request, .allocated request k ∈ d.journal → request ≤ s.request) ∧
    (∀ request, (∃ device, .allocated request device ∈ d.journal) ↔
      1 ≤ request ∧ request < d.desk.nextRequest) ∧
    (∀ request device, .allocated request device ∈ d.journal →
      ∃ c, d.Stands request c ∧ ∀ c', d.Stands request c' → c' = c) ∧
    (∀ request, d.Stands request .finished → d.results request = 1) ∧
    (∀ request, ¬d.Stands request .finished → d.results request = 0) := by
  intro d
  have hkept : Kept d := kept_run settings acts
  have hgrounded : d.Grounded := grounded_run settings acts
  refine ⟨fun k s hs => hkept.session hs, hkept.allocated_iff, ?_, ?_, ?_⟩
  · -- a request that was given out is somewhere on its course, and only there
    intro request device hmem
    obtain ⟨key, e, hat, hcourse⟩ := hkept.course request
    have hne := List.ne_nil_of_mem (mem_lifeline.2 ⟨hmem, rfl⟩ : _ ∈ d.lifeline request)
    obtain ⟨c, hc, honly⟩ := hcourse.standing hne
    refine ⟨c, (hgrounded.stands_iff hat hcourse c).2 hc, fun c' hc' => honly c' ?_⟩
    exact (hgrounded.stands_iff hat hcourse c').1 hc'
  · intro request hfinished
    obtain ⟨key, e, hat, hcourse⟩ := hkept.course request
    rw [results_eq]
    exact hcourse.results.1 ((hgrounded.stands_iff hat hcourse _).1 hfinished)
  · intro request hnot
    obtain ⟨key, e, hat, hcourse⟩ := hkept.course request
    rw [results_eq]
    exact hcourse.results.2 fun h => hnot ((hgrounded.stands_iff hat hcourse _).2 h)

end Duty
end PileCheck.Check
