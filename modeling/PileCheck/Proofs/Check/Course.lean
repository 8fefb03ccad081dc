import PileCheck.Proofs.Check.Duty
import PileCheck.Proofs.Table

/-!
# The course of a request

Whatever the order of the calls, the journal tells one of eight stories about a request, and the
table and the conclusions under way tell which.

* `Course` is the list of these stories. A request whose session is in the table has only been
  allocated; one that left it was superseded, withdrawn, timed out or ended; and one that ended has
  its record made, handed over, answered and announced, in this order and once each.
* `Kept` is the invariant: every request is on a course that agrees with where it is now. Beside it
  stand the facts about the table that the next act needs.
* What an act does to the courses is in the modules on moves and acts.
-/

namespace PileCheck

/-- The record is of a device and its details name a request. -/
def Record.IsOf (r : Record) (device : String) (request : Nat) : Prop :=
  r.equipNo = device ∧
    ∃ document : Json, r.details = document.render ∧
      document.member? "requestId" = some (Json.nat request)

namespace Check

/-! ## What a last message says -/

/-- Whether a message says that its check went well: a notice by what it reports, a final result by
its own word. -/
def Inbound.saysWell : Inbound → Bool
  | .notice n => !(Desk.Notice.reported n).isFailure
  | .final r => r.succeeded
  | .ignored _ => false

/-- A payload that is no message does not say so. -/
def saysWell (payload : ByteArray) : Bool :=
  match Inbound.parse payload with
  | .ok message => message.saysWell
  | .error _ => false

/-- The state of a session that ends on a payload. -/
def closingState (payload : ByteArray) : SessionState :=
  if saysWell payload then .completed else .failed

/-- The state that is announced, which takes the store into account. -/
def finalState (payload : ByteArray) (a : Sql.Answer) : SessionState :=
  if saysWell payload ∧ a.isOk then .completed else .failed

/-! ## Courses -/

/-- What the journal says of a request whose session is under a key, or whose conclusion is under
way, or neither. -/
inductive Course (request : Nat) : Option String → Option Conclusion → List Entry → Prop where
  | unborn : Course request none none []
  | active (device : String) : Course request (some device) none [.allocated request device]
  | superseded (device : String) (later : Nat) :
      Course request none none [.allocated request device, .superseded request later]
  | withdrawn (device : String) :
      Course request none none [.allocated request device, .withdrawn request]
  | timedOut (device : String) :
      Course request none none [.allocated request device, .heard (.timedOut device request),
        .heard (.result device request .failed (-1) 0 0)]
  | reading (payload : ByteArray) (c : Closing) (device : Option Device)
      (r : Cache.Reading Findings) (hrequest : c.session.request = request)
      (hstate : c.session.state = closingState payload) :
      Course request none (some (.reading c device r))
        [.allocated request c.session.device, .ended request payload]
  | storing (payload : ByteArray) (r : Recording) (hrequest : r.closing.session.request = request)
      (hstate : r.closing.session.state = closingState payload)
      (hrecord : r.record.IsOf r.closing.session.device request) :
      Course request none (some (.storing r))
        [.allocated request r.closing.session.device, .ended request payload,
          .inserting request r.record]
  | recorded (payload : ByteArray) (device : String) (record : Record) (a : Sql.Answer)
      (code ok bad : Int) (hrecord : record.IsOf device request) :
      Course request none none
        [.allocated request device, .ended request payload, .inserting request record,
          .answered request a,
          .heard (.result device request (finalState payload a) code ok bad)]

namespace Course

variable {request : Nat} {key : Option String} {e : Option Conclusion} {l : List Entry}

/-- The session of a request in the table has only been allocated. -/
theorem of_key {k : String} (h : Course request (some k) e l) :
    e = none ∧ l = [.allocated request k] := by
  cases h with
  | active => exact ⟨rfl, rfl⟩

theorem of_nil (h : Course request key e []) : key = none ∧ e = none := by
  cases h with
  | unborn => exact ⟨rfl, rfl⟩

theorem key_eq_none {c : Conclusion} (h : Course request key (some c) l) : key = none := by
  cases h <;> rfl

end Course

namespace Duty

variable {d d' : Duty} {request : Nat} {x : Entry}

/-! ## Lifelines -/

theorem mem_lifeline : x ∈ d.lifeline request ↔ x ∈ d.journal ∧ x.request? = some request := by
  simp [lifeline]

/-- Where a request is: under a key of the table, or in a conclusion under way. -/
structure At (d : Duty) (request : Nat) (key : Option String) (e : Option Conclusion) : Prop where
  table : ∀ k, (∃ s, d.desk.session? k = some s ∧ s.request = request) ↔ key = some k
  conclusions : d.conclusions.filter (·.request = request) = e.toList

/-! ## The invariant -/

/-- Every request is on a course, every session stands under its own device in one of the two live
states, the numbers that the journal knows are those that were given out, and the session of a
device is of its latest request. -/
structure Kept (d : Duty) : Prop where
  course : ∀ request, ∃ key e, d.At request key e ∧ Course request key e (d.lifeline request)
  keyed : ∀ {k s}, d.desk.session? k = some s → s.device = k
  live : ∀ {k s}, d.desk.session? k = some s → s.state = .sent ∨ s.state = .started
  counting : 1 ≤ d.desk.nextRequest
  born : ∀ request, d.lifeline request ≠ [] ↔ 1 ≤ request ∧ request < d.desk.nextRequest
  latest : ∀ {k s}, d.desk.session? k = some s →
    ∀ {request}, .allocated request k ∈ d.journal → request ≤ s.request

theorem kept_start (settings : Settings) : Kept (start settings) where
  course request := ⟨none, none, ⟨by simp [start, Desk.session?], rfl⟩, .unborn⟩
  keyed h := by simp [start, Desk.session?] at h
  live h := by simp [start, Desk.session?] at h
  counting := Nat.le_refl 1
  born request := by simp [start, lifeline]; omega
  latest h := by simp [start, Desk.session?] at h

namespace Kept

/-- Where a session stands in the table its request is there, and has only been allocated. -/
theorem of_session (h : Kept d) {k : String} {s : Session} (hs : d.desk.session? k = some s) :
    d.At s.request (some k) none ∧ d.lifeline s.request = [.allocated s.request k] := by
  obtain ⟨key, e, hat, hcourse⟩ := h.course s.request
  obtain rfl : key = some k := (hat.table k).1 ⟨s, hs, rfl⟩
  obtain ⟨rfl, hlifeline⟩ := hcourse.of_key
  exact ⟨hat, hlifeline⟩

/-- The request of a session was given out for its device. -/
theorem allocated_of_session (h : Kept d) {k : String} {s : Session}
    (hs : d.desk.session? k = some s) : .allocated s.request k ∈ d.journal := by
  obtain ⟨-, hlifeline⟩ := h.of_session hs
  exact (mem_lifeline.1 (hlifeline ▸ List.mem_singleton_self _)).1

/-- A conclusion under way is the only one of its request, whose session has left the table. -/
theorem of_conclusion (h : Kept d) {e : Conclusion} (he : e ∈ d.conclusions) :
    d.At e.request none (some e) ∧ Course e.request none (some e) (d.lifeline e.request) := by
  obtain ⟨key, e', hat, hcourse⟩ := h.course e.request
  have hmem : e ∈ e'.toList := by
    rw [← hat.conclusions]
    exact List.mem_filter.2 ⟨he, by simp⟩
  obtain rfl : e' = some e := by simpa using hmem
  obtain rfl := hcourse.key_eq_none
  exact ⟨hat, hcourse⟩

/-- A request that an act does not touch stays on its course. -/
theorem course_of_frame (h : Kept d)
    (htable : ∀ k, (∃ s, d'.desk.session? k = some s ∧ s.request = request) ↔
      ∃ s, d.desk.session? k = some s ∧ s.request = request)
    (hconclusions : d'.conclusions.filter (·.request = request)
      = d.conclusions.filter (·.request = request))
    (hlifeline : d'.lifeline request = d.lifeline request) :
    ∃ key e, d'.At request key e ∧ Course request key e (d'.lifeline request) := by
  obtain ⟨key, e, hat, hcourse⟩ := h.course request
  refine ⟨key, e, ⟨fun k => ?_, ?_⟩, hlifeline ▸ hcourse⟩
  · rw [htable, hat.table]
  · rw [hconclusions, hat.conclusions]

end Kept
end Duty
end Check
end PileCheck
