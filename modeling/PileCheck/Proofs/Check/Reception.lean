import PileCheck.Check.Desk

/-!
# What a message does to a desk

`receive` parses, looks the device up, compares the request numbers and asks the state machine. A
`Reception` says once what can come of all this, with the guards that led there, so that no later
proof opens these operations again.

Three shapes of outcome are left. The desk is as it was and says nothing (`dropped`); the session is
put back in a later state of itself (`acknowledged`, `started`); or the session is closed
(`completed`, `final`).
-/

namespace PileCheck.Check.Desk

variable {d : Desk} {payload : ByteArray} {m : Moment}

/-- The state that a notice reports for a session that ends on it. -/
def Notice.outcome (n : Notice) : SessionState :=
  if (Notice.reported n).isFailure then .failed else .completed

/-- How a session ends on a final result. -/
def FinalResult.outcome (r : FinalResult) : SessionState :=
  if r.succeeded then .completed else .failed

/-- What a payload can come to. An echoed request number is that of the session, where there is
one. -/
inductive Reception (d : Desk) (payload : ByteArray) (m : Moment) :
    Desk × List Event × Option Closing → Prop where
  | dropped : Reception d payload m (d, [], none)
  | acknowledged (n : Notice) (s : Session) (hparse : Inbound.parse payload = .ok (.notice n))
      (hs : d.session? n.device = some s) (hindex : ∀ i ∈ n.index, i = s.request)
      (heffect : s.state.onNotice n.state = .acknowledge) :
      Reception d payload m
        (d.put (s.touch n.description m), [.progress n.device n.description false], none)
  | started (n : Notice) (s : Session) (hparse : Inbound.parse payload = .ok (.notice n))
      (hs : d.session? n.device = some s) (hindex : ∀ i ∈ n.index, i = s.request)
      (heffect : s.state.onNotice n.state = .advance .started) :
      Reception d payload m
        (d.put ({ s with state := .started }.touch n.description m),
          [.progress n.device (orElse n.description "Self-check started") true], none)
  | completed (n : Notice) (s : Session) (hparse : Inbound.parse payload = .ok (.notice n))
      (hs : d.session? n.device = some s) (hindex : ∀ i ∈ n.index, i = s.request)
      (heffect : s.state.onNotice n.state = .advance .completed) :
      Reception d payload m
        (d.close s (Notice.outcome n) (orElse n.description "Self-check completed")
          (Notice.reported n) m)
  | final (r : FinalResult) (s : Session) (hparse : Inbound.parse payload = .ok (.final r))
      (hs : d.session? r.device = some s) (hindex : ∀ i ∈ r.index, i = s.request) :
      Reception d payload m
        (d.close s (FinalResult.outcome r) r.description (FinalResult.reported r) m)

/-- A notice never fails a session by itself: the session fails by what is reported with it. -/
theorem onNotice_advance {state after : SessionState} {word : NoticeState}
    (h : state.onNotice word = .advance after) : after = .started ∨ after = .completed := by
  cases state <;> cases word <;> simp_all [SessionState.onNotice, SessionState.ignored]

/-- Only a notice of completion ends a session. -/
theorem state_of_advance_completed {state : SessionState} {word : NoticeState}
    (h : state.onNotice word = .advance .completed) : word = .completed := by
  cases state <;> cases word <;> simp_all [SessionState.onNotice, SessionState.ignored]

/-- Only a session that waits for its first notice is acknowledged or started. -/
theorem states_of_touch {state : SessionState} {word : NoticeState}
    (h : state.onNotice word = .acknowledge ∨ state.onNotice word = .advance .started) :
    state = .sent ∧ (word = .sent ∨ word = .started) := by
  cases state <;> cases word <;> simp_all [SessionState.onNotice, SessionState.ignored]

theorem eq_of_any_ne_eq_false {index : Option Nat} {request : Nat}
    (h : ¬index.any (· ≠ request) = true) : ∀ i ∈ index, i = request := by
  rintro i rfl
  simpa using h

/-- What a notice leads to: step by step of what the desk looks at. -/
theorem reception_onNotice {n : Notice} (hparse : Inbound.parse payload = .ok (.notice n)) :
    Reception d payload m (d.onNotice n m) := by
  unfold onNotice
  cases hs : d.session? n.device with
  | none => exact .dropped
  | some s =>
    simp only
    split
    · exact .dropped
    · next hany =>
      have hindex := eq_of_any_ne_eq_false hany
      cases heffect : s.state.onNotice n.state with
      | ignore reason => exact .dropped
      | acknowledge => exact .acknowledged n s hparse hs hindex heffect
      | advance after =>
        rcases onNotice_advance heffect with rfl | rfl
        · exact .started n s hparse hs hindex heffect
        · exact .completed n s hparse hs hindex heffect

/-- A final result ends the session that it is for. -/
theorem reception_onFinal {r : FinalResult} (hparse : Inbound.parse payload = .ok (.final r)) :
    Reception d payload m (d.onFinal r m) := by
  unfold onFinal
  cases hs : d.session? r.device with
  | none => exact .dropped
  | some s =>
    simp only
    split
    · exact .dropped
    · next hany => exact .final r s hparse hs (eq_of_any_ne_eq_false hany)

/-- Whatever arrives is received in one of these ways. -/
theorem reception (d : Desk) (payload : ByteArray) (m : Moment) :
    Reception d payload m (d.receive payload m) := by
  unfold receive
  cases hparse : Inbound.parse payload with
  | error f => exact .dropped
  | ok message =>
    cases message with
    | notice n => exact reception_onNotice hparse
    | final r => exact reception_onFinal hparse
    | ignored what => exact .dropped

end PileCheck.Check.Desk
