import PileCheck.Proofs.Check.Grounds
import PileCheck.Proofs.Site.Basic

/-!
# The duty of a site

A site acts on its duty only by the acts of a duty: it passes them on, and it answers the questions
of checks as a cache may answer them. So whatever happens at a site, its duty has run, and all that
is known of the runs of a duty is known of it.

* `Onward` says that a duty has run from one site to the next; it is reflexive and transitive, and
  every part of an act has it.
* `onward_run` is the induction on the acts of a site.
* `kept_duty` and `grounded_duty` are what comes of it: the requests of a site are on their courses.
-/

namespace PileCheck.Site

open Cache (Query Found Answers Asking Attempt Reading)
open Check (Duty Findings)

variable {s t u : Site}

/-- The duty of one site has run and is that of the other. -/
def Onward (s t : Site) : Prop := ∃ acts, t.duty = s.duty.run acts

namespace Onward

theorem of_eq (h : t.duty = s.duty) : s.Onward t := ⟨[], h⟩

theorem of_step (a : Check.Act) (h : t.duty = s.duty.step a) : s.Onward t := ⟨[a], h⟩

theorem trans (hst : s.Onward t) (htu : t.Onward u) : s.Onward u := by
  obtain ⟨first, hfirst⟩ := hst
  obtain ⟨more, hmore⟩ := htu
  refine ⟨first ++ more, ?_⟩
  rw [hmore, hfirst, Duty.run, Duty.run, Duty.run, List.foldl_append]

end Onward

/-! ## Asking -/

theorem duty_ask (s : Site) (asker : Asker) (q : Query) : (s.ask asker q).1.duty = s.duty := by
  unfold ask
  simp only
  split <;> rfl

theorem onward_tell (s : Site) (request : Nat) (c : Answers) : s.Onward (s.tell request c) := by
  unfold tell
  split
  · next i hfind => exact .of_step (.read i c) rfl
  · exact .of_eq rfl

/-- Whoever asks for a check goes on from the answer, or waits for it. -/
theorem onward_inquire (s : Site) (request : Nat) (q : Query)
    {goOn : Site → Except CacheFailure Found → Site} (hgoOn : ∀ (t : Site) r, t.Onward (goOn t r)) :
    s.Onward (s.inquire request q goOn) := by
  have hask := s.duty_ask (.check request) q
  unfold inquire
  split
  · next t heq =>
    rw [heq] at hask
    exact .of_eq hask
  · next t r heq =>
    rw [heq] at hask
    have hasked : s.Onward t := .of_eq hask
    exact hasked.trans ((onward_tell t request _).trans (hgoOn _ r))

/-- Induction on the questions that are left. -/
theorem onward_gather (s : Site) (request : Nat) (r : Reading Findings) :
    s.Onward (s.gather request r) := by
  induction r generalizing s with
  | done f => exact .of_eq rfl
  | connected next ih => exact (onward_tell s request _).trans (ih _ _)
  | keys pattern next ih => exact onward_inquire s request _ fun t r => ih _ t
  | hash key next ih => exact onward_inquire s request _ fun t r => ih _ t
  | text key next ih => exact onward_inquire s request _ fun t r => ih _ t

/-- A poll is no business of the duty. Induction on the piles that are left. -/
theorem duty_readPiles (s : Site) (changed : Nat) (devices : List Device) :
    (s.readPiles changed devices).duty = s.duty := by
  induction devices generalizing s changed with
  | nil => rfl
  | cons device rest ih =>
    have hask := s.duty_ask (.poll { device, rest, changed })
      (.field (Watch.Poll.key { device, rest, changed }) Watch.onlineField)
    unfold readPiles
    simp only
    split
    · next t heq =>
      rw [heq] at hask
      exact hask
    · next t r heq =>
      rw [heq] at hask
      split
      · exact (ih _ _).trans hask
      · exact hask

theorem duty_goOn (s : Site) (p : Watch.Poll.Progress) : (s.goOn p).duty = s.duty := by
  cases p with
  | reads p => exact s.duty_readPiles _ _
  | ends changed => rfl

/-- An answer reaches a poll, which the duty does not see, or a check. -/
theorem onward_answered (s : Site) (r : Except CacheFailure Found) (asker : Asker) :
    s.Onward (s.answered r asker) := by
  cases asker with
  | poll p => exact .of_eq (duty_goOn _ _)
  | check request =>
    unfold answered
    simp only
    split
    · exact (onward_tell s request _).trans (onward_gather _ _ _)
    · exact .of_eq rfl

/-! ## Acts -/

/-- A message is received by the duty, and then its check asks. -/
theorem onward_receive (s : Site) (payload : ByteArray) (m : Check.Moment)
    (devices : String → Option Device) : s.Onward (s.receive payload m devices) := by
  have hreceived : s.Onward { s with duty := s.duty.step (.receive payload m devices) } :=
    .of_step (.receive payload m devices) rfl
  unfold receive
  simp only
  split
  · exact hreceived.trans (onward_gather _ _ _)
  · exact hreceived

/-- A reply ends a query or does not; the duty hears of it only in the first case. -/
theorem onward_reply (s : Site) (i : Nat) (r : Asking.Reply) : s.Onward (s.reply i r) := by
  unfold reply
  split
  · simp only
    split
    · exact .of_eq rfl
    · -- the query is over, and its caller goes on from a site with the same duty
      refine Onward.trans (.of_eq ?_) (onward_answered _ _ _)
      rfl
  · exact .of_eq rfl

theorem duty_attempt (s : Site) (i : Nat) (r : Attempt.Reply) :
    (s.attempt i r).duty = s.duty := by
  unfold attempt
  split <;> rfl

/-- Each act of a site is acts of its duty, one or several or none. -/
theorem onward_step (s : Site) (a : Act) : s.Onward (s.step a) := by
  cases a with
  | connect | disconnect | pass => exact .of_eq rfl
  | attempt i r => exact .of_eq (s.duty_attempt i r)
  | left i =>
    unfold step
    simp only
    split <;> exact .of_eq rfl
  | poll devices => exact .of_eq (duty_goOn _ _)
  | receive payload m devices => exact s.onward_receive payload m devices
  | trigger device m => exact .of_step (.trigger device m) rfl
  | published i failure => exact .of_step (.published i failure) rfl
  | record i m => exact .of_step (.record i m) rfl
  | stored i a => exact .of_step (.stored i a) rfl
  | expire now => exact .of_step (.expire now) rfl
  | reply i r => exact s.onward_reply i r

/-- Induction on the acts, over the sites that they start from. -/
theorem onward_run (s : Site) (acts : List Act) : s.Onward (s.run acts) := by
  unfold run
  induction acts generalizing s with
  | nil => exact .of_eq rfl
  | cons a rest ih => exact (s.onward_step a).trans (ih (s.step a))

/-! ## Requests of a site -/

/-- Whatever a site does, its requests are on their courses. -/
theorem kept_duty (cache : Cache.Settings) (check : Check.Settings) (acts : List Act) :
    ((start cache check).run acts).duty.Kept := by
  obtain ⟨duties, hduty⟩ := (start cache check).onward_run acts
  rw [hduty]
  exact Duty.kept_run check duties

/-- Whatever a site does, its journal is grounded. -/
theorem grounded_duty (cache : Cache.Settings) (check : Check.Settings) (acts : List Act) :
    ((start cache check).run acts).duty.Grounded := by
  obtain ⟨duties, hduty⟩ := (start cache check).onward_run acts
  rw [hduty]
  exact Duty.grounded_run check duties

end PileCheck.Site
