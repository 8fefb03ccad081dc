import PileCheck.Proofs.Archive.Handover
import PileCheck.Proofs.Sql.Replies

/-!
# What holds of an archive

* `Filing.Stands` is about a filing under way. Its call is somewhere in its rounds, the duty waits
  for it, and all its attempts are in the log of its call. A call under way has heard of lost
  attempts only, and has room for one more; so this is also known of its attempts.
* `Told` is about the attempts of any request, whether it has a filing or not. It is made when a
  filing moves, from what is known of it while it is under way.
* `Kept` collects both with what is known of the duty and of the other calls. A request gets a
  filing when its record is handed over, before which nothing was tried for it.

One filing moves at a time, and `Kept.of_move` says once what this leaves alone.
-/

namespace PileCheck.Archive

open Check (Duty)
open Sql (Backoff Call Deed answers)

variable {b : Backoff} {w w' : Archive} {f g : Filing} {request i : Nat} {more : List Attempt}

/-- The duty has been told that the record of a request is in the table. -/
def Succeeded (w : Archive) (request : Nat) : Prop :=
  ∃ y, .answered request (.ok y) ∈ w.duty.journal

/-- What is noted without an answer tells nobody of a success. -/
theorem succeeded_of_append {entries : List Check.Entry}
    (hentries : w'.duty.journal = w.duty.journal ++ entries)
    (hanswers : ∀ a, .answered request a ∉ entries) :
    w'.Succeeded request ↔ w.Succeeded request := by
  unfold Succeeded
  rw [hentries]
  exact exists_congr fun y => List.mem_append.trans (or_iff_left (hanswers _))

/-! ## Attempts -/

/-- More attempts of a request are added to those that it has. -/
theorem tries_append (hattempts : w'.attempts = w.attempts ++ more)
    (hmore : ∀ t ∈ more, t.request = request) : w'.tries request = w.tries request ++ more := by
  have hall : more.filter (·.request = request) = more :=
    List.filter_eq_self.2 fun t ht => by simp [hmore t ht]
  rw [tries, hattempts, List.filter_append, hall]
  rfl

/-- They are no attempts of another. -/
theorem tries_append_of_ne (hattempts : w'.attempts = w.attempts ++ more)
    (hmore : ∀ t ∈ more, t.request = request) {other : Nat} (hne : other ≠ request) :
    w'.tries other = w.tries other := by
  have hnone : more.filter (·.request = other) = [] :=
    List.filter_eq_nil_iff.2 fun t ht => by simp [hmore t ht, Ne.symm hne]
  rw [tries, hattempts, List.filter_append, hnone, List.append_nil]
  rfl

/-- An answer is a success or a failure. -/
theorem Attempt.not_isAcknowledged_of_isLost {t : Attempt} (h : t.isLost = true) :
    ¬t.isAcknowledged = true := by
  unfold isLost at h
  unfold isAcknowledged
  split
  · next hanswer =>
    rw [hanswer] at h
    cases h
  · exact nofun

/-- An answer to its statement is an attempt of the filing. -/
theorem Filing.attempted_of_some {r : Call.Reply} {a : Sql.Answer} (hr : r.answer? = some a)
    (f : Filing) (applied : Bool) : f.attempted applied r = [f.attempt (some a) applied] := by
  cases r with
  | answered x =>
    obtain rfl := Option.some.inj hr
    rfl
  | pool r | rested => cases hr

/-- Without an answer there is no attempt. -/
theorem Filing.attempted_of_none {r : Call.Reply} (hr : r.answer? = none) (f : Filing)
    (applied : Bool) : f.attempted applied r = [] := by
  cases r with
  | answered x => cases hr
  | pool r | rested => rfl

/-- An attempt of a filing. -/
structure Filing.Makes (f : Filing) (t : Attempt) : Prop where
  request : t.request = f.request
  statement : t.statement = f.call.statement
  applied : t.isAcknowledged = true → t.applied = true

/-- What a server says is true: an attempt that was acknowledged was applied. -/
theorem Filing.makes_attempted {r : Call.Reply} {applied : Bool} (hallows : r.allows applied = true)
    (f : Filing) : ∀ t ∈ f.attempted applied r, f.Makes t := by
  intro t ht
  cases r with
  | answered a =>
    rw [List.mem_singleton.1 ht]
    refine ⟨rfl, rfl, fun hacknowledged => ?_⟩
    cases a with
    | ok y => exact hallows
    | error g => cases hacknowledged
  | pool r | rested => cases ht

/-- Of the statement of a call that is dropped nothing is heard. -/
theorem Filing.makes_cutOff (f : Filing) (applied : Bool) :
    (f.cutOff applied).length ≤ 1 ∧
      ∀ t ∈ f.cutOff applied, f.Makes t ∧ ¬t.isAcknowledged = true := by
  unfold cutOff
  split
  · refine ⟨Nat.le_refl 1, fun t ht => ?_⟩
    rw [List.mem_singleton.1 ht]
    exact ⟨⟨rfl, rfl, nofun⟩, nofun⟩
  · exact ⟨Nat.zero_le 1, nofun⟩

/-! ## The invariant -/

/-- The answers to some attempts, all of which were answered, are among those in a log. -/
def Heard (tries : List Attempt) (log : List Deed) : Prop :=
  ∃ heard : List Sql.Answer, tries.map Attempt.answer = heard.map some ∧
    heard.Sublist (answers log)

/-- A filing under way: its call fits where it waits, the duty waits for it, and its attempts are in
the log of the call. -/
structure Filing.Stands (b : Backoff) (w : Archive) (f : Filing) : Prop where
  underWay : f.call.UnderWay b
  awaited : ∃ r, .storing r ∈ w.duty.conclusions ∧ r.closing.session.request = f.request ∧
    f.call.statement = r.record.insertion.statement
  heard : Heard (w.tries f.request) f.call.log

/-- The attempts of a request, whether there will be more of them or not. -/
structure Told (b : Backoff) (tries : List Attempt) (success : Prop) : Prop where
  bound : tries.length ≤ 2 * (b.maxRetries + 1)
  lost : ∀ t ∈ tries.dropLast, t.isLost = true
  success : success ↔ ∃ t ∈ tries, t.isAcknowledged = true

/-- What holds of an archive, of which the last three are about all attempts that were ever made:
each is one of a record that was handed over, was applied if it was acknowledged, and is told of its
request. -/
structure Kept (b : Backoff) (w : Archive) : Prop where
  duty : w.duty.Kept
  work : ∃ n, w.work.Kept b n
  once : (w.filings.map Filing.request).Nodup
  filings : ∀ f ∈ w.filings, f.Stands b w
  sent : ∀ t ∈ w.attempts, ∃ record, .inserting t.request record ∈ w.duty.journal ∧
    t.statement = record.insertion.statement
  applied : ∀ t ∈ w.attempts, t.isAcknowledged = true → t.applied = true
  told : ∀ request, Told b (w.tries request) (w.Succeeded request)

/-! ## Filings -/

/-- Where all answers in a log are failures that may pass, the attempts were lost. -/
theorem Heard.isLost {tries : List Attempt} {log : List Deed} (h : Heard tries log)
    (htransient : ∀ x ∈ answers log, Sql.Answer.isTransient x = true) :
    ∀ t ∈ tries, t.isLost = true := by
  obtain ⟨heard, hmap, hsub⟩ := h
  intro t ht
  have hmem : t.answer ∈ heard.map some := hmap ▸ List.mem_map_of_mem ht
  obtain ⟨a, ha, hanswer⟩ := List.mem_map.1 hmem
  unfold Attempt.isLost
  rw [← hanswer]
  exact htransient a (hsub.subset ha)

/-- There are no more attempts than answers. -/
theorem Heard.length_le {tries : List Attempt} {log : List Deed} (h : Heard tries log) :
    tries.length ≤ (answers log).length := by
  obtain ⟨heard, hmap, hsub⟩ := h
  have hlength := congrArg List.length hmap
  rw [List.length_map, List.length_map] at hlength
  exact hlength ▸ hsub.length_le

namespace Filing.Stands

/-- While a filing is under way, all that was heard of its attempts is that they were lost. -/
theorem isLost (h : f.Stands b w) : ∀ t ∈ w.tries f.request, t.isLost = true :=
  h.heard.isLost h.underWay.unsettled.transient

theorem length_lt (h : f.Stands b w) : (w.tries f.request).length < 2 * (b.maxRetries + 1) :=
  Nat.lt_of_le_of_lt h.heard.length_le h.underWay.unsettled.room

/-- What happens to others does not touch a filing. -/
theorem mono (h : f.Stands b w)
    (hstoring : ∀ r, .storing r ∈ w.duty.conclusions → r.closing.session.request = f.request →
      .storing r ∈ w'.duty.conclusions)
    (htries : w'.tries f.request = w.tries f.request) : f.Stands b w' := by
  obtain ⟨r, hr, hrequest, hstatement⟩ := h.awaited
  exact ⟨h.underWay, ⟨r, hstoring r hr hrequest, hrequest, hstatement⟩, htries ▸ h.heard⟩

/-- While a filing is under way there has been no success. -/
theorem told (h : f.Stands b w) {success : Prop} (hsuccess : ¬success) :
    Told b (w.tries f.request) success := by
  refine ⟨Nat.le_of_lt h.length_lt, fun t ht => h.isLost t (List.dropLast_subset _ ht),
    fun hs => absurd hs hsuccess, fun ⟨t, ht, hacknowledged⟩ => ?_⟩
  exact absurd hacknowledged (Attempt.not_isAcknowledged_of_isLost (h.isLost t ht))

/-- One more attempt is the last. -/
theorem told_last (h : f.Stands b w) (hmore : more.length ≤ 1) {success : Prop}
    (hsuccess : success ↔ ∃ t ∈ more, t.isAcknowledged = true) :
    Told b (w.tries f.request ++ more) success := by
  have hlength := h.length_lt
  refine ⟨?_, fun t ht => ?_, ?_⟩
  · rw [List.length_append]
    omega
  · -- before the last one is nothing but what was there already, which was lost
    refine h.isLost t ?_
    match more, hmore with
    | [], _ =>
      rw [List.append_nil] at ht
      exact List.dropLast_subset _ ht
    | [x], _ =>
      rw [List.dropLast_concat] at ht
      exact ht
  · rw [hsuccess]
    constructor
    · exact fun ⟨t, ht, hacknowledged⟩ => ⟨t, List.mem_append_right _ ht, hacknowledged⟩
    · rintro ⟨t, ht, hacknowledged⟩
      rcases List.mem_append.1 ht with hold | hnew
      · exact absurd hacknowledged (Attempt.not_isAcknowledged_of_isLost (h.isLost t hold))
      · exact ⟨t, hnew, hacknowledged⟩

end Filing.Stands

/-- The store has finished as many statements as before and one more if the call ends. -/
theorem work_kept {bound n : Nat} {m : Sql.Store × Call.Progress} (h : w.work.Kept b n)
    (hadvances : w.work.store.Advances bound m) :
    { w.work with store := m.1 }.Kept b (n + m.2.finished) := by
  refine ⟨hadvances.retry.trans h.retry, ?_, h.underWay, h.resolved⟩
  show m.1.statements = _
  rw [hadvances.statements, h.statements]
  show _ = n + m.2.finished + w.work.finished.length
  omega

namespace Kept

/-- A request that still has a filing has not been recorded. -/
theorem not_succeeded (h : Kept b w) (hf : f ∈ w.filings) : ¬w.Succeeded f.request := by
  intro hs
  obtain ⟨t, ht, hacknowledged⟩ := (h.told f.request).success.1 hs
  exact Attempt.not_isAcknowledged_of_isLost ((h.filings f hf).isLost t ht) hacknowledged

/-- No two filings are of one request. -/
theorem request_ne (h : Kept b w) (hget : w.filings[i]? = some f) :
    ∀ g ∈ w.filings.eraseIdx i, g.request ≠ f.request := by
  obtain ⟨before, after, hsplit, herase, -, -⟩ := exists_split_of_getElem? hget
  have honce := h.once
  rw [hsplit, List.map_append, List.map_cons, List.nodup_append, List.nodup_cons] at honce
  obtain ⟨-, ⟨hafter, -⟩, hbefore⟩ := honce
  intro g hg hrequest
  rw [herase] at hg
  rcases List.mem_append.1 hg with hg | hg
  · exact hbefore _ (List.mem_map_of_mem hg) _ List.mem_cons_self hrequest
  · exact hafter (hrequest ▸ List.mem_map_of_mem hg)

/-- One filing moves, with or without an attempt, and the others stay. -/
theorem of_move (h : Kept b w) (hget : w.filings[i]? = some f) (hduty : w'.duty.Kept)
    (hwork : ∃ n, w'.work.Kept b n) (honce : (w'.filings.map Filing.request).Nodup)
    (hfilings : ∀ g ∈ w'.filings, g ∈ w.filings.eraseIdx i ∨ g.Stands b w')
    (hattempts : w'.attempts = w.attempts ++ more)
    (hmore : ∀ t ∈ more, f.Makes t)
    (hjournal : ∃ entries, w'.duty.journal = w.duty.journal ++ entries ∧
      ∀ other a, .answered other a ∈ entries → other = f.request)
    (hstoring : ∀ r, .storing r ∈ w.duty.conclusions → r.closing.session.request ≠ f.request →
      .storing r ∈ w'.duty.conclusions)
    (htold : Told b (w.tries f.request ++ more) (w'.Succeeded f.request)) : Kept b w' := by
  obtain ⟨entries, hentries, hanswers⟩ := hjournal
  have hmine := tries_append hattempts fun t ht => (hmore t ht).request
  have hrest : ∀ other, other ≠ f.request → w'.tries other = w.tries other :=
    fun other hne => tries_append_of_ne hattempts (fun t ht => (hmore t ht).request) hne
  have hstands := h.filings f (List.mem_of_getElem? hget)
  -- the moving filing is in `hfilings`, the others keep what they had; each attempt is an old one
  -- or made by this filing; and what is told of other requests has not changed
  refine ⟨hduty, hwork, honce, fun g hg => ?_, fun t ht => ?_, fun t ht => ?_, fun other => ?_⟩
  · rcases hfilings g hg with hother | hnew
    · have hne := h.request_ne hget g hother
      exact (h.filings g (List.mem_of_mem_eraseIdx hother)).mono
        (fun r hr hrequest => hstoring r hr (hrequest ▸ hne)) (hrest _ hne)
    · exact hnew
  · rw [hattempts] at ht
    rw [hentries]
    rcases List.mem_append.1 ht with hold | hnew
    · obtain ⟨record, hinserting, hstatement⟩ := h.sent t hold
      exact ⟨record, List.mem_append_left _ hinserting, hstatement⟩
    · -- it is the record that the duty waits for
      obtain ⟨r, hr, hrequest, hstatement⟩ := hstands.awaited
      refine ⟨r.record, List.mem_append_left _ ?_, (hmore t hnew).statement.trans hstatement⟩
      rw [(hmore t hnew).request, ← hrequest]
      exact h.duty.inserting_mem hr
  · rw [hattempts] at ht
    exact (List.mem_append.1 ht).elim (h.applied t) fun hnew => (hmore t hnew).applied
  · by_cases hother : other = f.request
    · rw [hother, hmine]
      exact htold
    · have hsucceeded : w'.Succeeded other ↔ w.Succeeded other :=
        succeeded_of_append hentries fun a hmem => hother (hanswers _ _ hmem)
      have htold' := h.told other
      rw [hrest other hother]
      exact ⟨htold'.bound, htold'.lost, hsucceeded.trans htold'.success⟩

/-! ## Acts -/

/-- The duty does something without an answer. -/
theorem of_beside (h : Kept b w) {d : Duty} (hkept : d.Kept) (hbeside : w.duty.Beside d) :
    Kept b { w with duty := d } := by
  obtain ⟨⟨entries, hentries, hanswers⟩, hstoring⟩ := hbeside
  refine ⟨hkept, h.work, h.once, fun f hf => ?_, fun t ht => ?_, h.applied, fun request => ?_⟩
  · exact (h.filings f hf).mono (fun r hr _ => hstoring r hr) rfl
  · obtain ⟨record, hinserting, hstatement⟩ := h.sent t ht
    refine ⟨record, ?_, hstatement⟩
    show _ ∈ d.journal
    rw [hentries]
    exact List.mem_append_left _ hinserting
  · have htold := h.told request
    have hsucceeded : { w with duty := d }.Succeeded request ↔ w.Succeeded request :=
      succeeded_of_append hentries (hanswers request)
    exact ⟨htold.bound, htold.lost, hsucceeded.trans htold.success⟩

/-- What others do on the store leaves the duty and the filings alone. -/
theorem other (h : Kept b w) (a : Sql.Workload.Act) :
    Kept b { w with work := w.work.step a } := by
  obtain ⟨n, hwork⟩ := h.work
  refine ⟨h.duty, ⟨n, hwork.step a⟩, h.once, fun f hf => ?_, h.sent, h.applied, h.told⟩
  exact (h.filings f hf).mono (fun _ hr _ => hr) rfl

/-- A filing begins, for a request that has none. -/
theorem enter (h : Kept b w) {work : Sql.Workload} (hwork : ∃ n, work.Kept b n)
    (hg : g.Stands b w) (hfresh : ∀ f ∈ w.filings, f.request ≠ g.request) :
    Kept b { w with work, filings := w.filings ++ [g] } := by
  refine ⟨h.duty, hwork, ?_, fun f hf => ?_, h.sent, h.applied, h.told⟩
  · show ((w.filings ++ [g]).map Filing.request).Nodup
    rw [List.map_append, List.nodup_append]
    refine ⟨h.once, List.nodup_cons.2 ⟨List.not_mem_nil, .nil⟩, fun a ha x hx hsame => ?_⟩
    obtain ⟨f, hf, rfl⟩ := List.mem_map.1 ha
    exact hfresh f hf (hsame.trans (List.mem_singleton.1 hx))
  · rcases List.mem_append.1 hf with hold | hnew
    · exact (h.filings f hold).mono (fun _ hr _ => hr) rfl
    · rw [List.mem_singleton.1 hnew]
      exact hg.mono (fun _ hr _ => hr) rfl

/-- A record is handed over for a request of which nothing was tried. -/
theorem record (h : Kept b w) (i : Nat) (m : Check.Moment) : Kept b (w.record i m) := by
  unfold Archive.record
  split
  · next c device findings hget =>
    let insertion := (c.recording w.duty.desk.settings device findings m).record.insertion
    have hreading := List.mem_of_getElem? hget
    -- every attempt is of a record that was handed over, and this one was not yet
    have huntried : w.tries c.session.request = [] := by
      refine List.filter_eq_nil_iff.2 fun t ht hsame => ?_
      obtain ⟨record, hinserting, -⟩ := h.sent t ht
      rw [of_decide_eq_true hsame] at hinserting
      exact h.duty.inserting_not_mem hreading record hinserting
    have hfresh : ∀ f ∈ w.filings, f.request ≠ c.session.request := by
      intro f hf hsame
      obtain ⟨r, hr, hrequest, -⟩ := (h.filings f hf).awaited
      cases h.duty.conclusion_unique hreading hr (hrequest.trans hsame)
    -- the duty moves first, and then the call begins, with a fresh filing
    have hbeside : Kept b { w with duty := w.duty.step (.record i m) } :=
      h.of_beside (h.duty.step _) (Duty.beside_record hget m)
    obtain ⟨n, hwork⟩ := h.work
    refine hbeside.enter ⟨n, ?_⟩ ⟨?_, ⟨_, ?_, rfl, rfl⟩, [], ?_, List.nil_sublist _⟩ hfresh
    · have hsteady := w.work.store.steady_begin insertion.statement insertion.preferReplica m.ms
      exact hwork.of_steady hsteady (fun _ => id) rfl
    · exact w.work.store.underWay_begin b insertion.statement insertion.preferReplica m.ms
    · rw [Duty.step_record hget]
      obtain ⟨hi, -⟩ := List.getElem?_eq_some_iff.1 hget
      exact List.mem_set hi _
    · show (w.tries c.session.request).map _ = _
      rw [huntried]
      rfl
  · exact h

/-- A filing goes on: if its statement was answered, the attempt was lost. -/
theorem goOn (h : Kept b w) (hget : w.filings[i]? = some f) {work : Sql.Workload}
    (hwork : ∃ n, work.Kept b n) {r : Call.Reply} {applied : Bool}
    (hallows : r.allows applied = true) {call : Call} (hears : f.call.Hears r (.waits call))
    (hunderWay : call.UnderWay b) :
    Kept b { w with
      work
      attempts := w.attempts ++ f.attempted applied r
      filings := w.filings.set i { f with call } } := by
  obtain ⟨before, after, hsplit, herase, hset, -⟩ := exists_split_of_getElem? hget
  have hf := List.mem_of_getElem? hget
  have hstands := h.filings f hf
  have hmakes := f.makes_attempted hallows
  obtain ⟨c, hc, hrequest, hstatement⟩ := hstands.awaited
  -- the attempts grow no faster than the log
  have hheard : Heard (w.tries f.request ++ f.attempted applied r) call.log := by
    obtain ⟨heard, hmap, hsub⟩ := hstands.heard
    obtain ⟨-, new, hadds, hlog⟩ := hears
    change answers call.log = _ at hlog
    unfold Heard
    rw [hlog, List.map_append, hmap]
    cases hadds with
    | heard answer =>
      rw [f.attempted_of_some answer]
      exact ⟨heard ++ [_], by rw [List.map_append]; rfl, hsub.append_right _⟩
    | silent answer | unsent answer =>
      rw [f.attempted_of_none answer]
      exact ⟨heard, List.append_nil _, hsub.trans (List.sublist_append_left _ _)⟩
  -- the filing stands for its new call; every other one stands as before
  have hstands' : Filing.Stands b { w with
      work
      attempts := w.attempts ++ f.attempted applied r
      filings := w.filings.set i { f with call } } { f with call } := by
    refine ⟨hunderWay, ⟨c, hc, hrequest, hears.statement.trans hstatement⟩, ?_⟩
    rw [tries_append rfl fun t ht => (hmakes t ht).request]
    exact hheard
  refine h.of_move hget h.duty hwork ?_ (fun g hg => ?_) rfl hmakes
    ⟨[], (List.append_nil _).symm, nofun⟩ (fun _ hr _ => hr) ?_
  · show ((w.filings.set i { f with call }).map Filing.request).Nodup
    have honce := h.once
    rw [hsplit, List.map_append, List.map_cons] at honce
    rw [hset, List.map_append, List.map_cons]
    exact honce
  · change g ∈ w.filings.set i { f with call } at hg
    rw [hset, List.mem_append, List.mem_cons] at hg
    rw [herase, List.mem_append]
    rcases hg with hg | rfl | hg
    · exact .inl (.inl hg)
    · exact .inr hstands'
    · exact .inl (.inr hg)
  · have htold := hstands'.told (h.not_succeeded hf)
    rw [tries_append rfl fun t ht => (hmakes t ht).request] at htold
    exact htold

/-- A filing is over, and the duty hears of it. -/
theorem finish (h : Kept b w) (hget : w.filings[i]? = some f) {work : Sql.Workload}
    (hwork : ∃ n, work.Kept b n) {r : Call.Reply} {applied : Bool}
    (hallows : r.allows applied = true) {call : Call} {a : Sql.Answer}
    (hears : f.call.Hears r (.ends call a)) (hresolved : Sql.Resolved b call.log a) :
    Kept b ({ w with
      work
      attempts := w.attempts ++ f.attempted applied r
      filings := w.filings.eraseIdx i }.tell f.request a) := by
  have hf := List.mem_of_getElem? hget
  have hstands := h.filings f hf
  obtain ⟨c, hc, hrequest, -⟩ := hstands.awaited
  obtain ⟨j, hfind, hjournal, hstoring⟩ := h.duty.step_stored hc a
  rw [hrequest] at hfind hjournal hstoring
  -- nothing was told of the request before, for its filing was under way
  have hsucceeded : (∃ y, .answered f.request (.ok y) ∈ (w.duty.step (.stored j a)).journal) ↔
      a.isOk = true := by
    rw [hjournal]
    constructor
    · rintro ⟨y, hy⟩
      rcases List.mem_append.1 hy with hold | hnew
      · exact absurd ⟨y, hold⟩ (h.not_succeeded hf)
      · obtain rfl : Except.ok y = a := by simpa using hnew
        rfl
    · intro ha
      cases a with
      | ok y => exact ⟨y, List.mem_append_right _ List.mem_cons_self⟩
      | error g => cases ha
  -- the call ends well only with the answer to its statement
  have hacknowledged : a.isOk = true ↔
      ∃ t ∈ f.attempted applied r, t.isAcknowledged = true := by
    rcases hears.of_ends hstands.underWay hresolved with hr | ⟨hr, hnot⟩
    · rw [f.attempted_of_some hr]
      cases a with
      | ok y => exact iff_of_true rfl ⟨_, List.mem_cons_self, rfl⟩
      | error g => exact iff_of_false nofun (by simp [Filing.attempt, Attempt.isAcknowledged])
    · rw [f.attempted_of_none hr, hnot]
      simp
  -- the duty takes the answer, and the filing is gone
  unfold tell
  rw [hfind]
  show Kept b { w with
    duty := w.duty.step (.stored j a)
    work
    attempts := w.attempts ++ f.attempted applied r
    filings := w.filings.eraseIdx i }
  refine h.of_move hget (h.duty.step (.stored j a)) hwork ?_ (fun g hg => .inl hg) rfl
    (f.makes_attempted hallows) ⟨_, hjournal, ?_⟩ hstoring
    (hstands.told_last ?_ (hsucceeded.trans hacknowledged))
  · exact h.once.sublist ((List.eraseIdx_sublist _ _).map _)
  · simp
  · cases r with
    | answered x => exact Nat.le_refl 1
    | pool r | rested => exact Nat.zero_le 1

/-- A filing is told something. The call goes on or is over, and what it has heard of is in its log
either way. -/
theorem reply (h : Kept b w) (i now : Nat) (r : Call.Reply) (draw : Float) (applied : Bool) :
    Kept b (w.reply i now r draw applied) := by
  unfold Archive.reply
  split
  · next f hget =>
    split
    · next hguard =>
      obtain ⟨hadmits, hallows, hdraw⟩ := hguard
      obtain ⟨n, hwork⟩ := h.work
      have hunderWay := (h.filings f (List.mem_of_getElem? hget)).underWay
      rw [← hwork.retry] at hunderWay
      have hears : f.call.Hears r (w.work.store.resume f.call now r draw).2 :=
        Sql.Store.hears_resume hadmits
      have hadvances : w.work.store.Advances _ (w.work.store.resume f.call now r draw) :=
        Sql.Store.advances_resume hunderWay r hdraw
      have hsound := hadvances.sound
      rw [hwork.retry] at hsound
      -- one reply moves the store as it does any call; what differs is where the call is then
      have hwork' := work_kept hwork hadvances
      show Kept b (proceed _ i f (w.work.store.resume f.call now r draw).2)
      cases hprogress : (w.work.store.resume f.call now r draw).2 with
      | waits call =>
        rw [hprogress] at hears hsound
        exact h.goOn hget ⟨_, hwork'⟩ hallows hears hsound.1
      | ends call a =>
        rw [hprogress] at hears hsound
        exact h.finish hget ⟨_, hwork'⟩ hallows hears hsound
    · exact h
  · exact h

/-- A filing is dropped. If its statement was running there is one more attempt, of which nothing is
heard. -/
theorem abandon (h : Kept b w) (i : Nat) (applied : Bool) : Kept b (w.abandon i applied) := by
  unfold Archive.abandon
  split
  · next f hget =>
    have hf := List.mem_of_getElem? hget
    obtain ⟨n, hwork⟩ := h.work
    obtain ⟨hlength, hmakes⟩ := f.makes_cutOff applied
    refine h.of_move hget h.duty ⟨n, ?_⟩ ?_ (fun g hg => .inl hg) rfl
      (fun t ht => (hmakes t ht).1) ⟨[], (List.append_nil _).symm, nofun⟩ (fun _ hr _ => hr)
      ((h.filings f hf).told_last hlength ?_)
    · exact hwork.of_steady (Sql.Store.steady_abandon _ _) (fun _ => id) rfl
    · exact h.once.sublist ((List.eraseIdx_sublist _ _).map _)
    · refine iff_of_false (h.not_succeeded hf) fun ⟨t, ht, hacknowledged⟩ => ?_
      exact (hmakes t ht).2 hacknowledged
  · exact h

/-- Every act keeps all of it. -/
theorem step (h : Kept b w) (a : Act) : Kept b (w.step a) := by
  cases a with
  | duty a =>
    unfold Archive.step
    simp only
    split
    · next ha => exact h.of_beside (h.duty.step a) (w.duty.beside_step ha)
    · exact h
  | record i m => exact h.record i m
  | reply i now r draw applied => exact h.reply i now r draw applied
  | abandon i applied => exact h.abandon i applied
  | other a => exact h.other a

/-- Induction on the acts, over the archives that they start from. -/
theorem run (h : Kept b w) (acts : List Act) : Kept b (w.run acts) := by
  unfold Archive.run
  induction acts generalizing w with
  | nil => exact h
  | cons a rest ih => exact ih (h.step a)

end Kept

/-- At the start nothing has been tried. -/
theorem kept_start (settings : Check.Settings) (store : Sql.Store) :
    Kept store.retry (start settings store) where
  duty := Duty.kept_start settings
  work := ⟨_, Sql.Workload.kept_start store⟩
  once := .nil
  filings _ hf := absurd hf List.not_mem_nil
  sent _ ht := absurd ht List.not_mem_nil
  applied _ ht := absurd ht List.not_mem_nil
  told request := by
    refine ⟨Nat.zero_le _, nofun, iff_of_false ?_ nofun⟩
    exact fun ⟨y, hy⟩ => List.not_mem_nil hy

end PileCheck.Archive
