import PileCheck.Proofs.Archive.Keeping
import PileCheck.Proofs.Check.Recorded

/-!
# Rows of a request

A request is handed to the store once, and the store sends its record until it hears of a success,
of a refusal, or has no attempt left. So whether there is one row depends on what the store cannot
see. A lost attempt is followed by another one, and where the server had applied the lost one, the
record is in the table twice (`rows_lost_applied`).

* `rows_eq` is all that can be said of every run: one row at most that was heard of, and beside it
  the rows of attempts whose success was not heard. All attempts but the last are lost ones, and
  there are so many only as the two rounds have.
* What the duty is told is right as far as it goes. It hears of a success if and only if there is
  a row that was acknowledged.
-/

namespace PileCheck

namespace Check

/-- What was handed over for a request names it. -/
theorem Course.isOf_of_inserting {request : Nat} {key : Option String} {e : Option Conclusion}
    {l : List Entry} (h : Course request key e l) {record : Record}
    (hinserting : .inserting request record ∈ l) : ∃ device, record.IsOf device request := by
  cases h with
  | unborn | active | superseded | withdrawn | timedOut | reading => simp at hinserting
  | storing payload r hrequest hstate hrecord =>
    obtain rfl : record = r.record := by simpa using hinserting
    exact ⟨_, hrecord⟩
  | recorded payload device handed a code ok bad hrecord =>
    obtain rfl : record = handed := by simpa using hinserting
    exact ⟨device, hrecord⟩

end Check

namespace Archive

/-! ## Counting -/

/-- A success was applied, so what was applied is what was acknowledged and the rest. Induction on
the attempts. -/
theorem countP_applied {tries : List Attempt}
    (h : ∀ t ∈ tries, t.isAcknowledged = true → t.applied = true) :
    tries.countP (·.applied) = tries.countP (·.isAcknowledged)
      + tries.countP fun t => t.applied && !t.isAcknowledged := by
  induction tries with
  | nil => rfl
  | cons t rest ih =>
    have hrest := ih fun x hx => h x (List.mem_cons_of_mem _ hx)
    have ht := h t List.mem_cons_self
    have hone : (if t.applied = true then 1 else 0) = (if t.isAcknowledged = true then 1 else 0)
        + if (t.applied && !t.isAcknowledged) = true then 1 else 0 := by
      cases hacknowledged : t.isAcknowledged with
      | true =>
        rw [ht hacknowledged]
        rfl
      | false => cases t.applied <;> rfl
    rw [List.countP_cons, List.countP_cons, List.countP_cons, hrest, hone]
    omega

/-- Only the last attempt can be a success. -/
theorem countP_isAcknowledged_le {tries : List Attempt}
    (h : ∀ t ∈ tries.dropLast, t.isLost = true) : tries.countP (·.isAcknowledged) ≤ 1 := by
  rcases List.eq_nil_or_concat tries with rfl | ⟨before, last, rfl⟩
  · exact Nat.zero_le 1
  · rw [List.concat_eq_append] at h ⊢
    rw [List.dropLast_concat] at h
    have hnone : before.countP (·.isAcknowledged) = 0 :=
      List.countP_eq_zero.2 fun t ht => Attempt.not_isAcknowledged_of_isLost (h t ht)
    rw [List.countP_append, hnone, Nat.zero_add]
    exact List.countP_le_length

/-- Of two that were applied the first was not the last. -/
theorem exists_lost_of_lt {tries : List Attempt} (h : ∀ t ∈ tries.dropLast, t.isLost = true)
    (hlt : 1 < tries.countP (·.applied)) : ∃ t ∈ tries, t.isLost = true ∧ t.applied = true := by
  rcases List.eq_nil_or_concat tries with rfl | ⟨before, last, rfl⟩
  · exact absurd hlt (Nat.not_lt_zero 1)
  · rw [List.concat_eq_append] at h hlt ⊢
    rw [List.dropLast_concat] at h
    have hlast : [last].countP (·.applied) ≤ 1 := List.countP_le_length
    rw [List.countP_append] at hlt
    have hbefore : 0 < before.countP (·.applied) := by omega
    obtain ⟨t, ht, happlied⟩ := List.countP_pos_iff.1 hbefore
    exact ⟨t, List.mem_append_left _ ht, h t ht, happlied⟩

/-! ## Rows -/

/-- **The rows of a request.** Whatever the duty, the store and its servers do: a record is handed
over once at most, each attempt sends just this record, which names its request, and an attempt that
is not the last was lost. The rows are the one, if any, that was acknowledged, which is so exactly
if the duty has been told of a success, and those that were applied without word of it. There is a
second row only if a lost attempt was applied. -/
theorem rows_eq (settings : Check.Settings) (store : Sql.Store) (acts : List Act) :
    let w := (start settings store).run acts
    ∀ request,
      w.duty.inserts request ≤ 1 ∧
      (∀ t ∈ w.tries request, ∃ record device, .inserting request record ∈ w.duty.journal ∧
        record.IsOf device request ∧ t.statement = record.insertion.statement) ∧
      (w.tries request).length ≤ 2 * (store.retry.maxRetries + 1) ∧
      (∀ t ∈ (w.tries request).dropLast, t.isLost = true) ∧
      w.rows request = w.acknowledged request + w.unheard request ∧
      w.acknowledged request ≤ 1 ∧
      (w.acknowledged request = 1 ↔ ∃ y, .answered request (.ok y) ∈ w.duty.journal) ∧
      (1 < w.rows request → ∃ t ∈ w.tries request, t.isLost = true ∧ t.applied = true) := by
  intro w request
  have h : Kept store.retry w := (kept_start settings store).run acts
  have htold := h.told request
  have hmem : ∀ t ∈ w.tries request, t ∈ w.attempts ∧ t.request = request := fun t ht => by
    simpa [tries] using ht
  -- all but the last attempt were lost, so one at most was acknowledged
  have hle := countP_isAcknowledged_le htold.lost
  obtain ⟨key, e, -, hcourse⟩ := h.duty.course request
  refine ⟨?_, fun t ht => ?_, htold.bound, htold.lost, ?_, hle, ?_, exists_lost_of_lt htold.lost⟩
  · rw [Check.Duty.inserts_eq]
    exact hcourse.inserts_le
  · obtain ⟨hattempt, hrequest⟩ := hmem t ht
    obtain ⟨record, hinserting, hstatement⟩ := h.sent t hattempt
    rw [hrequest] at hinserting
    obtain ⟨device, hrecord⟩ :=
      hcourse.isOf_of_inserting (Check.Duty.mem_lifeline.2 ⟨hinserting, rfl⟩)
    exact ⟨record, device, hinserting, hrecord, hstatement⟩
  · exact countP_applied fun t ht => h.applied t (hmem t ht).1
  · show (w.tries request).countP (·.isAcknowledged) = 1 ↔ w.Succeeded request
    rw [htold.success, ← List.countP_pos_iff]
    change w.acknowledged request = 1 ↔ 0 < w.acknowledged request
    change w.acknowledged request ≤ 1 at hle
    omega

/-! ## A record that is sent again -/

/-- A final result of success for `EQ-1`. -/
def finished : ByteArray :=
  String.toUTF8 ("\x7b\"ReqType\": 1010, \"Result\": 0, \"Data\": \x7b\"pileId\": \"EQ-1\", "
    ++ "\"successCount\": 10, \"failCount\": 0\x7d, \"Index\": 1\x7d")

/-- One check from its command on. The first attempt to record it is lost, as the connection is, and
the second one goes well. -/
def resent (applied : Bool) : List Act :=
  [.duty (.trigger "EQ-1" ⟨0, "", ""⟩), .duty (.published 0 none),
    .duty (.receive finished ⟨1, "", ""⟩ fun _ => some (.ofType "EQ-1" "STACK")),
    .duty (.read 0 ⟨false, fun _ => .ok [], fun _ => .ok ∅, fun _ => .ok ""⟩),
    .record 0 ⟨2, "", ""⟩, .reply 0 2 (.pool (.connected none)) 0 false,
    .reply 0 3 (.answered (.error (.transient "Lost connection to MySQL server during query"))) 0
      applied,
    .reply 0 203 .rested 0 false, .reply 0 204 (.pool (.connected none)) 0 false,
    .reply 0 205 (.answered (.ok (.affected 1))) 0 true]

/-- An empty store without replicas, as it is opened by default. -/
def emptyStore : Sql.Store :=
  { master := { role := .master, limits := {}, endpoints := [{}], permits := { free := 10 } }
    replica := none, retry := {}, behavior := {} }

example : Sql.Store.open? {} = .ok emptyStore := rfl

/-- There is one row if the server had not applied the lost attempt. If there are two it had. -/
theorem rows_eq_resent :
    let w := (start {} emptyStore).run (resent false)
    let v := (start {} emptyStore).run (resent true)
    ((w.tries 1).length = 2 ∧ w.unheard 1 = 0 ∧ w.rows 1 = 1) ∧
      1 < v.rows 1 ∧ ∃ t ∈ v.tries 1, t.isLost = true ∧ t.applied = true := by
  intro w v
  obtain ⟨-, -, -, -, hrows, -, -, -⟩ := rows_eq {} emptyStore (resent false) 1
  obtain ⟨-, -, -, -, -, -, -, hlost⟩ := rows_eq {} emptyStore (resent true) 1
  have hrun : (w.tries 1).length = 2 ∧ w.unheard 1 = 0 ∧ w.acknowledged 1 = 1 := by decide +kernel
  obtain ⟨hlength, hunheard, hacknowledged⟩ := hrun
  have htwo : 1 < v.rows 1 := by decide +kernel
  refine ⟨⟨hlength, hunheard, ?_⟩, htwo, hlost htwo⟩
  rw [hrows]
  show w.acknowledged 1 + w.unheard 1 = 1
  rw [hacknowledged, hunheard]

/-- One check, handed over once, has two rows: the server had applied the lost attempt. -/
theorem rows_lost_applied :
    let w := (start {} emptyStore).run (resent true)
    (w.tries 1).map (·.applied) = [true, true] ∧ w.duty.inserts 1 = 1 ∧ w.acknowledged 1 = 1 ∧
      w.rows 1 = 2 := by
  decide +kernel

end Archive
end PileCheck
