import PileCheck.Proofs.Failure
import PileCheck.Proofs.Sql.Resilience

/-!
# Violated constraints

A server that refuses a duplicate quotes the value that it refuses. Whether the refusal is taken for
one therefore depends on that value (`violation_judged`): if the value or the name of the key names
a lost connection, the statement is sent again, and at last the pool is reconnected, and otherwise
the first attempt that meets it is the last one.
-/

namespace PileCheck.Sql

/-! ## Failures that are final -/

/-- After a failed attempt nothing is done if the failure is final or both rounds are used up. -/
theorem Recovery.after_eq_giveUp_iff {b : Backoff} {round : Round} {attempt : Nat}
    {f : StoreFailure} {draw : Float} : Recovery.after b round attempt f draw = .giveUp ↔
      f.isTransient = false ∨ round = .second ∧ b.maxRetries ≤ attempt := by
  unfold Recovery.after Backoff.decide Outlook.ofFailure
  cases hf : f.isTransient with
  | false => simp
  | true =>
    cases round with
    | first => by_cases hroom : b.maxRetries ≤ attempt <;> simp [hroom]
    | second => by_cases hroom : b.maxRetries ≤ attempt <;> simp [hroom]

/-- An attempt that meets a final failure is the last deed of its call. -/
theorem Resolved.log_eq_of_final {b : Backoff} {log : List Deed} {a : Answer} {f : StoreFailure}
    (h : Resolved b log a) (hf : f.isTransient = false) (hmem : .tried (.error f) ∈ log) :
    a = .error f ∧ log = log.dropLast ++ [.tried (.error f)] ∧
      .tried (.error f) ∉ log.dropLast := by
  have hdrop : .tried (.error f) ∉ log.dropLast := fun hx => by
    simpa [Answer.isTransient, hf] using h.transient_of_mem_dropLast hx
  have hne : log ≠ [] := List.ne_nil_of_mem hmem
  have hsplit := List.dropLast_concat_getLast hne
  have hlast : log.getLast hne = .tried (.error f) := by
    rw [← hsplit] at hmem
    rcases List.mem_append.1 hmem with hold | hnew
    · exact absurd hold hdrop
    · exact (List.mem_singleton.1 hnew).symm
  rw [hlast] at hsplit
  have hanswer := h.getLast_answers
  rw [← hsplit, answers_append] at hanswer
  exact ⟨(Option.some.inj (List.getLast?_concat.symm.trans hanswer)).symm, hsplit.symm, hdrop⟩

/-- A call that has met a final failure is not under way. -/
theorem Workload.Kept.not_mem_log_of_final {b : Backoff} {n : Nat} {w : Workload}
    {f : StoreFailure} {c : Call} (h : w.Kept b n) (hf : f.isTransient = false) (hc : c ∈ w.calls) :
    .tried (.error f) ∉ c.log := fun hmem => by
  have htransient := (h.underWay c hc).unsettled.transient _ (mem_answers.2 hmem)
  rw [Answer.isTransient, hf] at htransient
  cases htransient

/-! ## Duplicates -/

/-- How a server words that a key has an entry already. -/
def duplicateEntry (value key : String) : String :=
  "Duplicate entry '" ++ value ++ "' for key '" ++ key ++ "'"

/-- The server's own words name no loss. -/
theorem namesLoss_duplicateEntry {value key : String} :
    NamesLoss (duplicateEntry value key) ↔ NamesLoss value ∨ NamesLoss key := by
  -- the message in parts, with an apostrophe after each
  have hparts : duplicateEntry value key = "Duplicate entry " ++ "'" ++
      (value ++ "'" ++ (" for key " ++ "'" ++ (key ++ "'" ++ ""))) := by
    unfold duplicateEntry
    rw [← String.toList_inj]
    simp
  have hwords {words : String} (h : isTransientMessage words = false) : ¬ NamesLoss words := by
    rw [← isTransientMessage_iff, h]
    exact Bool.false_ne_true
  have hfirst : ¬ NamesLoss "Duplicate entry " := hwords (by decide)
  have hmiddle : ¬ NamesLoss " for key " := hwords (by decide)
  have hlast : ¬ NamesLoss "" := hwords (by decide)
  have hkey : NamesLoss (key ++ "'" ++ "") ↔ NamesLoss key ∨ NamesLoss "" := namesLoss_quote
  have hname : NamesLoss (" for key " ++ "'" ++ (key ++ "'" ++ "")) ↔
      NamesLoss " for key " ∨ NamesLoss (key ++ "'" ++ "") := namesLoss_quote
  have hvalue : NamesLoss (value ++ "'" ++ (" for key " ++ "'" ++ (key ++ "'" ++ ""))) ↔
      NamesLoss value ∨ NamesLoss (" for key " ++ "'" ++ (key ++ "'" ++ "")) := namesLoss_quote
  rw [hparts, namesLoss_quote, hvalue, hname, hkey]
  simp only [hfirst, hmiddle, hlast, false_or, or_false]

/-- **How a duplicate is judged.** It is final unless the value or the name of the key names a lost
connection. A final one is given up at once whatever the policy, the round and the attempt, and any
call that meets it is over with that attempt. One that is not is given up only at the end of the
second round. -/
theorem violation_judged (value key : String) :
    let message := duplicateEntry value key
    let f := StoreFailure.ofMessage message
    (f = .permanent message ↔ ¬ NamesLoss value ∧ ¬ NamesLoss key) ∧
    (f = .transient message ↔ NamesLoss value ∨ NamesLoss key) ∧
    (∀ b round attempt draw, Recovery.after b round attempt f draw = .giveUp ↔
      (¬ NamesLoss value ∧ ¬ NamesLoss key) ∨ round = .second ∧ b.maxRetries ≤ attempt) ∧
    (¬ NamesLoss value → ¬ NamesLoss key → ∀ (s : Store) (acts : List Workload.Act),
      let w := Workload.run { store := s } acts
      (∀ c ∈ w.calls, .tried (.error f) ∉ c.log) ∧
      ∀ c a, (c, a) ∈ w.finished → .tried (.error f) ∈ c.log →
        a = .error f ∧ c.log = c.log.dropLast ++ [.tried (.error f)] ∧
          .tried (.error f) ∉ c.log.dropLast) := by
  intro message f
  have hjudged : f.isTransient = true ↔ NamesLoss value ∨ NamesLoss key := by
    rw [StoreFailure.isTransient_ofMessage, isTransientMessage_iff]
    exact namesLoss_duplicateEntry
  have hfinal : f.isTransient = false ↔ ¬ NamesLoss value ∧ ¬ NamesLoss key := by
    rw [← not_or, ← hjudged, Bool.not_eq_true]
  refine ⟨?_, ?_, fun b round attempt draw => ?_, fun hvalue hkey s acts => ?_⟩
  · rw [← hfinal]
    exact StoreFailure.ofMessage_eq_permanent_iff
  · rw [← hjudged]
    exact StoreFailure.ofMessage_eq_transient_iff
  · rw [← hfinal]
    exact Recovery.after_eq_giveUp_iff
  · -- a failure that is final is the last thing that is tried
    have hf := hfinal.2 ⟨hvalue, hkey⟩
    have hkept := (Workload.kept_start s).run acts
    exact ⟨fun c hc => hkept.not_mem_log_of_final hf hc, fun c a hc hmem =>
      (hkept.resolved c a hc).log_eq_of_final hf hmem⟩

/-- A store with one endpoint and no connection yet. -/
def bareStore : Store :=
  { master := { role := .master, limits := {}, endpoints := [{}], permits := { free := 10 } }
    replica := none, retry := {}, behavior := {} }

/-- One update from its beginning to the answer of the server. -/
def refused (f : StoreFailure) : List Workload.Act :=
  [.begin ⟨.update, "INSERT", []⟩ false 0, .reply 0 0 (.pool (.connected none)) 0,
    .reply 0 1 (.answered (.error f)) 0]

/-- A number for a value, and the update is over with its first attempt. -/
theorem violation_judged_number :
    let f := StoreFailure.ofMessage (duplicateEntry "1" "PRIMARY")
    let w := Workload.run { store := bareStore } (refused f)
    ¬ NamesLoss "1" ∧ ¬ NamesLoss "PRIMARY" ∧ f = .permanent (duplicateEntry "1" "PRIMARY") ∧
      ∃ c, w.finished = [(c, .error f)] ∧ c.log = c.log.dropLast ++ [.tried (.error f)] := by
  intro f w
  have hvalue : ¬ NamesLoss "1" := by
    rw [← isTransientMessage_iff]
    decide
  have hkey : ¬ NamesLoss "PRIMARY" := by
    rw [← isTransientMessage_iff]
    decide
  obtain ⟨hpermanent, -, -, hover⟩ := violation_judged "1" "PRIMARY"
  refine ⟨hvalue, hkey, hpermanent.2 ⟨hvalue, hkey⟩, ?_⟩
  obtain ⟨-, hfinished⟩ := hover hvalue hkey bareStore (refused f)
  have hrun : ∃ c, w.finished = [(c, .error f)] ∧ c.log = [.tried (.error f)] := ⟨_, rfl, rfl⟩
  obtain ⟨c, hc, hlog⟩ := hrun
  have hmem : (c, .error f) ∈ w.finished := hc ▸ List.mem_singleton_self _
  obtain ⟨-, hsplit, -⟩ := hfinished c _ hmem (hlog ▸ List.mem_singleton_self _)
  exact ⟨c, hc, hsplit⟩

/-- The value is the word `timeout`, and the same update is sent again. -/
theorem violation_resent :
    let f := StoreFailure.ofMessage (duplicateEntry "timeout" "PRIMARY")
    let w := Workload.run { store := bareStore } (refused f)
    f = .transient (duplicateEntry "timeout" "PRIMARY") ∧ w.finished.length = 0 ∧
      ∃ c ms, w.calls = [c] ∧ c.log = [.tried (.error f), .rested ms] := by
  exact ⟨by decide, rfl, _, _, rfl, rfl⟩

end PileCheck.Sql
