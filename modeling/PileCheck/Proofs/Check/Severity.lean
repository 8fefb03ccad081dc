import PileCheck.Proofs.Check.Judgement

/-!
# How severe a check is

The status of a check is a maximum three times over: of the faults of a unit, of the units, and of
what the device reports beside them. A maximum reaches a rank exactly if one of its parts does
(`le_rank_foldl_max`), so the status is read off the faults as a whole, and neither their order nor
the unit that they are in matters.

The flags that mean trouble are said here by the parts of a unit: eight contactors that may stick or
refuse, and four fans that may stand still. The table `Ccu.troubles` numbers the same flags
(`exists_fault_iff`).

The line of a summary is the beginning of a whole line, which may be of any length.
-/

namespace PileCheck

/-! ## Maxima of statuses -/

namespace CheckStatus

variable {α : Type} {s t : CheckStatus} {n : Nat}

theorem le_rank_max : n ≤ (s.max t).rank ↔ n ≤ s.rank ∨ n ≤ t.rank := by
  unfold max
  split <;> omega

/-- Induction on the list, over the status that the maximum starts from. -/
theorem le_rank_foldl_max (f : α → CheckStatus) (l : List α) :
    n ≤ (l.foldl (fun s a => s.max (f a)) s).rank ↔ n ≤ s.rank ∨ ∃ a ∈ l, n ≤ (f a).rank := by
  induction l generalizing s with
  | nil => simp
  | cons a rest ih => simp [ih, le_rank_max, or_assoc]

/-- The two ranks above the lowest tell the status. -/
theorem eq_ite (s : CheckStatus) :
    s = if 2 ≤ s.rank then .error else if 1 ≤ s.rank then .warn else .ok := by
  cases s <;> rfl

end CheckStatus

/-! ## Flags that mean trouble -/

namespace Ccu

/-- What may be wrong with a contactor. -/
def Contactor.alarms (c : Contactor) : List Bool := [c.stuck, c.refuse]

namespace Attributes

/-- The contactors of a unit. -/
def contactors (a : Attributes) : List Contactor :=
  [a.acContactor1, a.acContactor2, a.parallel.positive, a.parallel.negative,
    a.gunA.contactors.positive, a.gunA.contactors.negative,
    a.gunB.contactors.positive, a.gunB.contactors.negative]

/-- The fans of a unit. -/
def fans (a : Attributes) : List Fan := [a.fan1, a.fan2, a.fan3, a.fan4]

/-- The flags that mean trouble, of the contactors and of the fans. -/
def alarms (a : Attributes) : List Bool :=
  a.contactors.flatMap Contactor.alarms ++ a.fans.map Fan.stopped

theorem length_alarms (a : Attributes) : a.alarms.length = 20 := rfl

end Attributes

/-- The numbers of the flags that mean trouble of this severity. -/
def troubleNumbers (s : Severity) : List Nat :=
  (troubles.filter fun t => t.2.severity = s).map Prod.fst

theorem exists_mem_faults_iff {faults : List Fault} : (∃ f, f ∈ faults) ↔ faults ≠ [] :=
  ⟨fun ⟨_, hf⟩ => List.ne_nil_of_mem hf, List.exists_mem_of_ne_nil faults⟩

section Faults

variable (a : Attributes)

theorem contactor_alarms_eq :
    a.contactors.flatMap Contactor.alarms = (troubleNumbers .error).map a.flag := rfl

theorem fan_alarms_eq : a.fans.map Fan.stopped = (troubleNumbers .warning).map a.flag := rfl

/-- A fault is reported if its flag is set. -/
theorem mem_faults_iff {f : Fault} :
    f ∈ a.faults ↔ ∃ i, (i, f) ∈ troubles ∧ a.flag i = true := by
  simp only [Attributes.faults, List.mem_filterMap, Prod.exists, Option.ite_none_right_eq_some,
    Option.some.injEq]
  constructor
  · rintro ⟨i, f', htrouble, hset, rfl⟩
    exact ⟨i, htrouble, hset⟩
  · rintro ⟨i, htrouble, hset⟩
    exact ⟨i, f, htrouble, hset, rfl⟩

/-- There is a fault of this severity exactly if one of its flags is set. -/
theorem exists_fault_iff (s : Severity) :
    (∃ f ∈ a.faults, f.severity = s) ↔ true ∈ (troubleNumbers s).map a.flag := by
  simp only [mem_faults_iff, troubleNumbers, List.mem_map, List.mem_filter, decide_eq_true_eq]
  constructor
  · rintro ⟨f, ⟨i, htrouble, hset⟩, hs⟩
    exact ⟨i, ⟨(i, f), ⟨htrouble, hs⟩, rfl⟩, hset⟩
  · rintro ⟨_, ⟨⟨i, f⟩, ⟨htrouble, hs⟩, rfl⟩, hset⟩
    exact ⟨f, ⟨i, htrouble, hset⟩, hs⟩

/-- A unit has a fault exactly if one of its twenty flags that mean trouble is set. -/
theorem faults_ne_nil_iff : a.faults ≠ [] ↔ true ∈ a.alarms := by
  have hsevere : a.faults ≠ [] ↔
      (∃ f ∈ a.faults, f.severity = .error) ∨ ∃ f ∈ a.faults, f.severity = .warning := by
    rw [← exists_or, ← exists_mem_faults_iff]
    refine exists_congr fun f => ?_
    cases f.severity <;> simp
  rw [hsevere, exists_fault_iff, exists_fault_iff, Attributes.alarms, List.mem_append,
    contactor_alarms_eq, fan_alarms_eq]

end Faults
end Ccu

/-! ## Summaries -/

namespace Check

/-- The reports of some units, each under its key and its number. -/
def ModuleReport.ofUnits (units : List (String × Nat × Ccu.Attributes)) : List ModuleReport :=
  units.map fun (key, index, attributes) => .ofAttributes key index attributes

/-- The status that the faults of the modules and the report of the device call for. -/
def calledFor (modules : List ModuleReport) (r : Reported) : CheckStatus :=
  if r.isFailure ∨ ∃ m ∈ modules, ∃ f ∈ m.faults, f.severity = .error then .error
  else if ∃ m ∈ modules, m.faults ≠ [] then .warn
  else .ok

/-- The line of a summary before it is cut. -/
def wholeLine (modules : Except CheckFailure (List ModuleReport)) (r : Reported) : String :=
  ((judge modules).withReported r).line

variable {modules : List ModuleReport} {r : Reported} {n : Nat}

/-- A module is as bad as its worst fault. -/
theorem le_rank_status (m : ModuleReport) (hn : 0 < n) :
    n ≤ m.status.rank ↔ ∃ f ∈ m.faults, n ≤ (severityStatus f.severity).rank := by
  rw [ModuleReport.status, CheckStatus.le_rank_foldl_max]
  exact or_iff_right (Nat.not_le_of_lt hn)

/-- The two folds are one, over all the faults of all the modules. -/
theorem le_rank_judgeModules (hn : 0 < n) :
    n ≤ (judgeModules modules).status.rank ↔
      ∃ m ∈ modules, ∃ f ∈ m.faults, n ≤ (severityStatus f.severity).rank := by
  show n ≤ (modules.foldl (fun s m => s.max m.status) CheckStatus.ok).rank ↔ _
  rw [CheckStatus.le_rank_foldl_max]
  simp only [le_rank_status _ hn]
  exact or_iff_right (Nat.not_le_of_lt hn)

/-- Only an error is worse than a warning. -/
theorem two_le_rank_severityStatus (s : Ccu.Severity) :
    2 ≤ (severityStatus s).rank ↔ s = .error := by
  cases s <;> decide

theorem one_le_rank_severityStatus (s : Ccu.Severity) : 1 ≤ (severityStatus s).rank := by
  cases s <;> decide

/-- The status of a check whose modules could be read. -/
theorem status_summarize_ok (modules : List ModuleReport) (r : Reported) :
    (summarize (.ok modules) r).status = calledFor modules r := by
  unfold calledFor
  by_cases hfailure : r.isFailure = true
  · rw [status_summarize_of_isFailure hfailure, if_pos (.inl hfailure)]
  · have hstatus : (summarize (.ok modules) r).status = (judgeModules modules).status := by
      show ((judge (.ok modules)).withReported r).status = _
      rw [Verdict.withReported, if_neg hfailure]
      rfl
    rw [hstatus, CheckStatus.eq_ite (judgeModules modules).status]
    simp only [le_rank_judgeModules Nat.zero_lt_two, le_rank_judgeModules Nat.zero_lt_one,
      two_le_rank_severityStatus, one_le_rank_severityStatus, hfailure, false_or, and_true,
      Bool.false_eq_true, Ccu.exists_mem_faults_iff]

/-- Neither case asks where a module stands. -/
theorem calledFor_perm {others : List ModuleReport} (h : others.Perm modules) :
    calledFor others r = calledFor modules r := by
  unfold calledFor
  simp only [h.mem_iff]

/-- Without modules only the device's own report counts, if the device is of a class that has
none. -/
theorem status_summarize_error (f : CheckFailure) (r : Reported) :
    (summarize (.error f) r).status
      = if f.isUnimplemented ∧ r.isFailure = false then .ok else .error := by
  cases hfailure : r.isFailure with
  | true =>
    rw [status_summarize_of_isFailure hfailure]
    simp
  | false =>
    show ((judgeMissing f).withReported r).status = _
    rw [Verdict.withReported, if_neg (by simp [hfailure])]
    cases f <;> rfl

/-! ## Tallies -/

/-- What the device reports does not change how many modules there are of each kind. -/
theorem tallies_withReported (v : Verdict) (r : Reported) :
    (v.withReported r).okModules = v.okModules ∧
      (v.withReported r).faultyModules = v.faultyModules := by
  unfold Verdict.withReported
  split
  · exact ⟨rfl, rfl⟩
  · exact ⟨rfl, rfl⟩

theorem faultyModules_summarize (modules : List ModuleReport) (r : Reported) :
    (summarize (.ok modules) r).faultyModules = modules.countP isFaulty := by
  rw [List.countP_eq_length_filter]
  exact (tallies_withReported (judgeModules modules) r).2

theorem okModules_summarize (modules : List ModuleReport) (r : Reported) :
    (summarize (.ok modules) r).okModules = modules.length - modules.countP isFaulty := by
  rw [List.countP_eq_length_filter]
  exact (tallies_withReported (judgeModules modules) r).1

/-- A module has a fault if one of its alarms is on. -/
theorem isFaulty_ofAttributes (key : String) (index : Nat) (a : Ccu.Attributes) :
    isFaulty (.ofAttributes key index a) = a.alarms.contains true := by
  have hiff := Ccu.faults_ne_nil_iff a
  rw [Bool.eq_iff_iff, List.contains_iff_mem, ← hiff]
  simp [isFaulty, ModuleReport.ofAttributes]

/-! ## Lines -/

theorem line_summarize (modules : Except CheckFailure (List ModuleReport)) (r : Reported) :
    (summarize modules r).line.toList = (wholeLine modules r).toList.take summaryWidth :=
  String.toList_ofList

/-- So it is never wider. -/
theorem length_line_summarize (modules : Except CheckFailure (List ModuleReport)) (r : Reported) :
    (summarize modules r).line.length = min summaryWidth (wholeLine modules r).length := by
  rw [← String.length_toList, line_summarize, List.length_take, String.length_toList]

/-- A line that fits is kept whole. -/
theorem line_summarize_of_le {modules : Except CheckFailure (List ModuleReport)}
    (h : (wholeLine modules r).length ≤ summaryWidth) :
    (summarize modules r).line = wholeLine modules r := by
  rw [← String.length_toList] at h
  rw [← String.toList_inj, line_summarize, List.take_of_length_le h]

/-- **How a check comes out.** The status is the most severe of what the faults of the modules and
the report of the device call for, and a module is tallied as faulty if one of the twenty flags of
its contactors and fans is set. The order of the modules does not matter. Without modules the check
is an error, unless the device is of a class that has none and reports no failure. The line is the
whole line up to 512 characters. -/
theorem summary_by_severity (units : List (String × Nat × Ccu.Attributes)) (r : Reported) :
    let modules := ModuleReport.ofUnits units
    let s := summarize (.ok modules) r
    s.status = calledFor modules r ∧
    s.faultyModules = units.countP (fun (_, _, a) => a.alarms.contains true) ∧
    (∀ a : Ccu.Attributes, a.alarms.length = 20) ∧
    s.okModules + s.faultyModules = units.length ∧
    (∀ others : List ModuleReport, others.Perm modules →
      let t := summarize (.ok others) r
      t.status = s.status ∧ t.okModules = s.okModules ∧ t.faultyModules = s.faultyModules) ∧
    (∀ f : CheckFailure,
      let t := summarize (.error f) r
      t.status = (if f.isUnimplemented ∧ r.isFailure = false then .ok else .error) ∧
      t.okModules = 0 ∧ t.faultyModules = 0) ∧
    ∀ found : Except CheckFailure (List ModuleReport),
      let line := (summarize found r).line
      let whole := wholeLine found r
      line.toList <+: whole.toList ∧ (whole.length ≤ 512 → line = whole) ∧
      (512 < whole.length → line.length = 512) := by
  intro modules s
  refine ⟨status_summarize_ok modules r, ?faulty, Ccu.Attributes.length_alarms, ?total, ?order,
    ?missing, ?line⟩
  case faulty =>
    show (summarize (.ok modules) r).faultyModules = _
    rw [faultyModules_summarize]
    show (units.map _).countP isFaulty = _
    rw [List.countP_map]
    exact congrArg (units.countP ·) (funext fun (key, index, a) =>
      isFaulty_ofAttributes key index a)
  case total =>
    have hle : modules.countP isFaulty ≤ modules.length := List.countP_le_length
    have hlength : modules.length = units.length := List.length_map _
    show (summarize (.ok modules) r).okModules + (summarize (.ok modules) r).faultyModules = _
    rw [okModules_summarize, faultyModules_summarize]
    omega
  case order =>
    intro others hperm t
    have hstatus : t.status = s.status := by
      show (summarize (.ok others) r).status = (summarize (.ok modules) r).status
      rw [status_summarize_ok, status_summarize_ok, calledFor_perm hperm]
    -- neither the count of the faulty ones nor that of all depends on the order
    have hcount : others.countP isFaulty = modules.countP isFaulty := hperm.countP_eq isFaulty
    refine ⟨hstatus, ?_, ?_⟩
    · show (summarize (.ok others) r).okModules = (summarize (.ok modules) r).okModules
      rw [okModules_summarize, okModules_summarize, hcount, hperm.length_eq]
    · show (summarize (.ok others) r).faultyModules = (summarize (.ok modules) r).faultyModules
      rw [faultyModules_summarize, faultyModules_summarize, hcount]
  case missing =>
    intro f t
    -- without modules both counts are those of the failure, which are zero
    obtain ⟨hok, hfaulty⟩ := tallies_withReported (judgeMissing f) r
    refine ⟨status_summarize_error f r, hok.trans ?_, hfaulty.trans ?_⟩
    · cases f <;> rfl
    · cases f <;> rfl
  case line =>
    intro found line whole
    refine ⟨?_, line_summarize_of_le, fun hlong => ?_⟩
    · show (summarize found r).line.toList <+: _
      rw [line_summarize]
      exact List.take_prefix _ _
    · show (summarize found r).line.length = summaryWidth
      rw [length_line_summarize]
      exact Nat.min_eq_left (Nat.le_of_lt hlong)

end Check
end PileCheck
