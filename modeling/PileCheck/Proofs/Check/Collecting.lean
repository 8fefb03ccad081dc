import PileCheck.Proofs.Ccu.Decoding
import PileCheck.Proofs.Check.Details
import PileCheck.Proofs.Check.Repetition
import PileCheck.Proofs.Device.Key

/-!
# Collecting the modules of a pile

The cache is asked whether it is connected, then for the keys of the device, and then for one hash
after another. Any answer may be the last: the first step that fails is the end of it. `Readable`
says what it takes to come through, and `FirstFailure` has one case for each step that may fail,
with the hashes that were asked for until then (`collect_cases`).

The answers are numbered by the questions, as the cache may change between any two of them. The hash
of the module in place `k` is question `k + 2`. What is asked is read off the tree of questions
(`Reading.asked`), next to how often it is asked (`Reading.questions`).
-/

namespace PileCheck

open Cache (Reading Answers)
open ModuleKey (Numbered)

/-! ## What the cache is asked -/

namespace Cache

/-- A question to the cache. -/
inductive Question where
  | connected
  | keys (pattern : String)
  | hash (key : String)
  | text (key : String)
  deriving DecidableEq, Repr

/-- The key whose hash is asked for. -/
def Question.hashKey? : Question → Option String
  | hash key => some key
  | _ => none

namespace Reading

variable {α β : Type}

/-- The questions in their order, with these answers. -/
def asked : Reading α → (Nat → Answers) → List Question
  | done _, _ => []
  | connected next, answers =>
    .connected :: (next (answers 0).connected).asked fun j => answers (j + 1)
  | keys pattern next, answers =>
    .keys pattern :: (next ((answers 0).keys pattern)).asked fun j => answers (j + 1)
  | hash key next, answers =>
    .hash key :: (next ((answers 0).hash key)).asked fun j => answers (j + 1)
  | text key next, answers =>
    .text key :: (next ((answers 0).text key)).asked fun j => answers (j + 1)

/-- The keys whose hashes are asked for, in their order. -/
def hashes (r : Reading α) (answers : Nat → Answers) : List String :=
  (r.asked answers).filterMap Question.hashKey?

section Steps

variable (a : α) (pattern key : String) (answers : Nat → Answers)

@[simp] theorem outcome_done : (done a).outcome answers = a := rfl

@[simp] theorem outcome_connected (next : Bool → Reading α) : (connected next).outcome answers
    = (next (answers 0).connected).outcome fun j => answers (j + 1) := rfl

@[simp] theorem outcome_keys (next : Except CacheFailure (List String) → Reading α) :
    (keys pattern next).outcome answers
      = (next ((answers 0).keys pattern)).outcome fun j => answers (j + 1) := rfl

@[simp] theorem outcome_hash (next : Except CacheFailure Ccu.Hash → Reading α) :
    (hash key next).outcome answers
      = (next ((answers 0).hash key)).outcome fun j => answers (j + 1) := rfl

@[simp] theorem hashes_done : (done a).hashes answers = [] := rfl

@[simp] theorem hashes_connected (next : Bool → Reading α) : (connected next).hashes answers
    = (next (answers 0).connected).hashes fun j => answers (j + 1) := rfl

@[simp] theorem hashes_keys (next : Except CacheFailure (List String) → Reading α) :
    (keys pattern next).hashes answers
      = (next ((answers 0).keys pattern)).hashes fun j => answers (j + 1) := rfl

@[simp] theorem hashes_hash (next : Except CacheFailure Ccu.Hash → Reading α) :
    (hash key next).hashes answers
      = key :: (next ((answers 0).hash key)).hashes fun j => answers (j + 1) := rfl

@[simp] theorem hashes_text (next : Except CacheFailure String → Reading α) :
    (text key next).hashes answers
      = (next ((answers 0).text key)).hashes fun j => answers (j + 1) := rfl

end Steps

/-- What is read second is answered from where the first reading has stopped asking. Induction on
the tree of questions. -/
theorem outcome_bind (r : Reading α) (f : α → Reading β) (answers : Nat → Answers) :
    (r.bind f).outcome answers
      = (f (r.outcome answers)).outcome fun j => answers (j + r.questions answers) := by
  induction r generalizing answers with
  | done a => rfl
  | connected next ih => exact ih _ _
  | keys pattern next ih => exact ih _ _
  | hash key next ih => exact ih _ _
  | text key next ih => exact ih _ _

/-- And it is asked there. Induction on the tree of questions. -/
theorem asked_bind (r : Reading α) (f : α → Reading β) (answers : Nat → Answers) :
    (r.bind f).asked answers = r.asked answers
      ++ (f (r.outcome answers)).asked fun j => answers (j + r.questions answers) := by
  induction r generalizing answers with
  | done a => rfl
  | connected next ih => exact congrArg (_ :: ·) (ih _ _)
  | keys pattern next ih => exact congrArg (_ :: ·) (ih _ _)
  | hash key next ih => exact congrArg (_ :: ·) (ih _ _)
  | text key next ih => exact congrArg (_ :: ·) (ih _ _)

/-- The hashes of both readings, in their order. -/
theorem hashes_bind (r : Reading α) (f : α → Reading β) (answers : Nat → Answers) :
    (r.bind f).hashes answers = r.hashes answers
      ++ (f (r.outcome answers)).hashes fun j => answers (j + r.questions answers) := by
  rw [hashes, asked_bind, List.filterMap_append]
  rfl

end Reading
end Cache

/-! ## Hashes -/

/-- A hash with any field is decoded, and the number of the module is that of the hash. -/
theorem Ccu.exists_decode {hash : Hash} (h : hash ≠ []) :
    ∃ decoded, decode hash = .ok decoded ∧ decoded.attributes.index = moduleNumber? hash := by
  have hempty : hash.isEmpty = false := by simpa using h
  rw [decode, hempty]
  exact ⟨_, rfl, index_foldl _ _⟩

namespace Check

variable {device : Device} {answers : Nat → Answers} {a : Answers} {keys : List String}
  {key : String} {number : Nat} {failure : CheckFailure} {reports : List ModuleReport}

/-! ## Module keys -/

/-- Ascending by number, and by text among those of one number. -/
def Precedes (a b : Nat × String) : Prop := a.1 < b.1 ∨ a.1 = b.1 ∧ a.2 < b.2

/-- No key is lost and none is made up. -/
theorem mem_moduleKeys : (number, key) ∈ moduleKeys keys ↔ key ∈ keys ∧ Numbered key number := by
  rw [moduleKeys, List.mem_mergeSort, List.mem_filterMap, ← ModuleKey.moduleIndex?_eq_some_iff]
  constructor
  · rintro ⟨key', hkey, h⟩
    obtain ⟨n, hn, heq⟩ := Option.map_eq_some_iff.1 h
    obtain ⟨rfl, rfl⟩ := Prod.mk.inj heq
    exact ⟨hkey, hn⟩
  · rintro ⟨hkey, hn⟩
    exact ⟨key, hkey, by rw [hn, Option.map_some]⟩

/-- The order is total on pairs, so that sorting puts them into it. -/
theorem sorted_moduleKeys (keys : List String) :
    (moduleKeys keys).Pairwise fun a b => a.1 < b.1 ∨ a.1 = b.1 ∧ a.2 ≤ b.2 := by
  refine (List.pairwise_mergeSort ?_ ?_ _).imp fun {a b} hab => by simpa using hab
  · intro a b c hab hbc
    simp only [Bool.or_eq_true, Bool.and_eq_true, decide_eq_true_eq, beq_iff_eq] at hab hbc ⊢
    rcases hab with hab | ⟨hab, hle⟩
    · exact .inl (by omega)
    · rcases hbc with hbc | ⟨hbc, hle'⟩
      · exact .inl (by omega)
      · exact .inr ⟨hab.trans hbc, String.le_trans hle hle'⟩
  · intro a b
    simp only [Bool.or_eq_true, Bool.and_eq_true, decide_eq_true_eq, beq_iff_eq]
    rcases Nat.lt_trichotomy a.1 b.1 with hlt | heq | hlt
    · exact .inl (.inl hlt)
    · exact (String.le_total a.2 b.2).imp (.inr ⟨heq, ·⟩) (.inr ⟨heq.symm, ·⟩)
    · exact .inr (.inl hlt)

/-- A key has one number, so that it comes no more often than it was found. -/
theorem nodup_moduleKeys (h : keys.Nodup) : (moduleKeys keys).Nodup := by
  refine (List.mergeSort_perm _ _).nodup_iff.2 (h.filterMap fun k k' entry hk hk' => ?_)
  obtain ⟨n, -, rfl⟩ := Option.map_eq_some_iff.1 hk
  obtain ⟨n', -, heq⟩ := Option.map_eq_some_iff.1 hk'
  exact (Prod.mk.inj heq).2.symm

/-- Keys that come once each stand in ascending order, so that none is doubled. -/
theorem ascending_moduleKeys (h : keys.Nodup) : (moduleKeys keys).Pairwise Precedes := by
  refine ((sorted_moduleKeys keys).and (nodup_moduleKeys h)).imp fun {a b} ⟨hle, hne⟩ => ?_
  refine hle.imp id fun ⟨hnumber, hkey⟩ => ⟨hnumber, ?_⟩
  exact Std.lt_of_le_of_ne hkey fun hkey => hne (Prod.ext hnumber hkey)

/-! ## One module -/

/-- The hash is there, and it has some field. -/
def Fetched (a : Answers) (key : String) : Prop := ∃ hash, a.hash key = .ok hash ∧ hash ≠ []

/-- What becomes of a module whose hash is not there or has no field. -/
inductive Unread (a : Answers) (key : String) : CheckFailure → Prop where
  | refused {f : CacheFailure} (h : a.hash key = .error f) : Unread a key (.ofCache f)
  | empty (h : a.hash key = .ok []) :
      Unread a key (.notFound (key ++ ": " ++ (DecodeFailure.notFound "CCU hash is empty").message))

/-- The report of a module is made of its own hash. The number in the hash counts before the one in
the key. -/
def Reports (a : Answers) (number : Nat) (key : String) (report : ModuleReport) : Prop :=
  ∃ hash decoded, a.hash key = .ok hash ∧ Ccu.decode hash = .ok decoded ∧
    report = .ofAttributes key ((Ccu.moduleNumber? hash).getD number) decoded.attributes

/-- A module is read or it is not. -/
theorem Unread.not_fetched (h : Unread a key failure) : ¬Fetched a key := by
  rintro ⟨hash, hhash, hne⟩
  cases h with
  | refused h => simp [h] at hhash
  | empty h => exact hne (Except.ok.inj (hhash.symm.trans h))

/-- A module whose hash has any field gets its report. -/
theorem exists_moduleReport {hash : Ccu.Hash} (hhash : a.hash key = .ok hash) (hne : hash ≠ [])
    (number : Nat) :
    ∃ report, moduleReport number key hash = .ok report ∧ Reports a number key report := by
  obtain ⟨decoded, hdecode, hindex⟩ := Ccu.exists_decode hne
  refine ⟨_, ?_, hash, decoded, hhash, hdecode, rfl⟩
  rw [moduleReport, hdecode]
  show Except.ok (ModuleReport.ofAttributes key _ _) = _
  rw [hindex]

/-! ## One module after another -/

/-- Every module has its report, each with an answer of its own. -/
structure ReadAll (answers : Nat → Answers) (found : List (Nat × String))
    (reports : List ModuleReport) : Prop where
  length : reports.length = found.length
  each : ∀ k number key, found[k]? = some (number, key) →
    ∃ report, reports[k]? = some report ∧ Reports (answers k) number key report

/-- The modules before one could be read, and that one could not. -/
structure StopsAt (answers : Nat → Answers) (found before : List (Nat × String)) (key : String)
    (failure : CheckFailure) : Prop where
  split : ∃ number after, found = before ++ (number, key) :: after
  fetched : ∀ k number key, before[k]? = some (number, key) → Fetched (answers k) key
  unread : Unread (answers before.length) key failure

namespace ReadAll

variable {found : List (Nat × String)}

theorem nil (answers : Nat → Answers) : ReadAll answers [] [] := ⟨rfl, by simp⟩

/-- The first module is read with the first answer, and the others with those after it. -/
theorem cons {report : ModuleReport} (h : Reports (answers 0) number key report)
    (hrest : ReadAll (fun k => answers (k + 1)) found reports) :
    ReadAll answers ((number, key) :: found) (report :: reports) where
  length := congrArg (· + 1) hrest.length
  each k number' key' hget := by
    cases k with
    | zero =>
      obtain ⟨rfl, rfl⟩ := Prod.mk.inj (Option.some.inj hget)
      exact ⟨report, rfl, h⟩
    | succ k => exact hrest.each k number' key' hget

/-- The reports are those of the keys, in their order. -/
theorem keys_eq (h : ReadAll answers found reports) :
    reports.map ModuleReport.key = found.map Prod.snd := by
  refine List.ext_getElem? fun k => ?_
  rw [List.getElem?_map, List.getElem?_map]
  cases hfound : found[k]? with
  | none =>
    rw [List.getElem?_eq_none_iff, ← h.length, ← List.getElem?_eq_none_iff] at hfound
    rw [hfound]
    rfl
  | some entry =>
    obtain ⟨report, hreport, _, _, -, -, rfl⟩ := h.each k _ _ hfound
    rw [hreport]
    rfl

end ReadAll

namespace StopsAt

variable {found before : List (Nat × String)}

/-- The first module could not be read. -/
theorem here (h : Unread (answers 0) key failure) :
    StopsAt answers ((number, key) :: found) [] key failure where
  split := ⟨number, found, rfl⟩
  fetched := by simp
  unread := h

/-- The first module was read, and a later one could not be. -/
theorem later {other : String} (hother : Fetched (answers 0) other)
    (h : StopsAt (fun k => answers (k + 1)) found before key failure) :
    StopsAt answers ((number, other) :: found) ((number, other) :: before) key failure where
  split := by
    obtain ⟨number', after, rfl⟩ := h.split
    exact ⟨number', after, rfl⟩
  fetched k number' key' hget := by
    cases k with
    | zero =>
      obtain ⟨rfl, rfl⟩ := Prod.mk.inj (Option.some.inj hget)
      exact hother
    | succ k => exact h.fetched k number' key' hget
  unread := h.unread

/-- The one that could not be read is among the modules, in the place after those before it. -/
theorem not_fetched (h : StopsAt answers found before key failure) :
    ∃ number, found[before.length]? = some (number, key) ∧
      ¬Fetched (answers before.length) key := by
  obtain ⟨number, after, rfl⟩ := h.split
  exact ⟨number, by simp, h.unread.not_fetched⟩

end StopsAt

/-- Reading comes through, or it stops at a module with no hash after it asked for. Induction on the
modules that are still to be read. -/
theorem readModules_cases (found : List (Nat × String)) (reports : List ModuleReport)
    (answers : Nat → Answers) :
    (∃ more, ReadAll answers found more ∧
      (readModules reports found).outcome answers = .ok (reports ++ more) ∧
      (readModules reports found).hashes answers = found.map Prod.snd) ∨
    ∃ before key failure, StopsAt answers found before key failure ∧
      (readModules reports found).outcome answers = .error failure ∧
      (readModules reports found).hashes answers = before.map Prod.snd ++ [key] := by
  induction found generalizing reports answers with
  | nil => exact .inl ⟨[], .nil answers, by rw [List.append_nil]; rfl, rfl⟩
  | cons entry rest ih =>
    obtain ⟨number, key⟩ := entry
    cases hhash : (answers 0).hash key with
    | error f =>
      refine .inr ⟨[], key, _, .here (.refused hhash), ?_, ?_⟩ <;> simp [readModules, hhash]
    | ok hash =>
      by_cases hne : hash = []
      · subst hne
        refine .inr ⟨[], key, _, .here (.empty hhash), ?_, ?_⟩ <;>
          simp [readModules, moduleReport, Ccu.decode, hhash]
      · obtain ⟨report, hreport, hreports⟩ := exists_moduleReport hhash hne number
        have houtcome : (readModules reports ((number, key) :: rest)).outcome answers
            = (readModules (reports ++ [report]) rest).outcome fun j => answers (j + 1) := by
          simp only [readModules, Reading.outcome_hash, hhash, hreport]
        have hhashes : (readModules reports ((number, key) :: rest)).hashes answers
            = key :: (readModules (reports ++ [report]) rest).hashes fun j => answers (j + 1) := by
          simp only [readModules, Reading.hashes_hash, hhash, hreport]
        -- this module is the first of those that are read, or of those before the one that is not
        rw [houtcome, hhashes]
        rcases ih (reports ++ [report]) fun j => answers (j + 1) with
          ⟨more, hread, hmore, hasked⟩ | ⟨before, key', failure, hstops, hfailure, hasked⟩
        · refine .inl ⟨report :: more, .cons hreports hread, ?_, by rw [hasked]; rfl⟩
          rw [hmore, List.append_assoc, List.singleton_append]
        · exact .inr ⟨(number, key) :: before, key', failure, .later ⟨hash, hhash, hne⟩ hstops,
            hfailure, by rw [hasked]; rfl⟩

/-! ## All modules of a device -/

/-- What it takes to read every module of a device that has some keys. -/
structure Readable (device : Device) (answers : Nat → Answers) (keys : List String) : Prop where
  kind : device.kind = .pile
  connected : (answers 0).connected = true
  search : (answers 1).keys device.snapshotPattern = .ok keys
  module : ∃ key ∈ keys, ∃ number, Numbered key number
  fetched : ∀ k number key, (moduleKeys keys)[k]? = some (number, key) →
    Fetched (answers (k + 2)) key

/-- The first step that fails, what it fails with, and the keys whose hashes were asked for. -/
inductive FirstFailure (device : Device) (answers : Nat → Answers) :
    CheckFailure → List String → Prop where
  | kind (h : device.kind ≠ .pile) :
    FirstFailure device answers
      (.unimplemented (device.kind.tag ++ " devices have no CCU snapshots")) []
  | unconnected (hkind : device.kind = .pile) (h : (answers 0).connected = false) :
    FirstFailure device answers (.notReady "key-value store is not connected") []
  | search (hkind : device.kind = .pile) (hconnected : (answers 0).connected = true)
    {f : CacheFailure} (h : (answers 1).keys device.snapshotPattern = .error f) :
    FirstFailure device answers (.ofCache f) []
  | noModule (hkind : device.kind = .pile) (hconnected : (answers 0).connected = true)
    {keys : List String} (hsearch : (answers 1).keys device.snapshotPattern = .ok keys)
    (h : ∀ key ∈ keys, ∀ number, ¬Numbered key number) :
    FirstFailure device answers (.notFound ("no CCU snapshots for " ++ device.equipNo)) []
  | module (hkind : device.kind = .pile) (hconnected : (answers 0).connected = true)
    {keys : List String} (hsearch : (answers 1).keys device.snapshotPattern = .ok keys)
    {before : List (Nat × String)} {key : String} {failure : CheckFailure}
    (h : StopsAt (fun k => answers (k + 2)) (moduleKeys keys) before key failure) :
    FirstFailure device answers failure (before.map Prod.snd ++ [key])

/-- There are no modules if no key has the number of one. -/
theorem moduleKeys_eq_nil_iff :
    moduleKeys keys = [] ↔ ∀ key ∈ keys, ∀ number, ¬Numbered key number := by
  rw [List.eq_nil_iff_forall_not_mem]
  constructor
  · exact fun h key hkey number hnumber => h (number, key) (mem_moduleKeys.2 ⟨hkey, hnumber⟩)
  · rintro h ⟨number, key⟩ hmem
    obtain ⟨hkey, hnumber⟩ := mem_moduleKeys.1 hmem
    exact h key hkey number hnumber

/-- A step that fails is one of those that it takes. -/
theorem FirstFailure.not_readable {asked : List String}
    (h : FirstFailure device answers failure asked) : ¬Readable device answers keys := by
  intro hread
  cases h with
  | kind h => exact h hread.kind
  | unconnected _ h => simp [hread.connected] at h
  | search _ _ h => simp [hread.search] at h
  | noModule _ _ hsearch h =>
    obtain rfl := Except.ok.inj (hread.search.symm.trans hsearch)
    obtain ⟨key, hkey, number, hnumber⟩ := hread.module
    exact h key hkey number hnumber
  | module _ _ hsearch h =>
    obtain rfl := Except.ok.inj (hread.search.symm.trans hsearch)
    obtain ⟨number, hget, hnot⟩ := h.not_fetched
    exact hnot (hread.fetched _ _ _ hget)

/-- A module that has its report was there. -/
theorem ReadAll.fetched {found : List (Nat × String)} (h : ReadAll answers found reports) :
    ∀ k number key, found[k]? = some (number, key) → Fetched (answers k) key := by
  intro k number key hget
  obtain ⟨report, -, hash, decoded, hhash, hdecode, -⟩ := h.each k number key hget
  refine ⟨hash, hhash, fun hnil => ?_⟩
  rw [hnil] at hdecode
  cases hdecode

/-- Once there are modules, what is left is to read them. -/
theorem collect_of_modules (hkind : device.kind = .pile) (hconnected : (answers 0).connected = true)
    (hsearch : (answers 1).keys device.snapshotPattern = .ok keys) (hne : moduleKeys keys ≠ []) :
    (collect device).outcome answers
        = (readModules [] (moduleKeys keys)).outcome (fun k => answers (k + 2)) ∧
      (collect device).hashes answers
        = (readModules [] (moduleKeys keys)).hashes fun k => answers (k + 2) := by
  obtain ⟨first, rest, hfound⟩ := List.exists_cons_of_ne_nil hne
  constructor <;>
    simp [collect, hkind, DeviceClass.hasSnapshots, hconnected, hsearch, hfound]

/-- Step by step of what is asked before the modules. -/
theorem collect_cases (device : Device) (answers : Nat → Answers) :
    (∃ keys reports, Readable device answers keys ∧
      ReadAll (fun k => answers (k + 2)) (moduleKeys keys) reports ∧
      (collect device).outcome answers = .ok reports ∧
      (collect device).hashes answers = (moduleKeys keys).map Prod.snd) ∨
    ∃ failure asked, FirstFailure device answers failure asked ∧
      (collect device).outcome answers = .error failure ∧
      (collect device).hashes answers = asked := by
  by_cases hkind : device.kind = .pile
  swap
  · have hsnapshots : device.kind.hasSnapshots = false := by
      cases hclass : device.kind with
      | pile => exact absurd hclass hkind
      | stack | unknown => rfl
    refine .inr ⟨_, _, .kind hkind, ?_, ?_⟩ <;> simp [collect, hsnapshots]
  -- question by question: each is the first to fail, or has come through
  have hsnapshots : device.kind.hasSnapshots = true := by rw [hkind]; rfl
  cases hconnected : (answers 0).connected with
  | false =>
    refine .inr ⟨_, _, .unconnected hkind hconnected, ?_, ?_⟩ <;>
      simp [collect, hsnapshots, hconnected]
  | true =>
    cases hsearch : (answers 1).keys device.snapshotPattern with
    | error f =>
      refine .inr ⟨_, _, .search hkind hconnected hsearch, ?_, ?_⟩ <;>
        simp [collect, hsnapshots, hconnected, hsearch]
    | ok keys =>
      by_cases hnone : moduleKeys keys = []
      · refine .inr ⟨_, _, .noModule hkind hconnected hsearch (moduleKeys_eq_nil_iff.1 hnone),
          ?_, ?_⟩ <;>
          simp [collect, hsnapshots, hconnected, hsearch, hnone]
      · -- all that was asked before has come through, and the hashes decide
        obtain ⟨houtcome, hhashes⟩ := collect_of_modules hkind hconnected hsearch hnone
        rw [houtcome, hhashes]
        rcases readModules_cases (moduleKeys keys) [] fun k => answers (k + 2) with
          ⟨reports, hread, hreports, hasked⟩ | ⟨before, key, failure, hstops, hfailure, hasked⟩
        · have hmodule : ∃ key ∈ keys, ∃ number, Numbered key number := by
            simpa [moduleKeys_eq_nil_iff] using hnone
          exact .inl ⟨keys, reports, ⟨hkind, hconnected, hsearch, hmodule, hread.fetched⟩, hread,
            hreports, hasked⟩
        · exact .inr ⟨failure, _, .module hkind hconnected hsearch hstops, hfailure, hasked⟩

/-! ## The whole check -/

/-- What is collected is the first part of what is gathered, and what comes after it asks for no
hash. -/
theorem gather_of_device (equipNo : String) (device : Device) (answers : Nat → Answers) :
    ((gather equipNo (some device)).outcome answers).modules = (collect device).outcome answers ∧
      (gather equipNo (some device)).hashes answers = (collect device).hashes answers := by
  -- what the device has left stands under a key of its own, as a text
  have haggregate (answers : Nat → Answers) : (readAggregate device).hashes answers = [] := by
    cases hconnected : (answers 0).connected with
    | false => simp [readAggregate, hconnected]
    | true =>
      cases htext : (answers 1).text device.aggregateKey <;>
        simp [readAggregate, hconnected, htext]
  have hgather : gather equipNo (some device) = (collect device).bind fun modules =>
      (readAggregate device).bind fun aggregate => .done { modules, aggregate } := rfl
  rw [hgather]
  constructor
  · rw [Reading.outcome_bind, Reading.outcome_bind]
    rfl
  · rw [Reading.hashes_bind, Reading.hashes_bind, haggregate, Reading.hashes_done, List.append_nil,
      List.append_nil]

namespace Duty

/-- **The modules of a check.** A message ends the check of a device that is registered, and the
cache may answer every question as it likes. The modules are collected if and only if the device is
a pile, the cache is connected, the search for keys succeeds with the key of some module, and the
hash of every such module is there and not empty. Then there is one report for each of these keys,
ascending by the number in the key and then by its text; each is made of its own hash, and its
number is that of the hash or else that of the key. Otherwise the details hold no modules but the
error of the first step that failed, and no hash was asked for after it. -/
theorem modules_collected (d : Duty) (payload : ByteArray) (m : Moment) (w : Surroundings)
    {c : Closing} {device : Device} (hclosing : (d.desk.receive payload m).2.2 = some c)
    (hdevice : w.devices c.session.device = some device) :
    let reading := gather c.session.device (some device)
    let found := reading.outcome w.cache
    let details := c.document (some device) found
    (∃ record, (d.handle payload m w).records = d.records ++ [record] ∧
      record.details = details.render) ∧
    ((∃ reports, found.modules = .ok reports) ↔ ∃ keys, Readable device w.cache keys) ∧
    (∀ keys, (∀ number key,
        (number, key) ∈ moduleKeys keys ↔ key ∈ keys ∧ Numbered key number) ∧
      (keys.Nodup → (moduleKeys keys).Pairwise Precedes)) ∧
    (∀ reports, found.modules = .ok reports → ∃ keys, Readable device w.cache keys ∧
      ReadAll (fun k => w.cache (k + 2)) (moduleKeys keys) reports ∧
      reports.map ModuleReport.key = (moduleKeys keys).map Prod.snd ∧
      reading.hashes w.cache = (moduleKeys keys).map Prod.snd ∧
      details.member? "modules" = some (.list (reports.map ModuleReport.json)) ∧
      details.member? "error" = some .null) ∧
    ∀ failure, found.modules = .error failure →
      FirstFailure device w.cache failure (reading.hashes w.cache) ∧
      details.member? "modules" = some (.list []) ∧
      details.member? "error" = some (.text failure.message) := by
  intro reading found details
  obtain ⟨hmodules, hhashes⟩ := gather_of_device c.session.device device w.cache
  have hmember : details.member? "modules" = some (modulesDocument found.modules) :=
    Json.member?_ofMembers _ _
  have herror : details.member? "error" = some (errorDocument found.modules) :=
    Json.member?_ofMembers _ _
  have hrecord : ∃ record, (d.handle payload m w).records = d.records ++ [record] ∧
      record.details = details.render := by
    refine ⟨_, records_handle_of_closing hclosing w, ?_⟩
    -- the record is made with the device that the registry holds as the check ends
    show (c.document (w.devices c.session.device) _).render = _
    rw [hdevice]
  refine ⟨hrecord, ?_⟩
  have hkeys (keys : List String) : (∀ number key,
      (number, key) ∈ moduleKeys keys ↔ key ∈ keys ∧ Numbered key number) ∧
      (keys.Nodup → (moduleKeys keys).Pairwise Precedes) :=
    ⟨fun _ _ => mem_moduleKeys, ascending_moduleKeys⟩
  -- success and failure exclude each other, so each clause is about one of the two
  rcases collect_cases device w.cache with
    ⟨keys, reports, hread, hall, hreports, hasked⟩ | ⟨failure, asked, hfirst, hfailure, hasked⟩
  · have hfound : found.modules = .ok reports := hmodules.trans hreports
    refine ⟨⟨fun _ => ⟨keys, hread⟩, fun _ => ⟨reports, hfound⟩⟩, hkeys, fun reports' h => ?_,
      fun failure h => ?_⟩
    · obtain rfl := Except.ok.inj (hfound.symm.trans h)
      refine ⟨keys, hread, hall, hall.keys_eq, hhashes.trans hasked, ?_, ?_⟩
      · rw [hmember, hfound, modulesDocument]
      · rw [herror, hfound, errorDocument]
    · rw [hfound] at h
      cases h
  · have hfound : found.modules = .error failure := hmodules.trans hfailure
    refine ⟨⟨fun ⟨reports, h⟩ => ?_, fun ⟨keys, hread⟩ => absurd hread hfirst.not_readable⟩,
      hkeys, fun reports h => ?_, fun failure' h => ?_⟩
    · rw [hfound] at h
      cases h
    · rw [hfound] at h
      cases h
    · obtain rfl := Except.error.inj (hfound.symm.trans h)
      refine ⟨?_, ?_, ?_⟩
      · rw [hhashes, hasked]
        exact hfirst
      · rw [hmember, hfound, modulesDocument]
      · rw [herror, hfound, errorDocument]

/-- A cache with two modules of `EQ-1`, and a key that is none of a module. -/
def twoModules : Surroundings where
  devices k := if k = "EQ-1" then some pile else none
  cache _ :=
    { connected := true
      keys := fun _ =>
        .ok ["selfcheck:PILE#EQ-1:CCU#10", "selfcheck:PILE#EQ-1:CCU#", "selfcheck:PILE#EQ-1:CCU#2"]
      hash := fun _ => .ok [("0;", "1")]
      text := fun key => .error (.notFound key) }
  recorded := ⟨2, "", ""⟩
  store := .error (.permanent "")

/-- The final result of the check comes in, and both modules are read, number 2 first. -/
theorem modules_collected_two :
    let d := (start {}).run [.trigger "EQ-1" ⟨0, "", ""⟩, .published 0 none]
    ∃ c reports, (d.desk.receive (resultFor "1") ⟨1, "", ""⟩).2.2 = some c ∧
      twoModules.devices c.session.device = some pile ∧
      ((gather c.session.device (some pile)).outcome twoModules.cache).modules = .ok reports ∧
      reports.map ModuleReport.key
        = ["selfcheck:PILE#EQ-1:CCU#2", "selfcheck:PILE#EQ-1:CCU#10"] := by
  intro d
  have hends : (d.desk.receive (resultFor "1") ⟨1, "", ""⟩).2.2.map (·.session.device)
      = some "EQ-1" := by
    decide +kernel
  obtain ⟨c, hclosing, hkey⟩ := Option.map_eq_some_iff.1 hends
  have hdevice : twoModules.devices c.session.device = some pile := if_pos hkey
  obtain ⟨-, hiff, -, hreports, -⟩ :=
    modules_collected d (resultFor "1") ⟨1, "", ""⟩ twoModules hclosing hdevice
  have hten : ModuleKey.moduleIndex? "selfcheck:PILE#EQ-1:CCU#10" = some 10 := by decide
  have hnone : ModuleKey.moduleIndex? "selfcheck:PILE#EQ-1:CCU#" = none := by decide
  have htwo : ModuleKey.moduleIndex? "selfcheck:PILE#EQ-1:CCU#2" = some 2 := by decide
  obtain ⟨reports, hok⟩ := hiff.2 ⟨_, rfl, rfl, rfl,
    ⟨_, List.mem_cons_self, 10, ModuleKey.moduleIndex?_eq_some_iff.1 hten⟩,
    fun _ _ _ _ => ⟨_, rfl, List.cons_ne_nil _ _⟩⟩
  obtain ⟨keys, hread, -, hmap, -⟩ := hreports reports hok
  obtain rfl := Except.ok.inj hread.search
  refine ⟨c, reports, hclosing, hdevice, hok, hmap.trans ?_⟩
  simp [moduleKeys, hten, hnone, htwo, List.mergeSort]

end Duty

end Check
end PileCheck
