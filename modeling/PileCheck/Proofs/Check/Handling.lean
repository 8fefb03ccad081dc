import PileCheck.Proofs.Check.Duty
import PileCheck.Proofs.Places

/-!
# Handling a message to its end

A message that ends a check leaves a conclusion, and the conclusion asks the cache, makes a record,
hands it to the store and announces the result. This module says what all these acts come to when
they are taken one after the other.

The number of questions depends on the answers, so it is read off the tree of questions
(`Reading.questions`), together with what the tree ends in (`Reading.outcome`). The induction on the
tree is `run_handling`, and `handle_eq` is the whole: the desk is as the message has left it, no
conclusion is left behind, and the journal has grown by the `story` of the message.
-/

namespace PileCheck

/-! ## Questions and their answers -/

namespace Cache.Reading

variable {α : Type}

/-- How many questions are asked, with the answers of a cache that may change between any two. -/
def questions : Reading α → (Nat → Answers) → Nat
  | done _, _ => 0
  | connected next, answers =>
    (next (answers 0).connected).questions (fun j => answers (j + 1)) + 1
  | keys pattern next, answers =>
    (next ((answers 0).keys pattern)).questions (fun j => answers (j + 1)) + 1
  | hash key next, answers =>
    (next ((answers 0).hash key)).questions (fun j => answers (j + 1)) + 1
  | text key next, answers =>
    (next ((answers 0).text key)).questions (fun j => answers (j + 1)) + 1

/-- What the questions end in, with these answers. -/
def outcome : Reading α → (Nat → Answers) → α
  | done a, _ => a
  | connected next, answers => (next (answers 0).connected).outcome fun j => answers (j + 1)
  | keys pattern next, answers => (next ((answers 0).keys pattern)).outcome fun j => answers (j + 1)
  | hash key next, answers => (next ((answers 0).hash key)).outcome fun j => answers (j + 1)
  | text key next, answers => (next ((answers 0).text key)).outcome fun j => answers (j + 1)

end Cache.Reading

namespace Check.Duty

variable {d : Duty} {i : Nat} {c : Closing} {device : Option Device}

/-! ## One conclusion -/

/-- One more answer leaves a conclusion in its place, with fewer questions. -/
theorem getElem?_read {r : Cache.Reading Findings}
    (hget : d.conclusions[i]? = some (.reading c device r)) (a : Cache.Answers) :
    (d.step (.read i a)).conclusions[i]? = some (.reading c device (r.answer a)) ∧
      (d.step (.read i a)).conclusions.eraseIdx i = d.conclusions.eraseIdx i := by
  constructor
  · show (d.conclusions.modify i (·.answer a))[i]? = _
    rw [List.getElem?_modify_eq, hget]
    rfl
  · exact eraseIdx_modify _ _ _

/-- A conclusion is over: a record was made of these findings and the store has answered. -/
def concluded (d : Duty) (i : Nat) (c : Closing) (device : Option Device) (f : Findings)
    (m : Moment) (a : Sql.Answer) : Duty :=
  let r := c.recording d.desk.settings device f m
  note { d with conclusions := d.conclusions.eraseIdx i }
    [.inserting c.session.request r.record, .answered c.session.request a, .heard (r.outcome a)]

/-- With everything read, a record and an answer of the store are the end. -/
theorem run_record {f : Findings} (hget : d.conclusions[i]? = some (.reading c device (.done f)))
    (m : Moment) (a : Sql.Answer) :
    d.run [.record i m, .stored i a] = d.concluded i c device f m a := by
  obtain ⟨hi, -⟩ := List.getElem?_eq_some_iff.1 hget
  have hrecord : d.record i m
      = note { d with
          conclusions := d.conclusions.set i (.storing (c.recording d.desk.settings device f m)) }
        [.inserting c.session.request (c.recording d.desk.settings device f m).record] := by
    rw [record, hget]
  have hstoring : (d.record i m).conclusions[i]?
      = some (.storing (c.recording d.desk.settings device f m)) := by
    rw [hrecord]
    exact List.getElem?_set_self hi
  show (d.record i m).stored i a = _
  rw [stored, hstoring, hrecord]
  simp only [note, concluded, List.eraseIdx_set_eq, List.append_assoc]
  rfl

/-- The rest of the handling of a check, with the first answers of a cache. -/
def handling (i n : Nat) (answers : Nat → Cache.Answers) (m : Moment) (a : Sql.Answer) : List Act :=
  ((List.range n).map fun j => .read i (answers j)) ++ [.record i m, .stored i a]

/-- One more question is asked first. -/
theorem handling_succ (i n : Nat) (answers : Nat → Cache.Answers) (m : Moment) (a : Sql.Answer) :
    handling i (n + 1) answers m a
      = .read i (answers 0) :: handling i n (fun j => answers (j + 1)) m a := by
  simp [handling, List.range_succ_eq_map, Function.comp_def]

/-- What the rest comes to after the next answer is what it comes to before it. -/
theorem run_handling_succ {r : Cache.Reading Findings}
    (hget : d.conclusions[i]? = some (.reading c device r)) {n : Nat}
    {answers : Nat → Cache.Answers} {f : Findings} {m : Moment} {a : Sql.Answer}
    (h : (d.step (.read i (answers 0))).run (handling i n (fun j => answers (j + 1)) m a)
      = (d.step (.read i (answers 0))).concluded i c device f m a) :
    d.run (handling i (n + 1) answers m a) = d.concluded i c device f m a := by
  rw [handling_succ]
  refine h.trans ?_
  show note { d.step (.read i (answers 0)) with
    conclusions := (d.step (.read i (answers 0))).conclusions.eraseIdx i } _ = _
  rw [(getElem?_read hget (answers 0)).2]
  rfl

/-- Handling ends, whatever a cache that may change all the time answers, and with whatever the
store answers. Induction on the questions that are left. -/
theorem run_handling {r : Cache.Reading Findings}
    (hget : d.conclusions[i]? = some (.reading c device r)) (answers : Nat → Cache.Answers)
    (m : Moment) (a : Sql.Answer) :
    d.run (handling i (r.questions answers) answers m a)
      = d.concluded i c device (r.outcome answers) m a := by
  induction r generalizing d answers with
  | done f => exact run_record hget m a
  | connected next ih => exact run_handling_succ hget (ih _ (getElem?_read hget _).1 _)
  | keys pattern next ih => exact run_handling_succ hget (ih _ (getElem?_read hget _).1 _)
  | hash key next ih => exact run_handling_succ hget (ih _ (getElem?_read hget _).1 _)
  | text key next ih => exact run_handling_succ hget (ih _ (getElem?_read hget _).1 _)

/-- Whatever the cache and the store answer, a conclusion comes to its end. -/
theorem exists_handled {r : Cache.Reading Findings}
    (hget : d.conclusions[i]? = some (.reading c device r)) (answers : Nat → Cache.Answers)
    (m : Moment) (a : Sql.Answer) :
    ∃ n, (d.run (handling i n answers m a)).conclusions = d.conclusions.eraseIdx i := by
  refine ⟨r.questions answers, ?_⟩
  rw [run_handling hget]
  rfl

/-! ## One message -/

/-- What one handling finds around it: the registry, the cache at each of its questions, the clock
when the record is made, and the answer of the store. -/
structure Surroundings where
  devices : String → Option Device
  cache : Nat → Cache.Answers
  recorded : Moment
  store : Sql.Answer

/-- The acts of handling a payload, from its arrival to the result. -/
def handlingOf (d : Duty) (payload : ByteArray) (m : Moment) (w : Surroundings) : List Act :=
  .receive payload m w.devices ::
    match (d.desk.receive payload m).2.2 with
    | none => []
    | some c =>
      let reading := gather c.session.device (w.devices c.session.device)
      handling d.conclusions.length (reading.questions w.cache) w.cache w.recorded w.store

/-- Handles a payload to completion. -/
def handle (d : Duty) (payload : ByteArray) (m : Moment) (w : Surroundings) : Duty :=
  d.run (d.handlingOf payload m w)

/-- The record of an ended check, with what it was made from. -/
def recordingOf (c : Closing) (settings : Settings) (w : Surroundings) : Recording :=
  let device := w.devices c.session.device
  c.recording settings device ((gather c.session.device device).outcome w.cache) w.recorded

/-- What the journal says of a check from its end on. -/
def conclusionStory (c : Closing) (settings : Settings) (w : Surroundings) : List Entry :=
  let r := recordingOf c settings w
  [.inserting c.session.request r.record, .answered c.session.request w.store,
    .heard (r.outcome w.store)]

/-- What the journal says of a message that is handled to completion. -/
def story (d : Duty) (payload : ByteArray) (m : Moment) (w : Surroundings) : List Entry :=
  let (desk, events, closing) := d.desk.receive payload m
  (closing.toList.map fun c => Entry.ended c.session.request payload) ++ events.map .heard
    ++ closing.toList.flatMap fun c => conclusionStory c desk.settings w

section Story

variable {payload : ByteArray} {m : Moment}

/-- A message that ends no check is only heard of. -/
theorem story_of_none (h : (d.desk.receive payload m).2.2 = none) (w : Surroundings) :
    d.story payload m w = (d.desk.receive payload m).2.1.map .heard := by
  simp [story, h]

/-- The story of a message that ends a check. -/
theorem story_of_some (h : (d.desk.receive payload m).2.2 = some c) (w : Surroundings) :
    d.story payload m w = .ended c.session.request payload ::
      ((d.desk.receive payload m).2.1.map .heard
        ++ conclusionStory c (d.desk.receive payload m).1.settings w) := by
  simp [story, h]

end Story

/-- Handling leaves no conclusion behind, and changes nothing beside the desk and the journal. -/
theorem handle_eq (d : Duty) (payload : ByteArray) (m : Moment) (w : Surroundings) :
    d.handle payload m w = { d with
      desk := (d.desk.receive payload m).1, journal := d.journal ++ d.story payload m w } := by
  rw [handle, handlingOf, story]
  cases hclosing : (d.desk.receive payload m).2.2 with
  | none =>
    show d.receive payload m w.devices = _
    simp [receive, note, hclosing]
  | some c =>
    have hconclusions : (d.receive payload m w.devices).conclusions
        = d.conclusions ++ [.begin c (w.devices c.session.device)] := by
      simp [receive, note, hclosing]
    -- the conclusion is the last one, so it is in the place of the length before
    have hget : (d.receive payload m w.devices).conclusions[d.conclusions.length]?
        = some (.begin c (w.devices c.session.device)) := by
      rw [hconclusions, List.getElem?_concat_length]
    have herase : (d.conclusions ++ [Conclusion.begin c (w.devices c.session.device)]).eraseIdx
        d.conclusions.length = d.conclusions := eraseIdx_concat_length _ _
    show (d.receive payload m w.devices).run (handling _ _ _ _ _) = _
    rw [run_handling hget, concluded, hconclusions, herase]
    simp [receive, note, hclosing, conclusionStory, recordingOf]

end Check.Duty
end PileCheck
