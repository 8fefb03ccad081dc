import PileCheck.Check.Closing
import PileCheck.Proofs.Json.Nesting

/-!
# Reading back the details of a check

The details of a check are a document that is stored as a text, and `Record.document` reads the
text. All parts that are made here nest a few brackets deep and hold numbers of 64 bits, so they
come back. One part is from elsewhere: the result that the device itself has left, which was read as
a document if it is one. That may nest as deep as reading allows, and then the details nest one
deeper and are not read again (`document_reads_iff`, `nested_lost`).
-/

namespace PileCheck

open Cache (Reading)
open Json (Within)

namespace Ccu

variable {room : Nat}

/-! ## Modules -/

theorem Contactor.within_json (c : Contactor) : c.json.Within 1 :=
  .ofMembers (by simp [Within.bool])

theorem ContactorPair.within_json (p : ContactorPair) : p.json.Within 1 :=
  .ofMembers (by simp [Within.bool])

theorem Fan.within_json (f : Fan) : f.json.Within 1 := .ofMembers (by simp [Within.bool])

theorem Gun.within_json (g : Gun) : g.json.Within 1 := .ofMembers (by simp [Within.bool])

theorem Fault.within_json (f : Fault) : f.json.Within 1 := .ofMembers (by simp [Within.text])

/-- A module is shown in two levels, and its number has its width. -/
theorem Attributes.within_json {a : Attributes} (h : ∀ n ∈ a.index, n ≤ Numeral.nat32Max) :
    a.json.Within 2 := by
  have hindex : (Json.intOrNull (a.index.map Int.ofNat)).Within 1 := by
    cases hn : a.index with
    | none => exact .null
    | some n => exact .nat (Nat.le_trans (h n hn) (by decide))
  refine .ofMembers ?_
  simp [hindex, Contactor.within_json, ContactorPair.within_json, Fan.within_json, Gun.within_json]

end Ccu

namespace Check

/-- The number of a module has the width of its field, wherever it was taken from. -/
def ModuleReport.Sized (r : ModuleReport) : Prop :=
  r.index ≤ Numeral.nat32Max ∧ ∀ n ∈ r.attributes.index, n ≤ Numeral.nat32Max

/-- The report of a module nests it one deeper, beside its faults. -/
theorem ModuleReport.within_json {r : ModuleReport} (h : r.Sized) : r.json.Within 3 := by
  have hindex : (Json.nat r.index).Within 2 := .nat (Nat.le_trans h.1 (by decide))
  have hfaults : (Json.list (r.faults.map Ccu.Fault.json)).Within 2 :=
    .list (by simp [Ccu.Fault.within_json])
  refine .ofMembers ?_
  simp [hindex, hfaults, Ccu.Attributes.within_json h.2, Within.text]

/-! ## The parts that are made here -/

/-- The numbers of a check have the widths of their fields. -/
structure Sized (c : Closing) (device : Option Device)
    (modules : Except CheckFailure (List ModuleReport)) : Prop where
  request : c.session.request ≤ Numeral.nat64Max
  result : Numeral.fitsInt64 c.reported.result = true
  successCount : ∀ n ∈ c.reported.successCount, Numeral.fitsInt64 n = true
  failCount : ∀ n ∈ c.reported.failCount, Numeral.fitsInt64 n = true
  code : ∀ n ∈ c.reported.code, Numeral.fitsInt64 n = true
  connectors : ∀ d ∈ device, d.connectors ≤ Numeral.nat32Max
  modules : ∀ reports, modules = .ok reports → ∀ r ∈ reports, r.Sized

variable {c : Closing} {device : Option Device} {modules : Except CheckFailure (List ModuleReport)}
  {aggregate : Option Json}

namespace Sized

/-- What the message reported is one level of numbers and texts. -/
theorem within_reported (h : Sized c device modules) : c.reported.json.Within 1 := by
  refine .ofMembers ?_
  simp [Within.text, Within.int64 h.result, Within.int64OrNull h.successCount,
    Within.int64OrNull h.failCount, Within.int64OrNull h.code]

/-- What is known of the device, whether it was found or not. -/
theorem within_device (h : Sized c device modules) :
    (deviceDocument c.session.device device).Within 1 := by
  cases hdevice : device with
  | none => exact .ofMembers (by simp [Within.text])
  | some d =>
    have hconnectors : (Json.nat d.connectors).Within 0 :=
      .nat (Nat.le_trans (h.connectors d hdevice) (by decide))
    exact .ofMembers (by simp [Within.text, hconnectors])

/-- The reports of all modules, or nothing if they could not be read. -/
theorem within_modules (h : Sized c device modules) : (modulesDocument modules).Within 4 := by
  cases hmodules : modules with
  | error f => exact .list (by simp)
  | ok reports =>
    refine .list ?_
    simp only [List.forall_mem_map]
    exact fun r hr => ModuleReport.within_json (h.modules reports hmodules r hr)

/-- Why they could not. -/
theorem within_error (modules : Except CheckFailure (List ModuleReport)) :
    (errorDocument modules).Within 0 := by
  cases modules with
  | error f => exact .text _
  | ok reports => exact .null

/-- The details are one deeper than their deepest part, and what the device left is the only part
that may be deep. -/
theorem within_document (h : Sized c device modules) {room : Nat} (hroom : 4 ≤ room)
    (haggregate : (aggregate.getD .null).Within room) :
    (c.document device { modules, aggregate }).Within (room + 1) := by
  have hrequest : (Json.nat c.session.request).Within room := .nat h.request
  have hdevice : (deviceDocument c.session.device device).Within room :=
    h.within_device.mono (by omega)
  have hmodules : (modulesDocument modules).Within room := h.within_modules.mono hroom
  have hreported : c.reported.json.Within room := h.within_reported.mono (by omega)
  have herror : (errorDocument modules).Within room := (within_error modules).mono (Nat.zero_le _)
  -- the moments and the device's number are texts
  refine .ofMembers ?_
  simp [hrequest, hdevice, hmodules, hreported, haggregate, herror, Within.text, Within.textOrNull]

end Sized

/-- What the device left is one of the parts. -/
theorem depth_aggregate_lt (c : Closing) (device : Option Device) (f : Findings) :
    (f.aggregate.getD .null).depth < (c.document device f).depth := by
  have hmember : (c.document device f).member? "aggregate" = some (f.aggregate.getD .null) :=
    Json.member?_ofMembers _ _
  exact Json.depth_lt_of_member? hmember

/-! ## What the device has left -/

/-- The text that is found under the device's key, while a connection is held. -/
def Left (a : Cache.Answers) (device : Option Device) (raw : String) : Prop :=
  a.connected = true ∧ ∃ d ∈ device, a.text d.aggregateKey = .ok raw

/-- What is found of a device besides its modules: a document, a text or nothing. -/
def leftBy (a : Cache.Answers) (device : Option Device) : Option Json :=
  device.bind fun d => (readAggregate d).run a

/-- What is found of a device is its modules and what it has left. -/
theorem run_gather (a : Cache.Answers) (equipNo : String) (d : Device) :
    (gather equipNo (some d)).run a
      = { modules := (collect d).run a, aggregate := leftBy a (some d) } := by
  rw [gather]
  simp only [bind, pure, Reading.run_bind]
  rfl

variable {a : Cache.Answers} {raw : String}

/-- A text that is found is kept as the document that it is, or else as a text. -/
theorem leftBy_of_left (h : Left a device raw) :
    leftBy a device = some ((Json.read? raw).getD (.text raw)) := by
  obtain ⟨hconnected, d, hd, htext⟩ := h
  obtain rfl := Option.mem_def.1 hd
  show (readAggregate d).run a = _
  simp only [readAggregate, Reading.run, hconnected, htext]

/-- Where no text is found nothing is kept. -/
theorem leftBy_eq_none (h : ∀ raw, ¬Left a device raw) : leftBy a device = none := by
  cases device with
  | none => rfl
  | some d =>
    show (readAggregate d).run a = none
    cases hconnected : a.connected with
    | false => simp only [readAggregate, Reading.run, hconnected]
    | true =>
      cases htext : a.text d.aggregateKey with
      | error f => simp only [readAggregate, Reading.run, hconnected, htext]
      | ok raw => exact absurd ⟨hconnected, d, rfl, htext⟩ (h raw)

/-- What the device has left nests as deep as reading allows. -/
def LeftTooDeep (a : Cache.Answers) (device : Option Device) : Prop :=
  ∃ raw v, Left a device raw ∧ Json.read? raw = some v ∧ v.depth = Json.depthLimit

/-- Otherwise it leaves room for one bracket more. -/
theorem within_leftBy (h : ¬LeftTooDeep a device) :
    ((leftBy a device).getD .null).Within (Json.depthLimit - 1) := by
  by_cases hleft : ∃ raw, Left a device raw
  · obtain ⟨raw, hleft⟩ := hleft
    rw [leftBy_of_left hleft, Option.getD_some]
    cases hread : Json.read? raw with
    | none => exact .text raw
    | some v =>
      have hv := Json.within_of_read? hread
      have hne : v.depth ≠ Json.depthLimit := fun heq => h ⟨raw, v, hleft, hread, heq⟩
      exact ⟨hv.readable, Nat.le_pred_of_lt (Nat.lt_of_le_of_ne hv.depth hne)⟩
  · rw [leftBy_eq_none (not_exists.1 hleft)]
    exact .null

/-! ## Reading the details -/

theorem details_record (c : Closing) (settings : Settings) (device : Option Device) (f : Findings)
    (m : Moment) :
    (c.record settings device f m).details = (c.document device f).render := rfl

section Reads

variable (h : Sized c device modules) (settings : Settings) (m : Moment)
include h

/-- With room for one bracket more the details come back. -/
theorem document_of_not_leftTooDeep (hleft : ¬LeftTooDeep a device) :
    ∃ v, (c.record settings device { modules, aggregate := leftBy a device } m).document
      = .ok v := by
  have hwithin := h.within_document (by decide) (within_leftBy hleft)
  have hread := (Json.isSome_read?_render hwithin.readable).2 hwithin.depth
  obtain ⟨v, hv⟩ := Option.isSome_iff_exists.1 hread
  exact ⟨v, by rw [Record.document, details_record, hv]⟩

/-- Without it they do not. -/
theorem document_of_leftTooDeep (hleft : LeftTooDeep a device) :
    (c.record settings device { modules, aggregate := leftBy a device } m).document
      = .error (.rowMapping "DetailsJSON") := by
  obtain ⟨raw, v, hleft, hv, hdepth⟩ := hleft
  have haggregate : leftBy a device = some v := by rw [leftBy_of_left hleft, hv, Option.getD_some]
  have hv' : ((some v).getD Json.null).Within Json.depthLimit := Json.within_of_read? hv
  have hwithin := h.within_document (by decide) hv'
  -- the part fills the room, so that the whole is one bracket too deep
  have hdeep : Json.depthLimit < (c.document device { modules, aggregate := some v }).depth :=
    hdepth ▸ depth_aggregate_lt c device { modules, aggregate := some v }
  have hread := mt (Json.isSome_read?_render hwithin.readable).1 (Nat.not_le.2 hdeep)
  rw [haggregate, Record.document, details_record, Option.not_isSome_iff_eq_none.1 hread]

end Reads

/-- The details of a check come back from the store unless the device has left a document that nests
as deep as reading allows, and then they never do. -/
theorem document_reads_iff (h : Sized c device modules) (settings : Settings) (a : Cache.Answers)
    (m : Moment) :
    let details :=
      (c.record settings device { modules, aggregate := leftBy a device } m).document
    ((∃ v, details = .ok v) ↔ ¬LeftTooDeep a device)
      ∧ (details = .error (.rowMapping "DetailsJSON") ↔ LeftTooDeep a device) := by
  intro details
  by_cases hleft : LeftTooDeep a device
  · have hlost : details = _ := document_of_leftTooDeep h settings m hleft
    simp [hlost, hleft]
  · obtain ⟨v, hv⟩ := document_of_not_leftTooDeep h settings m hleft
    have hkept : details = .ok v := hv
    simp [hkept, hleft]

/-! ## A pile that leaves one text -/

/-- A cache that holds nothing but the result that a device has left. -/
def leaving (d : Device) (raw : String) : Cache.Answers where
  connected := true
  keys _ := .ok []
  hash _ := .ok []
  text key := if key = d.aggregateKey then .ok raw else .error (.notFound key)

theorem left_leaving (d : Device) (raw : String) : Left (leaving d raw) (some d) raw :=
  ⟨rfl, d, rfl, if_pos rfl⟩

def pile : Device := { equipNo := "EQ-1", kind := .pile, typeName := "PILE", connectors := 2 }

/-- A check of the pile that went well. -/
def passed : Closing where
  session := { Session.start 1 "EQ-1" ⟨0, "", ""⟩ with state := .completed }
  reported := Desk.FinalResult.reported ⟨"EQ-1", 0, 10, 0, 0, some 1⟩

theorem sized_passed (f : CheckFailure) : Sized passed (some pile) (.error f) where
  request := by decide
  result := by decide
  successCount := by decide
  failCount := by decide
  code := by decide
  connectors := by decide
  modules := nofun

/-- A document of 126 nested lists leaves room, and the details come back. -/
theorem document_reads_nested :
    Sized passed (some pile) (.error (.notFound "")) ∧
      ∃ v, (passed.record {} (some pile)
        ⟨.error (.notFound ""), leftBy (leaving pile (Json.nested 125).render) (some pile)⟩
        ⟨0, "", ""⟩).document = .ok v := by
  refine ⟨sized_passed _, (document_reads_iff (sized_passed _) {} _ _).1.2 ?_⟩
  rintro ⟨raw, v, ⟨-, d, hd, htext⟩, hv, hdepth⟩
  obtain rfl := Option.some.inj hd
  obtain rfl := Except.ok.inj htext
  rw [Json.read?_nested (by decide)] at hv
  obtain rfl := Option.some.inj hv
  simp [Json.depthLimit] at hdepth

/-- The pile leaves 127 nested lists, which are a document. The details hold it, and they are not
read again. -/
theorem nested_lost :
    let raw := String.ofList (List.replicate 127 '[' ++ List.replicate 127 ']')
    let found := (gather "EQ-1" (some pile)).run (leaving pile raw)
    (∃ v, Json.read? raw = some v ∧ found.aggregate = some v) ∧
      (passed.record {} (some pile) found ⟨0, "", ""⟩).document
        = .error (.rowMapping "DetailsJSON") := by
  intro raw found
  have hraw : raw = (Json.nested 126).render := by
    rw [Json.render, Json.chars_nested]
  -- it is read where it stands; in the document it is one level too deep
  have hread : Json.read? raw = some (Json.nested 126) := by
    rw [hraw, Json.read?_nested (by decide)]
  have hleft := left_leaving pile raw
  have hfound : found = ⟨(collect pile).run (leaving pile raw),
      leftBy (leaving pile raw) (some pile)⟩ := run_gather _ _ _
  have hmodules : (collect pile).run (leaving pile raw)
      = .error (.notFound "no CCU snapshots for EQ-1") := by
    simp [collect, Reading.run, moduleKeys, leaving, pile, DeviceClass.hasSnapshots]
  rw [hfound, hmodules]
  constructor
  · exact ⟨_, hread, by rw [leftBy_of_left hleft, hread, Option.getD_some]⟩
  · exact document_of_leftTooDeep (sized_passed _) {} _
      ⟨raw, _, hleft, hread, Json.depth_nested 126⟩

end Check

end PileCheck
