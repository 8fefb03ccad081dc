import PileCheck.Proofs.Check.Grounds

/-!
# Whom a reply is for

A reply may echo the number of its request under `Index`. A value `Names` a number there only if it
is a whole number from 0 to the largest of 64 bits with a sign, written as a number or as a text.

Two things follow. A reply that names another request than that of the active session changes
nothing. A reply with a value that names none is the same message as without the value
(`ofJson_without`), and such a message is for whatever session its device has: a last one ends that
session, whatever stood under `Index`.
-/

namespace PileCheck

/-! ## Documents without a member -/

namespace Json

variable {name gone : String}

/-- An object loses every member of the name; nothing else has members. -/
def without (gone : String) : Json → Json
  | .object members => .object (members.filter fun m => m.1 ≠ gone)
  | v => v

/-- Induction on the members: those that go have another name than the one that is looked up. -/
theorem lookup_filter_of_ne (h : name ≠ gone) (members : List (String × Json)) :
    (members.filter fun m => m.1 ≠ gone).lookup name = members.lookup name := by
  induction members with
  | nil => rfl
  | cons m rest ih =>
    obtain ⟨head, v⟩ := m
    rw [lookup_cons]
    by_cases hhead : head = gone
    · have hother : name ≠ head := fun heq => h (heq.trans hhead)
      rw [List.filter_cons_of_neg (by simpa using hhead), if_neg hother]
      exact ih
    · rw [List.filter_cons_of_pos (by simpa using hhead), lookup_cons, ih]

/-- Members of other names are found as before. -/
theorem member?_without (h : name ≠ gone) (v : Json) :
    (v.without gone).member? name = v.member? name := by
  cases v with
  | object members => exact lookup_filter_of_ne h members
  | null | bool | number | text | list => rfl

/-- And none of that name is. -/
theorem member?_without_self (gone : String) (v : Json) :
    (v.without gone).member? gone = none := by
  cases v with
  | object members =>
    refine List.lookup_eq_none_iff.2 fun m hm => ?_
    have hne : m.1 ≠ gone := of_decide_eq_true (List.mem_filter.1 hm).2
    exact bne_iff_ne.2 hne.symm
  | null | bool | number | text | list => rfl

end Json

namespace Check

namespace Inbound

variable {root v : Json} {message : Inbound} {i : Nat}

/-! ## Numbers of requests -/

/-- A whole number within 64 bits that is not below zero, or a text that reads as one. -/
def Names (v : Json) (i : Nat) : Prop :=
  (i : Int) ≤ Numeral.int64Max ∧
    (v = Json.nat i ∨
      ∃ s, v = .text s ∧ Numeral.readInt? (Text.trimChars s.toList) = some (i : Int))

/-- What the reader of a message takes a value of the index for. -/
def requestOf? (v : Json) : Option Nat :=
  (intOf? v).bind fun i => if 0 ≤ i then some i.toNat else none

/-- A message that has an index echoes what the reader takes it for. -/
theorem indexField?_of_member (h : root.member? "Index" = some v) :
    indexField? root = requestOf? v := by
  rw [indexField?, intField?, h]
  rfl

theorem indexField?_without (root : Json) : indexField? (root.without "Index") = none := by
  rw [indexField?, intField?, Json.member?_without_self]
  rfl

theorem requestOf?_eq_some_iff_intOf? : requestOf? v = some i ↔ intOf? v = some (i : Int) := by
  have hnat : ∀ n : Int, (if 0 ≤ n then some n.toNat else none) = some i ↔ n = i := by
    intro n
    by_cases hn : 0 ≤ n
    · rw [if_pos hn, Option.some_inj]
      omega
    · rw [if_neg hn]
      constructor
      · nofun
      · omega
  rw [requestOf?, Option.bind_eq_some_iff]
  simp only [hnat]
  exact ⟨fun ⟨n, hn, heq⟩ => heq ▸ hn, fun h => ⟨i, h, rfl⟩⟩

/-- The reader takes a value for the number that it names, and no other value for a number. Case by
case of the kinds of values. -/
theorem requestOf?_eq_some_iff : requestOf? v = some i ↔ Names v i := by
  rw [requestOf?_eq_some_iff_intOf?, Names, ← Numeral.fitsInt64_natCast]
  cases v with
  | number n =>
    cases n with
    | int n =>
      simp only [intOf?, Json.nat, Json.number.injEq, Json.Number.int.injEq, reduceCtorEq,
        false_and, exists_false, or_false]
      constructor
      · intro h
        split at h
        · next hn =>
          obtain rfl := Option.some.inj h
          exact ⟨hn, rfl⟩
        · cases h
      · rintro ⟨hn, rfl⟩
        exact if_pos hn
    | float x => simp [intOf?, Json.nat]
  | text s => simp [intOf?, Json.nat, Numeral.int64?, Option.filter_eq_some_iff, and_comm]
  | null | bool | list | object => simp [intOf?, Json.nat]

theorem requestOf?_eq_none_iff : requestOf? v = none ↔ ∀ i, ¬Names v i := by
  rw [Option.eq_none_iff_forall_ne_some]
  exact forall_congr' fun i => not_congr requestOf?_eq_some_iff

/-! ## Messages and their index -/

/-- The device of a message of this exchange. -/
def device? : Inbound → Option String
  | .notice n => some n.device
  | .final r => some r.device
  | .ignored _ => none

/-- The number that a message echoes. -/
def index? : Inbound → Option Nat
  | .notice n => n.index
  | .final r => r.index
  | .ignored _ => none

/-- A field that has to be there: reading goes on if it is. -/
theorem orMalformed_bind_eq_ok {α β : Type} {found : Option α} {why : String}
    {f : α → Except CheckFailure β} {b : β} :
    (orMalformed found why >>= f) = .ok b ↔ ∃ a, found = some a ∧ f a = .ok b := by
  cases found with
  | none => exact ⟨nofun, nofun⟩
  | some a => exact ⟨fun h => ⟨a, rfl, h⟩, fun ⟨_, ha, h⟩ => Option.some.inj ha ▸ h⟩

/-- A notice of this exchange echoes the index of its document. -/
theorem index?_of_noticeOf {data : Json} {device : String}
    (h : noticeOf root data device = .ok message) (hdevice : message.device? ≠ none) :
    message.index? = indexField? root := by
  obtain ⟨kind, -, h⟩ := orMalformed_bind_eq_ok.1 h
  split at h
  · cases h
    exact absurd rfl hdevice
  · obtain ⟨state, -, h⟩ := orMalformed_bind_eq_ok.1 h
    cases h
    rfl

/-- And so does a final result. -/
theorem index?_of_finalOf {data : Json} {device : String}
    (h : finalOf root data device = .ok message) (hdevice : message.device? ≠ none) :
    message.index? = indexField? root := by
  obtain ⟨kind, -, h⟩ := orMalformed_bind_eq_ok.1 h
  split at h
  · cases h
    exact absurd rfl hdevice
  · obtain ⟨result, -, h⟩ := orMalformed_bind_eq_ok.1 h
    cases h
    rfl

/-- A message of this exchange echoes what the index of its document names. -/
theorem index?_of_ofJson (h : ofJson root = .ok message) (hdevice : message.device? ≠ none) :
    message.index? = indexField? root := by
  obtain ⟨data, -, h⟩ := orMalformed_bind_eq_ok.1 h
  obtain ⟨device, -, h⟩ := orMalformed_bind_eq_ok.1 h
  split at h
  · exact index?_of_noticeOf h hdevice
  · split at h
    · exact index?_of_finalOf h hdevice
    · cases h

/-- An index that names no request may as well not be there. -/
theorem ofJson_without (h : indexField? root = none) :
    ofJson (root.without "Index") = ofJson root := by
  -- no other member is touched, and all fields are read from members
  have hmember : ∀ name, name ≠ "Index" →
      (root.without "Index").member? name = root.member? name :=
    fun name hname => Json.member?_without hname root
  have hfield : ∀ name, name ≠ "Index" →
      intField? (root.without "Index") name = intField? root name := by
    intro name hname
    rw [intField?, intField?, hmember name hname]
  have hindex : indexField? (root.without "Index") = indexField? root := by
    rw [h, indexField?_without]
  have hnotice : ∀ data device,
      noticeOf (root.without "Index") data device = noticeOf root data device := by
    intro data device
    rw [noticeOf, noticeOf, hfield "NoticeType" (by decide), hindex]
  have hfinal : ∀ data device,
      finalOf (root.without "Index") data device = finalOf root data device := by
    intro data device
    rw [finalOf, finalOf, hfield "ReqType" (by decide), hfield "Result" (by decide), hindex]
  rw [ofJson, ofJson, hmember "Data" (by decide), hmember "NoticeType" (by decide),
    hmember "ReqType" (by decide), hmember "Result" (by decide)]
  simp only [hnotice, hfinal]

end Inbound

/-! ## At the desk -/

namespace Desk

variable {d : Desk} {message : Inbound} {device : String} {s : Session}

/-- The guard of both kinds of message. -/
theorem any_ne_eq_true {index : Option Nat} {request i : Nat} (hindex : index = some i)
    (hother : request ≠ i) : index.any (· ≠ request) = true := by
  rw [hindex]
  exact decide_eq_true hother.symm

/-- It lets a message pass that echoes the number of the session, or none. -/
theorem not_any_ne {index : Option Nat} {request : Nat} (hown : ∀ i ∈ index, i = request) :
    ¬index.any (· ≠ request) = true := by
  cases index with
  | none => exact nofun
  | some i => simp [hown i rfl]

/-- A message that echoes a number is for the session of that number, and for no other one. -/
theorem onMessage_of_other {i : Nat} (hdevice : message.device? = some device)
    (hindex : message.index? = some i)
    (hother : ∀ s, d.session? device = some s → s.request ≠ i) (m : Moment) :
    d.onMessage m message = (d, [], none) := by
  -- the guard is the same for notices and results, and comes before anything else
  cases message with
  | notice n =>
    obtain rfl : n.device = device := Option.some.inj hdevice
    have hindex : n.index = some i := hindex
    show d.onNotice n m = _
    unfold onNotice
    split
    · rfl
    · next s hs => exact if_pos (any_ne_eq_true hindex (hother s hs))
  | final r =>
    obtain rfl : r.device = device := Option.some.inj hdevice
    have hindex : r.index = some i := hindex
    show d.onFinal r m = _
    unfold onFinal
    split
    · rfl
    · next s hs => exact if_pos (any_ne_eq_true hindex (hother s hs))
  | ignored what => cases hdevice

/-- A last message that names no other request ends the session that its device has. -/
theorem onMessage_of_own (hdevice : message.device? = some device)
    (hterminal : message.isTerminal = true) (hs : d.session? device = some s)
    (hlive : s.state = .sent ∨ s.state = .started)
    (hown : ∀ i ∈ message.index?, i = s.request) (m : Moment) :
    ∃ c, (d.onMessage m message).2.2 = some c ∧ c.session.request = s.request := by
  cases message with
  | notice n =>
    obtain rfl : n.device = device := Option.some.inj hdevice
    have hown : ∀ i ∈ n.index, i = s.request := hown
    have hstate : n.state = .completed := of_decide_eq_true hterminal
    -- from either live state a notice of completion advances
    have heffect : s.state.onNotice n.state = .advance .completed := by
      rw [hstate]
      rcases hlive with hsent | hstarted
      · rw [hsent]
        rfl
      · rw [hstarted]
        rfl
    show ∃ c, (d.onNotice n m).2.2 = some c ∧ _
    unfold onNotice
    simp only [hs, heffect]
    rw [if_neg (not_any_ne hown)]
    exact ⟨_, rfl, rfl⟩
  | final r =>
    obtain rfl : r.device = device := Option.some.inj hdevice
    have hown : ∀ i ∈ r.index, i = s.request := hown
    show ∃ c, (d.onFinal r m).2.2 = some c ∧ _
    unfold onFinal
    simp only [hs]
    rw [if_neg (not_any_ne hown)]
    exact ⟨_, rfl, rfl⟩
  | ignored what => cases hterminal

end Desk

namespace Duty

variable {d : Duty} {payload : ByteArray} {message : Inbound}

theorem parse_eq_ofJson {root : Json} (hroot : Json.readBytes? payload = some root) :
    Inbound.parse payload = Inbound.ofJson root := by
  rw [Inbound.parse, hroot]
  rfl

/-- A message that the desk drops leaves the duty as it is. -/
theorem receive_of_dropped (hparse : Inbound.parse payload = .ok message) {m : Moment}
    (h : d.desk.onMessage m message = (d.desk, [], none)) (devices : String → Option Device) :
    d.receive payload m devices = d := by
  have hreceive : d.desk.receive payload m = (d.desk, [], none) := by
    rw [Desk.receive, hparse]
    exact h
  have hreceived : d.receive payload m devices = received d payload devices (d.desk, [], none) := by
    rw [← hreceive]
    rfl
  rw [hreceived]
  simp [received, note]

/-- A check that ends begins a conclusion, so the duty is not as it was. -/
theorem receive_ne_of_closing (hparse : Inbound.parse payload = .ok message) {m : Moment}
    {c : Closing} (h : (d.desk.onMessage m message).2.2 = some c)
    (devices : String → Option Device) : d.receive payload m devices ≠ d := by
  have hclosing : (d.desk.receive payload m).2.2 = some c := by
    rw [Desk.receive, hparse]
    exact h
  intro hsame
  have hlength := congrArg (fun d : Duty => d.conclusions.length) hsame
  simp [Duty.receive, note, hclosing] at hlength

/-- **Whom a reply is for.** After any acts, a reply of this exchange whose index names a request
other than that of the active session of its device leaves everything as it is. An index that names
no request (a number below zero or too large, a fraction, any other text, anything else) is as if it
were not there, and then a last message ends the session of its device, whatever its index is. -/
theorem reply_addressed (settings : Settings) (acts : List Act) :
    let d := (start settings).run acts
    ∀ payload root v message device, Json.readBytes? payload = some root →
      root.member? "Index" = some v → Inbound.ofJson root = .ok message →
      message.device? = some device →
      (∀ i, Inbound.Names v i → (∀ s, d.desk.session? device = some s → s.request ≠ i) →
        ∀ m devices, d.step (.receive payload m devices) = d) ∧
      ((∀ i, ¬Inbound.Names v i) → Inbound.ofJson (root.without "Index") = .ok message) ∧
      ∀ s, d.desk.session? device = some s → message.isTerminal = true → ∀ m devices,
        (d.step (.receive payload m devices) = d ↔
          ∃ i, Inbound.Names v i ∧ s.request ≠ i) := by
  intro d payload root v message device hroot hmember hmessage hdevice
  have hkept : Kept d := kept_run settings acts
  have hparse : Inbound.parse payload = .ok message := (parse_eq_ofJson hroot).trans hmessage
  have hindex : message.index? = Inbound.requestOf? v := by
    rw [← Inbound.indexField?_of_member hmember]
    exact Inbound.index?_of_ofJson hmessage (by simp [hdevice])
  have hdropped : ∀ i, Inbound.Names v i →
      (∀ s, d.desk.session? device = some s → s.request ≠ i) →
      ∀ m devices, d.step (.receive payload m devices) = d := by
    intro i hnames hother m devices
    have hechoed : message.index? = some i := hindex.trans (Inbound.requestOf?_eq_some_iff.2 hnames)
    exact receive_of_dropped hparse (Desk.onMessage_of_other hdevice hechoed hother m) devices
  refine ⟨hdropped, fun hnone => ?_, fun s hs hterminal m devices => ⟨fun hsame => ?_, ?_⟩⟩
  · have hfield : Inbound.indexField? root = none :=
      (Inbound.indexField?_of_member hmember).trans (Inbound.requestOf?_eq_none_iff.2 hnone)
    rw [Inbound.ofJson_without hfield, hmessage]
  · -- if the message named no other request, it would have ended the session
    refine Classical.byContradiction fun hnot => ?_
    have hown : ∀ i ∈ message.index?, i = s.request := by
      intro i hi
      have hnames : Inbound.Names v i := Inbound.requestOf?_eq_some_iff.1 (hindex.symm.trans hi)
      exact Decidable.byContradiction fun hne => hnot ⟨i, hnames, Ne.symm hne⟩
    obtain ⟨c, hc, -⟩ := Desk.onMessage_of_own hdevice hterminal hs (hkept.live hs) hown m
    exact receive_ne_of_closing hparse hc devices hsame
  · rintro ⟨i, hnames, hne⟩
    refine hdropped i hnames (fun s' hs' => ?_) m devices
    obtain rfl : s = s' := Option.some.inj (hs.symm.trans hs')
    exact hne

/-- A final result of success for `EQ-1` with this text as its index. -/
def resultFor (index : String) : ByteArray :=
  String.toUTF8 ("\x7b\"ReqType\": 1010, \"Result\": 0, \"Data\": \x7b\"pileId\": \"EQ-1\"\x7d, "
    ++ "\"Index\": " ++ index ++ "\x7d")

/-- The first request is active, and a result for the seventh comes in. -/
theorem reply_addressed_elsewhere :
    let d := (start {}).run [.trigger "EQ-1" ⟨0, "", ""⟩, .published 0 none]
    ∃ root v message, Json.readBytes? (resultFor "7") = some root ∧
      root.member? "Index" = some v ∧ Inbound.ofJson root = .ok message ∧
      message.device? = some "EQ-1" ∧ Inbound.Names v 7 ∧
      (d.desk.session? "EQ-1").map Session.request = some 1 ∧
      ∀ m devices, d.step (.receive (resultFor "7") m devices) = d := by
  intro d
  have hindex : ((Json.readBytes? (resultFor "7")).bind (Json.member? "Index")).bind
      Inbound.requestOf? = some 7 := by
    decide +kernel
  have hdevice : (Inbound.parse (resultFor "7")).toOption.bind Inbound.device? = some "EQ-1" := by
    decide +kernel
  have hactive : (d.desk.session? "EQ-1").map Session.request = some 1 := by decide +kernel
  obtain ⟨v, hv, hrequest⟩ := Option.bind_eq_some_iff.1 hindex
  obtain ⟨root, hroot, hmember⟩ := Option.bind_eq_some_iff.1 hv
  obtain ⟨message, hparse, hdevice⟩ := Option.bind_eq_some_iff.1 hdevice
  have hmessage : Inbound.ofJson root = .ok message := by
    rw [parse_eq_ofJson hroot] at hparse
    cases hofJson : Inbound.ofJson root with
    | error f => simp [hofJson, Except.toOption] at hparse
    | ok found => simpa [hofJson, Except.toOption] using hparse
  have hnames := Inbound.requestOf?_eq_some_iff.1 hrequest
  refine ⟨root, v, message, hroot, hmember, hmessage, hdevice, hnames, hactive, ?_⟩
  refine (reply_addressed {} _ _ root v message "EQ-1" hroot hmember hmessage hdevice).1 7 hnames ?_
  intro s hs
  obtain ⟨s', hs', hone⟩ := Option.map_eq_some_iff.1 hactive
  obtain rfl : s' = s := Option.some.inj (hs'.symm.trans hs)
  rw [hone]
  decide

/-- The index is -7, which is no request, and the result ends the session of the first one. -/
theorem reply_taken :
    let d := (start {}).run [.trigger "EQ-1" ⟨0, "", ""⟩, .published 0 none]
    let after := d.step (.receive (resultFor "-7") ⟨1, "", ""⟩ fun _ => none)
    ((Json.readBytes? (resultFor "-7")).bind (Json.member? "Index")).bind Inbound.intOf?
        = some (-7) ∧
      (d.desk.session? "EQ-1").map Session.request = some 1 ∧
      (after.desk.session? "EQ-1").map Session.request = none ∧
      after.conclusions.map Conclusion.request = [1] := by
  decide +kernel

end Duty
end Check
end PileCheck
