import PileCheck.Proofs.Check.Locality
import PileCheck.Proofs.Check.Wire

/-!
# Requests and their replies

A command carries the number of its request, and a gateway copies this value into its replies. Two
readers meet here: one without a sign for commands, and one with a sign for replies.

A command that is written and read is the same command (`Command.read?_render`), for every number of
64 bits without a sign and every device. A reply that echoes the value is read with the number of
the request, if that is a number of 64 bits with a sign too (`index?_of_echoed`). At the desk such a
reply is dropped unless the device has the session of this request, and then it is taken as a reply
without a number is (`finds`). No other device has a session of this request, since a number is
given out once.
-/

namespace PileCheck.Check

open Json (Tree)

/-! ## Commands are read back -/

namespace Command

variable {c : Command}

/-- Members as they are written are found under their names. -/
theorem namedMembers?_memberTrees (members : List (String × Json)) :
    namedMembers? (Json.memberTrees members) = some (members.map fun m => (m.1, m.2.tree)) := by
  induction members with
  | nil => rfl
  | cons m rest ih =>
    rw [Json.memberTrees, namedMembers?, Json.textOfUnits?_toNat, ih]
    rfl

/-- A member whose name no other member has. Induction on the members before it. -/
theorem only?_of_mem {ms : List (String × Tree)} (h : (ms.map Prod.fst).Nodup) {m : String × Tree}
    (hm : m ∈ ms) : only? m.1 ms = some m.2 := by
  have hfilter : ms.filter (fun m' => m'.1 == m.1) = [m] := by
    induction ms with
    | nil => cases hm
    | cons head rest ih =>
      obtain ⟨hhead, hrest⟩ := List.nodup_cons.1 h
      rcases List.mem_cons.1 hm with rfl | hm
      · -- none of the rest has the name of the head
        have hnone : rest.filter (fun m' => m'.1 == m.1) = [] :=
          List.filter_eq_nil_iff.2 fun m' hm' heq =>
            hhead (List.mem_map.2 ⟨m', hm', eq_of_beq heq⟩)
        rw [List.filter_cons, if_pos (beq_self_eq_true m.1), hnone]
      · have hne : head.1 ≠ m.1 := fun heq => hhead (List.mem_map.2 ⟨m, hm, heq.symm⟩)
        rw [List.filter_cons_of_neg (by simpa using hne), ih hrest hm]
  rw [only?, hfilter]

/-- An object that was written has the fields of a record under their names. -/
theorem fields?_tree {members : List (String × Json)} (h : (members.map Prod.fst).Nodup) :
    fields? (members.map Prod.fst) (Json.object members).tree
      = some (members.map fun m => m.2.tree) := by
  show (namedMembers? (Json.memberTrees members)).bind _ = _
  rw [namedMembers?_memberTrees, Option.bind_some]
  generalize hms : members.map (fun m => (m.1, m.2.tree)) = ms
  have hnodup : (ms.map Prod.fst).Nodup := by
    rw [← hms, List.map_map]
    exact h
  have hall : ∀ m ∈ members, only? m.1 ms = some m.2.tree := fun m hm =>
    only?_of_mem (m := (m.1, m.2.tree)) hnodup (hms ▸ List.mem_map_of_mem hm)
  clear hms hnodup h
  -- name by name, each in the table of all members
  induction members with
  | nil => rfl
  | cons m rest ih =>
    rw [List.map_cons, List.mapM_cons, hall m List.mem_cons_self,
      ih fun m hm => hall m (List.mem_cons_of_mem _ hm)]
    rfl

/-- A number of 64 bits, with a sign or without, is read back. -/
theorem whole?_tree {n : Int} (hmin : Numeral.int64Min ≤ n) (hmax : n ≤ Numeral.nat64Max) :
    whole? (Json.int n).tree = some n := by
  show (Json.Number.int n).literal.whole? = some n
  rw [Json.Number.literal_int, Json.whole?_ofInt hmin hmax]

/-- The numbers of a command fit their 64 bits, the first with a sign and the second without. -/
structure Fits (c : Command) : Prop where
  kind : Numeral.fitsInt64 c.kind = true
  index : c.index ≤ Numeral.nat64Max

namespace Fits

theorem kind_range (h : c.Fits) : Numeral.int64Min ≤ c.kind ∧ c.kind ≤ Numeral.nat64Max :=
  (Numeral.fitsInt64_iff.1 h.kind).imp id fun hmax => Int.le_trans hmax (by decide)

theorem index_range (h : c.Fits) :
    Numeral.int64Min ≤ (c.index : Int) ∧ (c.index : Int) ≤ Numeral.nat64Max :=
  ⟨Int.le_trans (by decide : Numeral.int64Min ≤ 0) (Int.natCast_nonneg _), Int.ofNat_le.2 h.index⟩

/-- So a command can be written and read. -/
theorem legible (h : c.Fits) : c.json.Legible Json.depthLimit := by
  have hkind : (Json.Number.int c.kind).Legible :=
    Json.Number.legible_int h.kind_range.1 h.kind_range.2
  have hindex : (Json.Number.int c.index).Legible :=
    Json.Number.legible_int h.index_range.1 h.index_range.2
  exact ⟨by decide, hkind, hindex, ⟨⟨by decide, trivial, trivial⟩, trivial⟩⟩

/-- The fields of a command are found under their names, and each is read back. -/
theorem ofTree?_tree (h : c.Fits) : ofTree? c.json.tree = some c := by
  -- the three fields are there, and each holds what its kind can hold
  have hfields : fields? ["ReqType", "Index", "Content"] c.json.tree
      = some [(Json.int c.kind).tree, (Json.nat c.index).tree,
        (Json.object [("pileId", .text c.device)]).tree] :=
    fields?_tree (by simp)
  have hcontent : fields? ["pileId"] (Json.object [("pileId", .text c.device)]).tree
      = some [(Json.text c.device).tree] :=
    fields?_tree (by simp)
  have hkind : (whole? (Json.int c.kind).tree).filter Numeral.fitsInt64 = some c.kind := by
    rw [whole?_tree h.kind_range.1 h.kind_range.2]
    exact Option.filter_some_pos h.kind
  have hindex : (whole? (Json.nat c.index).tree).filter (fun i => decide (0 ≤ i))
      = some (c.index : Int) := by
    have hwhole : whole? (Json.nat c.index).tree = some (c.index : Int) :=
      whole?_tree h.index_range.1 h.index_range.2
    rw [hwhole]
    exact Option.filter_some_pos (decide_eq_true (Int.natCast_nonneg _))
  have hdevice : text? (Json.text c.device).tree = some c.device :=
    Json.textOfUnits?_toNat c.device
  rw [ofTree?, hfields]
  simp only [hcontent, hkind, hindex, hdevice]
  rfl

end Fits

theorem read?_render (h : c.Fits) : read? c.render = some c := by
  rw [read?, render, Json.read?_tree h.legible.readable, Option.bind_some, h.ofTree?_tree]

/-- Every command that is sent fits. -/
theorem fits_request {request : Nat} (h : request ≤ Numeral.nat64Max) (device : String) :
    (Command.request request device).Fits where
  kind := rfl
  index := h

/-- What another reader of documents finds under the index of a command. -/
theorem member?_index (h : c.Fits) :
    (Json.readBytes? c.bytes).bind (Json.member? "Index") = some (Json.nat c.index) := by
  rw [bytes, render, Json.readBytes?_render h.legible, Option.bind_some, json, Json.sorted,
    Json.member?_ofMembers]
  rfl

end Command

/-! ## Replies that echo it -/

namespace Wire

/-- The number of a request, as a number in a document. -/
def Figure.ofNat {n : Nat} (h : Numeral.fitsInt64 n = true) : Figure := ⟨n, h, .plain⟩

/-- It is not below zero. -/
theorem Figure.numbered_ofNat {n : Nat} (h : Numeral.fitsInt64 n = true) :
    ∀ figure ∈ some (ofNat h), 0 ≤ figure.value := by
  intro figure hfigure
  obtain rfl := Option.some.inj hfigure
  exact Int.natCast_nonneg n

namespace Message

/-- What a gateway sends when it copies a value under the index of its message. -/
def echo (w : Message) (index : Json) : Json :=
  .ofFields (w.fields.map fun f => if f.1 = "Index" then (f.1, some index) else f)

/-- The message with the number of a request, written as a number. -/
def numbered {request : Nat} (h : Numeral.fitsInt64 request = true) : Message → Message
  | notice n => notice { n with index := some (.ofNat h), numbered := Figure.numbered_ofNat h }
  | final r => final { r with index := some (.ofNat h), numbered := Figure.numbered_ofNat h }

theorem echo_eq (w : Message) {request : Nat} (h : Numeral.fitsInt64 request = true) :
    w.echo (Json.nat request) = (w.numbered h).document := by
  cases w <;> rfl

theorem index?_numbered (w : Message) {request : Nat} (h : Numeral.fitsInt64 request = true) :
    (w.numbered h).inbound.index? = some request := by
  cases w <;> rfl

theorem device?_numbered (w : Message) {request : Nat} (h : Numeral.fitsInt64 request = true) :
    (w.numbered h).inbound.device? = w.inbound.device? := by
  cases w <;> rfl

end Message
end Wire

namespace Inbound

variable {root : Json} {message : Inbound} {payload : ByteArray} {request : Nat}

/-- A message of this exchange is read with the number that was copied into it. -/
theorem index?_of_echoed (hroot : Json.readBytes? payload = some root)
    (hmember : root.member? "Index" = some (Json.nat request))
    (hrequest : (request : Int) ≤ Numeral.int64Max) (hparse : parse payload = .ok message)
    (hdevice : message.device? ≠ none) : message.index? = some request := by
  rw [Duty.parse_eq_ofJson hroot] at hparse
  rw [index?_of_ofJson hparse hdevice, indexField?_of_member hmember]
  exact requestOf?_eq_some_iff.2 ⟨hrequest, .inl rfl⟩

/-- The same message without a number. -/
def unaddressed : Inbound → Inbound
  | .notice n => .notice { n with index := none }
  | .final r => .final { r with index := none }
  | .ignored what => .ignored what

end Inbound

namespace Desk

variable {d : Desk} {message : Inbound} {device : String} {s : Session}

/-- The number of its own session makes no difference to a message. -/
theorem onMessage_of_addressed (hdevice : message.device? = some device)
    (hs : d.session? device = some s) (hown : ∀ i ∈ message.index?, i = s.request) (m : Moment) :
    d.onMessage m message = d.onMessage m message.unaddressed := by
  -- with a session of its own request the guard lets the message through, as it does without a
  -- number
  cases message with
  | notice n =>
    obtain rfl : n.device = device := Option.some.inj hdevice
    have hown : ∀ i ∈ n.index, i = s.request := hown
    show d.onNotice n m = d.onNotice { n with index := none } m
    unfold onNotice
    simp only [hs]
    rw [if_neg (not_any_ne hown), Option.any_none, if_neg Bool.false_ne_true]
    rfl
  | final r =>
    obtain rfl : r.device = device := Option.some.inj hdevice
    have hown : ∀ i ∈ r.index, i = s.request := hown
    show d.onFinal r m = d.onFinal { r with index := none } m
    unfold onFinal
    simp only [hs]
    rw [if_neg (not_any_ne hown), Option.any_none, if_neg Bool.false_ne_true]
    rfl
  | ignored what => rfl

end Desk

namespace Duty

variable {d : Duty} {payload : ByteArray} {message : Inbound} {k : String} {request : Nat}

/-- A message to a device is for the session of this request, and for no other. -/
structure Finds (d : Duty) (payload : ByteArray) (message : Inbound) (k : String) (request : Nat) :
    Prop where
  /-- A session of another request takes no notice of it, and without a session nobody does. -/
  dropped : (∀ s, d.desk.session? k = some s → s.request ≠ request) →
    ∀ m devices, d.step (.receive payload m devices) = d
  /-- The session of the request stands under the device that the number was given out for. -/
  device : ∀ s, d.desk.session? k = some s → s.request = request →
    ∀ device, .allocated request device ∈ d.journal → device = k
  /-- It takes the message as it would take it without a number. -/
  taken : ∀ s, d.desk.session? k = some s → s.request = request →
    ∀ m, d.desk.receive payload m = d.desk.onMessage m message.unaddressed
  ended : ∀ s, d.desk.session? k = some s → s.request = request → message.isTerminal = true →
    ∀ m, ∃ c, (d.desk.receive payload m).2.2 = some c ∧ c.session.request = request
  /-- The sessions of other devices stay as they are. -/
  others : ∀ m other, other ≠ k →
    (d.desk.receive payload m).1.session? other = d.desk.session? other

/-- A message to a device with the number of a request. Clause by clause: it is dropped by any other
session, and if the session is that of the request everything follows from what the desk does with a
message of its own session. -/
theorem finds (hkept : Kept d) (hparse : Inbound.parse payload = .ok message)
    (hdevice : message.device? = some k) (hindex : message.index? = some request) :
    d.Finds payload message k request := by
  have hreceive : ∀ m, d.desk.receive payload m = d.desk.onMessage m message := fun m => by
    rw [Desk.receive, hparse]
  have howns : ∀ {s : Session}, s.request = request → ∀ i ∈ message.index?, i = s.request := by
    intro s hown i hi
    rw [hindex] at hi
    rw [hown, Option.some.inj hi]
  refine { dropped := fun hother m devices => ?dropped,
           device := fun s hs hown other hother => ?device,
           taken := fun s hs hown m => ?taken, ended := fun s hs hown hterminal m => ?ended,
           others := fun m other hother => ?others }
  case dropped =>
    exact receive_of_dropped hparse (Desk.onMessage_of_other hdevice hindex hother m) devices
  case device =>
    -- a number is given out once
    exact hkept.allocated_unique hother (hown ▸ hkept.allocated_of_session hs)
  case taken => rw [hreceive, Desk.onMessage_of_addressed hdevice hs (howns hown)]
  case ended =>
    rw [hreceive, ← hown]
    exact Desk.onMessage_of_own hdevice hterminal hs (hkept.live hs) (howns hown) m
  case others =>
    cases hs : d.desk.session? k with
    | none => rw [Desk.receive_of_absent hparse hdevice hs]
    | some s =>
      exact (Desk.within_receive hkept.keyed_desk hparse hdevice hs m).others other hother

/-- **Replies find their session.** A command is read back as it was, for every number of 64 bits
and every device. If the number is one of 64 bits with a sign too, a gateway may copy the value that
stands under the index of the command into any message: it is read with this number then, and so is
every message with this value. After any acts such a message finds the session of the request and no
other. -/
theorem replies_find_their_session (settings : Settings) (acts : List Act) :
    let d := (start settings).run acts
    (∀ (request : UInt64) (device : String),
      (String.fromUTF8? (Command.request request.toNat device).bytes).bind Command.read?
        = some ⟨1010, request.toNat, device⟩) ∧
    ∀ (request : Nat) (device : String), (request : Int) ≤ Numeral.int64Max →
      ∃ index, (Json.readBytes? (Command.request request device).bytes).bind (Json.member? "Index")
          = some index ∧
        (∀ w : Wire.Message, ∃ message, Inbound.parse (w.echo index).render.toUTF8 = .ok message ∧
          message.device? = w.inbound.device? ∧ message.index? = some request) ∧
        ∀ payload root message k, Json.readBytes? payload = some root →
          root.member? "Index" = some index → Inbound.parse payload = .ok message →
          message.device? = some k →
          message.index? = some request ∧ d.Finds payload message k request := by
  intro d
  have hkept : Kept d := kept_run settings acts
  refine ⟨fun request device => ?_, fun request device hrequest => ?_⟩
  · have hmax : request.toNat ≤ Numeral.nat64Max := Nat.le_of_lt_succ request.toNat_lt
    rw [Command.bytes, Json.fromUTF8?_toUTF8, Option.bind_some,
      Command.read?_render (Command.fits_request hmax device)]
    rfl
  · -- what can be sent back as a signed number can be sent as an unsigned one
    have hmax : request ≤ Numeral.nat64Max := Int.ofNat_le.1 (Int.le_trans hrequest (by decide))
    have hfits : Numeral.fitsInt64 request = true := Numeral.fitsInt64_natCast.2 hrequest
    refine ⟨_, Command.member?_index (Command.fits_request hmax device), fun w => ?_, ?_⟩
    · refine ⟨(w.numbered hfits).inbound, ?_, w.device?_numbered hfits, w.index?_numbered hfits⟩
      show Inbound.parse (w.echo (Json.nat request)).render.toUTF8 = _
      rw [w.echo_eq hfits]
      exact (w.numbered hfits).parse_of_readBytes?
        (Json.readBytes?_render (w.numbered hfits).legible_document)
    · intro payload root message k hroot hmember hparse hdevice
      have hindex : message.index? = some request :=
        Inbound.index?_of_echoed hroot hmember hrequest hparse (by simp [hdevice])
      exact ⟨hindex, finds hkept hparse hdevice hindex⟩

end Duty
end PileCheck.Check
