import PileCheck.Check.Message
import PileCheck.Proofs.Json
import PileCheck.Proofs.Json.ReadBack
import PileCheck.Proofs.Text

/-!
# Messages on the wire

A gateway sends an object with the type of the exchange, perhaps the number of the request, and the
data of the device. It leaves out what it does not know, and it writes each number either as a
number or as a text with blanks around the digits (`Spelling`). A `Wire.Message` is all that a
gateway has to choose for one message: `document` is what it sends, and `inbound` is what it means.

The headline `messages_read_back` says that a document is read as what it means, whatever was
chosen. Its way goes field by field: `member?_sorted_ofFields` finds a field of an object,
`intField?_of_figure` reads a number however it is spelled, and `ofJson_notice` and `ofJson_final`
put the fields of the two messages together.
-/

namespace PileCheck

/-! ## Objects of fields -/

namespace Json

variable {name : String} {fields : List (String × Option Json)} {room : Nat}

/-- The fields that are there; the others are left out. -/
def present : List (String × Option Json) → List (String × Json)
  | [] => []
  | (name, some v) :: rest => (name, v) :: present rest
  | (_, none) :: rest => present rest

/-- An object with the fields that are there. -/
def ofFields (fields : List (String × Option Json)) : Json := .object (present fields)

/-- Induction on the fields: the name of the first is not that of a later one. -/
theorem member?_sorted_ofFields (h : (fields.map Prod.fst).Nodup) :
    (ofFields fields).sorted.member? name = (fields.lookup name).join.map sorted := by
  rw [ofFields, sorted, member?_ofMembers]
  induction fields with
  | nil => rfl
  | cons f rest ih =>
    obtain ⟨head, v⟩ := f
    obtain ⟨hhead, hrest⟩ := List.nodup_cons.1 h
    -- no field comes twice, so what was put in first is what is found
    have hnone : rest.lookup head = none :=
      List.lookup_eq_none_iff.2 fun f hf => bne_iff_ne.2 fun heq =>
        hhead (List.mem_map.2 ⟨f, hf, heq.symm⟩)
    rw [lookup_cons]
    cases v with
    | none =>
      rw [present, ih hrest]
      by_cases hname : name = head
      · rw [if_pos hname, hname, hnone]
        rfl
      · rw [if_neg hname]
    | some v =>
      rw [present, sortedMembers, List.reverse_cons, List.lookup_append, ih hrest, lookup_cons]
      by_cases hname : name = head
      · rw [if_pos hname, if_pos hname, hname, hnone]
        rfl
      · rw [if_neg hname, if_neg hname]
        exact Option.or_none

/-- Induction on the fields, of which those that are not there are not written. -/
theorem legible_ofFields (h : ∀ f ∈ fields, ∀ v ∈ f.2, v.Legible room) :
    (ofFields fields).Legible (room + 1) := by
  refine ⟨Nat.succ_pos room, ?_⟩
  induction fields with
  | nil => trivial
  | cons f rest ih =>
    obtain ⟨name, v⟩ := f
    have hrest := ih fun f hf => h f (List.mem_cons_of_mem _ hf)
    cases v with
    | none => exact hrest
    | some v => exact ⟨h _ List.mem_cons_self v rfl, hrest⟩

end Json

namespace Check

/-! ## States -/

namespace NoticeState

/-- An unknown word is none of the words that are known. -/
def Proper : NoticeState → Prop
  | unknown w => w ≠ "CMD_SENT" ∧ w ≠ "STARTED" ∧ w ≠ "COMPLETED"
  | _ => True

/-- The word of a state is read as this state. -/
theorem ofWord_word {s : NoticeState} (h : s.Proper) : ofWord s.word = s := by
  cases s with
  | sent => rfl
  | started => rfl
  | completed => rfl
  | unknown w =>
    obtain ⟨hsent, hstarted, hcompleted⟩ := h
    rw [word, ofWord, if_neg hsent, if_neg hstarted, if_neg hcompleted]

end NoticeState

namespace Wire

/-! ## Numbers -/

/-- How a number is written: as a number, or as a text with blanks around its digits. -/
inductive Spelling where
  | plain
  | quoted (before after : List { c : Char // Text.isBlank c = true })

namespace Spelling

/-- A number as it is written. -/
def json : Spelling → Int → Json
  | plain, n => Json.int n
  | quoted before after, n =>
    .text (String.ofList (before.map Subtype.val ++ Numeral.intChars n ++ after.map Subtype.val))

theorem sorted_json (s : Spelling) (n : Int) : (s.json n).sorted = s.json n := by
  cases s <;> rfl

/-- A number is read back in every spelling. -/
theorem intOf?_json {n : Int} (h : Numeral.fitsInt64 n = true) (s : Spelling) :
    Inbound.intOf? (s.json n) = some n := by
  cases s with
  | plain => exact if_pos h
  | quoted before after =>
    have hblanks : ∀ (blanks : List { c : Char // Text.isBlank c = true }),
        ∀ c ∈ blanks.map Subtype.val, Text.isBlank c = true := by
      intro blanks c hc
      obtain ⟨b, -, rfl⟩ := List.mem_map.1 hc
      exact b.2
    show Numeral.int64? (Text.trimChars (String.ofList _).toList) = some n
    rw [String.toList_ofList, Text.trimChars_append (hblanks before) (hblanks after)
      (Numeral.intChars_ne_nil n) Numeral.isBlank_of_mem_intChars, Numeral.int64?_intChars h]

/-- And every spelling of it can be read. -/
theorem legible_json {n : Int} (h : Numeral.fitsInt64 n = true) (s : Spelling) (room : Nat) :
    (s.json n).Legible room := by
  cases s with
  | plain =>
    obtain ⟨hmin, hmax⟩ := Numeral.fitsInt64_iff.1 h
    exact Json.Number.legible_int hmin (Int.le_trans hmax (by decide))
  | quoted before after => trivial

end Spelling

/-- A number of 64 bits with a sign, and how it is written. -/
structure Figure where
  value : Int
  fits : Numeral.fitsInt64 value = true
  spelling : Spelling

namespace Figure

def json (n : Figure) : Json := n.spelling.json n.value

theorem intOf?_json (n : Figure) : Inbound.intOf? n.json.sorted = some n.value := by
  rw [json, Spelling.sorted_json]
  exact Spelling.intOf?_json n.fits n.spelling

theorem legible_json (n : Figure) (room : Nat) : n.json.Legible room :=
  Spelling.legible_json n.fits n.spelling room

end Figure

/-! ## Messages -/

/-- A progress notice as a gateway writes it. -/
structure Notice where
  kind : Spelling
  index : Option Figure
  numbered : ∀ n ∈ index, 0 ≤ n.value
  device : String
  named : device ≠ ""
  description : String
  state : NoticeState
  proper : state.Proper
  result : Option Figure
  successCount : Option Figure
  failCount : Option Figure

/-- A final result as a gateway writes it. -/
structure Final where
  kind : Spelling
  index : Option Figure
  numbered : ∀ n ∈ index, 0 ≤ n.value
  result : Figure
  device : String
  named : device ≠ ""
  successCount : Option Figure
  failCount : Option Figure
  code : Option Figure

namespace Notice

/-- The data of a notice. -/
def data (n : Notice) : List (String × Option Json) :=
  [("pileId", some (.text n.device)), ("desc", some (.text n.description)),
    ("state", some (.text n.state.word)), ("result", n.result.map Figure.json),
    ("successCount", n.successCount.map Figure.json), ("failCount", n.failCount.map Figure.json)]

/-- The fields of its document. -/
def fields (n : Notice) : List (String × Option Json) :=
  [("NoticeType", some (n.kind.json exchange)), ("Index", n.index.map Figure.json),
    ("Data", some (.ofFields n.data))]

/-- What the notice says, however it is written. -/
def message (n : Notice) : Check.Notice where
  device := n.device
  description := n.description
  state := n.state
  result := n.result.map Figure.value
  successCount := n.successCount.map Figure.value
  failCount := n.failCount.map Figure.value
  index := n.index.map (·.value.toNat)

end Notice

namespace Final

def data (r : Final) : List (String × Option Json) :=
  [("pileId", some (.text r.device)), ("successCount", r.successCount.map Figure.json),
    ("failCount", r.failCount.map Figure.json), ("code", r.code.map Figure.json)]

def fields (r : Final) : List (String × Option Json) :=
  [("ReqType", some (r.kind.json exchange)), ("Index", r.index.map Figure.json),
    ("Result", some r.result.json), ("Data", some (.ofFields r.data))]

/-- What the final result says. A count that is not there is zero. -/
def message (r : Final) : Check.FinalResult where
  device := r.device
  result := r.result.value
  successCount := (r.successCount.map Figure.value).getD 0
  failCount := (r.failCount.map Figure.value).getD 0
  code := (r.code.map Figure.value).getD 0
  index := r.index.map (·.value.toNat)

end Final

/-- A message of this exchange, as a gateway writes it. -/
inductive Message where
  | notice (n : Notice)
  | final (r : Final)

namespace Message

def fields : Message → List (String × Option Json)
  | notice n => n.fields
  | final r => r.fields

/-- The document of a message. -/
def document (w : Message) : Json := .ofFields w.fields

/-- What the message says. -/
def inbound : Message → Inbound
  | notice n => .notice n.message
  | final r => .final r.message

end Message

/-! ## Reading the fields -/

section Fields

variable {name : String} {v : Json}

/-- A number that is there is read, and one that is not is not. -/
theorem intField?_of_figure {figure : Option Figure}
    (h : v.member? name = (figure.map Figure.json).map Json.sorted) :
    Inbound.intField? v name = figure.map Figure.value := by
  rw [Inbound.intField?, h]
  cases figure with
  | none => rfl
  | some n => exact n.intOf?_json

/-- The same of the index, which is not below zero. -/
theorem indexField?_of_figure {figure : Option Figure}
    (h : v.member? "Index" = (figure.map Figure.json).map Json.sorted)
    (hnumbered : ∀ n ∈ figure, 0 ≤ n.value) :
    Inbound.indexField? v = figure.map (·.value.toNat) := by
  rw [Inbound.indexField?, intField?_of_figure h]
  cases figure with
  | none => rfl
  | some n => exact if_pos (hnumbered n rfl)

theorem intField?_of_kind {s : Spelling} (h : v.member? name = some (s.json exchange).sorted) :
    Inbound.intField? v name = some exchange := by
  rw [Inbound.intField?, h, Spelling.sorted_json]
  exact Spelling.intOf?_json rfl s

theorem textField?_of_text {s : String} (h : v.member? name = some (Json.text s).sorted) :
    Inbound.textField? v name = some s := by
  rw [Inbound.textField?, h]
  rfl

end Fields

/-- What a document is, once its data and its device are found. -/
theorem ofJson_of_data {root data : Json} {device : String}
    (hdata : root.member? "Data" = some data) (hobject : data.isObject = true)
    (hdevice : Inbound.textField? data "pileId" = some device) (hnamed : device ≠ "") :
    Inbound.ofJson root =
      if (root.member? "NoticeType").isSome then Inbound.noticeOf root data device
      else if (root.member? "ReqType").isSome && (root.member? "Result").isSome then
        Inbound.finalOf root data device
      else .error (.malformed "missing NoticeType or ReqType/Result") := by
  have hnamed : (some device).filter (fun d : String => decide (d ≠ "")) = some device :=
    Option.filter_some_pos (decide_eq_true hnamed)
  rw [Inbound.ofJson, hdata, Option.filter_some_pos hobject]
  show (Inbound.orMalformed ((Inbound.textField? data "pileId").filter _) _ >>= _) = _
  rw [hdevice, hnamed]
  rfl

/-- Field by field a notice is read for what it says. -/
theorem ofJson_notice (n : Notice) :
    Inbound.ofJson (Json.ofFields n.fields).sorted = .ok (.notice n.message) := by
  have hroot : ∀ name, (Json.ofFields n.fields).sorted.member? name
      = (n.fields.lookup name).join.map Json.sorted :=
    fun name => Json.member?_sorted_ofFields (by simp [Notice.fields])
  have hdata : ∀ name, (Json.ofFields n.data).sorted.member? name
      = (n.data.lookup name).join.map Json.sorted :=
    fun name => Json.member?_sorted_ofFields (by simp [Notice.data])
  have hdevice : Inbound.textField? (Json.ofFields n.data).sorted "pileId" = some n.device :=
    textField?_of_text (hdata "pileId")
  have hstate : Inbound.textField? (Json.ofFields n.data).sorted "state" = some n.state.word :=
    textField?_of_text (hdata "state")
  have hdescription : Inbound.textField? (Json.ofFields n.data).sorted "desc"
      = some n.description :=
    textField?_of_text (hdata "desc")
  have hkind : ((Json.ofFields n.fields).sorted.member? "NoticeType").isSome = true := by
    rw [hroot "NoticeType"]
    rfl
  rw [ofJson_of_data (hroot "Data") rfl hdevice n.named, if_pos hkind, Inbound.noticeOf,
    intField?_of_kind (hroot "NoticeType"), hstate, hdescription,
    intField?_of_figure (hdata "result"), intField?_of_figure (hdata "successCount"),
    intField?_of_figure (hdata "failCount"), indexField?_of_figure (hroot "Index") n.numbered]
  show Except.ok _ = _
  rw [NoticeState.ofWord_word n.proper]
  rfl

/-- Field by field a final result is read for what it says. -/
theorem ofJson_final (r : Final) :
    Inbound.ofJson (Json.ofFields r.fields).sorted = .ok (.final r.message) := by
  have hroot : ∀ name, (Json.ofFields r.fields).sorted.member? name
      = (r.fields.lookup name).join.map Json.sorted :=
    fun name => Json.member?_sorted_ofFields (by simp [Final.fields])
  have hdata : ∀ name, (Json.ofFields r.data).sorted.member? name
      = (r.data.lookup name).join.map Json.sorted :=
    fun name => Json.member?_sorted_ofFields (by simp [Final.data])
  have hdevice : Inbound.textField? (Json.ofFields r.data).sorted "pileId" = some r.device :=
    textField?_of_text (hdata "pileId")
  have hresult : Inbound.intField? (Json.ofFields r.fields).sorted "Result"
      = some r.result.value :=
    @intField?_of_figure _ _ (some r.result) (hroot "Result")
  -- a type of notice would come before a type of request
  have hnotice : ¬((Json.ofFields r.fields).sorted.member? "NoticeType").isSome = true := by
    rw [hroot "NoticeType"]
    exact Bool.false_ne_true
  have hkind : (((Json.ofFields r.fields).sorted.member? "ReqType").isSome
      && ((Json.ofFields r.fields).sorted.member? "Result").isSome) = true := by
    rw [hroot "ReqType", hroot "Result"]
    rfl
  rw [ofJson_of_data (hroot "Data") rfl hdevice r.named, if_neg hnotice, if_pos hkind,
    Inbound.finalOf, intField?_of_kind (hroot "ReqType"), hresult,
    intField?_of_figure (hdata "successCount"), intField?_of_figure (hdata "failCount"),
    intField?_of_figure (hdata "code"), indexField?_of_figure (hroot "Index") r.numbered]
  rfl

namespace Message

theorem ofJson_document (w : Message) : Inbound.ofJson w.document.sorted = .ok w.inbound := by
  cases w with
  | notice n => exact ofJson_notice n
  | final r => exact ofJson_final r

theorem legible_figure {figure : Option Figure} {room : Nat} :
    ∀ v ∈ figure.map Figure.json, v.Legible room := by
  intro v hv
  obtain ⟨n, -, rfl⟩ := Option.map_eq_some_iff.1 hv
  exact n.legible_json room

/-- Two brackets are open at most. -/
theorem legible_document (w : Message) : w.document.Legible Json.depthLimit := by
  have hexchange : Numeral.fitsInt64 exchange = true := rfl
  show w.document.Legible (125 + 1 + 1)
  cases w with
  | notice n =>
    have hdata : (Json.ofFields n.data).Legible (125 + 1) := by
      apply Json.legible_ofFields
      simp only [Notice.data, List.forall_mem_cons, Option.mem_some_iff, forall_eq']
      exact ⟨trivial, trivial, trivial, legible_figure, legible_figure, legible_figure, nofun⟩
    apply Json.legible_ofFields
    simp only [fields, Notice.fields, List.forall_mem_cons, Option.mem_some_iff, forall_eq']
    exact ⟨n.kind.legible_json hexchange _, legible_figure, hdata, nofun⟩
  | final r =>
    have hdata : (Json.ofFields r.data).Legible (125 + 1) := by
      apply Json.legible_ofFields
      simp only [Final.data, List.forall_mem_cons, Option.mem_some_iff, forall_eq']
      exact ⟨trivial, legible_figure, legible_figure, legible_figure, nofun⟩
    apply Json.legible_ofFields
    simp only [fields, Final.fields, List.forall_mem_cons, Option.mem_some_iff, forall_eq']
    exact ⟨r.kind.legible_json hexchange _, legible_figure, r.result.legible_json _, hdata, nofun⟩

/-- Any payload that is read as the document is parsed as the message. -/
theorem parse_of_readBytes? (w : Message) {payload : ByteArray}
    (h : Json.readBytes? payload = some w.document.sorted) :
    Inbound.parse payload = .ok w.inbound := by
  rw [Inbound.parse, h]
  exact w.ofJson_document

end Message

/-- **Messages are read back.** Whatever a gateway knows and however it spells the numbers, the
bytes of its message are read as what it means, and so is every payload that is the same document.
-/
theorem messages_read_back (w : Message) :
    Inbound.parse w.document.render.toUTF8 = .ok w.inbound ∧
    ∀ payload, Json.readBytes? payload = some w.document.sorted →
      Inbound.parse payload = .ok w.inbound :=
  ⟨w.parse_of_readBytes? (Json.readBytes?_render w.legible_document),
    fun _ h => w.parse_of_readBytes? h⟩

end Wire
end Check
end PileCheck
