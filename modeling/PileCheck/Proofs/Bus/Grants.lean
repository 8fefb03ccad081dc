import PileCheck.Proofs.Bus.Deliveries
import PileCheck.Proofs.Bus.Word

/-!
# What was granted on the channel of a link

A record is kept of what the broker does for the line: which channels it opens, and which requests
it grants on them. Nobody on the line looks at it. `Granted` says of a request that it was granted
on the channel that a link stands for now, and not on an earlier one of the same name.

A link that is being built has been granted all that is declared before what it asks for
(`Dial.Founded`), so a link that is in hand has been granted everything (`Declared`). Calls make
their requests on such a link, in their order (`Call.Founded`). Nothing that is granted is taken
back as long as no channel is opened twice (`Grows`), so all of that lasts.
-/

namespace PileCheck.Bus

/-! ## The record -/

/-- What the broker does for the line. -/
inductive Favour where
  | opened (l : Link)
  | granted (l : Link) (r : Request)

/-- The channel that was opened. -/
def Favour.opened? : Favour → Option Link
  | opened l => some l
  | granted _ _ => none

/-- The channels that were opened, in their order. -/
def openings (record : List Favour) : List Link := record.filterMap Favour.opened?

/-- The request was granted on the channel since it was opened last. -/
def Granted (record : List Favour) (l : Link) (r : Request) : Prop :=
  ∃ before after, record = before ++ .opened l :: after ∧ .opened l ∉ after ∧ .granted l r ∈ after

section Record

variable {record more : List Favour} {l : Link} {r : Request}

/-- A channel is among those that were opened if the record says so. -/
theorem mem_openings : l ∈ openings record ↔ .opened l ∈ record := by
  rw [openings, List.mem_filterMap]
  constructor
  · rintro ⟨favour, hmem, hopened⟩
    cases favour with
    | opened => rwa [← Option.some.inj hopened]
    | granted => cases hopened
  · exact fun hmem => ⟨_, hmem, rfl⟩

/-- Where something was granted a channel had been opened. -/
theorem Granted.opened (h : Granted record l r) : .opened l ∈ record := by
  obtain ⟨before, after, rfl, -, -⟩ := h
  simp

/-- What was granted is not taken back by anything that comes later, but for another opening of the
same name. -/
theorem Granted.append (h : Granted record l r) (hmore : .opened l ∉ more) :
    Granted (record ++ more) l r := by
  obtain ⟨before, after, rfl, hlast, hmem⟩ := h
  refine ⟨before, after ++ more, by simp, ?_, List.mem_append_left _ hmem⟩
  rw [List.mem_append]
  exact not_or.2 ⟨hlast, hmore⟩

/-- What is granted on an open channel. Its last opening is looked up from the end of the record:
the entry that has just been made comes after it. -/
theorem granted_concat (h : .opened l ∈ record) : Granted (record ++ [.granted l r]) l r := by
  obtain ⟨after, before, hsplit, hlast⟩ := List.eq_append_cons_of_mem (List.mem_reverse.2 h)
  have hrecord : record = before.reverse ++ .opened l :: after.reverse := by
    rw [← List.reverse_reverse record, hsplit]
    simp
  refine ⟨before.reverse, after.reverse ++ [.granted l r], by rw [hrecord]; simp, ?_, by simp⟩
  simpa using hlast

end Record

/-- A record that has grown, with no channel opened again. -/
structure Grows (record grown : List Favour) : Prop where
  opened : ∀ l, .opened l ∈ record → .opened l ∈ grown
  granted : ∀ l r, Granted record l r → Granted grown l r

/-- With every channel opened once, nothing that the record says of one is ever undone. -/
theorem grows_append {record more : List Favour} (h : (openings (record ++ more)).Nodup) :
    Grows record (record ++ more) where
  opened l hmem := List.mem_append_left _ hmem
  granted l r hgranted := by
    refine hgranted.append fun hagain => ?_
    rw [openings, List.filterMap_append] at h
    exact (List.nodup_append.1 h).2.2 l (mem_openings.2 hgranted.opened) l
      (mem_openings.2 hagain) rfl

/-! ## What the record has to say for a link -/

/-- The exchange and both queues were declared on the channel of the link, and all that belongs to
them. -/
def Declared (s : Settings) (record : List Favour) (l : Link) : Prop :=
  ∀ r ∈ s.topology, Granted record l r

/-- Some of the requests have been granted, one is made, and the others follow. -/
def Underway (record : List Favour) (requests : List Request) (l : Link) (request : Request)
    (rest : List Request) : Prop :=
  ∃ made, made ++ request :: rest = requests ∧ ∀ r ∈ made, Granted record l r

/-- A dial that declares something has been granted what comes before it. -/
def Dial.Founded (s : Settings) (record : List Favour) : Dial → Prop
  | declaring l request rest =>
    .opened l ∈ record ∧ Underway record s.topology l request rest
  | _ => True

/-- A dial that has come to a link has been granted all that is to be declared on it. -/
def Dial.Progress.Founded (s : Settings) (record : List Favour) : Dial.Progress → Prop
  | waits d => d.Founded s record
  | ends (.ok l) => Declared s record l
  | ends (.error _) => True

/-- A call makes its requests on a link on which everything is declared. -/
def Call.Founded (s : Settings) (record : List Favour) : Call → Prop
  | dialing _ d => d.Founded s record
  | requesting l request rest =>
    Declared s record l ∧ ∃ e : Errand, Underway record (e.requests s) l request rest

/-- A call that has ended rests on nothing any more. -/
def Call.Progress.Founded (s : Settings) (record : List Favour) : Call.Progress → Prop
  | waits c => c.Founded s record
  | ends _ => True

/-- A consumer asks for something only while it reopens its stream. -/
def Consumer.Founded (s : Settings) (record : List Favour) : Consumer → Prop
  | reopening _ c => c.Founded s record
  | _ => True

/-- The link in hand, if there is one. -/
def Line.Founded (record : List Favour) (b : Line) : Prop :=
  ∀ l, b.link = some l → Declared b.settings record l

section Grows

variable {s : Settings} {record grown : List Favour} (hgrows : Grows record grown)

include hgrows

theorem Declared.mono {l : Link} (h : Declared s record l) : Declared s grown l :=
  fun r hr => hgrows.granted l r (h r hr)

/-- What was granted before the request that is made stays granted. -/
theorem Underway.mono {requests rest : List Request} {l : Link} {request : Request}
    (h : Underway record requests l request rest) : Underway grown requests l request rest := by
  obtain ⟨made, hsplit, hmade⟩ := h
  exact ⟨made, hsplit, fun r hr => hgrows.granted l r (hmade r hr)⟩

/-- Only a dial that declares something rests on the record. -/
theorem Dial.Founded.mono {d : Dial} (h : d.Founded s record) : d.Founded s grown := by
  cases d with
  | declaring l request rest => exact ⟨hgrows.opened l h.1, h.2.mono hgrows⟩
  | queued | connecting | opening => trivial

/-- A call rests on what its dial does, or on its link and the requests that it has behind it. -/
theorem Call.Founded.mono {c : Call} (h : c.Founded s record) : c.Founded s grown := by
  cases c with
  | dialing e d => exact Dial.Founded.mono hgrows h
  | requesting l request rest =>
    obtain ⟨hdeclared, e, hunderway⟩ := h
    exact ⟨hdeclared.mono hgrows, e, hunderway.mono hgrows⟩

/-- And a consumer on its call, while it has one. -/
theorem Consumer.Founded.mono {c : Consumer} (h : c.Founded s record) : c.Founded s grown := by
  cases c with
  | reopening attempt c => exact Call.Founded.mono hgrows h
  | listening | handling | acknowledging | resting => trivial

theorem Line.Founded.mono {b : Line} (h : b.Founded record) : b.Founded grown :=
  fun l hl => (h l hl).mono hgrows

end Grows

/-- The request that is made has been granted. -/
theorem Underway.granted {record : List Favour} {requests rest : List Request} {l : Link}
    {request : Request} (h : Underway record requests l request rest)
    (hgrows : Grows record (record ++ [.granted l request])) (hopened : .opened l ∈ record) :
    ∃ made, made ++ rest = requests ∧
      ∀ r ∈ made, Granted (record ++ [.granted l request]) l r := by
  obtain ⟨made, hsplit, hmade⟩ := h
  refine ⟨made ++ [request], by rw [← hsplit]; simp, fun r hr => ?_⟩
  rcases List.mem_append.1 hr with hold | hnew
  · exact hgrows.granted l r (hmade r hold)
  · rw [List.mem_singleton.1 hnew]
    exact granted_concat hopened

/-- A queue is declared in any case, so there is something to declare. -/
theorem Declared.opened {s : Settings} {record : List Favour} {l : Link}
    (h : Declared s record l) : .opened l ∈ record := by
  have hmem : Request.queue s.requestQueue true ∈ s.topology := by
    simp [Settings.topology, Settings.declareQueue]
  exact (h _ hmem).opened

/-! ## One answer -/

/-- What an answer to a dial is for the record. -/
def Dial.favour? : Dial → Dial.Reply → Option Favour
  | opening connection, .opened (.ok channel) => some (.opened ⟨connection, channel⟩)
  | declaring l request _, .declared (.ok ()) => some (.granted l request)
  | _, _ => none

/-- What an answer to a call is for the record. A stream is granted like any other request. -/
def Call.favour? : Call → Call.Reply → Option Favour
  | dialing _ d, .dial r => d.favour? r
  | requesting l request _, .answered (.ok ()) => some (.granted l request)
  | requesting l request _, .streaming (.ok _) => some (.granted l request)
  | _, _ => none

/-- What an answer to a consumer is for the record: deliveries and acknowledgements are none. -/
def Consumer.favour? : Consumer → Consumer.Reply → Option Favour
  | reopening _ c, .call r => c.favour? r
  | _, _ => none

namespace Line

variable {b : Line} {record : List Favour} {l : Link}

/-- Whoever has the lock takes the link in hand if it is alive, and otherwise begins a new one, for
which nothing has been granted. -/
theorem founded_locked (alive : Link → Bool) (hb : b.Founded record) :
    (b.locked alive).1.Founded record ∧ (b.locked alive).2.Founded b.settings record := by
  unfold locked
  split
  · next l hlink =>
    split
    · exact ⟨hb, hb l hlink⟩
    · exact ⟨hb, trivial⟩
  · exact ⟨hb, trivial⟩

/-- With nothing left to declare everything has been granted. -/
theorem founded_declare (hb : b.Founded record) (hopened : .opened l ∈ record)
    {made requests : List Request} (hsplit : made ++ requests = b.settings.topology)
    (hmade : ∀ r ∈ made, Granted record l r) :
    (b.declare l requests).1.Founded record ∧
      (b.declare l requests).2.Founded b.settings record := by
  cases requests with
  | nil =>
    rw [List.append_nil] at hsplit
    have hdeclared : Declared b.settings record l := by
      rw [Declared, ← hsplit]
      exact hmade
    refine ⟨fun l' hl' => ?_, hdeclared⟩
    cases hl'
    exact hdeclared
  | cons request rest => exact ⟨hb, hopened, made, hsplit, hmade⟩

/-- A dial has the lock at once, or waits for it with nothing to rest on. -/
theorem founded_dial (alive : Link → Bool) (hb : b.Founded record) :
    (b.dial alive).1.Founded record ∧ (b.dial alive).2.Founded b.settings record := by
  unfold dial
  split
  · next lock _ =>
    have hlocked : { b with lock }.Founded record := hb
    exact founded_locked alive hlocked
  · exact ⟨hb, trivial⟩

/-- What a dial rests on after an answer. Case by case of what was answered: a channel that was
opened and a declaration that was granted are what this answer adds to the record, and every other
answer ends the attempt or is not waited for. -/
theorem founded_resume (alive : Link → Bool) {d : Dial} {r : Dial.Reply} (hb : b.Founded record)
    (hd : d.Founded b.settings record)
    (hgrows : Grows record (record ++ (d.favour? r).toList)) :
    (b.resume alive d r).1.Founded (record ++ (d.favour? r).toList) ∧
      (b.resume alive d r).2.Founded b.settings (record ++ (d.favour? r).toList) := by
  have hline := hb.mono hgrows
  have hdial := hd.mono hgrows
  unfold resume
  split
  · next ticket =>
    have hlocked : { b with lock := b.lock.pickUp ticket }.Founded _ := hline
    exact founded_locked alive hlocked
  · exact ⟨hline, trivial⟩
  · exact ⟨hline, trivial⟩
  · exact ⟨hline, trivial⟩
  · next connection channel =>
    -- a channel that is opened now is in the record already
    have hopened : .opened ⟨connection, channel⟩ ∈
        record ++ ((Dial.opening connection).favour? (.opened (.ok channel))).toList :=
      List.mem_append_right _ (List.mem_singleton_self _)
    exact founded_declare hline hopened (List.nil_append _) (by simp)
  · exact ⟨hline, trivial⟩
  · next l request rest =>
    -- the request that was made is now among those that were granted
    obtain ⟨hopened, hunderway⟩ := hd
    obtain ⟨made, hsplit, hmade⟩ := hunderway.granted hgrows hopened
    exact founded_declare hline (hgrows.opened _ hopened) hsplit hmade
  · exact ⟨hline, trivial⟩
  · exact ⟨hline, hdial⟩

/-- A call that has its link makes its first request there, with none behind it. -/
theorem founded_dialed {e : Errand} {m : Line × Dial.Progress} (hline : m.1.Founded record)
    (hdial : m.2.Founded m.1.settings record) :
    (dialed e m).1.Founded record ∧ (dialed e m).2.Founded m.1.settings record := by
  refine ⟨by rw [dialed_fst]; exact hline, ?_⟩
  obtain ⟨b, progress⟩ := m
  match progress with
  | .waits d => exact hdial
  | .ends (.error f) => trivial
  | .ends (.ok l) =>
    change Declared b.settings record l at hdial
    show (b.request l (e.requests b.settings)).2.Founded b.settings record
    cases hasks : e.requests b.settings with
    | nil => trivial
    | cons request rest => exact ⟨hdial, e, [], hasks.symm, by simp⟩

/-- A call begins with a dial. -/
theorem founded_call (alive : Link → Bool) (e : Errand) (hb : b.Founded record) :
    (b.call alive e).1.Founded record ∧ (b.call alive e).2.Founded b.settings record := by
  obtain ⟨hline, hdial⟩ := founded_dial alive hb
  rw [← b.settings_dial alive] at hdial ⊢
  exact founded_dialed hline hdial

/-- A call that has been granted a request makes the next one. -/
theorem founded_request {made requests : List Request} {e : Errand} (hb : b.Founded record)
    (hl : Declared b.settings record l) (hsplit : made ++ requests = e.requests b.settings)
    (hmade : ∀ r ∈ made, Granted record l r) :
    (b.request l requests).1.Founded record ∧
      (b.request l requests).2.Founded b.settings record := by
  cases requests with
  | nil => exact ⟨hb, trivial⟩
  | cons request rest => exact ⟨hb, hl, e, made, hsplit, hmade⟩

/-- A request that was refused ends the call, whoever is at fault. -/
theorem founded_refused {text : String} {request : Request} (hb : b.Founded record) :
    (b.refused text request).1.Founded record ∧
      (b.refused text request).2.Founded b.settings record := by
  unfold refused
  split <;> exact ⟨hb, trivial⟩

/-- What a call rests on after an answer: that of its dial, or what it has been granted on its link
so far. -/
theorem founded_resumeCall (alive : Link → Bool) {c : Call} {r : Call.Reply}
    (hb : b.Founded record)
    (hc : c.Founded b.settings record)
    (hgrows : Grows record (record ++ (c.favour? r).toList)) :
    (b.resumeCall alive c r).1.Founded (record ++ (c.favour? r).toList) ∧
      (b.resumeCall alive c r).2.Founded b.settings (record ++ (c.favour? r).toList) := by
  have hline := hb.mono hgrows
  have hcall := hc.mono hgrows
  unfold resumeCall
  split
  · next e d r =>
    obtain ⟨hresumed, hdial⟩ := founded_resume alive hb hc hgrows
    rw [← b.settings_resume alive d r] at hdial ⊢
    exact founded_dialed hresumed hdial
  · next l request rest =>
    obtain ⟨hdeclared, e, hunderway⟩ := hc
    -- the request that was answered is granted, and the next one is made after it
    obtain ⟨made, hsplit, hmade⟩ := hunderway.granted hgrows hdeclared.opened
    exact founded_request hline (hdeclared.mono hgrows) hsplit hmade
  · exact founded_refused hline
  · exact ⟨hline, trivial⟩
  · exact founded_refused hline
  · exact ⟨hline, hcall⟩

end Line

namespace Consumer

variable {b : Line} {record : List Favour}

/-- A consumer goes on with its call, or has a stream or a rest, and then rests on nothing. -/
theorem founded_reopened {attempt : Nat} {m : Line × Call.Progress} {s : Settings}
    (h : m.1.Founded record ∧ m.2.Founded s record) :
    (reopened attempt m).1.Founded record ∧ (reopened attempt m).2.Founded s record := by
  obtain ⟨b, progress⟩ := m
  match progress with
  | .waits c => exact h
  | .ends .done | .ends (.streaming _) | .ends (.failed _) => exact ⟨h.1, trivial⟩

/-- What a consumer rests on after an answer. Where it needs a stream it begins a call like any
other. -/
theorem founded_resume (alive : Link → Bool) (queue : String) {c : Consumer} {r : Reply}
    (hb : b.Founded record)
    (hc : c.Founded b.settings record)
    (hgrows : Grows record (record ++ (c.favour? r).toList)) :
    (c.resume b alive queue r).1.Founded (record ++ (c.favour? r).toList) ∧
      (c.resume b alive queue r).2.Founded b.settings (record ++ (c.favour? r).toList) := by
  have hline := hb.mono hgrows
  have hconsumer := hc.mono hgrows
  unfold resume
  split
  · exact ⟨hline, trivial⟩
  · have hfailed : b.markFailed.Founded _ := hline
    exact founded_reopened (Line.founded_call alive _ hfailed)
  · exact founded_reopened (Line.founded_call alive _ hline)
  · exact ⟨hline, trivial⟩
  · exact ⟨hline, trivial⟩
  · exact founded_reopened (Line.founded_resumeCall alive hb hc hgrows)
  · exact founded_reopened (Line.founded_call alive _ hline)
  · exact ⟨hline, hconsumer⟩

end Consumer

/-! ## Who leaves the link alone -/

namespace Line

variable {b : Line} {record : List Favour}

/-- Whoever gives up the lock leaves the link where it is. -/
theorem link_abandonCall (b : Line) (c : Call) : (b.abandonCall c).link = b.link := by
  unfold abandonCall hangUp
  split
  · split <;> rfl
  · rfl

/-- A close takes the link away, or leaves it where it is. -/
theorem link_close (b : Line) (l : Link) (h : b.close.1.link = some l) : b.link = some l := by
  unfold close closeLocked at h
  split at h
  · split at h
    · cases h
    · exact h
  · exact h

/-- No close puts a link in hand. -/
theorem link_resumeClose (b : Line) (c : Closing) (r : Closing.Reply) (l : Link)
    (h : (b.resumeClose c r).1.link = some l) : b.link = some l := by
  unfold resumeClose closeLocked at h
  split at h
  · split at h
    · cases h
    · exact h
  · exact h
  · exact h

/-- Without a new link there is nothing to show. -/
theorem Founded.of_link {b' : Line} (h : b.Founded record) (hsettings : b'.settings = b.settings)
    (hlink : ∀ l, b'.link = some l → b.link = some l) : b'.Founded record := by
  intro l hl
  rw [hsettings]
  exact h l (hlink l hl)

end Line

/-- A consumer that is stopped leaves the link where it is. -/
theorem Consumer.link_stop (b : Line) (c : Consumer) : (c.stop b).link = b.link := by
  unfold stop
  split
  · exact b.link_abandonCall _
  · rfl

/-! ## Runs -/

namespace Traffic

/-- What an act is for the record. -/
def favour? (w : Traffic) : Act → Option Favour
  | .reply i r =>
    match w.calls[i]? with
    | some (_, c) => if w.line.admitsCall c r then c.favour? r else none
    | none => none
  | .hear i r =>
    match w.subscriptions[i]? with
    | some s => if w.line.admitsConsumer s.consumer r then s.consumer.favour? r else none
    | none => none
  | _ => none

/-- The link in hand and all that is under way have on record what they rest on. -/
structure Founded (s : Settings) (record : List Favour) (w : Traffic) : Prop where
  settings : w.line.settings = s
  line : w.line.Founded record
  calls : ∀ x ∈ w.calls, x.2.Founded s record
  subscriptions : ∀ t ∈ w.subscriptions, t.consumer.Founded s record

namespace Founded

variable {s : Settings} {w : Traffic} {record grown : List Favour}

/-- Nothing is in hand and nothing is under way. -/
theorem start (s : Settings) : (start s).Founded s [] where
  settings := rfl
  line _ hl := nomatch hl
  calls _ hx := nomatch hx
  subscriptions _ ht := nomatch ht

/-- All of it lasts while the record grows. -/
theorem mono (hgrows : Grows record grown) (h : w.Founded s record) : w.Founded s grown where
  settings := h.settings
  line := h.line.mono hgrows
  calls x hx := (h.calls x hx).mono hgrows
  subscriptions t ht := (h.subscriptions t ht).mono hgrows

/-- A new subscription asks for nothing yet. -/
theorem finish (h : w.Founded s record) (e : Errand) (l : Option Link) (r : Call.Ended) :
    (w.finish e l r).Founded s record := by
  obtain ⟨new, hnext, hnew⟩ := finish_subscriptions (w := w) e l r
  have hline : (w.finish e l r).line = w.line := finish_line e l r
  have hcalls : (w.finish e l r).calls = w.calls := by cases r <;> rfl
  refine ⟨hline ▸ h.settings, hline ▸ h.line, hcalls ▸ h.calls, fun t ht => ?_⟩
  rw [hnext] at ht
  rcases List.mem_append.1 ht with hold | hmem
  · exact h.subscriptions t hold
  · obtain ⟨stream, hconsumer, -⟩ := hnew t hmem
    rw [hconsumer]
    trivial

/-- A new call dials, and is over at once or stands at its first wait. -/
theorem call (h : w.Founded s record) (e : Errand) : (w.call e).Founded s record := by
  obtain ⟨rfl, hline, hcalls, hsubscriptions⟩ := h
  obtain ⟨hdialed, hcall⟩ := Line.founded_call w.alive e hline
  have hsettings := w.line.settings_call w.alive e
  unfold Traffic.call
  dsimp only
  split
  · next c hwaits =>
    refine ⟨hsettings, hdialed, fun x hx => ?_, hsubscriptions⟩
    rcases List.mem_append.1 hx with hold | hnew
    · exact hcalls x hold
    · rw [hwaits] at hcall
      rw [List.mem_singleton.1 hnew]
      exact hcall
  · refine Founded.finish ?_ _ _ _
    exact ⟨hsettings, hdialed, hcalls, hsubscriptions⟩

/-- An answer to one call, which is put on record if it is a favour. All others rest on what they
rested on before. -/
theorem reply (h : w.Founded s record) (i : Nat) (r : Call.Reply)
    (hgrows : Grows record (record ++ (w.favour? (.reply i r)).toList)) :
    (w.reply i r).Founded s (record ++ (w.favour? (.reply i r)).toList) := by
  have hgrown := h.mono hgrows
  obtain ⟨rfl, hline, hcalls, -⟩ := h
  unfold Traffic.reply
  split
  · next e c hc =>
    split
    · next hadmits =>
      -- the record gets what the call was granted; the others stand on what it held before
      have hfavour : w.favour? (.reply i r) = c.favour? r := by
        rw [favour?, hc]
        exact if_pos hadmits
      rw [hfavour] at hgrows hgrown ⊢
      obtain ⟨hresumed, hcall⟩ := Line.founded_resumeCall w.alive hline
        (hcalls _ (List.mem_of_getElem? hc)) hgrows
      have hsettings := w.line.settings_resumeCall w.alive c r
      dsimp only [note]
      split
      · next next hwaits =>
        refine ⟨hsettings, hresumed, fun x hx => ?_, hgrown.subscriptions⟩
        rcases List.mem_or_eq_of_mem_set hx with hold | rfl
        · exact hgrown.calls x hold
        · rw [hwaits] at hcall
          exact hcall
      · refine Founded.finish ?_ _ _ _
        refine ⟨hsettings, hresumed, fun x hx => ?_, hgrown.subscriptions⟩
        exact hgrown.calls x (List.mem_of_mem_eraseIdx hx)
    · exact hgrown
  · exact hgrown

/-- An answer to one subscription, likewise. -/
theorem hear (h : w.Founded s record) (i : Nat) (r : Consumer.Reply)
    (hgrows : Grows record (record ++ (w.favour? (.hear i r)).toList)) :
    (w.hear i r).Founded s (record ++ (w.favour? (.hear i r)).toList) := by
  have hgrown := h.mono hgrows
  obtain ⟨rfl, hline, -, hsubscriptions⟩ := h
  unfold Traffic.hear
  split
  · next t ht =>
    split
    · next hadmits =>
      -- as for a reply: one consumer moves, on a record that only grows
      have hfavour : w.favour? (.hear i r) = t.consumer.favour? r := by
        rw [favour?, ht]
        exact if_pos hadmits
      rw [hfavour] at hgrows hgrown ⊢
      obtain ⟨hresumed, hconsumer⟩ := Consumer.founded_resume w.alive t.queue hline
        (hsubscriptions _ (List.mem_of_getElem? ht)) hgrows
      refine ⟨t.consumer.settings_resume w.line w.alive t.queue r, hresumed, hgrown.calls,
        fun u hu => ?_⟩
      rcases List.mem_or_eq_of_mem_set hu with hold | rfl
      · exact hgrown.subscriptions u hold
      · exact hconsumer
    · exact hgrown
  · exact hgrown

/-- A call that is cut off is gone from its place. -/
theorem abandon (h : w.Founded s record) (i : Nat) : (w.abandon i).Founded s record := by
  unfold Traffic.abandon
  split
  · next e c _ =>
    refine ⟨(w.line.settings_abandonCall c).trans h.settings,
      h.line.of_link (w.line.settings_abandonCall c) fun l hl => ?_,
      fun x hx => h.calls x (List.mem_of_mem_eraseIdx hx), h.subscriptions⟩
    rwa [← w.line.link_abandonCall c]
  · exact h

/-- A close takes the link in hand away or waits for its turn. -/
theorem close (h : w.Founded s record) : w.close.Founded s record := by
  have hsettings := w.line.settings_close
  have hline := h.line.of_link hsettings w.line.link_close
  unfold Traffic.close
  split <;> next hclose =>
    rw [hclose] at hsettings hline
    exact ⟨hsettings.trans h.settings, hline, h.calls, h.subscriptions⟩

/-- So does a close that goes on. -/
theorem closing (h : w.Founded s record) (i : Nat) (r : Closing.Reply) :
    (w.closing i r).Founded s record := by
  unfold Traffic.closing
  split
  · next c _ =>
    have hsettings := w.line.settings_resumeClose c r
    have hline := h.line.of_link hsettings (w.line.link_resumeClose c r)
    split
    · dsimp only
      split <;> next hresume =>
        rw [hresume] at hsettings hline
        exact ⟨hsettings.trans h.settings, hline, h.calls, h.subscriptions⟩
    · exact h
  · exact h

/-- A subscription that is stopped is gone from its place. -/
theorem stop (h : w.Founded s record) (i : Nat) : (w.stop i).Founded s record := by
  unfold Traffic.stop
  split
  · next t _ =>
    have hsettings := t.consumer.settings_stop w.line
    refine ⟨hsettings.trans h.settings, h.line.of_link hsettings fun l hl => ?_, h.calls,
      fun u hu => h.subscriptions u (List.mem_of_mem_eraseIdx hu)⟩
    rwa [← t.consumer.link_stop w.line]
  · exact h

/-- Every act leaves all of it so. Only an answer to a call or to a subscription can be a favour;
the other acts leave the record as it is. -/
theorem step (h : w.Founded s record) (a : Act)
    (hgrows : Grows record (record ++ (w.favour? a).toList)) :
    (w.step a).Founded s (record ++ (w.favour? a).toList) := by
  cases a with
  | reply i r => exact h.reply i r hgrows
  | hear i r => exact h.hear i r hgrows
  | call e => exact (h.mono hgrows).call e
  | abandon i => exact (h.mono hgrows).abandon i
  | close => exact (h.mono hgrows).close
  | closing i r => exact (h.mono hgrows).closing i r
  | stop i => exact (h.mono hgrows).stop i
  | breaks l =>
    have hgrown := h.mono hgrows
    exact ⟨hgrown.settings, hgrown.line, hgrown.calls, hgrown.subscriptions⟩

end Founded
end Traffic

/-- Traffic with the record of what the broker does for it. -/
structure FavourLog where
  traffic : Traffic
  record : List Favour := []

namespace FavourLog

def start (settings : Settings) : FavourLog := { traffic := .start settings }

def step (v : FavourLog) (a : Traffic.Act) : FavourLog where
  traffic := v.traffic.step a
  record := v.record ++ (v.traffic.favour? a).toList

def run (v : FavourLog) (acts : List Traffic.Act) : FavourLog := acts.foldl step v

variable {v : FavourLog}

/-- The record makes no difference to the traffic. -/
theorem traffic_run (acts : List Traffic.Act) : (v.run acts).traffic = v.traffic.run acts :=
  (List.foldl_hom traffic fun _ _ => rfl).symm

/-- The record only ever grows. -/
theorem record_run (acts : List Traffic.Act) : ∃ more, (v.run acts).record = v.record ++ more := by
  induction acts generalizing v with
  | nil => exact ⟨[], (List.append_nil _).symm⟩
  | cons a rest ih =>
    obtain ⟨more, hmore⟩ := ih (v := v.step a)
    exact ⟨(v.traffic.favour? a).toList ++ more, hmore.trans (List.append_assoc _ _ _)⟩

/-- As long as no channel is opened twice, everything rests on what is on record. Induction on the
acts: that no channel is opened twice up to the end says the same of every act before. -/
theorem founded_run {s : Settings} (h : v.traffic.Founded s v.record) (acts : List Traffic.Act)
    (hopenings : (openings (v.run acts).record).Nodup) :
    (v.run acts).traffic.Founded s (v.run acts).record := by
  induction acts generalizing v with
  | nil => exact h
  | cons a rest ih =>
    obtain ⟨more, hmore⟩ := record_run (v := v.step a) rest
    have hsofar : (openings (v.record ++ (v.traffic.favour? a).toList)).Nodup := by
      change (openings ((v.step a).run rest).record).Nodup at hopenings
      rw [hmore, openings, List.filterMap_append] at hopenings
      exact (List.nodup_append.1 hopenings).1
    exact ih (h.step a (grows_append hsofar)) hopenings

end FavourLog
end PileCheck.Bus
