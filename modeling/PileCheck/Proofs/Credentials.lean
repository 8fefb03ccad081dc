import PileCheck.Bus.Settings
import PileCheck.Proofs.Text
import PileCheck.Sql.Endpoint

/-!
# Credentials in connection URLs

A user and a password are written into a URL as they are, a colon between them and an `@` after
them. Two questions are settled here, both for all texts.

* What does a URL say of the credentials that it was made of? It says them up to the colon that
  divides them: `urls_tell_credentials` has the URLs that two pairs of credentials share, and
  `urls_confuse_credentials` two such pairs.
* What is shown of a URL in a log? What stands after the last `@`, and that is the same whatever
  stands before it (`address_hides_credentials`).
-/

namespace PileCheck

/-- Who logs in, and with what. -/
structure Credentials where
  user : String
  password : String
  deriving DecidableEq, Repr

namespace Credentials

variable {c d : Credentials}

/-- As they stand in a URL. -/
def text (c : Credentials) : String := c.user ++ ":" ++ c.password

/-- A text between two colons is the beginning of the password of one and the end of the user of
the other. -/
def Shifts (c d : Credentials) : Prop :=
  ∃ between, d.user = c.user ++ ":" ++ between ∧ c.password = between ++ ":" ++ d.password

/-- There is no colon but the one that divides them. -/
def Divided (c : Credentials) : Prop := ':' ∉ c.user.toList ∧ ':' ∉ c.password.toList

instance (c : Credentials) : Decidable c.Divided := inferInstanceAs (Decidable (_ ∧ _))

theorem toList_text (c : Credentials) :
    c.text.toList = c.user.toList ++ ':' :: c.password.toList := by
  rw [text, String.toList_append, String.toList_append, List.append_assoc]
  rfl

/-- The same of their characters, where texts are taken apart. -/
theorem shifts_iff : c.Shifts d ↔ ∃ between : List Char,
    d.user.toList = c.user.toList ++ ':' :: between ∧
      c.password.toList = between ++ ':' :: d.password.toList := by
  constructor
  · rintro ⟨between, huser, hpassword⟩
    refine ⟨between.toList, ?_, ?_⟩
    · rw [huser]
      simp
    · rw [hpassword]
      simp
  · rintro ⟨between, huser, hpassword⟩
    refine ⟨String.ofList between, ?_, ?_⟩
    · apply String.toList_inj.1
      rw [huser]
      simp
    · apply String.toList_inj.1
      rw [hpassword]
      simp

/-- Two texts with a colon marked in each are the same if the marks are at one place, or if what is
between the marks belongs to the user of one and to the password of the other. -/
theorem text_eq_iff : c.text = d.text ↔ c = d ∨ c.Shifts d ∨ d.Shifts c := by
  rw [← String.toList_inj, toList_text, toList_text, Text.append_cons_eq_append_cons_iff,
    shifts_iff, shifts_iff, String.toList_inj, String.toList_inj, ← Credentials.mk.injEq]

/-- A shift is a change: the one user is longer than the other. -/
theorem Shifts.ne (h : c.Shifts d) : c ≠ d := by
  rintro rfl
  obtain ⟨between, huser, -⟩ := shifts_iff.1 h
  have hlength := congrArg List.length huser
  simp at hlength

/-- A colon in the user could be the one that divides. -/
theorem exists_shifts_of_mem_user (h : ':' ∈ c.user.toList) : ∃ d : Credentials, d.Shifts c := by
  -- what the user has behind the colon goes over to the password
  obtain ⟨before, between, huser⟩ := List.append_of_mem h
  refine ⟨⟨String.ofList before, String.ofList (between ++ ':' :: c.password.toList)⟩, ?_⟩
  apply shifts_iff.2
  exact ⟨between, by simp [huser], by simp⟩

/-- And so could a colon in the password. -/
theorem exists_shifts_of_mem_password (h : ':' ∈ c.password.toList) :
    ∃ d : Credentials, c.Shifts d := by
  -- and what the password has before it, to the user
  obtain ⟨between, after, hpassword⟩ := List.append_of_mem h
  refine ⟨⟨String.ofList (c.user.toList ++ ':' :: between), String.ofList after⟩, ?_⟩
  apply shifts_iff.2
  exact ⟨between, by simp, by simp [hpassword]⟩

/-- A shift leaves a colon in the password of the one -/
theorem Divided.not_shifts (h : c.Divided) : ¬ c.Shifts d := by
  intro hshifts
  obtain ⟨between, -, hpassword⟩ := shifts_iff.1 hshifts
  apply h.2
  rw [hpassword]
  simp

theorem Divided.not_shifted (h : c.Divided) : ¬ d.Shifts c := by
  intro hshifts
  obtain ⟨between, huser, -⟩ := shifts_iff.1 hshifts
  apply h.1
  rw [huser]
  simp

/-- A text says which credentials it was made of exactly if there is one colon in it. -/
theorem told_iff : (∀ d : Credentials, d.text = c.text → d = c) ↔ c.Divided := by
  constructor
  · intro htold
    constructor
    · intro hmem
      obtain ⟨d, hshifts⟩ := exists_shifts_of_mem_user hmem
      exact hshifts.ne (htold d (text_eq_iff.2 (.inr (.inl hshifts))))
    · intro hmem
      obtain ⟨d, hshifts⟩ := exists_shifts_of_mem_password hmem
      exact hshifts.ne (htold d (text_eq_iff.2 (.inr (.inr hshifts)))).symm
  · intro hdivided d htext
    rcases text_eq_iff.1 htext with heq | hshifts | hshifts
    · exact heq
    · exact absurd hshifts hdivided.not_shifted
    · exact absurd hshifts hdivided.not_shifts

end Credentials

/-! ## What a URL says -/

/-- What stands between two texts can be read off the whole. -/
theorem between_inj {front back s t : String} :
    front ++ s ++ back = front ++ t ++ back ↔ s = t := by
  rw [← String.toList_inj, ← String.toList_inj]
  simp only [String.toList_append, List.append_left_inj, List.append_right_inj]

namespace Bus.Settings

/-- What the broker is told. -/
def credentials (s : Settings) : Credentials := ⟨s.username, s.password⟩

/-- The same broker for somebody else. -/
def withCredentials (s : Settings) (c : Credentials) : Settings :=
  { s with username := c.user, password := c.password }

/-- A broker URL is its credentials and what does not depend on them. -/
theorem uri_eq (s : Settings) :
    s.uri = "amqp://" ++ s.credentials.text ++ ("@" ++ s.address ++ "/" ++ s.vhostSegment) := by
  apply String.toList_inj.1
  simp [uri, credentials, Credentials.text]

/-- So two of them at one address differ by their credentials alone. -/
theorem uri_eq_iff {s t : Settings} (hhost : s.host = t.host) (hport : s.port = t.port)
    (hvhost : s.vhost = t.vhost) : s.uri = t.uri ↔ s.credentials.text = t.credentials.text := by
  have haddress : s.address = t.address := by rw [address, address, hhost, hport]
  have hsegment : s.vhostSegment = t.vhostSegment := by rw [vhostSegment, vhostSegment, hvhost]
  rw [uri_eq, uri_eq, haddress, hsegment, between_inj]

end Bus.Settings

namespace Sql.Endpoint

/-- What the database is told, if the endpoint is given by its fields. -/
def credentials (e : Endpoint) : Credentials := ⟨e.user, e.password⟩

/-- The same database for somebody else. -/
def withCredentials (e : Endpoint) (c : Credentials) : Endpoint :=
  { e with user := c.user, password := c.password }

variable {d e : Endpoint}

theorem connectionUrl_eq (h : e.url = none) :
    e.connectionUrl = "mysql://" ++ e.credentials.text ++ ("@" ++ e.place) := by
  apply String.toList_inj.1
  simp [connectionUrl, h, credentials, Credentials.text]

/-- Two of them at one place differ by their credentials alone. -/
theorem connectionUrl_eq_iff (hd : d.url = none) (he : e.url = none) (hhost : d.host = e.host)
    (hport : d.port = e.port) (hdatabase : d.database = e.database) :
    d.connectionUrl = e.connectionUrl ↔ d.credentials.text = e.credentials.text := by
  have hplace : d.place = e.place := by rw [place, place, hhost, hport, hdatabase]
  rw [connectionUrl_eq hd, connectionUrl_eq he, hplace, between_inj]

end Sql.Endpoint

/-- **What URLs tell of credentials.** Two brokers at one address, or two databases, have one URL
exactly if their credentials are the same, or differ by a text between two colons that belongs to
the user of one and to the password of the other. So a URL tells its credentials from all others
exactly if neither the user nor the password holds a colon. -/
theorem urls_tell_credentials (s t : Bus.Settings) (d e : Sql.Endpoint) :
    (s.host = t.host → s.port = t.port → s.vhost = t.vhost →
      (s.uri = t.uri ↔ s.credentials = t.credentials ∨ s.credentials.Shifts t.credentials ∨
        t.credentials.Shifts s.credentials)) ∧
    (d.url = none → e.url = none → d.host = e.host → d.port = e.port → d.database = e.database →
      (d.connectionUrl = e.connectionUrl ↔ d.credentials = e.credentials ∨
        d.credentials.Shifts e.credentials ∨ e.credentials.Shifts d.credentials)) ∧
    ((∀ c, (s.withCredentials c).uri = s.uri → c = s.credentials) ↔ s.credentials.Divided) ∧
    (e.url = none →
      ((∀ c, (e.withCredentials c).connectionUrl = e.connectionUrl → c = e.credentials) ↔
        e.credentials.Divided)) := by
  refine ⟨fun hhost hport hvhost => ?_, fun hd he hhost hport hdatabase => ?_, ?_, fun he => ?_⟩
  · rw [Bus.Settings.uri_eq_iff hhost hport hvhost, Credentials.text_eq_iff]
  · rw [Sql.Endpoint.connectionUrl_eq_iff hd he hhost hport hdatabase, Credentials.text_eq_iff]
  · have huri (c : Credentials) : (s.withCredentials c).uri = s.uri ↔ c.text = s.credentials.text :=
      Bus.Settings.uri_eq_iff rfl rfl rfl
    simp only [huri]
    exact Credentials.told_iff
  · have hurl (c : Credentials) :
        (e.withCredentials c).connectionUrl = e.connectionUrl ↔ c.text = e.credentials.text :=
      Sql.Endpoint.connectionUrl_eq_iff he he rfl rfl rfl
    simp only [hurl]
    exact Credentials.told_iff

/-- Separators of other kinds do no harm: no other credentials have the same URLs. A colon in the
user does, whatever else is the same. -/
theorem urls_tell_credentials_divided :
    let s : Bus.Settings := { username := "svc", password := "p@ss/word" }
    let t : Bus.Settings := { username := "svc", password := "p%40ss/word" }
    let d : Sql.Endpoint := { user := "svc:p", password := "q" }
    let e : Sql.Endpoint := { user := "svc", password := "p:q" }
    (s.host = t.host ∧ s.port = t.port ∧ s.vhost = t.vhost) ∧
      (d.url = none ∧ e.url = none ∧ d.host = e.host ∧ d.port = e.port ∧ d.database = e.database) ∧
      s.credentials.Divided ∧ (∀ c, (s.withCredentials c).uri = s.uri → c = s.credentials) ∧
      s.uri ≠ t.uri ∧ ¬ e.credentials.Divided ∧ d.connectionUrl = e.connectionUrl := by
  intro s t d e
  obtain ⟨hbrokers, hendpoints, htold, -⟩ := urls_tell_credentials s t d e
  have hdivided : s.credentials.Divided := by decide
  have hother : t.credentials ≠ s.credentials := by decide
  refine ⟨⟨rfl, rfl, rfl⟩, ⟨rfl, rfl, rfl, rfl, rfl⟩, hdivided, htold.2 hdivided, ?_, by decide, ?_⟩
  · intro huri
    rcases (hbrokers rfl rfl rfl).1 huri with heq | hshifts | hshifts
    · exact hother heq.symm
    · exact hdivided.not_shifts hshifts
    · exact hdivided.not_shifted hshifts
  · have hshifts : e.credentials.Shifts d.credentials := ⟨"p", rfl, rfl⟩
    exact (hendpoints rfl rfl rfl rfl rfl).2 (.inr (.inr hshifts))

/-- The user `a` with the password `b:c` and the user `a:b` with the password `c`. -/
theorem urls_confuse_credentials :
    let s : Bus.Settings := { username := "a", password := "b:c" }
    let t : Bus.Settings := { username := "a:b", password := "c" }
    let d : Sql.Endpoint := { user := "a", password := "b:c" }
    let e : Sql.Endpoint := { user := "a:b", password := "c" }
    s.host = t.host ∧ s.port = t.port ∧ s.vhost = t.vhost ∧ s.uri = t.uri ∧
      s.username ≠ t.username ∧ s.password ≠ t.password ∧
      d.url = none ∧ e.url = none ∧ d.host = e.host ∧ d.port = e.port ∧ d.database = e.database ∧
      d.connectionUrl = e.connectionUrl ∧ d.user ≠ e.user ∧ d.password ≠ e.password := by
  decide +kernel

/-! ## What is shown of a URL -/

namespace Sql.Endpoint

variable {url before rest shown : String}

/-- What stands after the last `@`, or everything if there is none. -/
theorem displayAddr_ofUrl (url : String) :
    (ofUrl url).displayAddr = ((Text.afterLast? '@' url.toList).map String.ofList).getD url := by
  simp only [displayAddr, ofUrl]
  cases Text.afterLast? '@' url.toList <;> rfl

/-- Nothing before an `@` is shown, and it makes no difference to what is shown after it. -/
theorem displayAddr_behind (before rest : String) :
    (ofUrl (before ++ "@" ++ rest)).displayAddr = (ofUrl rest).displayAddr := by
  have hlist : (before ++ "@" ++ rest).toList = before.toList ++ '@' :: rest.toList := by simp
  rw [displayAddr_ofUrl, displayAddr_ofUrl, hlist, Text.afterLast?_append_cons]
  cases Text.afterLast? '@' rest.toList with
  | none =>
    show String.ofList rest.toList = rest
    exact String.ofList_toList
  | some after => rfl

/-- Without an `@` nothing is held back. -/
theorem displayAddr_of_notMem (h : '@' ∉ url.toList) : (ofUrl url).displayAddr = url := by
  rw [displayAddr_ofUrl, Text.afterLast?_eq_none_iff.2 h]
  rfl

/-- What is shown holds no `@`, and before it stands nothing or an `@`. -/
theorem displayAddr_eq_iff : (ofUrl url).displayAddr = shown ↔
    '@' ∉ shown.toList ∧ (url = shown ∨ ∃ before, url = before ++ "@" ++ shown) := by
  constructor
  · rintro rfl
    by_cases hmem : '@' ∈ url.toList
    · obtain ⟨after, hafter⟩ : ∃ after, Text.afterLast? '@' url.toList = some after :=
        Option.ne_none_iff_exists'.1 fun hnone => Text.afterLast?_eq_none_iff.1 hnone hmem
      have hshown : (ofUrl url).displayAddr = String.ofList after := by
        rw [displayAddr_ofUrl, hafter]
        rfl
      obtain ⟨⟨before, hurl⟩, hlast⟩ := Text.afterLast?_eq_some_iff.1 hafter
      rw [hshown, String.toList_ofList]
      refine ⟨hlast, .inr ⟨String.ofList before, ?_⟩⟩
      apply String.toList_inj.1
      rw [hurl]
      simp
    · rw [displayAddr_of_notMem hmem]
      exact ⟨hmem, .inl rfl⟩
  · rintro ⟨hshown, rfl | ⟨before, rfl⟩⟩
    · exact displayAddr_of_notMem hshown
    · rw [displayAddr_behind, displayAddr_of_notMem hshown]

/-- **What is shown of an address hides its credentials.** Of a URL with an `@` in it the same is
shown whatever credentials stand before the `@`, and whatever they hold: what follows, if there is
no `@` in it, and in any case the part of the URL that follows its last `@`. Of an address that is
given field by field the same is shown whatever its user and password; and the URL made of its
fields shows it too, unless there is an `@` in the place itself. -/
theorem address_hides_credentials :
    (∀ before c c' rest : String, (ofUrl (before ++ c ++ "@" ++ rest)).displayAddr
      = (ofUrl (before ++ c' ++ "@" ++ rest)).displayAddr) ∧
    (∀ before c rest : String, '@' ∉ rest.toList →
      (ofUrl (before ++ c ++ "@" ++ rest)).displayAddr = rest) ∧
    (∀ url shown : String, (ofUrl url).displayAddr = shown ↔
      '@' ∉ shown.toList ∧ (url = shown ∨ ∃ before, url = before ++ "@" ++ shown)) ∧
    (∀ (e : Endpoint) (c : Credentials), (e.withCredentials c).displayAddr = e.displayAddr) ∧
    (∀ e : Endpoint, e.url = none → '@' ∉ e.place.toList →
      (ofUrl e.connectionUrl).displayAddr = e.displayAddr) := by
  refine ⟨fun before c c' rest => ?_, fun before c rest hrest => ?_,
    fun url shown => displayAddr_eq_iff, fun e c => ?_, fun e he hplace => ?_⟩
  · rw [displayAddr_behind, displayAddr_behind]
  · rw [displayAddr_behind, displayAddr_of_notMem hrest]
  · rfl
  · have hfields : e.displayAddr = e.place := by rw [displayAddr, he]
    rw [connectionUrl_eq he, ← String.append_assoc, displayAddr_behind,
      displayAddr_of_notMem hplace, hfields]

/-- A password that looks like the end of its URL. -/
theorem address_hides_credentials_signs :
    let e : Endpoint := { user := "svc", password := "a@db:1/x@", database := "app" }
    e.url = none ∧ '@' ∉ e.place.toList ∧
      e.connectionUrl = "mysql://svc:a@db:1/x@@127.0.0.1:3306/app" ∧
      (ofUrl e.connectionUrl).displayAddr = e.displayAddr ∧
      (ofUrl ("mysql://" ++ "svc:a@db:1/x@" ++ "@" ++ "127.0.0.1:3306/app")).displayAddr
        = "127.0.0.1:3306/app" := by
  intro e
  obtain ⟨-, hrest, -, -, hfields⟩ := address_hides_credentials
  have hplace : '@' ∉ e.place.toList := by decide +kernel
  exact ⟨rfl, hplace, by decide +kernel, hfields e rfl hplace, hrest _ _ _ (by decide)⟩

end Sql.Endpoint
end PileCheck
