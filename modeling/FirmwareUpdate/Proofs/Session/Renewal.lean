import FirmwareUpdate.Proofs.Resemblance

/-!
# New sessions in place of old ones

A session that has been in use keeps nothing from its earlier connections but the pin, and the pin
is what a new session would read. So a new session in its place connects with the same outcome, and
then there is no difference between the two.
-/

namespace FirmwareUpdate

variable {σ ω : Type} {E : σ → σ → Prop} {base base' : List Call} {p : Platform σ ω}

/-- A session without a connection, and a new one for the same server. -/
structure Session.Renewed (session fresh : Session) : Prop where
  identity_eq : fresh.identity = session.identity
  timeout_eq : fresh.timeout = session.timeout
  stage_eq : fresh.stage = .unconfigured
  pin : session.stage = .unconfigured ∨ ∃ pin, session.stage = .idle pin
    ∧ Pin.ofPem session.identity.peerCertificate = .ok pin

/-- What is given by two sessions: the same outcome, and the same session unless it is a failure. -/
def SameSession {α : Type} (r r' : Session × Except Fault α) : Prop :=
  r'.2 = r.2 ∧ (r.2.isOk → r'.1 = r.1)

namespace Session.Renewed

variable {session fresh : Session} {pin : Pin}

/-- A new session is configured to what the old one has been all along. -/
theorem configured (hp : p.Respects E) (h : session.Renewed fresh)
    (hstage : session.stage = .idle pin)
    (hpin : Pin.ofPem session.identity.peerCertificate = .ok pin) {s s' : Scene σ}
    (hs : Resembles E base base' s s') :
  ∃ after, fresh.configure p.transport s' = ((session, .ok pin), after)
    ∧ Resembles E base base' s after
  := by
  obtain ⟨hidentity, htimeout, hfresh, -⟩ := h
  obtain ⟨hok, hstate⟩ := hp.configure fresh.identity s'.toSite (hp.left (hp.symm hs.state))
  have hperform : perform (p.transport.configure fresh.identity) .configure s'
      = (.ok (), { toSite := (p.transport.configure fresh.identity s'.toSite).2,
                   calls := .configure (.ok ()) :: s'.calls }) := by
    rw [← hok]
    rfl
  have hsession : { fresh with stage := .idle pin } = session := by
    cases session
    cases fresh
    simp_all
  rw [← hidentity] at hpin
  unfold configure
  rw [hfresh, hpin]
  dsimp only
  rw [Act.bind_eq hperform, ← hsession]
  exact ⟨_, rfl, (hs.configured (hp.trans hs.state hstate) (.ok ())).withNotes _ _⟩

/-- A new session connects with the same outcome. -/
theorem connect (hp : p.Respects E) (h : session.Renewed fresh) :
  Act.Agree E base base' (session.connect p.transport) (fresh.connect p.transport) SameSession
  := by
  have hsame : Act.Agree E base base' (session.connect p.transport) (session.connect p.transport)
      Eq := .of_composed (connect_composed (Transport.unread_le hp.transport_le) session)
  obtain hstage | ⟨pin, hstage, hpin⟩ := h.pin
  · obtain rfl : fresh = session := by
      obtain ⟨hidentity, htimeout, hfresh, -⟩ := h
      cases session
      cases fresh
      simp_all
    apply hsame.imp
    rintro r _ rfl
    exact ⟨rfl, fun _ => rfl⟩
  · constructor
    intro s s' hs
    obtain ⟨after, hconfigure, hafter⟩ := h.configured hp hstage hpin hs
    obtain ⟨hanswer, hlast⟩ := hsame.run s after hafter
    have hrenewed : fresh.connect p.transport s' = session.connect p.transport after := by
      have hclosed : ¬ session.isConnected = true := by
        rw [isConnected, hstage]
        exact Bool.false_ne_true
      have hfresh : ¬ fresh.isConnected = true := by
        rw [isConnected, h.stage_eq]
        exact Bool.false_ne_true
      have hidle : session.configure p.transport after = ((session, .ok pin), after) := by
        rw [configure, hstage]
        rfl
      unfold Session.connect
      rw [if_neg hfresh, if_neg hclosed, pure_bind, pure_bind]
      dsimp only
      rw [Act.bind_eq hconfigure, Act.bind_eq hidle]
    rw [hrenewed]
    exact ⟨⟨hanswer.symm ▸ rfl, fun _ => congrArg Prod.fst hanswer.symm⟩, hlast⟩

end Session.Renewed

namespace Client

variable {session fresh : Session}

theorem begin_renewed (hp : p.Respects E) (h : session.Renewed fresh) (request : Request) :
  Act.Agree E base base' (begin p.transport session request)
    (begin p.transport fresh request) SameSession
  := by
  unfold begin
  apply (h.connect hp).bind
  rintro ⟨session, _⟩ ⟨fresh, outcome⟩ ⟨houtcome, hsession⟩
  obtain rfl := houtcome
  obtain fault | ⟨⟩ := outcome
  · exact .pure ⟨rfl, nofun⟩
  · obtain rfl : fresh = session := hsession rfl
    apply (Act.Agree.of_composed
      (Session.ask_composed (Transport.unread_le hp.transport_le) fresh request.bytes)).imp
    rintro r _ rfl
    exact ⟨rfl, fun _ => rfl⟩

/-- A new client fetches the same file, or fails alike. -/
theorem fetch_renewed (hp : p.Respects E) {client other : Client}
    (h : client.session.Renewed other.session) (request : Request) (capacity : Nat) :
  Act.Agree E base base' (client.fetch p.transport request capacity)
    (other.fetch p.transport request capacity) fun r r' => r'.2 = r.2
  := by
  unfold fetch
  apply Act.Agree.bind_report
  have hbegin : Act.Agree E base base' (begin p.transport client.advance.session request)
      (begin p.transport other.advance.session request) SameSession := begin_renewed hp h request
  apply hbegin.bind
  rintro ⟨session, _⟩ ⟨fresh, outcome⟩ ⟨houtcome, hsession⟩
  obtain rfl := houtcome
  extract_lets jp jp'
  have hjp : ∀ r r' : Session × Except Fault Bytes, r'.2 = r.2 →
      Act.Agree E base base' (jp r) (jp' r') fun r r' => r'.2 = r.2 := by
    rintro ⟨session, _⟩ ⟨fresh, result⟩ hresult
    obtain rfl := hresult
    dsimp only [jp, jp']
    obtain fault | body := result
    · apply Act.Agree.bind_reportAll
      exact .pure rfl
    · apply Act.Agree.bind_report
      exact .pure rfl
  clear_value jp jp'
  obtain fault | ⟨⟩ := outcome
  · simp only [pure_bind]
    apply hjp
    rfl
  · obtain rfl : fresh = session := hsession rfl
    apply Act.Agree.bind_composed
      (collect_composed (Transport.hears_le hp.transport_le) fresh _ 0)
    intro r
    apply hjp
    rfl

/-! ### Streams -/

namespace Stream

/-- The same fragment from streams that only the numbers of their requests tell apart. -/
def SameFragment (r r' : Stream × Except Fault (Option Fragment)) : Prop :=
  ∃ id, r' = ({ r.1 with id }, r.2)

theorem failed_renewed (stream : Stream) (id : UInt32) (fault : Fault) :
  Act.Agree E base base' (stream.failed fault) (failed { stream with id } fault) SameFragment
  := by
  unfold failed
  apply Act.Agree.bind_reportAll
  exact .pure ⟨id, rfl⟩

theorem receive_renewed (hp : p.Respects E) (stream : Stream) (id : UInt32) :
  Act.Agree E base base' (stream.receive p.transport) (receive p.transport { stream with id })
    SameFragment
  := by
  have hhears := Transport.hears_le hp.transport_le
  induction stream using receive.induct with
  | case1 stream r ih =>
      rw [receive, receive]
      apply Act.Agree.bind_composed (Session.readChunk_composed hhears _ _ _)
      rintro ⟨session, fault | _ | chunk⟩
      · apply failed_renewed
      · dsimp only
        split
        · exact .pure ⟨id, rfl⟩
        · apply failed_renewed
      · dsimp only
        apply Act.Agree.bind_reportAll
        split
        · apply Act.Agree.bind_composed (Session.finish_composed (hhears _ _ _ .hangUp) session)
          intro session
          apply failed_renewed
        case h_2 after heq =>
          split
          · apply Act.Agree.bind_composed (Session.finish_composed (hhears _ _ _ .hangUp) session)
            intro session
            exact .pure ⟨id, rfl⟩
          · apply ih session chunk after heq
        · exact .pure ⟨id, rfl⟩

theorem next_renewed (hp : p.Respects E) (stream : Stream) (id : UInt32) :
  Act.Agree E base base' (stream.next p.transport) (next p.transport { stream with id })
    SameFragment
  := by
  unfold next
  dsimp only
  split
  · split
    · apply Act.Agree.bind_composed
        (Session.finish_composed (hp.transport_le _ _ _ (.unread .hangUp)) _)
      intro session
      exact .pure ⟨id, rfl⟩
    · apply receive_renewed hp { stream with isDelivered := false, reception := _ }
  · apply receive_renewed hp

end Stream

/-- A new client opens the same stream, apart from the number of its request, or fails alike. -/
theorem openStream_renewed (hp : p.Respects E) {client other : Client}
    (h : client.session.Renewed other.session) (request : Request) (capacity : Nat) :
  Act.Agree E base base' (client.openStream p.transport request capacity)
    (other.openStream p.transport request capacity) fun r r' =>
      match r.2, r'.2 with
      | .ok stream, .ok fresh => ∃ id, fresh = { stream with id }
      | .error fault, .error fault' => fault' = fault
      | _, _ => False
  := by
  unfold openStream
  apply Act.Agree.bind_report
  have hbegin : Act.Agree E base base' (begin p.transport client.advance.session request)
      (begin p.transport other.advance.session request) SameSession := begin_renewed hp h request
  apply hbegin.bind
  rintro ⟨session, _⟩ ⟨fresh, outcome⟩ ⟨houtcome, hsession⟩
  obtain rfl := houtcome
  obtain fault | ⟨⟩ := outcome
  · apply Act.Agree.bind_reportAll
    exact .pure rfl
  · obtain rfl : fresh = session := hsession rfl
    exact .pure ⟨_, rfl⟩

end Client

end FirmwareUpdate
