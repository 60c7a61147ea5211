import FirmwareUpdate.Proofs.Http.Arrivals
import FirmwareUpdate.Proofs.Line.Cycle
import FirmwareUpdate.Proofs.Session.Step
import FirmwareUpdate.Proofs.Worker.Agreement
import FirmwareUpdate.Proofs.Worker.Leftovers

/-!
# What is collected is what has arrived

A file that is collected is the body of what has been read, cut to the length that the head
declares, and conversely the file is collected with the very chunk that completes it, wherever the
response is cut, if the chunks fit behind the bytes that are held. No connection is left behind.

The main statement is `fetchIn_exact`.
-/

namespace FirmwareUpdate

variable {σ : Type}

/-! ### Chunks that are just enough -/

/-- The bytes that are held of a response while it is collected: all of them until the head is
known, and then those of the body. -/
def heldOf (taken : Bytes) : Bytes :=
  if (response? taken).isSome then bodyOf taken else taken

/-- Each of the chunks that follow `taken` fits behind the bytes that are held before it. -/
def Accommodates (capacity : Nat) (taken : Bytes) : List Bytes → Prop
  | [] => True
  | chunk :: line =>
    (heldOf taken).length + chunk.length ≤ capacity ∧ Accommodates capacity (taken ++ chunk) line

instance Accommodates.decidable (capacity : Nat) : (taken : Bytes) → (line : List Bytes) →
    Decidable (Accommodates capacity taken line)
  | _, [] => inferInstanceAs (Decidable True)
  | taken, chunk :: line =>
    have := decidable capacity (taken ++ chunk) line
    inferInstanceAs (Decidable (_ ∧ _))

/-- The chunks of a response, of which only the last one completes its head and the body that it
declares. -/
structure Brings (line : List Bytes) (start body : Bytes) : Prop where
  starts : start ++ Head.terminator ++ body <+: line.flatten
  first : ¬ Head.terminator <:+: start ++ Head.terminator.dropLast
  declared : ∃ head, Head.ofBytes start = .ok head ∧ body.length = head.contentLength.toNat
  needed : line.dropLast.flatten.length < (start ++ Head.terminator ++ body).length

/-- The chunks behind `taken` with which a body is complete, and not before the last of them. -/
def Concludes (taken : Bytes) (line : List Bytes) (body : Bytes) : Prop :=
  line ≠ [] ∧ Unconcluded (taken ++ line.dropLast.flatten)
    ∧ ∃ head got, response? (taken ++ line.flatten) = some (head, got)
      ∧ head.contentLength.toNat ≤ got.length ∧ body = got.take head.contentLength.toNat

/-- The chunks with which a body is collected, none of which is left over. -/
def Gathers (r : Reception) (index : Nat) (body : Bytes) : List Bytes → Prop
  | [] => False
  | chunk :: line =>
    match r.feed index chunk with
    | (_, .error _) => False
    | (after, .ok .needMore) => Gathers after (index + 1) body line
    | (after, .ok (.body size)) =>
      line = [] ∧ body = after.front.take (after.head.elim size (·.contentLength.toNat))

section

variable {taken chunk body : Bytes} {line : List Bytes}

theorem dropLast_flatten_starts (line : List Bytes) :
  line.dropLast.flatten <+: line.flatten
  := by
  rw [List.dropLast_eq_take]
  apply flatten_take_starts

/-- A chunk after which the response has not come to anything is followed by others. -/
theorem concludes_cons (hopen : Unconcluded (taken ++ chunk)) :
  Concludes taken (chunk :: line) body ↔ Concludes (taken ++ chunk) line body
  := by
  cases line with
  | nil =>
      constructor
      · rintro ⟨-, -, head, got, hresponse, hcomplete, -⟩
        rw [List.flatten_singleton] at hresponse
        apply absurd hopen (concluded_of_complete hresponse hcomplete)
      · rintro ⟨hne, -⟩
        apply absurd rfl hne
  | cons next line =>
      rw [Concludes, Concludes, List.dropLast_cons_of_ne_nil (List.cons_ne_nil next line),
        List.flatten_cons, List.flatten_cons, List.append_assoc, List.append_assoc]
      simp only [ne_eq, reduceCtorEq, not_false_eq_true]

/-- A chunk that completes the body is the last one. -/
theorem concludes_of_complete {head : Head} {got : Bytes} (hopen : Unconcluded taken)
    (hresponse : response? (taken ++ chunk) = some (head, got))
    (hcomplete : head.contentLength.toNat ≤ got.length) :
  Concludes taken (chunk :: line) body ↔ line = [] ∧ body = got.take head.contentLength.toNat
  := by
  cases line with
  | nil =>
      rw [Concludes, List.dropLast_singleton, List.flatten_nil, List.append_nil,
        List.flatten_singleton]
      constructor
      · rintro ⟨-, -, head', got', hresponse', -, rfl⟩
        obtain ⟨rfl, rfl⟩ := Prod.mk.inj (Option.some.inj (hresponse.symm.trans hresponse'))
        exact ⟨rfl, rfl⟩
      · rintro ⟨-, rfl⟩
        exact ⟨List.cons_ne_nil _ _, hopen, head, got, hresponse, hcomplete, rfl⟩
  | cons next line =>
      constructor
      · rintro ⟨-, hopen', -⟩
        rw [List.dropLast_cons_of_ne_nil (List.cons_ne_nil next line), List.flatten_cons,
          ← List.append_assoc] at hopen'
        apply absurd (hopen'.of_start (List.prefix_append _ _))
        apply concluded_of_complete hresponse hcomplete
      · rintro ⟨⟨⟩, -⟩

/-- The chunks bring a head and the body that it declares. -/
theorem concludes_iff_brings :
  Concludes [] line body ↔ ∃ start, Brings line start body
  := by
  have hmark : Head.terminator ≠ [] := by decide +kernel
  rw [Concludes, List.nil_append, List.nil_append]
  constructor
  · rintro ⟨-, hopen, head, got, hresponse, hcomplete, rfl⟩
    obtain ⟨start, hsplit, hhead⟩ := response?_eq_some_iff.mp hresponse
    obtain ⟨hflatten, hfirst⟩ := (Text.splitAtFirst_eq_some_iff hmark).mp hsplit
    refine ⟨start, ?_, hfirst, ⟨head, hhead, List.length_take_of_le hcomplete⟩, ?_⟩
    · rw [hflatten, List.prefix_append_right_inj]
      apply List.take_prefix
    · -- Otherwise the chunks before the last one would complete the body.
      by_contra henough
      rw [Nat.not_lt, List.length_append, List.length_take_of_le hcomplete] at henough
      have hreached : (start ++ Head.terminator).length ≤ line.dropLast.flatten.length := by
        omega
      have hcut := Text.splitAtFirst_of_prefix_of_le hmark hsplit (dropLast_flatten_starts line)
        hreached
      apply absurd hopen
      apply concluded_of_complete (response?_eq_some_iff.mpr ⟨start, hcut, hhead⟩)
      rw [List.length_drop]
      omega
  · rintro ⟨start, ⟨rest, hflatten⟩, hfirst, ⟨head, hhead, hlength⟩, hneeded⟩
    have hsplit : Text.splitAtFirst Head.terminator line.flatten = some (start, body ++ rest) := by
      rw [Text.splitAtFirst_eq_some_iff hmark, ← List.append_assoc, hflatten]
      exact ⟨rfl, hfirst⟩
    refine ⟨?_, ?_, head, body ++ rest, response?_eq_some_iff.mpr ⟨start, hsplit, hhead⟩, ?_, ?_⟩
    · rintro rfl
      cases hsplit
    · rcases Nat.lt_or_ge line.dropLast.flatten.length (start ++ Head.terminator).length
        with hshort | hreached
      · left
        apply Text.splitAtFirst_of_prefix_of_lt hmark hsplit (dropLast_flatten_starts line) hshort
      · right
        have hcut := Text.splitAtFirst_of_prefix_of_le hmark hsplit (dropLast_flatten_starts line)
          hreached
        refine ⟨head, _, response?_eq_some_iff.mpr ⟨start, hcut, hhead⟩, ?_⟩
        rw [List.length_append, hlength] at hneeded
        rw [List.length_drop]
        omega
    · rw [List.length_append]
      omega
    · rw [← hlength, List.take_left]

end

namespace Reception

variable {r : Reception} {taken : Bytes}

theorem Parsed.held_whole (h : r.Parsed taken) (hwhole : r.delivery = .whole) :
  r.held = (heldOf taken).length
  := by
  have hfront := h.front_eq
  rw [h.head_eq, hwhole] at hfront
  rw [← length_front h.filled, hfront, heldOf]
  cases hresponse : response? taken with
  | none => rfl
  | some response => rfl

/-- A chunk for which there is no room behind the held bytes is refused. -/
theorem feed_of_no_room {index : Nat} {chunk : Bytes}
    (hroom : r.buffer.capacity < (if index = 0 then r.restart else r).held + chunk.length) :
  ∃ after fault, r.feed index chunk = (after, .error fault)
  := by
  have hcapacity : (if index = 0 then r.restart else r).buffer.capacity = r.buffer.capacity := by
    split
    · rfl
    · rfl
  rw [feed, hcapacity, if_pos hroom]
  exact ⟨_, _, rfl⟩

/-- A body is collected exactly from chunks that fit and with which it is complete. -/
theorem gathers_iff {index : Nat} {line : List Bytes} {body : Bytes}
    (hwhole : r.delivery = .whole) (h : r.Parsed taken) (hindex : index = 0 → taken = [])
    (hopen : Unconcluded taken) :
  Gathers r index body line
    ↔ Accommodates r.buffer.capacity taken line ∧ Concludes taken line body
  := by
  induction line generalizing r index taken with
  | nil =>
      rw [Gathers, false_iff]
      rintro ⟨-, hne, -⟩
      apply hne rfl
  | cons chunk line ih =>
      have hstarted := h.started hindex
      have hheld : (if index = 0 then r.restart else r).held = (heldOf taken).length :=
        hstarted.held_whole (by split <;> exact hwhole)
      have hnext : index + 1 = 0 → taken ++ chunk = [] := fun hzero => by cases hzero
      have hkept := r.feed_keeps index chunk
      -- What a chunk leads to after which more are needed.
      have hmore : ∀ after, r.feed index chunk = (after, .ok .needMore) →
          after.Parsed (taken ++ chunk) → Unconcluded (taken ++ chunk) →
          (Gathers r index body (chunk :: line)
            ↔ Accommodates r.buffer.capacity (taken ++ chunk) line
              ∧ Concludes taken (chunk :: line) body) := by
        intro after hfeed hafter hopen
        rw [hfeed] at hkept
        rw [Gathers, hfeed, concludes_cons hopen, ← hkept.2,
          ← ih (hkept.1.trans hwhole) hafter hnext hopen]
      by_cases hroom : (heldOf taken).length + chunk.length ≤ r.buffer.capacity
      · rw [Accommodates, and_iff_right hroom]
        rw [← hheld] at hroom
        rcases feed_cases hstarted (feed_of_room hroom) with ⟨after, hfeed, hsplit, hafter⟩
          | ⟨after, start, got, fault, hfeed, hsplit, hhead⟩
          | ⟨after, head, got, hresponse, ⟨hfeed, hready, hafter⟩
            | ⟨size, hfeed, hready, hafter, hfront⟩⟩
        · exact hmore after hfeed hafter (.inl hsplit)
        · rw [Gathers, hfeed, false_iff]
          rintro ⟨-, -, -, head, got', hresponse, -⟩
          obtain ⟨start', hsplit', hhead'⟩ := response?_eq_some_iff.mp hresponse
          rw [List.flatten_cons, ← List.append_assoc, Text.splitAtFirst_append hsplit] at hsplit'
          obtain ⟨rfl, -⟩ := Prod.mk.inj (Option.some.inj hsplit')
          rw [hhead] at hhead'
          cases hhead'
        · rw [hwhole] at hready
          have hshort : got.length < head.contentLength.toNat :=
            Nat.lt_of_not_le (of_decide_eq_false hready)
          exact hmore after hfeed hafter (.inr ⟨head, got, hresponse, hshort⟩)
        · rw [hwhole] at hready hfront
          have hcomplete : head.contentLength.toNat ≤ got.length := of_decide_eq_true hready
          have hhead : after.head = some head := by
            rw [hfeed] at hkept
            have hhead := hafter.head_eq
            rw [settle, hkept.1.trans hwhole, hresponse] at hhead
            exact hhead
          rw [concludes_of_complete hopen hresponse hcomplete, Gathers, hfeed]
          simp only [hhead, hfront, Option.elim_some, heldAfter]
          constructor
          · rintro ⟨rfl, rfl⟩
            exact ⟨trivial, rfl, rfl⟩
          · exact And.right
      · obtain ⟨after, fault, hfeed⟩ :
            ∃ after fault, r.feed index chunk = (after, .error fault) := by
          rw [← hheld, Nat.not_le] at hroom
          exact feed_of_no_room hroom
        rw [Gathers, hfeed, false_iff]
        exact fun hfits => hroom hfits.1.1

/-- What is gathered from the first chunk on is what chunks bring that fit. -/
theorem gathers_start_iff {capacity : Nat} {line : List Bytes} {body : Bytes} :
  Gathers (start .whole capacity) 0 body line
    ↔ Accommodates capacity [] line ∧ ∃ start, Brings line start body
  := by
  rw [← concludes_iff_brings]
  exact gathers_iff rfl (parsed_start .whole capacity) (fun _ => rfl) unconcluded_nil

end Reception

/-! ### Reading -/

namespace Client

variable {t : Transport σ} {seen : List Bytes}

/-- A body is collected from all chunks that have been read. -/
theorem collect_reads (t : Transport σ) (session : Session) (r : Reception) (index : Nat) :
  Act.Ensures (fun _ calls => reads calls = seen) (collect t session r index) fun result _ calls =>
    ∀ body, result.2 = .ok body →
      ∃ line, reads calls = line.reverse ++ seen ∧ Gathers r index body line
  := by
  induction session, r, index using collect.induct generalizing seen with
  | case1 session r index ih =>
      rw [collect]
      apply (Session.readChunk_reads t session chunkCapacity index).bind
      rintro ⟨session, fault | _ | chunk⟩
      · exact .pure fun _ _ _ => by rintro _ ⟨⟩
      · exact .pure fun _ _ _ => by rintro _ ⟨⟩
      · dsimp only
        apply Act.Ensures.imp_left (P := fun _ calls => reads calls = chunk.bytes :: seen)
        · apply Act.Ensures.bind_reportAll
          split
          case h_1 fault heq =>
            apply Act.Ensures.map_any
            rintro _ _ _ _ ⟨⟩
          case h_2 after heq =>
            apply (ih session chunk after heq).imp_right
            rintro result _ calls hread body hresult
            obtain ⟨line, hreads, hgathers⟩ := hread body hresult
            refine ⟨chunk.bytes :: line, ?_, ?_⟩
            · rw [hreads, List.reverse_cons, List.append_assoc, List.singleton_append]
            · rw [Gathers, heq]
              exact hgathers
          case h_3 after size heq =>
            apply Act.Ensures.map
            apply (Session.finish_closed
              (t.keepsUnread_reads (· = chunk.bytes :: seen)) session).imp_right
            rintro _ _ calls ⟨-, hreads⟩ _ ⟨rfl⟩
            refine ⟨[chunk.bytes], hreads, ?_⟩
            rw [Gathers, heq]
            exact ⟨rfl, rfl⟩
        · rintro _ _ ⟨-, -, hreads⟩
          exact hreads

end Client

/-- A chunk with which nothing is left over is collected as soon as it has arrived. -/
theorem Transport.Delivers.collect_reads {t : Transport σ} {D : List Arrival → σ → Prop}
    (h : t.Delivers D) {session : Session} (hconnected : session.isConnected = true)
    {r : Reception} {index : Nat} {arrivals : List Arrival} {body : Bytes} {seen : List Bytes}
    (hline : ∀ bytes ∈ Arrival.chunks arrivals, bytes ≠ [] ∧ bytes.length ≤ Client.chunkCapacity)
    (htimely : Arrival.Timely session.timeout 0 0 arrivals)
    (hgathers : Gathers r index body (Arrival.chunks arrivals)) :
  Act.Ensures (fun state calls => D arrivals state ∧ reads calls = seen)
    (Client.collect t session r index) fun result _ calls =>
      result.2 = .ok body ∧ reads calls = (Arrival.chunks arrivals).reverse ++ seen
  := by
  generalize hchunks : Arrival.chunks arrivals = line at hline hgathers ⊢
  induction line generalizing r index arrivals seen with
  | nil => cases hgathers
  | cons bytes line ih =>
      obtain ⟨hne, hfits⟩ := hline bytes List.mem_cons_self
      rw [Client.collect]
      apply ((h.readChunk hconnected hchunks hne hfits index htimely).both
        (Session.readChunk_reads t session Client.chunkCapacity index)).bind
      intro read
      apply Act.Ensures.of_forall
      rintro state calls ⟨⟨rfl, rest, hrest, hchunks, htimely⟩, -, -, hreads⟩
      dsimp only at hreads ⊢
      apply Act.Ensures.bind_reportAll
      rw [Gathers] at hgathers
      split
      case h_1 heq =>
        rw [heq] at hgathers
        cases hgathers
      case h_2 after heq =>
        rw [heq] at hgathers
        have hlater := fun chunk hmem => hline chunk (List.mem_cons_of_mem bytes hmem)
        apply (ih htimely hchunks hlater hgathers).imp
        · rintro _ _ ⟨rfl, rfl⟩
          exact ⟨hrest, hreads⟩
        · rintro _ _ _ ⟨hresult, hreads⟩
          refine ⟨hresult, ?_⟩
          rw [hreads, List.reverse_cons, List.append_assoc, List.singleton_append]
      case h_3 after size heq =>
        rw [heq] at hgathers
        obtain ⟨rfl, rfl⟩ := hgathers
        apply Act.Ensures.map
        apply (Session.finish_closed (t.keepsUnread_reads (· = bytes :: seen)) session).imp
        · rintro _ _ ⟨rfl, rfl⟩
          exact hreads
        · rintro _ _ _ ⟨-, hreads⟩
          exact ⟨rfl, hreads⟩

/-- What a connection is going to receive may be followed by anything. -/
theorem Transport.KeepsUnread.exists {ι : Type} {t : Transport σ} {I : ι → Assertion σ}
    (h : ∀ i, t.KeepsUnread (I i)) :
  t.KeepsUnread fun state calls => ∃ i, I i state calls
  where
  configure identity := ⟨fun scene ⟨i, hi⟩ => ⟨i, ((h i).configure identity).run scene hi⟩⟩
  dial host port := ⟨fun scene ⟨i, hi⟩ => ⟨i, ((h i).dial host port).run scene hi⟩⟩
  handshake := ⟨fun scene ⟨i, hi⟩ => ⟨i, (h i).handshake.run scene hi⟩⟩
  verifyChain := ⟨fun scene ⟨i, hi⟩ => ⟨i, (h i).verifyChain.run scene hi⟩⟩
  peerCertificate := ⟨fun scene ⟨i, hi⟩ => ⟨i, (h i).peerCertificate.run scene hi⟩⟩
  send bytes := ⟨fun scene ⟨i, hi⟩ => ⟨i, ((h i).send bytes).run scene hi⟩⟩
  hangUp := ⟨fun scene ⟨i, hi⟩ => ⟨i, (h i).hangUp.run scene hi⟩⟩
  reset := ⟨fun scene ⟨i, hi⟩ => ⟨i, (h i).reset.run scene hi⟩⟩

theorem Transport.Delivers.followed {t : Transport σ} {D : List Arrival → σ → Prop}
    (h : t.Delivers D) :
  t.Delivers fun arrivals state => ∃ later, D (arrivals ++ later) state
  where
  stall := by
    rintro _ _ _ capacity ⟨later, hD⟩
    obtain ⟨hretry, hrest⟩ := h.stall capacity hD
    exact ⟨hretry, later, hrest⟩
  chunk := by
    rintro _ _ _ _ ⟨later, hD⟩ hfits
    obtain ⟨hready, hrest⟩ := h.chunk hD hfits
    exact ⟨hready, later, hrest⟩
  kept arrivals := .exists fun later => h.kept (arrivals ++ later)

/-! ### Fetching -/

/-- No connection is open that a session does not know of. -/
def Session.Owns (session : Session) (calls : List Call) : Prop :=
  isOnline calls = true → session.isConnected = true

theorem Transport.course_owns (t : Transport σ) :
  t.Course (fun session _ calls => session.Owns calls) (fun _ _ _ => True)
  where
  configure {session _} hstage _ := by
    apply Act.Ensures.perform
    intro site calls h
    have hoffline : isOnline calls = true → False := by
      intro honline
      have hconnected := h honline
      rw [Session.isConnected, hstage] at hconnected
      cases hconnected
    cases (t.configure session.identity site).1 with
    | error _ => exact h
    | ok _ => exact fun honline => (hoffline honline).elim
  reset _ := .perform fun _ _ h => h
  dial host port _ := by
    apply Act.Ensures.perform
    intro site _ h
    cases (t.dial host port site).1 with
    | error _ => exact h
    | ok _ => trivial
  handshake _ := .any
  verifyChain _ := .any
  peerCertificate _ := .any
  establish _ _ := fun _ => rfl
  giveUp _ := .perform fun _ _ _ => by rintro ⟨⟩
  hangUpIdle _ := .perform fun _ _ _ => by rintro ⟨⟩
  send _ _ := .perform fun _ _ h => h
  receive _ _ := .perform fun _ _ h => h
  hangUp _ := .perform fun _ _ _ => by rintro ⟨⟩

namespace Client

variable {t : Transport σ} {client : Client} {request : Request} {capacity : Nat}

/-- A file that is fetched is gathered from all chunks that have been read for it. -/
theorem fetch_reads (t : Transport σ) (client : Client) (request : Request) (capacity : Nat)
    (seen : List Bytes) :
  Act.Ensures (fun _ calls => reads calls = seen) (client.fetch t request capacity)
    fun r _ calls => ∀ body, r.2 = .ok body →
      ∃ line, reads calls = line.reverse ++ seen ∧ Gathers (.start .whole capacity) 0 body line
  := by
  apply fetch_ensures (Q := fun result _ calls => ∀ body, result.2 = .ok body →
      ∃ line, reads calls = line.reverse ++ seen ∧ Gathers (.start .whole capacity) 0 body line)
    (begin_keeps (t.keepsUnread_reads (· = seen)) client.session request)
  · rintro _ _ _ _ _ _ ⟨⟩
  · intro session
    apply collect_reads t session

/-- A file is fetched as soon as it has arrived from a peer that is accepted. -/
theorem fetch_arrived {D : List Arrival → σ → Prop} (h : t.Delivers D) {arrivals : List Arrival}
    {body : Bytes} (seen : List Bytes)
    (hline : ∀ bytes ∈ Arrival.chunks arrivals, bytes ≠ [] ∧ bytes.length ≤ chunkCapacity)
    (htimely : Arrival.Timely client.session.timeout 0 0 arrivals)
    (hgathers : Gathers (.start .whole capacity) 0 body (Arrival.chunks arrivals)) :
  Act.Ensures (fun state calls => Accepts t client.session request state calls
      ∧ D arrivals state ∧ reads calls = seen)
    (client.fetch t request capacity) fun r _ calls =>
      r.2 = .ok body ∧ reads calls = (Arrival.chunks arrivals).reverse ++ seen
  := by
  have hreads := t.keepsUnread_reads (· = seen)
  have hbegin := begin_accepted.both (((begin_keeps (h.kept arrivals) client.session request).both
    (begin_keeps hreads client.session request)).both (begin_connected client.session request))
  apply (fetch_ensures (Q := fun result _ calls =>
    result.2 = .ok body ∧ reads calls = (Arrival.chunks arrivals).reverse ++ seen) hbegin ?_
      ?_).imp_left
  · rintro _ _ ⟨haccepts, hD, hseen⟩
    exact ⟨haccepts, ⟨hD, hseen⟩, trivial⟩
  · rintro _ _ _ _ ⟨⟨⟩, -⟩
  · intro session
    apply Act.Ensures.of_forall
    rintro state calls ⟨-, ⟨hD, hseen⟩, hconnected, htimeout⟩
    rw [← htimeout] at htimely
    apply (h.collect_reads (hconnected rfl) hline htimely hgathers).imp_left
    rintro _ _ ⟨rfl, rfl⟩
    exact ⟨hD, hseen⟩

/-- A file that is collected is the body that the head of what has been read declares, cut off from
what follows, and the last chunk has completed it. Conversely, if a response arrives in chunks that
fit, its body is collected with the last chunk that it takes, and nothing more is read, whatever
would follow. No connection is left, and what was in the buffer before does not matter. -/
theorem fetchIn_exact (t : Transport σ) (client : Client) (request : Request) (buffer : Buffer)
    (scene : Scene σ) :
  let ((after, result), last) := client.fetchIn t request buffer scene
  after.session.isConnected = false
    ∧ (client.session.Owns scene.calls → isOnline last.calls = false)
    ∧ ∃ made, last.calls = made ++ scene.calls
      ∧ (∀ body, result = .ok body →
        ∃ start, Brings (reads made).reverse start body
          ∧ Accommodates buffer.capacity [] (reads made).reverse)
      ∧ ∀ (D : List Arrival → σ → Prop) (arrivals later : List Arrival) (start body : Bytes),
        t.Delivers D → Accepts t client.session request scene.state scene.calls →
        D (arrivals ++ later) scene.state →
        Arrival.Timely client.session.timeout 0 0 arrivals →
        (∀ bytes ∈ Arrival.chunks arrivals, bytes ≠ [] ∧ bytes.length ≤ chunkCapacity) →
        Brings (Arrival.chunks arrivals) start body →
        Accommodates buffer.capacity [] (Arrival.chunks arrivals) →
        result = .ok body ∧ reads made = (Arrival.chunks arrivals).reverse
  := by
  rw [fetchIn_eq client request rfl]
  have hcourse : t.Course (fun _ _ _ => True) (fun _ _ _ => True) :=
    t.course_of_forall fun _ _ h => h
  obtain ⟨hclosed, -⟩ := (fetch_course hcourse client request buffer.capacity).run scene trivial
  have howns := (fetch_course t.course_owns client request buffer.capacity).run scene
  have hsound := (fetch_reads t client request buffer.capacity (reads scene.calls)).run scene rfl
  obtain ⟨made, hmade⟩ := (fetch_keeps (Session.Transport.keeps_suffix t scene.calls) client request
    buffer.capacity).run scene (List.suffix_refl _)
  rcases hfetch : client.fetch t request buffer.capacity scene with ⟨⟨after, result⟩, last⟩
  rw [hfetch] at hclosed howns hsound hmade
  dsimp only at hclosed howns hsound hmade ⊢
  -- What has been read since is what has been added to all that has been read.
  have hreads : ∀ line : List Bytes, reads last.calls = line.reverse ++ reads scene.calls →
      reads made = line.reverse := by
    intro line hline
    rw [← hmade, reads_append] at hline
    apply List.append_cancel_right hline
  refine ⟨hclosed, ?_, made, hmade.symm, ?_, ?_⟩
  · intro hclient
    obtain ⟨-, hlast⟩ := howns hclient
    rw [← Bool.not_eq_true]
    intro honline
    rw [hlast honline] at hclosed
    cases hclosed
  · intro body hresult
    obtain ⟨line, hline, hgathered⟩ := hsound body hresult
    obtain ⟨hfits, start, hbrings⟩ := Reception.gathers_start_iff.mp hgathered
    rw [hreads line hline, List.reverse_reverse]
    exact ⟨start, hbrings, hfits⟩
  · intro D arrivals later start body h haccepts hD htimely hline hbrings hfits
    have hgathered := Reception.gathers_start_iff.mpr ⟨hfits, start, hbrings⟩
    have harrived := (fetch_arrived h.followed (reads scene.calls) hline htimely hgathered).run
      scene ⟨haccepts, ⟨later, hD⟩, rfl⟩
    rw [hfetch] at harrived
    exact ⟨harrived.1, hreads _ harrived.2⟩

/-- A response of two bytes that arrives with pauses, and is cut within its head. One more byte
comes with the second chunk. -/
def cutArrivals : List Arrival :=
  let response := Bench.okResponse [65, 66]
  [.stall (.ofSeconds 20), .chunk (response.take 30), .stall (.ofSeconds 3),
    .chunk (response.drop 30 ++ [67])]

/-- The two bytes are fetched into a used buffer, and the chunk behind them is not read. -/
theorem fetchIn_exact_sample :
  let ((_, result), last) := Bench.Rig.sampleWorker.client.fetchIn Bench.waiting.transport
    Bench.metadataRequest ⟨64, [1, 2, 3], 7⟩ { state := cutArrivals ++ [.chunk [68]] }
  result = .ok [65, 66] ∧ reads last.calls = (Arrival.chunks cutArrivals).reverse
    ∧ isOnline last.calls = false
  := by
  have hexact := fetchIn_exact Bench.waiting.transport Bench.Rig.sampleWorker.client
    Bench.metadataRequest ⟨64, [1, 2, 3], 7⟩ { state := cutArrivals ++ [.chunk [68]] }
  rcases hfetch : Bench.Rig.sampleWorker.client.fetchIn Bench.waiting.transport
    Bench.metadataRequest ⟨64, [1, 2, 3], 7⟩ { state := cutArrivals ++ [.chunk [68]] }
      with ⟨⟨after, result⟩, last⟩
  rw [hfetch] at hexact
  obtain ⟨-, hclosed, made, hmade, -, harrived⟩ := hexact
  have haccepts : Accepts Bench.waiting.transport Bench.Rig.sampleWorker.client.session
      Bench.metadataRequest (cutArrivals ++ [.chunk [68]]) [] := by
    apply accepts_of_begin Bench.waiting_respecting (s := { state := cutArrivals ++ [.chunk [68]] })
    decide +kernel
  have hbrings : Brings (Arrival.chunks cutArrivals)
      (utf8 "HTTP/1.1 200 OK\r\nContent-Length: 2") [65, 66] :=
    ⟨by decide +kernel, by decide +kernel, ⟨⟨1, 1, 200, 2⟩, by decide +kernel, rfl⟩,
      by decide +kernel⟩
  obtain ⟨hresult, hreads⟩ := harrived Eq cutArrivals [.chunk [68]] _ _ Bench.waiting_delivers
    haccepts rfl (by decide +kernel) (by decide +kernel) hbrings (by decide +kernel)
  refine ⟨hresult, ?_, hclosed fun h => by cases h⟩
  rw [hmade, ← hreads]
  simp

end Client

end FirmwareUpdate
