import FirmwareUpdate.Proofs.Http.Conclusion
import FirmwareUpdate.Proofs.Line.Transfer
import FirmwareUpdate.Proofs.Worker.Decision
import FirmwareUpdate.Proofs.Worker.Received

/-!
# Responses that break off

A download that does not fail has received a whole response: its head, and as much of its body as
the head declares. So whatever ends the connection before that, and however the bytes have arrived
until then, the download fails and decides nothing.
-/

namespace FirmwareUpdate

variable {σ ω : Type} {t : Transport σ} {p : Platform σ ω}

/-! ### Streams that end -/

namespace Client.Stream

/-- Whether an answer says that the stream is at its end. -/
def Ends : Answer → Prop
  | .ok none | .ok (some .finished) => True
  | _ => False

theorem receive_ends (stream : Stream) :
  Act.Ensures (fun _ _ => True) (stream.receive t)
    (fun r _ _ => Ends r.2 → r.1.reception.bodyComplete = true)
  := by
  induction stream using receive.induct with
  | case1 stream r ih =>
      rw [receive]
      apply Act.Ensures.bind .any
      rintro ⟨session, fault | _ | chunk⟩
      · apply failed_ensures
        rintro _ _ - ⟨⟩
      · dsimp only
        split
        case isTrue hcomplete => exact .pure fun _ _ _ _ => hcomplete
        case isFalse =>
          apply failed_ensures
          rintro _ _ - ⟨⟩
      · dsimp only
        apply Act.Ensures.bind_reportAll
        split
        · apply Act.Ensures.bind .any
          intro _
          apply failed_ensures
          rintro _ _ - ⟨⟩
        case h_2 after heq =>
          split
          case isTrue hcomplete =>
            apply Act.Ensures.bind .any
            intro _
            exact .pure fun _ _ _ _ => hcomplete
          case isFalse => apply ih session chunk after heq
        · apply Act.Ensures.pure
          rintro _ _ - ⟨⟩

/-- A stream is at its end only when all of the body has arrived. -/
theorem next_ends (stream : Stream) :
  Act.Ensures (fun _ _ => True) (stream.next t)
    (fun r _ _ => Ends r.2 → r.1.reception.bodyComplete = true)
  := by
  unfold next
  split
  · dsimp only
    split
    case isTrue hcomplete =>
      apply Act.Ensures.bind .any
      intro _
      exact .pure fun _ _ _ _ => hcomplete
    case isFalse => apply receive_ends
  · apply receive_ends

variable {capacity : Nat} {answers : List Answer} {chunks : List Bytes} {stream : Stream}

/-- Once all of the body has arrived, the response has come to something. -/
theorem Tracks.concluded (h : stream.Tracks capacity answers chunks)
    (hunrefused : refused answers = false) (hcomplete : stream.reception.bodyComplete = true) :
  ¬ Unconcluded (arrived chunks)
  := by
  obtain ⟨head, hresponse, hlength⟩ := h.whole hunrefused hcomplete
  apply concluded_of_complete hresponse hlength

/-- A stream that has handed out more than a head can declare has all of the body. -/
theorem Tracks.complete_of_many (h : stream.Tracks capacity answers chunks)
    (hmany : UInt64.size ≤ (handed answers).length) :
  stream.reception.bodyComplete = true
  := by
  cases hhead : stream.reception.head with
  | none =>
      rw [h.follows.body_eq hhead] at hmany
      cases hmany
  | some head =>
      rw [bodyComplete_iff hhead, h.follows.received_eq]
      apply (Nat.le_of_lt head.contentLength.toNat_lt).trans hmany

end Client.Stream

/-! ### Transfers that succeed -/

/-- What does not look at the reads is kept by everything that only works on slots. -/
theorem Slots.performs_reads (s : Slots σ ω) (F : List Bytes → Prop) :
  s.Performs ≤ Assertion.Keepers fun _ calls => F (reads calls)
  := (s.keeps_reads F).performs_le

namespace Transfer

variable {capacity : Nat} {answers : List Client.Answer}

/-- Storing bytes does not go through the stream, and reads nothing. -/
theorem store_rests (x : Transfer ω) (bytes : Bytes) :
  Act.Ensures (fun _ calls => x.stream.Rests capacity answers (reads calls)) (x.store p bytes)
    (fun r _ calls => r.1.stream.Rests capacity answers (reads calls))
  := by
  have hstream : Act.Ensures (fun _ _ => True) (x.store p bytes)
      (fun r _ _ => r.1.stream = x.stream) := by
    have hsame : x.store p bytes = withStream x.stream <$> x.store p bytes :=
      store_withStream x x.stream bytes
    constructor
    intro scene _
    rw [hsame]
    rfl
  have hreads := (store_composed (Slots.prepares_le (p.slots.performs_reads fun chunks =>
    x.stream.Rests capacity answers chunks)) x bytes).keeps le_rfl
  apply ((hstream.both hreads).imp_left fun _ _ h => ⟨trivial, h⟩).imp_right
  rintro r _ _ ⟨hr, h⟩
  rw [hr]
  apply h

/-- Moving an image does not end before the response has come to something, unless it fails. It
does not end for want of steps, because every fragment has a byte of the body. -/
theorem pump_concludes (count : Nat) (x : Transfer ω)
    (hunrefused : Client.refused answers = false)
    (hmoved : UInt64.size ≤ count + (Client.handed answers).length) :
  Act.Ensures (fun _ calls => x.stream.Rests capacity answers (reads calls)) (pump p count x)
    (fun r _ calls => r.2 = .ok () → ¬ Unconcluded (arrived (reads calls)))
  := by
  induction count generalizing x answers with
  | zero =>
      rw [pump]
      apply Act.Ensures.pure
      intro _ _ h _
      rw [Nat.zero_add] at hmoved
      apply h.toTracks.concluded hunrefused (h.toTracks.complete_of_many hmoved)
  | succ count ih =>
      have hended : ∀ (answer : Client.Answer) {stream : Client.Stream} {chunks : List Bytes},
          Client.Stream.Ends answer → Client.isRefusal answer = false →
          stream.Rests capacity (answers ++ [answer]) chunks
            ∧ (Client.Stream.Ends answer → stream.reception.bodyComplete = true) →
          ¬ Unconcluded (arrived chunks) := by
        rintro answer stream chunks hends hrefusal ⟨hrests, hcomplete⟩
        apply hrests.toTracks.concluded _ (hcomplete hends)
        rw [Client.refused_snoc, hunrefused, hrefusal]
        rfl
      rw [pump]
      apply Act.Ensures.bind
      · apply ((Client.Stream.next_rests x.stream).both (Client.Stream.next_ends x.stream)).imp_left
        exact fun _ _ h => ⟨h, trivial⟩
      rintro ⟨stream, fault | _ | bytes | _⟩
      · apply Act.Ensures.pure
        rintro _ _ - ⟨⟩
      · exact .pure fun _ _ h _ => hended (.ok none) trivial rfl h
      · have hmore : Client.refused (answers ++ [.ok (some (.data bytes))]) = false := by
          rw [Client.refused_snoc, hunrefused]
          rfl
        apply Act.Ensures.of_forall
        rintro state calls ⟨hrests, -⟩
        have hne : bytes ≠ [] := by
          rintro rfl
          apply hrests.data_ne
          simp
        have hlonger : UInt64.size
            ≤ count + (Client.handed (answers ++ [.ok (some (.data bytes))])).length := by
          have := List.length_pos_iff.mpr hne
          rw [Client.handed_snoc, List.length_append]
          simp only [Client.given]
          omega
        apply Act.Ensures.bind
        · apply (store_rests { x with stream } bytes).imp_left
          rintro _ _ ⟨rfl, rfl⟩
          apply hrests
        rintro ⟨after, fault | ⟨⟩⟩
        · apply Act.Ensures.pure
          rintro _ _ - ⟨⟩
        · apply ih after hmore hlonger
      · exact .pure fun _ _ h _ => hended (.ok (some .finished)) trivial rfl h

end Transfer

namespace Worker

/-- Streaming an image succeeds only with a whole response. -/
theorem streamImage_concludes (worker : Worker ω) :
  Act.Ensures (fun _ calls => reads calls = []) (worker.streamImage p)
    (fun r _ calls => (∃ result, r.2 = .ok result) → ¬ Unconcluded (arrived (reads calls)))
  := by
  have hfault : ∀ {P : Assertion σ} {worker : Worker ω} {fault : Fault},
      Act.Ensures P (pure (worker, .error fault) : Act σ (Worker ω × Except Fault CycleResult))
        (fun r _ calls =>
          (∃ result, r.2 = .ok result) → ¬ Unconcluded (arrived (reads calls))) := by
    intro P worker fault
    apply Act.Ensures.pure
    rintro _ _ - ⟨_, ⟨⟩⟩
  unfold streamImage
  split
  · apply hfault
  apply (Client.openStream_rests worker.client _ worker.options.firmwareBuffer).bind
  rintro ⟨client, fault | stream⟩
  · apply hfault
  apply Act.Ensures.bind
  · have hmoved : UInt64.size ≤ UInt64.size + (Client.handed []).length := Nat.le_refl _
    apply (Transfer.pump_concludes UInt64.size _ rfl hmoved).imp_left
    intro _ _ ⟨_, hrests⟩
    apply hrests stream rfl
  rintro ⟨x, outcome⟩
  apply Act.Ensures.bind (Client.Stream.close_keeps (p.transport.keepsUnread_reads fun chunks =>
    outcome = .ok () → ¬ Unconcluded (arrived chunks)) x.stream)
  intro session
  obtain fault | ⟨⟩ := outcome
  · apply hfault
  · have hcomplete := (Transfer.complete_composed (p.slots.performs_reads fun chunks =>
      ¬ Unconcluded (arrived chunks)) x).keeps le_rfl
    apply (hcomplete.imp_left fun _ _ h => h rfl).bind
    rintro ⟨programmer, result⟩
    exact .pure fun _ _ h _ => h

/-- A download succeeds only with a whole response. -/
theorem download_concludes (worker : Worker ω) :
  Act.Ensures (fun _ calls => reads calls = []) (worker.download p)
    (fun r _ calls => Unconcluded (arrived (reads calls)) → ∃ fault, r.2 = .failed fault)
  := by
  unfold download
  apply (streamImage_concludes worker).bind
  rintro ⟨after, fault | result⟩
  · exact .map_any fun _ _ _ _ => ⟨fault, rfl⟩
  · have hconcluded : ∀ {chunks : List Bytes},
        ((∃ other, Except.ok result = (.ok other : Except Fault CycleResult)) →
          ¬ Unconcluded (arrived chunks)) →
        ¬ Unconcluded (arrived chunks) := fun h => h ⟨result, rfl⟩
    cases result with
    | installed done =>
        apply Act.Ensures.map
        have hrestarts : p.Restarts ≤ Assertion.Keepers fun _ calls =>
            ¬ Unconcluded (arrived (reads calls)) := by
          rintro α op entry ⟨delay⟩
          exact Act.Ensures.perform fun _ _ h => h
        have happlied := (applyInstallation_composed hrestarts after.ended done).keeps le_rfl
        apply happlied.imp (fun _ _ h => hconcluded h)
        exact fun _ _ _ h hopen => absurd hopen h
    | _ => exact .pure fun _ _ h hopen => absurd hopen (hconcluded h)

/-- Whatever ends the connection before a whole response has arrived, a cycle with a download fails,
selects no slot, does not restart the device and tells no new installation. -/
theorem process_breaks_off (worker : Worker ω) (before : List Call) :
  Act.Ensures (fun _ calls => reads calls = [] ∧ decisive calls = before)
    (worker.process p .download)
    (fun r _ calls => Unconcluded (arrived (reads calls)) → (∃ fault, r.2 = .failed fault)
      ∧ r.1.status.installed = worker.status.installed ∧ decisive calls = before)
  := by
  apply process_download_of (Q := fun result installed _ calls =>
    Unconcluded (arrived (reads calls)) → (∃ fault, result = .failed fault)
      ∧ installed = worker.status.installed ∧ decisive calls = before)
  apply ((download_concludes worker).both (download_decides worker before)).imp_right
  rintro ⟨after, result⟩ _ calls ⟨hfails, hinstalled, hdecisive⟩ hopen
  obtain ⟨fault, rfl⟩ := hfails hopen
  exact ⟨⟨fault, rfl⟩, hinstalled.trans (Bool.or_false _), hdecisive⟩

end Worker

end FirmwareUpdate
