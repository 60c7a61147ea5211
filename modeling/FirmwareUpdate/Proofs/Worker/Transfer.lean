import FirmwareUpdate.Proofs.Worker.Frame

/-!
# Transfers and downloads

An image that is moved from the server to the slot goes through the programmer only, so the
slot that it is written to is spare all the time, and a download selects a slot at most once:
with the commit of an image that it has written as a whole. Whatever a download comes to, the
programmer is closed afterwards.
-/

namespace FirmwareUpdate

variable {σ ω : Type} {G : Assertion σ} {p : Platform σ ω} {boot : String}
  {earlier : List Call} {installed : Bool}

namespace Transfer

/-- The status tells whether anything has been installed before, and the programmer fits. -/
def Fit (G : Assertion σ) (boot : String) (installed : Bool) (x : Transfer ω)
    (F : List Call → Prop) : Assertion σ :=
  fun state calls => x.status.installed = installed ∧ x.programmer.Fit G boot F state calls

/-- Starting to write leaves the programmer sound. An image that is still open is given up. -/
theorem begin_sound (hp : p.Keeps G) (x : Transfer ω) :
  Act.Ensures (x.Fit G boot installed (x.programmer.Sound boot earlier)) (x.begin p)
    (fun r => r.1.Fit G boot installed (r.1.programmer.Sound boot earlier))
  := by
  apply Act.Ensures.of_fact
  intro hinstalled
  unfold begin
  split
  · exact .pure fun _ _ h => ⟨hinstalled, h⟩
  extract_lets _ _ jp
  have hjp : ∀ r, Act.Ensures
      (Programmer.Fit G boot r.1 (r.1.Sound boot earlier)) (jp r)
      (fun r => r.1.Fit G boot installed (r.1.programmer.Sound boot earlier)) := by
    rintro ⟨programmer, outcome⟩
    dsimp only [jp]
    split
    · exact .pure fun _ _ h => ⟨hinstalled, h⟩
    · apply (Programmer.begin_sound hp.slots).bind
      rintro ⟨programmer, outcome⟩
      cases outcome with
      | error _ => exact .pure fun _ _ h => ⟨hinstalled, h⟩
      | ok _ => exact .pure fun _ _ h => ⟨hinstalled, h⟩
  clear_value jp
  split
  · apply Act.Ensures.bind_report
    apply Act.Ensures.bind
    · apply Programmer.Fit.imp_left (Programmer.abort_sound hp.slots)
      intro _ h
      apply h.spare
    · intro r
      apply Act.Ensures.of_fact
      intro hnone
      apply Programmer.Fit.imp_left (hjp r)
      intro _ hsteady
      apply Programmer.Sound.of_none hsteady hnone
  · simp only [pure_bind]
    apply hjp (x.programmer, .ok ())

/-- Storing bytes leaves the programmer sound; if it fails, the image is given up. -/
theorem store_sound (hp : p.Keeps G) (x : Transfer ω) (bytes : Bytes) :
  Act.Ensures (x.Fit G boot installed (x.programmer.Sound boot earlier)) (x.store p bytes)
    (fun r => r.1.Fit G boot installed (r.1.programmer.Sound boot earlier))
  := by
  unfold store
  apply (begin_sound hp x).bind
  rintro ⟨x, outcome⟩
  cases outcome with
  | error _ => exact .pure fun _ _ h => h
  | ok _ =>
    dsimp only
    apply Act.Ensures.of_fact
    intro hinstalled
    apply (Programmer.write_sound hp.slots bytes).bind
    rintro ⟨programmer, outcome⟩
    cases outcome with
    | ok _ =>
        apply Act.Ensures.pure
        intro _ _ h
        use hinstalled
        apply h.imp
        rintro ⟨-, hsound⟩
        apply hsound rfl
    | error _ =>
        apply Act.Ensures.bind_report
        apply Act.Ensures.bind
        · apply Programmer.Fit.imp_left (Programmer.abort_sound hp.slots)
          intro _ h
          apply h.left
        rintro ⟨programmer, outcome⟩
        apply Act.Ensures.of_fact
        intro hnone
        cases outcome with
        | error _ =>
            exact .pure fun _ _ h => ⟨hinstalled, h.imp (Programmer.Sound.of_none · hnone)⟩
        | ok _ =>
            exact .pure fun _ _ h => ⟨hinstalled, h.imp (Programmer.Sound.of_none · hnone)⟩

/-- Moving fragments leaves the programmer sound, whatever arrives. -/
theorem pump_sound (hp : p.Keeps G) (count : Nat) (x : Transfer ω) :
  Act.Ensures (x.Fit G boot installed (x.programmer.Sound boot earlier)) (pump p count x)
    (fun r => r.1.Fit G boot installed (r.1.programmer.Sound boot earlier))
  := by
  induction count generalizing x with
  | zero =>
      rw [pump]
      exact .pure fun _ _ h => h
  | succ count ih =>
      rw [pump]
      apply Act.Ensures.of_fact
      intro hinstalled
      apply Act.Ensures.of_fact
      intro hring
      apply Act.Ensures.bind (R := fun _ => Granted G boot (x.programmer.Sound boot earlier))
      · apply Client.Stream.next_keeps (hp.transport.granted Programmer.sound_slotsOnly)
      rintro ⟨stream, fragment⟩
      rcases fragment with fault | _ | fragment
      · exact .pure fun _ _ h => ⟨hinstalled, hring, h⟩
      · exact .pure fun _ _ h => ⟨hinstalled, hring, h⟩
      cases fragment with
      | finished => exact .pure fun _ _ h => ⟨hinstalled, hring, h⟩
      | data bytes =>
          apply Act.Ensures.bind
          · apply (store_sound hp { x with stream } bytes).imp_left
            exact fun _ _ h => ⟨hinstalled, hring, h⟩
          rintro ⟨x, outcome⟩
          cases outcome with
          | error _ => exact .pure fun _ _ h => h
          | ok _ => apply ih

end Transfer

/-- What a result means for the slots: an installation has switched them, anything else has
selected nothing since `earlier`. -/
def CycleResult.Settled (boot : String) (earlier : List Call) : CycleResult → List Call → Prop
  | .installed done => Switched boot earlier done
  | _ => Steady boot earlier

theorem CycleResult.settled_slotsOnly (result : CycleResult) :
  SlotsOnly (result.Settled boot earlier)
  := by
  cases result with
  | installed done => apply switched_slotsOnly
  | _ => apply steady_slotsOnly

namespace Transfer

/-- The result of a transfer that has been completed; a failure has selected nothing. -/
def Completed (boot : String) (earlier : List Call) :
    Except Fault CycleResult → List Call → Prop
  | .ok result => result.Settled boot earlier
  | .error _ => Steady boot earlier

/-- Completing a transfer closes the programmer. It installs what has been written, or selects
nothing. -/
theorem complete_sound (hp : p.Keeps G) (x : Transfer ω) :
  Act.Ensures (x.programmer.Fit G boot (x.programmer.Sound boot earlier)) (x.complete p)
    (fun r state calls => r.1.session = none
      ∧ r.1.Fit G boot (Completed boot earlier r.2) state calls)
  := by
  unfold complete
  apply Act.Ensures.bind_report
  split
  case isTrue =>
    apply Act.Ensures.bind_report
    split
    case isTrue =>
      apply Act.Ensures.bind
      · apply Programmer.Fit.imp_left (Programmer.abort_sound hp.slots)
        intro _ h
        apply h.spare
      rintro ⟨programmer, outcome⟩
      cases outcome with
      | error _ => exact .pure fun _ _ h => h
      | ok _ => exact .pure fun _ _ h => h
    case isFalse hclosed =>
      have hnone : x.programmer.session = none := by
        simpa [Programmer.isOpen] using hclosed
      exact .pure fun _ _ h => ⟨hnone, h.imp Programmer.Sound.toSteady⟩
  case isFalse =>
    apply (Programmer.commit_sound hp.slots).bind
    rintro ⟨programmer, committed⟩
    cases committed with
    | error _ => exact .pure fun _ _ h => h
    | ok _ => exact .pure fun _ _ h => h

end Transfer

namespace Worker

/-- The status tells whether anything has been installed before, and the programmer fits. -/
def Fit (G : Assertion σ) (boot : String) (installed : Bool) (worker : Worker ω)
    (F : List Call → Prop) : Assertion σ :=
  fun state calls =>
    worker.status.installed = installed ∧ worker.programmer.Fit G boot F state calls

/-- Streaming an image installs it and closes the programmer, or selects nothing. After a
failure the image may still be open. -/
theorem streamImage_sound (hp : p.Keeps G) (worker : Worker ω) :
  Act.Ensures
    (worker.Fit G boot installed (worker.programmer.Sound boot earlier))
    (worker.streamImage p)
    (fun r state calls =>
      match r.2 with
      | .error _ => r.1.Fit G boot installed (r.1.programmer.Sound boot earlier) state calls
      | .ok result => r.1.programmer.session = none
          ∧ r.1.Fit G boot installed (result.Settled boot earlier) state calls)
  := by
  apply Act.Ensures.of_fact
  intro hinstalled
  apply Act.Ensures.of_fact
  intro hring
  unfold streamImage
  split
  · exact .pure fun _ _ h => ⟨hinstalled, hring, h⟩
  apply Act.Ensures.bind
    (R := fun _ => Granted G boot (worker.programmer.Sound boot earlier))
  · apply Client.openStream_keeps
      (hp.transport.granted Programmer.sound_slotsOnly).toKeepsUnread
  rintro ⟨client, opened⟩
  cases opened with
  | error _ => exact .pure fun _ _ h => ⟨hinstalled, hring, h⟩
  | ok stream =>
    apply Act.Ensures.bind
    · apply (Transfer.pump_sound hp UInt64.size
        { stream, programmer := worker.programmer, status := worker.status }).imp_left
      exact fun _ _ h => ⟨hinstalled, hring, h⟩
    rintro ⟨x, outcome⟩
    apply Act.Ensures.of_fact
    intro hinstalled
    apply Act.Ensures.of_fact
    intro hring
    apply Act.Ensures.bind
      (R := fun _ => Granted G boot (x.programmer.Sound boot earlier))
    · apply Client.Stream.close_keeps
        (hp.transport.granted Programmer.sound_slotsOnly).toKeepsUnread
    intro session
    cases outcome with
    | error _ => exact .pure fun _ _ h => ⟨hinstalled, hring, h⟩
    | ok _ =>
        apply Act.Ensures.bind
        · apply (Transfer.complete_sound hp x).imp_left
          exact fun _ _ h => ⟨hring, h⟩
        rintro ⟨programmer, completed⟩
        cases completed with
        | error _ =>
            apply Act.Ensures.pure
            intro _ _ h
            obtain ⟨hnone, h⟩ := h
            use hinstalled
            apply h.imp (Programmer.Sound.of_none · hnone)
        | ok _ => exact .pure fun _ _ h => ⟨h.1, hinstalled, h.2⟩

/-- After a failure an open image is given up. -/
theorem giveUp_sound (hp : p.Keeps G) (worker : Worker ω) :
  Act.Ensures
    (worker.Fit G boot installed (worker.programmer.Sound boot earlier)) (worker.giveUp p)
    (fun after state calls => after.programmer.session = none
      ∧ after.Fit G boot installed (Steady boot earlier) state calls)
  := by
  apply Act.Ensures.of_fact
  intro hinstalled
  unfold giveUp
  split
  case isTrue =>
    apply Act.Ensures.bind
    · apply Programmer.Fit.imp_left (Programmer.abort_sound hp.slots)
      intro _ h
      apply h.spare
    rintro ⟨programmer, outcome⟩
    exact .pure fun _ _ h => ⟨h.1, hinstalled, h.2⟩
  case isFalse hclosed =>
    have hnone : worker.programmer.session = none := by
      simpa [Programmer.isOpen] using hclosed
    exact .pure fun _ _ h => ⟨hnone, hinstalled, h.imp Programmer.Sound.toSteady⟩

/-- What follows an installation has nothing to do with the slots; the status tells it. -/
theorem applyInstallation_sound (hp : p.Keeps G) (worker : Worker ω) (done : Installation)
    {F : List Call → Prop} (hF : SlotsOnly F) :
  Act.Ensures
    (fun state calls => worker.programmer.session = none
      ∧ worker.Fit G boot installed F state calls)
    (worker.applyInstallation p done)
    (fun after state calls => after.programmer.session = none
      ∧ after.Fit G boot true F state calls)
  := by
  apply Act.Ensures.of_fact
  intro hnone
  apply Act.Ensures.of_fact
  intro hinstalled
  apply Act.Ensures.of_fact
  intro hring
  unfold applyInstallation
  apply Act.Ensures.bind_report
  dsimp only
  split
  · apply Act.Ensures.bind_report
    apply Act.Ensures.bind (R := fun _ => Granted G boot F)
    · apply Granted.foreign hF (fun _ => rfl) (hp.restart _)
    intro _
    exact .pure fun _ _ h => ⟨hnone, rfl, hring, h⟩
  · exact .pure fun _ _ h => ⟨hnone, rfl, hring, h⟩

end Worker

/-- Whether a result is an installation. -/
def CycleResult.isInstalled : CycleResult → Bool
  | .installed _ => true
  | _ => false

namespace Worker

/-- A download leaves the programmer closed. It installs what it has written, which the status
tells, or selects nothing. -/
theorem download_sound (hp : p.Keeps G) (worker : Worker ω) :
  Act.Ensures
    (worker.Fit G boot installed (worker.programmer.Sound boot earlier)) (worker.download p)
    (fun r state calls => r.1.programmer.session = none
      ∧ r.1.Fit G boot (installed || r.2.isInstalled) (r.2.Settled boot earlier) state calls)
  := by
  unfold download
  apply (streamImage_sound hp worker).bind
  rintro ⟨worker, streamed⟩
  cases streamed with
  | error fault =>
      apply Act.Ensures.map
      apply (giveUp_sound hp worker.ended).imp_right
      intro _ _ _ h
      simp only [CycleResult.isInstalled, Bool.or_false]
      apply h
  | ok result =>
      cases result with
      | installed done =>
          apply Act.Ensures.map
          apply (applyInstallation_sound hp worker.ended done switched_slotsOnly).imp_right
          intro _ _ _ h
          simp only [CycleResult.isInstalled, Bool.or_true]
          apply h
      | _ =>
          apply Act.Ensures.pure
          intro _ _ h
          simp only [CycleResult.isInstalled, Bool.or_false]
          apply h

end Worker

end FirmwareUpdate
