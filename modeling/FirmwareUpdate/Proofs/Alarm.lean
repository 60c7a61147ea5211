import FirmwareUpdate.Alarm

/-!
# The owner and the thread of an alarm

The owner and the thread of an alarm share it under a lock. The owner takes the lock for one
assignment at a time. The thread takes it whenever it wakes, for whatever reason, and keeps it
until it waits again or ends: it looks whether it is to end and whether there is a deadline, reads
the clock, clears a deadline that has passed, raises the request, and looks again. The clocks may
show any time, and whoever else shares the triggers may change them at any time.

What becomes of the alarm is what its operations make of it one after the other (`Raced.tallies`),
since the request is raised before the lock is given back. The main statement is `Raced.punctual`.
-/

namespace FirmwareUpdate.Alarm

/-! ### Interleavings -/

/-- Where the thread stands: it waits without the lock; it looks at the alarm; it has cleared a
deadline that has passed at the given time and is about to raise the request; or it has ended. -/
inductive ThreadPhase
  | waiting
  | looking
  | raising (time : Nat)
  | ended
deriving DecidableEq, Repr

/-- Where the owner stands: it does nothing; it is about to arm the alarm, for which it has read
the given time; it has stopped the alarm and waits for the thread to end; or it is gone. -/
inductive OwnerPhase
  | idle
  | arming (time : Nat) (period : Duration)
  | joining
  | gone
deriving DecidableEq, Repr

/-- An alarm and its triggers, with the owner and the thread. -/
structure Race where
  alarm : Alarm := {}
  triggers : Triggers := {}
  thread : ThreadPhase := .waiting
  owner : OwnerPhase := .idle

/-- Whether the thread does not hold the lock. -/
def Race.IsFree (r : Race) : Prop :=
  r.thread = .waiting ∨ r.thread = .ended

/-- What has happened: the alarm was armed at a time that the owner had read, disarmed or stopped,
the owner has let go of it, or the thread has raised a request at a time that it had read. -/
inductive Event
  | armed (time : Nat) (period : Duration)
  | disarmed
  | stopped
  | released
  | requested (time : Nat)
deriving DecidableEq, Repr

/-- The states that the owner and the thread can come to, with what has happened, the latest
first. -/
inductive Raced : List Event → Race → Prop
  | start (triggers : Triggers) : Raced [] { triggers }
  /-- The owner reads the clock in order to arm the alarm. -/
  | readTime {history : List Event} {r : Race} (time : Nat) (period : Duration) :
      Raced history r → r.owner = .idle →
      Raced history { r with owner := .arming time period }
  /-- The owner does not get to the lock, since there is no such deadline. -/
  | giveUp {history : List Event} {r : Race} {time : Nat} {period : Duration} :
      Raced history r → r.owner = .arming time period →
      Raced history { r with owner := .idle }
  | arm {history : List Event} {r : Race} {time : Nat} {period : Duration} :
      Raced history r → r.owner = .arming time period → r.IsFree →
      Raced (.armed time period :: history)
        { r with alarm := r.alarm.arm time period, owner := .idle }
  | disarm {history : List Event} {r : Race} :
      Raced history r → r.owner = .idle → r.IsFree →
      Raced (.disarmed :: history) { r with alarm := r.alarm.disarm }
  | stop {history : List Event} {r : Race} :
      Raced history r → r.owner = .idle → r.IsFree →
      Raced (.stopped :: history) { r with alarm := r.alarm.stop, owner := .joining }
  | release {history : List Event} {r : Race} :
      Raced history r → r.owner = .joining → r.thread = .ended →
      Raced (.released :: history) { r with owner := .gone }
  /-- The thread wakes, be it notified, because of the time, or for no reason. -/
  | wake {history : List Event} {r : Race} :
      Raced history r → r.thread = .waiting →
      Raced history { r with thread := .looking }
  | finish {history : List Event} {r : Race} :
      Raced history r → r.thread = .looking → r.alarm.isStopped = true →
      Raced history { r with thread := .ended }
  /-- The thread finds nothing to do at the time that it reads. -/
  | wait {history : List Event} {r : Race} (time : Nat) :
      Raced history r → r.thread = .looking → r.alarm.isStopped = false →
      r.alarm.isDue time = false →
      Raced history { r with thread := .waiting }
  | clear {history : List Event} {r : Race} (time : Nat) :
      Raced history r → r.thread = .looking → r.alarm.isDue time = true →
      Raced history { r with alarm := r.alarm.disarm, thread := .raising time }
  | raise {history : List Event} {r : Race} {time : Nat} :
      Raced history r → r.thread = .raising time →
      Raced (.requested time :: history)
        { r with triggers := r.triggers.request .check, thread := .looking }
  /-- Somebody else changes the triggers. -/
  | share {history : List Event} {r : Race} (triggers : Triggers) :
      Raced history r → Raced history { r with triggers }

/-! ### One step after the other -/

/-- The alarm after an event, where the thread looks and raises the request in one step. -/
def Event.apply (alarm : Alarm) : Event → Alarm
  | armed time period => alarm.arm time period
  | disarmed => alarm.disarm
  | stopped => alarm.stop
  | released => alarm
  | requested time => alarm.look time

/-- The alarm after everything that has happened. -/
def after : List Event → Alarm
  | [] => {}
  | event :: earlier => event.apply (after earlier)

/-- A request was due when it was raised, and the owner lets go of an alarm that was stopped. -/
def Serial : List Event → Prop
  | [] => True
  | .requested time :: earlier => (after earlier).isDue time = true ∧ Serial earlier
  | .released :: earlier => (after earlier).isStopped = true ∧ Serial earlier
  | _ :: earlier => Serial earlier

variable {alarm : Alarm} {history earlier : List Event} {r : Race}

theorem isDue_iff {now : Nat} :
  alarm.isDue now = true
    ↔ alarm.isStopped = false ∧ ∃ deadline, alarm.deadline = some deadline ∧ deadline ≤ now
  := by
  simp [isDue, Option.any_eq_true]

theorem isDue_disarm (alarm : Alarm) (now : Nat) :
  alarm.disarm.isDue now = false
  := by
  simp [isDue, disarm]

theorem look_of_isDue {now : Nat} (h : alarm.isDue now = true) :
  alarm.look now = alarm.disarm
  := if_pos h

/-- What is known of the alarm while the thread holds the lock and while it does not: between the
clearing of the deadline and the request, the alarm is as it will be when the request is raised. -/
structure Tallies (history : List Event) (r : Race) : Prop where
  serial : Serial history
  alarm_eq : (∀ time, r.thread ≠ .raising time) → r.alarm = after history
  raising : ∀ time, r.thread = .raising time →
    (after history).isDue time = true ∧ r.alarm = (after history).disarm
  ended : r.thread = .ended → r.alarm.isStopped = true

theorem Race.IsFree.ne_raising (h : r.IsFree) (time : Nat) :
  r.thread ≠ .raising time
  := by
  rcases h with h | h
  all_goals
    rw [h]
    rintro ⟨⟩

/-- What the owner does under the lock is an operation of the alarm that the events before amount
to. -/
theorem Tallies.own (h : Tallies history r) (hfree : r.IsFree) (event : Event)
    (hserial : Serial (event :: history)) {owner : OwnerPhase}
    (hstopped : r.alarm.isStopped = true → (event.apply r.alarm).isStopped = true) :
  Tallies (event :: history) { r with alarm := event.apply r.alarm, owner }
  := by
  constructor
  case serial => exact hserial
  case alarm_eq =>
    intro _
    rw [after, ← h.alarm_eq hfree.ne_raising]
  case raising =>
    intro time htime
    exact absurd htime (hfree.ne_raising time)
  case ended =>
    intro hended
    exact hstopped (h.ended hended)

/-- A step of the thread that leaves the alarm alone. -/
theorem Tallies.move (h : Tallies history r) {thread : ThreadPhase}
    (hbefore : ∀ time, r.thread ≠ .raising time) (hafter : ∀ time, thread ≠ .raising time)
    (hended : thread = .ended → r.alarm.isStopped = true) :
  Tallies history { r with thread }
  := by
  constructor
  case serial => exact h.serial
  case alarm_eq => exact fun _ => h.alarm_eq hbefore
  case raising => exact fun time htime => absurd htime (hafter time)
  case ended => exact hended

/-- Every interleaving comes to what the operations of the alarm make of it one after the other. -/
theorem Raced.tallies (h : Raced history r) :
  Tallies history r
  := by
  induction h with
  | start triggers => exact ⟨trivial, fun _ => rfl, by rintro _ ⟨⟩, by rintro ⟨⟩⟩
  | readTime time period _ _ ih => exact ⟨ih.serial, ih.alarm_eq, ih.raising, ih.ended⟩
  | giveUp _ _ ih => exact ⟨ih.serial, ih.alarm_eq, ih.raising, ih.ended⟩
  | arm _ _ hfree ih => exact ih.own hfree (.armed _ _) ih.serial id
  | disarm _ _ hfree ih => exact ih.own hfree .disarmed ih.serial id
  | stop _ _ hfree ih => exact ih.own hfree .stopped ih.serial fun _ => rfl
  | @release history r _ _ hended ih =>
      have hfree : r.IsFree := .inr hended
      have hstopped : (after history).isStopped = true := by
        rw [← ih.alarm_eq hfree.ne_raising]
        exact ih.ended hended
      exact ih.own hfree .released ⟨hstopped, ih.serial⟩ id
  | wake _ hwaiting ih =>
      apply ih.move
      · simp [hwaiting]
      · rintro _ ⟨⟩
      · rintro ⟨⟩
  | finish _ hlooking hstopped ih =>
      apply ih.move
      · simp [hlooking]
      · rintro _ ⟨⟩
      · exact fun _ => hstopped
  | wait time _ hlooking _ _ ih =>
      apply ih.move
      · simp [hlooking]
      · rintro _ ⟨⟩
      · rintro ⟨⟩
  | clear time _ hlooking hdue ih =>
      have halarm := ih.alarm_eq (by simp [hlooking])
      constructor
      case serial => exact ih.serial
      case alarm_eq => exact fun hne => absurd rfl (hne time)
      case raising =>
        rintro _ ⟨rfl⟩
        rw [← halarm]
        exact ⟨hdue, rfl⟩
      case ended => rintro ⟨⟩
  | raise _ hraising ih =>
      obtain ⟨hdue, halarm⟩ := ih.raising _ hraising
      constructor
      case serial => exact ⟨hdue, ih.serial⟩
      case alarm_eq =>
        intro _
        rw [after, Event.apply, look_of_isDue hdue]
        exact halarm
      case raising => rintro _ ⟨⟩
      case ended => rintro ⟨⟩
  | share triggers _ ih => exact ⟨ih.serial, ih.alarm_eq, ih.raising, ih.ended⟩

/-- One tick of the clockwork is what the thread does while it holds the lock once. -/
theorem Raced.tick (h : Raced history r) (hwaiting : r.thread = .waiting)
    (hrunning : r.alarm.isStopped = false) {c : Clockwork} (halarm : c.alarm = r.alarm)
    (htriggers : c.triggers = r.triggers) :
  Raced ((if r.alarm.isDue c.now then [.requested c.now] else []) ++ history)
    { r with alarm := c.tick.alarm, triggers := c.tick.triggers }
  := by
  have hwoken := h.wake hwaiting
  obtain ⟨_, _, thread, owner⟩ := r
  obtain ⟨alarm, triggers, now⟩ := c
  dsimp only at hwaiting hrunning halarm htriggers hwoken ⊢
  subst hwaiting halarm htriggers
  simp only [Clockwork.tick, look]
  cases hdue : alarm.isDue now with
  | true =>
      have hraised := (hwoken.clear now rfl hdue).raise rfl
      exact hraised.wait now rfl hrunning (isDue_disarm alarm now)
  | false => exact hwoken.wait now rfl hrunning hdue

/-! ### What requests follow -/

/-- Whether an event is an arming. -/
def Event.isArming : Event → Bool
  | armed _ _ => true
  | _ => false

/-- Whether an event is a request. -/
def Event.isRequest : Event → Bool
  | requested _ => true
  | _ => false

theorem Event.isRequest_iff {event : Event} :
  event.isRequest = true ↔ ∃ time, event = .requested time
  := by
  cases event <;> simp [isRequest]

/-- There are no armings among the events. -/
abbrev NoArming (events : List Event) : Prop :=
  ∀ event ∈ events, event.isArming = false

/-- A history in which the alarm ticks as it was armed. A request comes right behind the arming
that it is for, and not before its deadline: nothing has replaced or cancelled it, and there was no
other request for it. Until the next arming there is no request after a disarming, and there is
none at all after the alarm was stopped. -/
structure Punctual (history : List Event) : Prop where
  own : ∀ later now earlier, history = later ++ .requested now :: earlier →
    ∃ time period rest, earlier = .armed time period :: rest ∧ time + period.nanoseconds ≤ now
  once : ∀ later time period earlier, history = later ++ .armed time period :: earlier →
    NoArming later → later.countP Event.isRequest ≤ 1
  quiet : ∀ later earlier, history = later ++ .disarmed :: earlier →
    NoArming later → ∀ now, .requested now ∉ later
  silent : ∀ later event earlier, history = later ++ event :: earlier →
    event = .stopped ∨ event = .released → ∀ now, .requested now ∉ later

theorem Serial.tail {event : Event} (h : Serial (event :: earlier)) :
  Serial earlier
  := by
  cases event with
  | requested time => exact h.2
  | released => exact h.2
  | _ => exact h

theorem Serial.of_append {later : List Event} (h : Serial (later ++ earlier)) :
  Serial earlier
  := by
  induction later with
  | nil => exact h
  | cons event later ih => exact ih h.tail

/-- A deadline is there only if the alarm has just been armed, unless it has been stopped. -/
theorem Serial.armed_of_isDue (h : Serial earlier) {now : Nat}
    (hdue : (after earlier).isDue now = true) :
  ∃ time period rest, earlier = .armed time period :: rest ∧ time + period.nanoseconds ≤ now
  := by
  obtain ⟨hrunning, deadline, hdeadline, hle⟩ := isDue_iff.mp hdue
  cases earlier with
  | nil => cases hdeadline
  | cons event rest =>
      cases event with
      | armed time period =>
          obtain rfl := Option.some.inj hdeadline
          exact ⟨time, period, rest, rfl, hle⟩
      | disarmed => cases hdeadline
      | stopped => cases hrunning
      | released =>
          have hstopped : (after rest).isStopped = true := h.1
          rw [after, Event.apply, hstopped] at hrunning
          cases hrunning
      | requested time =>
          rw [after, Event.apply, look_of_isDue h.1] at hdeadline
          cases hdeadline

theorem Serial.own (h : Serial history) {later : List Event} {now : Nat}
    (hhistory : history = later ++ .requested now :: earlier) :
  ∃ time period rest, earlier = .armed time period :: rest ∧ time + period.nanoseconds ≤ now
  := by
  rw [hhistory] at h
  obtain ⟨hdue, hserial⟩ := h.of_append
  exact hserial.armed_of_isDue hdue

/-- If the alarm is not armed again, there can be a request only right after an event, and only if
that is an arming. -/
theorem Serial.request_first (h : Serial history) {later more : List Event} {event : Event}
    {now : Nat} (hhistory : history = later ++ event :: earlier) (hlater : NoArming later)
    (hrequest : later = more ++ .requested now :: rest) :
  rest = [] ∧ event.isArming = true
  := by
  have hown : history = more ++ .requested now :: (rest ++ event :: earlier) := by
    rw [hhistory, hrequest, List.append_assoc, List.cons_append]
  obtain ⟨time, period, before, hbefore, -⟩ := h.own hown
  cases rest with
  | nil =>
      obtain ⟨rfl, -⟩ := List.cons.inj hbefore
      exact ⟨rfl, rfl⟩
  | cons first rest =>
      obtain ⟨rfl, -⟩ := List.cons.inj hbefore
      have hfirst := hlater (.armed time period) (by simp [hrequest])
      cases hfirst

/-- There is at most one request between an event and the next arming. -/
theorem Serial.once (h : Serial history) {later : List Event} {event : Event}
    (hhistory : history = later ++ event :: earlier) (hlater : NoArming later) :
  later.countP Event.isRequest ≤ 1
  := by
  by_cases hnone : later.countP Event.isRequest = 0
  · omega
  · obtain ⟨found, hfound, hrequest⟩ := List.countP_pos_iff.mp (Nat.pos_of_ne_zero hnone)
    obtain ⟨now, rfl⟩ := Event.isRequest_iff.mp hrequest
    obtain ⟨more, rest, hsplit⟩ := List.append_of_mem hfound
    obtain ⟨rfl, -⟩ := h.request_first hhistory hlater hsplit
    have hmore : more.countP Event.isRequest = 0 := by
      apply List.countP_eq_zero.mpr
      intro other hother hagain
      obtain ⟨time, rfl⟩ := Event.isRequest_iff.mp hagain
      obtain ⟨first, between, rfl⟩ := List.append_of_mem hother
      rw [List.append_assoc, List.cons_append] at hsplit
      obtain ⟨hnil, -⟩ := h.request_first hhistory hlater hsplit
      simp at hnil
    rw [hsplit, List.countP_append, hmore]
    apply Nat.le_of_eq
    rfl

theorem isStopped_look (alarm : Alarm) (now : Nat) :
  (alarm.look now).isStopped = alarm.isStopped
  := by
  rw [look]
  split
  · rfl
  · rfl

theorem deadline_look {now : Nat} (h : alarm.deadline = none) :
  (alarm.look now).deadline = none
  := by
  rw [look]
  split
  · rfl
  · exact h

/-- An alarm that was stopped stays so. -/
theorem isStopped_after_append {later : List Event} (h : (after earlier).isStopped = true) :
  (after (later ++ earlier)).isStopped = true
  := by
  induction later with
  | nil => exact h
  | cons event later ih =>
      cases event with
      | requested time => rwa [List.cons_append, after, Event.apply, isStopped_look]
      | stopped => rfl
      | _ => exact ih

/-- A deadline that was cleared is not there again before the next arming. -/
theorem deadline_after_append {later : List Event} (hlater : NoArming later)
    (h : (after earlier).deadline = none) :
  (after (later ++ earlier)).deadline = none
  := by
  induction later with
  | nil => exact h
  | cons event later ih =>
      obtain ⟨hevent, hlater⟩ := List.forall_mem_cons.mp hlater
      specialize ih hlater
      cases event with
      | armed time period => cases hevent
      | disarmed => rfl
      | requested time => exact deadline_look ih
      | _ => exact ih

/-- There is no request after the alarm was stopped. -/
theorem Serial.silent (h : Serial history) {later : List Event} {event : Event} {now : Nat}
    (hhistory : history = later ++ event :: earlier)
    (hstopped : (after (event :: earlier)).isStopped = true) :
  .requested now ∉ later
  := by
  intro hmem
  obtain ⟨more, rest, rfl⟩ := List.append_of_mem hmem
  rw [hhistory, List.append_assoc, List.cons_append] at h
  obtain ⟨hdue, -⟩ := h.of_append
  obtain ⟨hrunning, -⟩ := isDue_iff.mp hdue
  rw [isStopped_after_append hstopped] at hrunning
  cases hrunning

theorem punctual_of_serial (h : Serial history) :
  Punctual history
  := by
  constructor
  case own => exact fun _ _ _ => h.own
  case once => exact fun _ _ _ _ => h.once
  case quiet =>
    intro later earlier hhistory hlater now hmem
    obtain ⟨more, rest, hsplit⟩ := List.append_of_mem hmem
    cases (h.request_first hhistory hlater hsplit).2
  case silent =>
    intro later event earlier hhistory hevent now
    apply h.silent hhistory
    rcases hevent with rfl | rfl
    · rfl
    · rw [hhistory] at h
      exact h.of_append.1

/-- After a request the deadline is cleared, until the alarm is armed again. -/
theorem Tallies.cleared (h : Tallies history r) {later : List Event} {now : Nat}
    (hhistory : history = later ++ .requested now :: earlier) (hlater : NoArming later) :
  r.alarm.deadline = none
  := by
  have hserial := h.serial
  rw [hhistory] at hserial
  have hrequest : (after (.requested now :: earlier)).deadline = none := by
    rw [after, Event.apply, look_of_isDue hserial.of_append.1]
    rfl
  have hafter : (after history).deadline = none := by
    rw [hhistory]
    exact deadline_after_append hlater hrequest
  cases hthread : r.thread with
  | raising time =>
      rw [(h.raising time hthread).2]
      rfl
  | _ =>
      rw [h.alarm_eq (by simp [hthread])]
      exact hafter

/-- However the owner and the thread of an alarm are interleaved, it ticks as it was armed, and
after a request there is no deadline until the alarm is armed again. -/
theorem Raced.punctual (h : Raced history r) :
  Punctual history
    ∧ ∀ later now earlier, history = later ++ .requested now :: earlier → NoArming later →
      r.alarm.deadline = none
  := ⟨punctual_of_serial h.tallies.serial, fun _ _ _ => h.tallies.cleared⟩

/-- The thread wakes too early, the alarm is armed anew, and the request comes late. -/
theorem Raced.punctual_sample :
  let history : List Event := [.requested 30, .armed 8 ⟨10⟩, .armed 5 ⟨10⟩]
  let r : Race := { triggers := { check := true }, thread := .looking }
  Raced history r ∧ Punctual history ∧ r.alarm.deadline = none
  := by
  have harmed : Raced [.armed 5 ⟨10⟩] { alarm := { deadline := some 15 } } :=
    (Raced.start {} |>.readTime 5 ⟨10⟩ rfl).arm rfl (.inl rfl)
  have hearly : Raced [.armed 5 ⟨10⟩] { alarm := { deadline := some 15 } } :=
    (harmed.wake rfl).wait 7 rfl rfl rfl
  have hanew : Raced [.armed 8 ⟨10⟩, .armed 5 ⟨10⟩] { alarm := { deadline := some 18 } } :=
    (hearly.readTime 8 ⟨10⟩ rfl).arm rfl (.inl rfl)
  have hlate : Raced [.requested 30, .armed 8 ⟨10⟩, .armed 5 ⟨10⟩]
      { triggers := { check := true }, thread := .looking } :=
    ((hanew.wake rfl).clear 30 rfl rfl).raise rfl
  obtain ⟨hpunctual, hcleared⟩ := hlate.punctual
  exact ⟨hlate, hpunctual, hcleared [] 30 _ rfl (List.forall_mem_nil _)⟩

end FirmwareUpdate.Alarm
