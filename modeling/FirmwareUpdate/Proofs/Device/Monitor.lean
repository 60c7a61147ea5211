import Mathlib.Tactic.IntervalCases
import FirmwareUpdate.Bench.Line
import FirmwareUpdate.Proofs.Ensures
import FirmwareUpdate.Proofs.Throughout

/-!
# The schedule of a monitor

What a monitor does in a poll is read off what it has its station do, and off the signal that it
leaves. An outage goes on from one poll to the next as long as the network is found down and is not
reconnected. The monitor knows of outages only by the signal that it has set itself in the poll
before, and by the attempts that it has counted; the number of an attempt is nevertheless its place
in the outage (`Monitor.due_pollAll`). The main statement is `Monitor.pollAll_scheduled`.
-/

namespace FirmwareUpdate.Device

variable {σ α β : Type}

namespace Monitor

/-! ### Watching a monitor -/

/-- What a monitor has its station do, with the answers. -/
inductive Event
  | found (isUp : Bool)
  | paused (milliseconds : Nat)
  | restarted (outcome : Except String Unit)
  | reconnected (outcome : Except String Unit)
deriving DecidableEq

/-- A site with what has been noted there. -/
def watching (site : Site σ) (events : List Event) : Site (σ × List Event) :=
  { state := (site.state, events), notes := site.notes }

/-- A site without what has been noted there. -/
def unwatched (site : Site (σ × List Event)) : Site σ :=
  { state := site.state.1, notes := site.notes }

/-- An operation that is noted with its answer, behind what has been noted before. -/
def noted (op : Op σ α) (event : α → Event) : Op (σ × List Event) α := fun site =>
  let (a, after) := op (unwatched site)
  (a, watching after (site.state.2 ++ [event a]))

end Monitor

/-- The station where all operations are noted. -/
def Uplink.watched (uplink : Uplink σ) : Uplink (σ × List Monitor.Event) where
  isUp := Monitor.noted uplink.isUp .found
  connect := Monitor.noted uplink.connect .reconnected
  restart := Monitor.noted uplink.restart .restarted
  pause milliseconds := Monitor.noted (uplink.pause milliseconds) fun _ => .paused milliseconds

namespace Monitor

/-- A watched operation does what the operation does, and notes events that are as `P` says. -/
structure Watches (watched : Op (σ × List Event) α) (op : Op σ α) (P : α → List Event → Prop) :
    Prop where
  run : ∀ site, ∃ events,
    watched site = ((op (unwatched site)).1,
        watching (op (unwatched site)).2 (site.state.2 ++ events))
      ∧ P (op (unwatched site)).1 events

namespace Watches

variable {P : α → List Event → Prop} {Q : β → List Event → Prop}

theorem pure {a : α} (h : P a []) :
  Watches (Pure.pure a : Op (σ × List Event) α) (Pure.pure a) P
  := by
  constructor
  intro site
  use []
  rw [List.append_nil]
  exact ⟨rfl, h⟩

theorem noted {op : Op σ α} {event : α → Event} (h : ∀ a, P a [event a]) :
  Watches (noted op event) op P
  := ⟨fun site => ⟨[event (op (unwatched site)).1], rfl, h _⟩⟩

theorem bind {watched : Op (σ × List Event) α} {op : Op σ α} {next : α → Op (σ × List Event) β}
    {next' : α → Op σ β} (h : Watches watched op P)
    (hnext : ∀ a events, P a events →
      Watches (next a) (next' a) fun b more => Q b (events ++ more)) :
  Watches (watched >>= next) (op >>= next') Q
  := by
  constructor
  intro site
  obtain ⟨events, heq, hP⟩ := h.run site
  obtain ⟨more, heq', hQ⟩ := (hnext _ _ hP).run (watching (op (unwatched site)).2
    (site.state.2 ++ events))
  use events ++ more
  constructor
  · rw [Op.bind_eq, heq, heq', ← List.append_assoc]
    rfl
  · exact hQ

theorem bind_reportAll {notes : List Note} {next : Unit → Op (σ × List Event) β}
    {next' : Unit → Op σ β} (h : Watches (next ()) (next' ()) Q) :
  Watches (reportAll notes >>= next) (reportAll notes >>= next') Q
  := by
  constructor
  intro site
  exact h.run { site with notes := notes.reverse ++ site.notes }

theorem imp {watched : Op (σ × List Event) α} {op : Op σ α} {P' : α → List Event → Prop}
    (h : Watches watched op P) (hP : ∀ a events, P a events → P' a events) :
  Watches watched op P'
  := by
  constructor
  intro site
  obtain ⟨events, heq, hevents⟩ := h.run site
  exact ⟨events, heq, hP _ _ hevents⟩

end Watches

variable {uplink : Uplink σ} {monitor : Monitor}

/-- The number of the attempt that is due if the network is found down. -/
def due (monitor : Monitor) : UInt32 :=
  if monitor.signal.isConnected then 1 else monitor.attempts + 1

theorem setSignal_watched (isUp : Bool) :
  Watches (monitor.setSignal isUp : Op (σ × List Event) Monitor) (monitor.setSignal isUp)
    fun after events => events = [] ∧ after = { monitor with signal := ⟨isUp⟩ }
  := by
  apply Watches.bind_reportAll
  exact .pure ⟨rfl, rfl⟩

theorem rest_watched :
  Watches (monitor.rest : Op (σ × List Event) Monitor) monitor.rest
    fun after events => events = [] ∧ after.signal = monitor.signal
  := by
  unfold rest
  split
  · exact .pure ⟨rfl, rfl⟩
  · apply Watches.bind_reportAll
    exact .pure ⟨rfl, rfl⟩

theorem look_watched :
  Watches (monitor.look uplink.watched) (monitor.look uplink)
    fun (after, attempt) events =>
      (attempt = none ∧ events = [.found true] ∧ after.signal.isConnected = true)
        ∨ (attempt = some monitor.due ∧ events = [.found false]
          ∧ after = { attempts := monitor.due, signal := ⟨false⟩ })
  := by
  apply Watches.bind (Watches.noted (P := fun isUp events => events = [.found isUp]) fun _ => rfl)
  rintro isUp _ rfl
  apply (setSignal_watched isUp).bind
  rintro _ _ ⟨rfl, rfl⟩
  cases isUp with
  | true =>
      apply rest_watched.bind
      rintro after _ ⟨rfl, hsignal⟩
      apply Watches.pure
      exact .inl ⟨rfl, rfl, by rw [hsignal]⟩
  | false =>
      cases hup : monitor.signal.isConnected with
      | true =>
          apply Watches.bind_reportAll
          apply Watches.pure
          exact .inr ⟨by simp [due, hup], rfl, by simp [due, hup]⟩
      | false =>
          apply Watches.pure
          exact .inr ⟨by simp [due, hup], rfl, by simp [due, hup]⟩

theorem backOff_watched (attempt : UInt32) :
  Watches (backOff uplink.watched attempt) (backOff uplink attempt)
    fun _ events => events = [.paused (wait attempt).toNat]
  := by
  apply Watches.bind_reportAll
  exact Watches.noted (P := fun _ events => events = [.paused (wait attempt).toNat]) fun _ => rfl

theorem restartIfDue_watched (attempt : UInt32) :
  Watches (restartIfDue uplink.watched attempt) (restartIfDue uplink attempt)
    fun _ events => ∃ outcome, events = if restarts attempt then [.restarted outcome] else []
  := by
  unfold restartIfDue
  split
  · apply Watches.bind (Watches.noted (P := fun outcome events => events = [.restarted outcome])
      fun _ => rfl)
    rintro outcome _ rfl
    cases outcome with
    | error message =>
        apply Watches.bind_reportAll
        exact .pure ⟨_, rfl⟩
    | ok => exact .pure ⟨_, rfl⟩
  · exact .pure ⟨.ok (), rfl⟩

theorem rejoin_watched (h : monitor.signal.isConnected = false) :
  Watches (monitor.rejoin uplink.watched) (monitor.rejoin uplink)
    fun after events => ∃ outcome, events = [.reconnected outcome]
      ∧ after = { monitor with signal := ⟨outcome.isOk⟩ }
  := by
  apply Watches.bind (Watches.noted (P := fun outcome events => events = [.reconnected outcome])
    fun _ => rfl)
  rintro outcome _ rfl
  cases outcome with
  | ok =>
      apply (setSignal_watched true).imp
      rintro _ _ ⟨rfl, rfl⟩
      exact ⟨_, rfl, rfl⟩
  | error message =>
      apply Watches.bind_reportAll
      exact .pure ⟨_, rfl, by rw [Except.isOk, Except.toBool, ← h]⟩

/-- What a poll does, by the number of the attempt that is due if the network is found down: it
leaves the network alone, or waits, restarts the radio every third time, and reconnects. -/
inductive Course (attempt : UInt32) : Monitor → List Event → Prop
  | rest {after : Monitor} : after.signal.isConnected = true → Course attempt after [.found true]
  | retry (restart outcome : Except String Unit) :
      Course attempt { attempts := attempt, signal := ⟨outcome.isOk⟩ }
        (.found false :: .paused (wait attempt).toNat ::
          (if restarts attempt then [.restarted restart] else []) ++ [.reconnected outcome])

theorem poll_watched :
  Watches (monitor.poll uplink.watched) (monitor.poll uplink) (Course monitor.due)
  := by
  apply look_watched.bind
  rintro ⟨after, attempt⟩ _ (⟨rfl, rfl, hup⟩ | ⟨rfl, rfl, rfl⟩)
  · exact .pure (.rest hup)
  · apply (backOff_watched monitor.due).bind
    rintro _ _ rfl
    apply (restartIfDue_watched monitor.due).bind
    rintro _ _ ⟨restart, rfl⟩
    apply (rejoin_watched rfl).imp
    rintro _ _ ⟨outcome, rfl, rfl⟩
    exact .retry restart outcome

/-! ### Waiting in words of 32 bits -/

/-- A difference, unless it is below zero. -/
def subtract? (a b : UInt32) : Option UInt32 :=
  if b.toNat ≤ a.toNat then some (a - b) else none

/-- A word with its bits moved up, unless the word is too narrow for that. -/
def shift? (a b : UInt32) : Option UInt32 :=
  if b.toNat < 32 ∧ a.toNat * 2 ^ b.toNat < UInt32.size then some (a <<< b) else none

/-- A product, unless the word is too narrow for it. -/
def multiply? (a b : UInt32) : Option UInt32 :=
  if a.toNat * b.toNat < UInt32.size then some (a * b) else none

/-- The milliseconds before an attempt, unless they cannot be worked out within the words. -/
def wait? (attempt : UInt32) : Option UInt32 := do
  let factor ← shift? 1 (min (← subtract? attempt 1) 4)
  multiply? (min 60 (← multiply? 5 factor)) 1000

variable {n : Nat}

theorem min_sub_one (hpos : 0 < n) (hn : n < UInt32.size) :
  min (UInt32.ofNat n - 1) 4 = UInt32.ofNat (min (n - 1) 4)
  := by
  have hsub : UInt32.ofNat n - 1 = UInt32.ofNat (n - 1) := (UInt32.ofNat_sub hpos).symm
  have hle : UInt32.ofNat (n - 1) ≤ 4 ↔ n - 1 ≤ 4 := by
    rw [UInt32.le_iff_toNat_le, UInt32.toNat_ofNat_of_lt' (by omega)]
    rfl
  rw [hsub]
  change (if UInt32.ofNat (n - 1) ≤ 4 then UInt32.ofNat (n - 1) else 4) = _
  by_cases h : n - 1 ≤ 4
  · rw [if_pos (hle.mpr h), Nat.min_eq_left h]
  · rw [if_neg (mt hle.mp h), Nat.min_eq_right (Nat.le_of_not_le h)]
    rfl

/-- From the fifth attempt on the pause is as long as it can be. -/
theorem min_pow (n : Nat) :
  min 60 (5 * 2 ^ n) = min 60 (5 * 2 ^ min n 4)
  := by
  rcases Nat.le_total n 4 with h | h
  · rw [Nat.min_eq_left h]
  · have hpow : 2 ^ 4 ≤ 2 ^ n := Nat.pow_le_pow_right (by decide) h
    rw [Nat.min_eq_right h]
    omega

/-- Nothing exceeds the words on the way to a pause. -/
theorem wait?_ofNat (hpos : 0 < n) (hn : n < UInt32.size) :
  wait? (UInt32.ofNat n) = some (UInt32.ofNat (min 60 (5 * 2 ^ (n - 1)) * 1000))
  := by
  have hone : subtract? (UInt32.ofNat n) 1 = some (UInt32.ofNat n - 1) := by
    apply if_pos
    rw [UInt32.toNat_ofNat_of_lt' hn]
    exact hpos
  rw [wait?, hone, Option.bind_eq_bind, Option.bind_some, min_sub_one hpos hn, min_pow]
  have hle : min (n - 1) 4 ≤ 4 := Nat.min_le_right _ _
  generalize min (n - 1) 4 = k at hle ⊢
  interval_cases k <;> rfl

/-- Where nothing exceeds the words, the pause is what it comes to without such care. -/
theorem wait_eq_of_wait? {attempt milliseconds : UInt32} (h : wait? attempt = some milliseconds) :
  wait attempt = milliseconds
  := by
  simp only [wait?, Option.bind_eq_bind, Option.bind_eq_some_iff] at h
  obtain ⟨failures, hfailures, factor, hfactor, seconds, hseconds, hwait⟩ := h
  obtain rfl := Option.some.inj (Option.ite_none_right_eq_some.mp hfailures).2
  obtain rfl := Option.some.inj (Option.ite_none_right_eq_some.mp hfactor).2
  obtain rfl := Option.some.inj (Option.ite_none_right_eq_some.mp hseconds).2
  exact Option.some.inj (Option.ite_none_right_eq_some.mp hwait).2

theorem toNat_wait (hpos : 0 < n) (hn : n < UInt32.size) :
  (wait (UInt32.ofNat n)).toNat = min 60 (5 * 2 ^ (n - 1)) * 1000
  := by
  rw [wait_eq_of_wait? (wait?_ofNat hpos hn)]
  apply UInt32.toNat_ofNat_of_lt'
  have hle : min 60 (5 * 2 ^ (n - 1)) ≤ 60 := Nat.min_le_left _ _
  rw [UInt32.size]
  omega

theorem restarts_ofNat (hn : n < UInt32.size) :
  restarts (UInt32.ofNat n) = true ↔ 3 ∣ n
  := by
  rw [restarts, beq_iff_eq, ← UInt32.toNat_inj, UInt32.toNat_mod, UInt32.toNat_ofNat_of_lt' hn,
    Nat.dvd_iff_mod_eq_zero]
  rfl

end Monitor

/-! ### One poll after the other -/

/-- A poll: what the monitor has had its station do, and the monitor afterwards. -/
structure Poll where
  events : List Monitor.Event
  after : Monitor

namespace Poll

/-- The network was found up. -/
def FoundUp (poll : Poll) : Prop :=
  .found true ∈ poll.events

/-- The attempt to reconnect has succeeded. -/
def Reconnected (poll : Poll) : Prop :=
  .reconnected (.ok ()) ∈ poll.events

instance (poll : Poll) : Decidable poll.FoundUp :=
  inferInstanceAs (Decidable (_ ∈ _))

instance (poll : Poll) : Decidable poll.Reconnected :=
  inferInstanceAs (Decidable (_ ∈ _))

/-- Whether an outage goes on after a poll. -/
def isFailure (poll : Poll) : Bool :=
  ¬ (poll.FoundUp ∨ poll.Reconnected)

/-- The place in its outage that a poll has which finds the network down, by the polls before it,
the latest first. -/
def place (earlier : List Poll) : Nat :=
  (earlier.takeWhile isFailure).length + 1

/-- A poll is as it has to be if it would be the `n`-th of an outage. -/
structure IsScheduled (n : Nat) (poll : Poll) : Prop where
  /-- Afterwards the signal says whether the network was found up or has been reconnected. -/
  signal : poll.after.signal.isConnected = true ↔ poll.FoundUp ∨ poll.Reconnected
  /-- Nothing is done to a network that is up. -/
  rests : poll.FoundUp → poll.events = [.found true]
  /-- Otherwise this is the `n`-th attempt. -/
  counts : ¬ poll.FoundUp → poll.after.attempts = UInt32.ofNat n
  /-- It comes after a pause that doubles up to a minute, and every third one restarts the radio. -/
  retries : ¬ poll.FoundUp → n < UInt32.size → ∃ restart outcome,
    poll.events = .found false :: .paused (min 60 (5 * 2 ^ (n - 1)) * 1000) ::
      (if 3 ∣ n then [.restarted restart] else []) ++ [.reconnected outcome]
  /-- Nothing exceeds the words of 32 bits on the way to the pause. -/
  fits : n < UInt32.size → Monitor.wait? (UInt32.ofNat n)
    = some (UInt32.ofNat (min 60 (5 * 2 ^ (n - 1)) * 1000))

end Poll

namespace Monitor

variable {attempt : UInt32} {after : Monitor} {events : List Event}

theorem Course.foundUp_iff (h : Course attempt after events) :
  Poll.FoundUp ⟨events, after⟩ ↔ events = [.found true]
  := by
  cases h with
  | rest _ => simp [Poll.FoundUp]
  | retry restart outcome => split <;> simp [Poll.FoundUp]

theorem Course.signal_iff (h : Course attempt after events) :
  after.signal.isConnected = true ↔ Poll.FoundUp ⟨events, after⟩ ∨ Poll.Reconnected ⟨events, after⟩
  := by
  cases h with
  | rest hup => simp [Poll.FoundUp, hup]
  | retry restart outcome =>
      cases outcome <;> split <;> simp [Poll.FoundUp, Poll.Reconnected, Except.isOk, Except.toBool]

theorem Course.isFailure_eq (h : Course attempt after events) :
  Poll.isFailure ⟨events, after⟩ = !after.signal.isConnected
  := by
  rw [Bool.eq_iff_iff, Poll.isFailure, decide_eq_true_iff, ← h.signal_iff, Bool.not_eq_true',
    Bool.not_eq_true]

/-- The attempts are counted on after a failure, and anew after any other poll. -/
theorem Course.due_eq (h : Course attempt after events) :
  after.due = if Poll.isFailure ⟨events, after⟩ then attempt + 1 else 1
  := by
  rw [h.isFailure_eq]
  cases h with
  | rest hup =>
      rw [due, if_pos hup, hup]
      rfl
  | retry restart outcome => cases outcome <;> rfl

/-- A poll for which the `n`-th attempt is due is as it has to be. -/
theorem Course.isScheduled {n : Nat} (hpos : 0 < n)
    (h : Course (UInt32.ofNat n) after events) :
  Poll.IsScheduled n ⟨events, after⟩
  := by
  constructor
  case signal => exact h.signal_iff
  case rests => exact h.foundUp_iff.mp
  case counts =>
    intro hdown
    cases h with
    | rest _ => exact absurd (List.mem_singleton_self _) hdown
    | retry restart outcome => rfl
  case retries =>
    intro hdown hn
    cases h with
    | rest _ => exact absurd (List.mem_singleton_self _) hdown
    | retry restart outcome =>
        refine ⟨restart, outcome, ?_⟩
        simp only [toNat_wait hpos hn, restarts_ofNat hn]
  case fits => exact wait?_ofNat hpos

variable {uplink : Uplink σ} {monitor : Monitor}

/-- A poll at a site, watched. -/
def observe (uplink : Uplink σ) (monitor : Monitor) (site : Site σ) : Poll :=
  let (after, watched) := monitor.poll uplink.watched (watching site [])
  ⟨watched.state.2, after⟩

/-- The monitor comes to the same whether it is watched or not. -/
theorem observe_eq (uplink : Uplink σ) (monitor : Monitor) (site : Site σ) :
  (monitor.observe uplink site).after = (monitor.poll uplink site).1
    ∧ Course monitor.due (monitor.observe uplink site).after (monitor.observe uplink site).events
  := by
  obtain ⟨events, heq, hcourse⟩ := poll_watched.run (watching site [])
  rw [observe, heq]
  exact ⟨rfl, hcourse⟩

/-- The monitor after a poll at each of the sites, the latest first, and these polls. -/
def pollAll (uplink : Uplink σ) (monitor : Monitor) : List (Site σ) → Monitor × List Poll
  | [] => (monitor, [])
  | site :: earlier =>
    let (monitor, polls) := monitor.pollAll uplink earlier
    ((monitor.poll uplink site).1, monitor.observe uplink site :: polls)

theorem pollAll_cons (site : Site σ) (earlier : List (Site σ)) :
  monitor.pollAll uplink (site :: earlier)
    = (((monitor.pollAll uplink earlier).1.poll uplink site).1,
      (monitor.pollAll uplink earlier).1.observe uplink site :: (monitor.pollAll uplink earlier).2)
  := rfl

/-- The number of the attempt that is due is its place in the outage. -/
theorem due_pollAll (h : monitor.due = 1) (sites : List (Site σ)) :
  (monitor.pollAll uplink sites).1.due = UInt32.ofNat (Poll.place (monitor.pollAll uplink sites).2)
  := by
  induction sites with
  | nil => exact h
  | cons site earlier ih =>
      obtain ⟨hafter, hcourse⟩ := observe_eq uplink (monitor.pollAll uplink earlier).1 site
      rw [pollAll_cons, ← hafter, hcourse.due_eq, Poll.place, List.takeWhile_cons]
      split
      · rw [ih, List.length_cons, UInt32.ofNat_add, Poll.place]
        rfl
      · rfl

theorem due_start (signal : Connectivity) (site : Site σ) :
  (start uplink { signal } site).1.due = 1
  := by
  change (if (uplink.isUp site).1 then 1 else (0 : UInt32) + 1) = 1
  split <;> rfl

/-- Whatever the station does, and whatever becomes of it between the polls, the signal says after
every poll whether the network was found up or has been reconnected. As long as an outage has fewer
than `2 ^ 32` polls, its `n`-th poll waits for `5 * 2 ^ (n - 1)` seconds, but for a minute at most,
then restarts the radio exactly if three divides `n`, and then reconnects; and nothing on the way to
this pause exceeds the words in which the attempts are counted. -/
theorem pollAll_scheduled (uplink : Uplink σ) (signal : Connectivity) (first : Site σ)
    (sites : List (Site σ)) :
  Throughout (fun poll earlier => poll.IsScheduled (Poll.place earlier))
    ((start uplink { signal } first).1.pollAll uplink sites).2
  := by
  induction sites with
  | nil => exact .nil
  | cons site earlier ih =>
      apply ih.cons
      obtain ⟨-, hcourse⟩ := observe_eq uplink
        ((start uplink { signal } first).1.pollAll uplink earlier).1 site
      rw [due_pollAll (due_start signal first)] at hcourse
      exact hcourse.isScheduled (Nat.succ_pos _)

/-- A network that is down, can be joined from the third attempt on, and then goes down again. -/
example :
    let down : Site Bench.Line := { state := {} }
    let joinable : Site Bench.Line := { state := { connects := true } }
    (pollAll Bench.Line.uplink {} [down, joinable, down, down]).2.map Poll.events = [
      [.found false, .paused 5000, .reconnected (.error "connect")],
      [.found false, .paused 20000, .restarted (.error "restart"), .reconnected (.ok ())],
      [.found false, .paused 10000, .reconnected (.error "connect")],
      [.found false, .paused 5000, .reconnected (.error "connect")]] := by
  decide

end Monitor

end FirmwareUpdate.Device
