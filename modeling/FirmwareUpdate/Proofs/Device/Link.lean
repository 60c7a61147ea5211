import FirmwareUpdate.Bench.Chip
import FirmwareUpdate.Device.Link
import FirmwareUpdate.Proofs.Ensures
import FirmwareUpdate.Proofs.Throughout

/-!
# The connections of a link

The kit gives a handle for every connection that it opens, and the link has to free it. Which
handles are still to be freed is read off the record of exchanges alone, whatever the link believes:
a handle is to be freed from the answer that gave it until the query that frees it.

The link always knows of the connection that is to be freed (`Link.IsKept`), and there is never more
than one. The main statement is `Link.live_frees_once`.
-/

namespace FirmwareUpdate.Device

variable {κ : Type} {connection : Handle} {opened : Option Handle} {exchange : Exchange}
  {record : List Exchange}

/-! ### Handles in a record of exchanges -/

/-- The connection that a query is about. -/
def Query.connection? : Query → Option Handle
  | establish connection _ | context connection | verdict connection | peerCertificate connection
  | send connection _ | receive connection _ | free connection => some connection
  | _ => none

/-- The connection that a query looks into, for what the handshake has left there. -/
def Query.inspected? : Query → Option Handle
  | verdict connection | peerCertificate connection => some connection
  | _ => none

/-- What becomes of the handle of a connection. -/
inductive Turn
  | opened (connection : Handle)
  | freed (connection : Handle)
deriving DecidableEq, Repr

/-- What an exchange makes of the handle of a connection, if anything. -/
def Exchange.turn? : Exchange → Option Turn
  | ⟨.newConnection, connection⟩ => Option.map .opened connection
  | ⟨.free connection, _⟩ => some (.freed connection)
  | _ => none

/-- The connections that have been opened and not freed, by the exchanges so far, the latest
first. -/
def unfreed : List Exchange → List Handle
  | [] => []
  | exchange :: earlier =>
    match exchange.turn? with
    | some (.opened connection) => connection :: unfreed earlier
    | some (.freed connection) => (unfreed earlier).erase connection
    | none => unfreed earlier

/-- An exchange keeps to the connections that are open after the exchanges before it. -/
structure Exchange.IsProper (exchange : Exchange) (earlier : List Exchange) : Prop where
  /-- A query is about a connection that has been opened and not freed. -/
  uses : ∀ connection, exchange.query.connection? = some connection → connection ∈ unfreed earlier
  /-- A connection is opened only when all others have been freed. -/
  opens : exchange.query = .newConnection → unfreed earlier = []
  /-- A connection is looked into only right after the kit has said that there is something to be
  seen. -/
  looks : ∀ connection, exchange.query.inspected? = some connection →
    earlier.head? = some ⟨.context connection, true⟩

theorem Exchange.query_of_opened (h : exchange.turn? = some (.opened connection)) :
  exchange.query = .newConnection
  := by
  obtain ⟨query, answer⟩ := exchange
  cases query with
  | newConnection => rfl
  | _ => cases h

theorem Exchange.query_of_freed (h : exchange.turn? = some (.freed connection)) :
  exchange.query = .free connection
  := by
  obtain ⟨query, answer⟩ := exchange
  cases query with
  | newConnection => cases answer <;> cases h
  | free _ =>
      cases h
      rfl
  | _ => cases h

theorem unfreed_of_opened (h : exchange.turn? = some (.opened connection)) :
  unfreed (exchange :: record) = connection :: unfreed record
  := by
  rw [unfreed, h]

theorem unfreed_of_freed (h : exchange.turn? = some (.freed connection)) :
  unfreed (exchange :: record) = (unfreed record).erase connection
  := by
  rw [unfreed, h]

theorem unfreed_of_other (h : exchange.turn? = none) :
  unfreed (exchange :: record) = unfreed record
  := by
  rw [unfreed, h]

/-- A proper exchange opens the only connection, frees it, or leaves the handles alone. -/
theorem Exchange.IsProper.cases_turn (h : exchange.IsProper record)
    (hone : (unfreed record).length ≤ 1) :
  (∃ connection, exchange.turn? = some (.opened connection) ∧ unfreed record = []
      ∧ unfreed (exchange :: record) = [connection])
    ∨ (∃ connection, exchange.turn? = some (.freed connection) ∧ unfreed record = [connection]
      ∧ unfreed (exchange :: record) = [])
    ∨ (exchange.turn? = none ∧ unfreed (exchange :: record) = unfreed record)
  := by
  cases hturn : exchange.turn? with
  | none => exact .inr (.inr ⟨rfl, unfreed_of_other hturn⟩)
  | some turn =>
      cases turn with
      | opened connection =>
          have hnone := h.opens (Exchange.query_of_opened hturn)
          refine .inl ⟨connection, rfl, hnone, ?_⟩
          rw [unfreed_of_opened hturn, hnone]
      | freed connection =>
          have hmem : connection ∈ unfreed record := by
            apply h.uses
            rw [Exchange.query_of_freed hturn]
            rfl
          have hall : unfreed record = [connection] := by
            obtain ⟨other, hother⟩ := List.length_eq_one_iff.mp
              (Nat.le_antisymm hone (List.length_pos_of_mem hmem))
            rw [hother, List.mem_singleton] at hmem
            rw [hother, hmem]
          refine .inr (.inl ⟨connection, rfl, hall, ?_⟩)
          rw [unfreed_of_freed hturn, hall, List.erase_cons_head]

/-- In a proper record no two connections are open together. -/
theorem length_unfreed_le (h : Throughout Exchange.IsProper record) :
  (unfreed record).length ≤ 1
  := by
  induction record with
  | nil => exact Nat.zero_le 1
  | cons exchange earlier ih =>
      have hone := ih (h.of_suffix (List.suffix_cons exchange earlier))
      obtain ⟨_, -, -, heq⟩ | ⟨_, -, -, heq⟩ | ⟨-, heq⟩ :=
        (h exchange earlier (List.suffix_refl _)).cases_turn hone
      · exact heq ▸ Nat.le_refl 1
      · exact heq ▸ Nat.zero_le 1
      · exact heq ▸ hone

/-- In a proper record the handles are opened and freed in turns: whatever is freed has been opened
just before, and nothing else is opened until it is freed. -/
theorem exists_turns (h : Throughout Exchange.IsProper record) :
  ∃ connections : List Handle, record.filterMap Exchange.turn?
    = (unfreed record).map .opened ++ connections.flatMap fun connection =>
        [.freed connection, .opened connection]
  := by
  induction record with
  | nil => exact ⟨[], rfl⟩
  | cons exchange earlier ih =>
      have hbefore := h.of_suffix (List.suffix_cons exchange earlier)
      obtain ⟨connections, hturns⟩ := ih hbefore
      obtain ⟨connection, hturn, hnone, heq⟩ | ⟨connection, hturn, hall, heq⟩ | ⟨hturn, heq⟩ :=
        (h exchange earlier (List.suffix_refl _)).cases_turn (length_unfreed_le hbefore)
      · use connections
        rw [heq, List.filterMap_cons_some hturn, hturns, hnone]
        rfl
      · use connection :: connections
        rw [heq, List.filterMap_cons_some hturn, hturns, hall]
        rfl
      · use connections
        rw [heq, List.filterMap_cons_none hturn, hturns]

/-- The record is proper, and the given connection is all that is still to be freed. -/
structure Custody (opened : Option Handle) (record : List Exchange) : Prop where
  proper : Throughout Exchange.IsProper record
  unfreed_eq : unfreed record = opened.toList

namespace Custody

/-- An exchange that leaves the handles alone. -/
theorem beside (h : Custody opened record) (hturn : exchange.turn? = none)
    (hproper : exchange.IsProper record) :
  Custody opened (exchange :: record)
  := by
  constructor
  case proper => exact h.proper.cons hproper
  case unfreed_eq => rw [unfreed_of_other hturn, h.unfreed_eq]

/-- When nothing is to be freed, a connection may be opened. -/
theorem opening (h : Custody none record) (answer : Option Handle) :
  Custody answer (⟨.newConnection, answer⟩ :: record)
  := by
  constructor
  case proper =>
    apply h.proper.cons
    exact ⟨nofun, fun _ => h.unfreed_eq, nofun⟩
  case unfreed_eq =>
    cases answer with
    | none => exact h.unfreed_eq
    | some connection => exact congrArg (connection :: ·) h.unfreed_eq

/-- The connection that is to be freed may be freed. -/
theorem freeing (h : Custody (some connection) record) :
  Custody none (⟨.free connection, ()⟩ :: record)
  := by
  constructor
  case proper =>
    apply h.proper.cons
    refine ⟨?_, nofun, nofun⟩
    rintro _ ⟨⟩
    rw [h.unfreed_eq]
    apply List.mem_singleton_self
  case unfreed_eq =>
    rw [unfreed_of_freed rfl, h.unfreed_eq]
    apply List.erase_cons_head

/-- The connection that is to be freed may be asked about. -/
theorem asking {query : Query} (h : Custody (some connection) record) (answer : query.Answer)
    (hconnection : query.connection? = some connection)
    (hturn : Exchange.turn? ⟨query, answer⟩ = none)
    (hlooks : ∀ other, query.inspected? = some other →
      record.head? = some ⟨.context other, true⟩) :
  Custody (some connection) (⟨query, answer⟩ :: record)
  := by
  apply h.beside hturn
  constructor
  case uses =>
    intro other hother
    obtain rfl := Option.some.inj (hconnection.symm.trans hother)
    rw [h.unfreed_eq]
    apply List.mem_singleton_self
  case opens =>
    rintro (rfl : query = .newConnection)
    cases hconnection
  case looks => exact hlooks

end Custody

namespace Link

variable {kit : Kit κ} {α : Type}

/-! ### What the link knows -/

/-- The link knows that the given connection is all that is still to be freed. -/
structure Holds (opened : Option Handle) (board : Board κ) : Prop where
  custody : Custody opened board.exchanges
  connection_eq : board.link.connection = opened

/-- The link knows of the connection that is still to be freed. -/
def IsKept (board : Board κ) : Prop :=
  Holds board.link.connection board

theorem Holds.isKept {board : Board κ} (h : Holds opened board) :
  IsKept board
  := by
  rw [IsKept, h.connection_eq]
  exact h

/-- The link holds a connection, and the kit has just said that there is something to be seen in
it. -/
structure Sees (connection : Handle) (board : Board κ) : Prop where
  holds : Holds (some connection) board
  head?_eq : board.exchanges.head? = some ⟨.context connection, true⟩

/-- An operation leaves the connection that is still to be freed in the hands of the link. -/
abbrev Keeps (op : Op (Board κ) α) : Prop :=
  op.Ensures IsKept fun _ => IsKept

/-- An operation that only answers. -/
theorem ensures_pure {a : α} :
  (pure a : Op (Board κ) α).Ensures (Holds opened) fun _ => IsKept
  := .pure fun _ h => h.isKept

/-- An operation that looks at the link finds the connection that is to be freed. -/
theorem ensures_theLink {next : Link → Op (Board κ) α} {Q : α → Board κ → Prop}
    (h : ∀ link, (next link).Ensures (Holds link.connection) Q) :
  (theLink >>= next).Ensures IsKept Q
  := by
  constructor
  intro site hsite
  apply (h site.state.link).run site hsite

/-- The link takes note of the connection that is to be freed. -/
theorem ensures_changeLink {f : Link → Link} (h : ∀ link, (f link).connection = opened) :
  (changeLink f : Op (Board κ) Unit).Ensures (fun board => Custody opened board.exchanges)
    fun _ => Holds opened
  := .onState fun _ hcustody => ⟨hcustody, h _⟩

/-- A change of the link that does not concern its connection. -/
theorem holds_changeLink {f : Link → Link} (h : ∀ link, (f link).connection = link.connection) :
  (changeLink f : Op (Board κ) Unit).Ensures (Holds opened) fun _ => Holds opened
  := .onState fun _ hheld => ⟨hheld.custody, (h _).trans hheld.connection_eq⟩

theorem keeps_changeLink {f : Link → Link} (h : ∀ link, (f link).connection = link.connection) :
  Keeps (changeLink f : Op (Board κ) Unit)
  := by
  constructor
  intro site hsite
  exact ((holds_changeLink h).run site hsite).isKept

/-! ### What the link asks of the kit -/

/-- Asking adds an exchange to the record, with whatever the kit answers. -/
theorem ensures_ask {query : Query} {P : Board κ → Prop} {Q : query.Answer → Board κ → Prop}
    (h : ∀ board answer state, P board →
      Q answer { board with kit := state, exchanges := ⟨query, answer⟩ :: board.exchanges }) :
  (ask kit query).Ensures P Q
  := .onState fun board hboard => h board _ _ hboard

theorem ensures_newConnection :
  (ask kit .newConnection).Ensures (Holds none) fun (answer : Option Handle) board =>
    Custody answer board.exchanges
  := ensures_ask fun _ answer _ h => h.custody.opening answer

theorem ensures_free :
  (ask kit (.free connection)).Ensures (Holds (some connection)) fun _ board =>
    Custody none board.exchanges
  := ensures_ask fun _ _ _ h => h.custody.freeing

theorem ensures_context :
  (ask kit (.context connection)).Ensures (Holds (some connection)) fun (isThere : Bool) board =>
    if isThere then Sees connection board else Holds (some connection) board
  := by
  apply ensures_ask
  intro board answer state h
  have hasked : Holds (some connection) { board with
      kit := state, exchanges := ⟨.context connection, answer⟩ :: board.exchanges } :=
    ⟨h.custody.asking answer rfl rfl nofun, h.connection_eq⟩
  cases answer with
  | false => exact hasked
  | true => exact ⟨hasked, rfl⟩

/-- A query about the open connection that does not look into it. -/
theorem ensures_use {query : Query} (hconnection : query.connection? = some connection)
    (hturn : ∀ answer, Exchange.turn? ⟨query, answer⟩ = none) (hlooks : query.inspected? = none) :
  (ask kit query).Ensures (Holds (some connection)) fun _ => Holds (some connection)
  := by
  apply ensures_ask
  intro board answer state h
  refine ⟨h.custody.asking answer hconnection (hturn answer) ?_, h.connection_eq⟩
  intro other hother
  rw [hlooks] at hother
  cases hother

/-- A query that looks into the open connection. -/
theorem ensures_look {query : Query} (hconnection : query.connection? = some connection)
    (hturn : ∀ answer, Exchange.turn? ⟨query, answer⟩ = none)
    (hlooks : query.inspected? = some connection) :
  (ask kit query).Ensures (Sees connection) fun _ => Holds (some connection)
  := by
  apply ensures_ask
  intro board answer state h
  refine ⟨h.holds.custody.asking answer hconnection (hturn answer) ?_, h.holds.connection_eq⟩
  intro other hother
  obtain rfl := Option.some.inj (hlooks.symm.trans hother)
  exact h.head?_eq

/-! ### What the operations leave -/

theorem close_frees :
  (close kit).Ensures IsKept fun _ => Holds none
  := by
  apply ensures_theLink
  intro link
  cases link.connection with
  | none => exact .pure fun _ h => h
  | some connection =>
      apply Op.Ensures.bind ensures_free
      intro _
      apply ensures_changeLink
      intro _
      rfl

theorem configure_keeps (identity : Identity) :
  Keeps (configure identity : Op (Board κ) Outcome)
  := by
  unfold configure
  dsimp only
  split
  · exact .pure fun _ h => h
  · apply Op.Ensures.bind
    · apply keeps_changeLink
      intro _
      rfl
    · intro _
      apply Op.Ensures.bind_report
      exact .pure fun _ h => h

theorem dial_keeps (host : String) (port : UInt16) :
  Keeps (dial kit host port)
  := by
  apply ensures_theLink
  intro link
  split
  · apply ensures_pure
  apply Op.Ensures.bind (close_frees.imp_left fun _ h => h.isKept)
  intro _
  split
  · apply ensures_pure
  apply Op.Ensures.bind ensures_newConnection
  intro answer
  apply Op.Ensures.bind
  · apply ensures_changeLink
    intro _
    rfl
  · intro _
    split
    · apply Op.Ensures.bind_report
      apply ensures_pure
    · apply ensures_pure

theorem handshake_keeps (limit : UInt32) :
  Keeps (handshake kit limit)
  := by
  apply ensures_theLink
  intro link
  cases link.connection with
  | none => apply ensures_pure
  | some connection =>
      apply Op.Ensures.bind (ensures_use rfl (fun _ => rfl) rfl)
      intro code
      split
      · apply ensures_pure
      split
      · apply ensures_pure
      · apply ensures_pure

theorem context_sees :
  (context kit).Ensures IsKept fun seen board => match seen with
    | some connection => Sees connection board
    | none => IsKept board
  := by
  apply ensures_theLink
  intro link
  cases link.connection with
  | none => exact .pure fun _ h => h.isKept
  | some connection =>
      apply Op.Ensures.bind ensures_context
      intro isThere
      cases isThere with
      | false => exact .pure fun _ h => h.isKept
      | true => exact .pure fun _ h => h

theorem verifyChain_keeps :
  Keeps (verifyChain kit)
  := by
  apply Op.Ensures.bind context_sees
  intro seen
  cases seen with
  | none => exact .pure fun _ h => h
  | some connection =>
      apply Op.Ensures.bind (ensures_look rfl (fun _ => rfl) rfl)
      intro flags
      split
      · apply ensures_pure
      · apply Op.Ensures.bind_report
        apply ensures_pure

theorem peerCertificate_keeps :
  Keeps (peerCertificate kit)
  := by
  apply Op.Ensures.bind context_sees
  intro seen
  cases seen with
  | none => exact .pure fun _ h => h
  | some connection =>
      apply (ensures_look rfl (fun _ => rfl) rfl).imp_right
      intro _ _ h
      exact h.isKept

theorem send_keeps (data : Bytes) :
  Keeps (send kit data)
  := by
  apply ensures_theLink
  intro link
  cases link.connection with
  | none => apply ensures_pure
  | some connection =>
      apply Op.Ensures.bind (ensures_use rfl (fun _ => rfl) rfl)
      intro code
      apply ensures_pure

theorem receive_keeps (capacity : Nat) :
  Keeps (receive kit capacity)
  := by
  apply ensures_theLink
  intro link
  cases link.connection with
  | none => apply ensures_pure
  | some connection =>
      apply Op.Ensures.bind (ensures_use rfl (fun _ => rfl) rfl)
      intro (code, bytes)
      apply Op.Ensures.bind
      · apply holds_changeLink
        intro _
        rfl
      · intro _
        split
        · apply (ensures_theLink fun _ => ensures_pure).imp_left
          intro _ h
          exact h.isKept
        · apply ensures_pure
        · apply ensures_pure

theorem reset_keeps :
  Keeps (reset kit)
  := by
  apply Op.Ensures.bind (close_frees.imp_right fun _ _ h => h.isKept)
  intro _
  apply keeps_changeLink
  intro _
  rfl

/-! ### The whole life of a link -/

/-- What can be done with a transport. -/
inductive Operation
  | configure (identity : Identity)
  | dial (host : String) (port : UInt16)
  | handshake
  | verifyChain
  | peerCertificate
  | send (data : Bytes)
  | receive (capacity : Nat)
  | hangUp
  | reset

/-- Does something with a transport, whatever it answers. -/
def Operation.perform {σ : Type} (t : Transport σ) : Operation → Op σ Unit
  | configure identity => discard (t.configure identity)
  | dial host port => discard (t.dial host port)
  | handshake => discard t.handshake
  | verifyChain => discard t.verifyChain
  | peerCertificate => discard t.peerCertificate
  | send data => discard (t.send data)
  | receive capacity => discard (t.receive capacity)
  | hangUp => t.hangUp
  | reset => t.reset

/-- The whole life of a link: operations in any order, and its end, which closes it. -/
def live (kit : Kit κ) (limit : UInt32) (operations : List Operation) : Op (Board κ) Unit := do
  operations.forM (Operation.perform (transport kit limit))
  close kit

theorem perform_keeps (limit : UInt32) (operation : Operation) :
  Keeps (operation.perform (transport kit limit))
  := by
  cases operation with
  | configure identity => exact (configure_keeps identity).discard
  | dial host port => exact (dial_keeps host port).discard
  | handshake => exact (handshake_keeps limit).discard
  | verifyChain => exact verifyChain_keeps.discard
  | peerCertificate => exact peerCertificate_keeps.discard
  | send data => exact (send_keeps data).discard
  | receive capacity => exact (receive_keeps capacity).discard
  | hangUp => exact close_frees.imp_right fun _ _ h => h.isKept
  | reset => exact reset_keeps

theorem performs_keep (limit : UInt32) (operations : List Operation) :
  Keeps (operations.forM (Operation.perform (transport kit limit)))
  := by
  induction operations with
  | nil => exact .pure fun _ h => h
  | cons operation operations ih =>
      exact (perform_keeps limit operation).bind fun _ => ih

theorem live_leaves (limit : UInt32) (operations : List Operation) :
  (live kit limit operations).Ensures IsKept fun _ => Holds none
  := (performs_keep limit operations).bind fun _ => close_frees

theorem isKept_start (state : κ) (logged : LogLimit) :
  IsKept { kit := state, limit := logged }
  := ⟨⟨.nil, rfl⟩, rfl⟩

/-- Whatever is done with a link and whatever the kit answers, a query is only ever made about a
connection that has been opened and not freed, there is at most one such connection at any time, and
none is left when the link has come to its end. Every handle that the kit has given is therefore
freed once: in the record, whose latest exchange is the first, each handle is freed and opened in
turn. -/
theorem live_frees_once (kit : Kit κ) (limit : UInt32) (operations : List Operation) (state : κ)
    (logged : LogLimit) :
  let start : Site (Board κ) := { state := { kit := state, limit := logged } }
  let record := (live kit limit operations start).2.state.exchanges
  Throughout (fun exchange earlier =>
      exchange.IsProper earlier ∧ (unfreed (exchange :: earlier)).length ≤ 1) record
    ∧ unfreed record = []
    ∧ ∃ connections : List Handle, record.filterMap Exchange.turn?
      = connections.flatMap fun connection => [.freed connection, .opened connection]
  := by
  intro start record
  have hend : Custody none record :=
    ((live_leaves limit operations).run start (isKept_start state logged)).custody
  have hnone : unfreed record = [] := hend.unfreed_eq
  refine ⟨?_, hnone, ?_⟩
  · intro exchange earlier hsuffix
    refine ⟨hend.proper exchange earlier hsuffix, ?_⟩
    exact length_unfreed_le (hend.proper.of_suffix hsuffix)
  · obtain ⟨connections, hturns⟩ := exists_turns hend.proper
    rw [hnone] at hturns
    exact ⟨connections, hturns⟩

/-- A link that dials again and again, once to a host with a NUL character, and is reset. -/
example :
    let operations := [.configure ⟨"h", 443, "root", "peer"⟩, .dial "a" 443, .dial "b" 443,
      .dial "\x00" 443, .dial "c" 443, .reset]
    let start : Site (Board Bench.Chip) := { state := { kit := {} } }
    let record := (live (Bench.Chip.answer none) 30000 operations start).2.state.exchanges
    record.filterMap Exchange.turn?
      = [.freed 3, .opened 3, .freed 2, .opened 2, .freed 1, .opened 1] := by
  decide +kernel

end Link

end FirmwareUpdate.Device
