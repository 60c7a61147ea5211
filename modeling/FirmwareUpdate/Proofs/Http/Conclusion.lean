import FirmwareUpdate.Http.Client
import FirmwareUpdate.Proofs.Http.Feeding

/-!
# What responses come to

What a client makes of a response is computed from all of its bytes. A body that is collected, and
one that is streamed, come to the same however the response is cut into chunks, as long as none of
them is refused; a streamed body must also not be longer than its head declares.
-/

namespace FirmwareUpdate

/-- What a response comes to behind which the connection is closed: the body that its head
declares. -/
def conclude (bytes : Bytes) : Except Fault Bytes :=
  match Text.splitAtFirst Head.terminator bytes with
  | none => .error (.transport "connection closed before response headers were complete")
  | some (start, body) =>
    match Head.ofBytes start with
    | .error fault => .error (.protocol fault)
    | .ok head =>
      if head.contentLength.toNat ≤ body.length then .ok (body.take head.contentLength.toNat)
      else .error (.protocol (.truncatedBody head.contentLength.toNat body.length))

/-- Whether a fault is that a chunk was refused for its length. -/
def Fault.IsRefusal : Fault → Prop
  | .protocol fault => fault.isRefusal = true
  | _ => False

/-- Whether a result is that a chunk was refused for its length. -/
def Refused {α : Type} : Except Fault α → Prop
  | .error fault => fault.IsRefusal
  | .ok _ => False

/-- A response that has not come to anything yet: its head is not complete, or there is less of
its body than its head declares. -/
def Unconcluded (bytes : Bytes) : Prop :=
  Text.splitAtFirst Head.terminator bytes = none
    ∨ ∃ head body, response? bytes = some (head, body) ∧ body.length < head.contentLength.toNat

/-- There is not more of a body than its head declares. -/
def WithinLength (bytes : Bytes) : Prop :=
  ∀ head body, response? bytes = some (head, body) → body.length ≤ head.contentLength.toNat

section

variable {bytes start body : Bytes} {head : Head}

theorem conclude_of_none (h : Text.splitAtFirst Head.terminator bytes = none) :
  conclude bytes
    = .error (.transport "connection closed before response headers were complete")
  := by
  rw [conclude, h]

/-- A rejected head is what a response comes to, whatever follows. -/
theorem conclude_of_error {fault : ProtocolFault}
    (h : Text.splitAtFirst Head.terminator bytes = some (start, body))
    (hhead : Head.ofBytes start = .error fault) (more : Bytes) :
  conclude (bytes ++ more) = .error (.protocol fault)
  := by
  rw [conclude, Text.splitAtFirst_append h]
  dsimp only
  rw [hhead]

theorem conclude_of_response (h : response? bytes = some (head, body)) :
  conclude bytes
    = if head.contentLength.toNat ≤ body.length then .ok (body.take head.contentLength.toNat)
      else .error (.protocol (.truncatedBody head.contentLength.toNat body.length))
  := by
  obtain ⟨start, hsplit, hhead⟩ := response?_eq_some_iff.mp h
  rw [conclude, hsplit]
  dsimp only
  rw [hhead]

/-- A body that has arrived as declared is what a response comes to, whatever follows. -/
theorem conclude_of_complete (h : response? bytes = some (head, body))
    (hbody : head.contentLength.toNat ≤ body.length) (more : Bytes) :
  conclude (bytes ++ more) = .ok (body.take head.contentLength.toNat)
  := by
  have hlonger : head.contentLength.toNat ≤ (body ++ more).length := by
    rw [List.length_append]
    omega
  rw [conclude_of_response (response?_append h more), if_pos hlonger,
    List.take_append_of_le_length hbody]

end

namespace Reception

variable {r : Reception} {index : Nat} {taken chunk : Bytes}

/-- What is said of a response that has not come to anything when its connection is closed. -/
theorem conclude_of_closedEarly (h : r.Parsed taken) (hopen : Unconcluded taken) :
  conclude taken = .error (Client.closedEarly r)
  := by
  rcases hopen with hnone | ⟨head, body, hresponse, hshort⟩
  · have hhead : r.head = none := by
      rw [h.head_eq, response?, hnone]
      rfl
    rw [conclude_of_none hnone, Client.closedEarly, hhead]
  · have hhead : r.head = some head := by
      rw [h.head_eq, hresponse]
      rfl
    rw [conclude_of_response hresponse, if_neg (Nat.not_le_of_lt hshort), Client.closedEarly,
      hhead, h.received_eq, bodyOf_of_response hresponse]

/-- What a reception holds after a chunk with which the head is known, before anything is handed
out: all of the body, or what the chunk has brought of it. -/
def heldAfter (delivery : Delivery) (taken body : Bytes) : Bytes :=
  match delivery with
  | .whole => body
  | .streamed => body.drop (bodyOf taken).length

/-- What a chunk can come to that is not refused: it does not complete the head, it completes a
head that is rejected, or there is an accepted head, and what is held of the body is handed out
or not. -/
theorem feed_cases (h : (if index = 0 then r.restart else r).Parsed taken)
    (hfits : ∀ capacity required,
      (r.feed index chunk).2 ≠ .error (.bufferTooSmall capacity required)) :
  (∃ after, r.feed index chunk = (after, .ok .needMore)
      ∧ Text.splitAtFirst Head.terminator (taken ++ chunk) = none
      ∧ after.Parsed (taken ++ chunk))
  ∨ (∃ after start body fault, r.feed index chunk = (after, .error fault)
      ∧ Text.splitAtFirst Head.terminator (taken ++ chunk) = some (start, body)
      ∧ Head.ofBytes start = .error fault)
  ∨ ∃ after head body, response? (taken ++ chunk) = some (head, body)
      ∧ (r.feed index chunk = (after, .ok .needMore)
          ∧ r.delivery.isReady head (heldAfter r.delivery taken body).length = false
          ∧ after.Parsed (taken ++ chunk)
        ∨ ∃ size, r.feed index chunk = (after, .ok (.body size))
          ∧ r.delivery.isReady head (heldAfter r.delivery taken body).length = true
          ∧ (after.settle (.ok (.body size))).Parsed (taken ++ chunk)
          ∧ after.front = heldAfter r.delivery taken body)
  := by
  obtain ⟨hreply, hnext, hfront⟩ := feed_parsed index h hfits
  generalize r.feed index chunk = fed at hreply hnext hfront
  obtain ⟨after, answer⟩ := fed
  dsimp only at hreply hnext hfront
  cases hsplit : Text.splitAtFirst Head.terminator (taken ++ chunk) with
  | none =>
      rw [reply_of_none hsplit] at hreply
      obtain rfl : answer = .ok .needMore := congrArg Reply.answer hreply
      exact .inl ⟨after, rfl, rfl, hnext⟩
  | some found =>
      obtain ⟨start, body⟩ := found
      right
      cases hhead : Head.ofBytes start with
      | error fault =>
          rw [reply_of_error hsplit hhead] at hreply
          obtain rfl : answer = .error fault := congrArg Reply.answer hreply
          exact .inl ⟨after, start, body, fault, rfl, rfl, hhead⟩
      | ok head =>
          have hresponse := response?_eq_some_iff.mpr ⟨start, hsplit, hhead⟩
          rw [reply_of_response hresponse] at hreply
          change _ = Reply.ofHeld r.delivery head (heldAfter r.delivery taken body) at hreply
          refine .inr ⟨after, head, body, hresponse, ?_⟩
          unfold Reply.ofHeld at hreply
          split at hreply
          case isTrue hready =>
            obtain ⟨rfl, hhanded⟩ := Reply.mk.inj hreply
            exact .inr ⟨_, rfl, hready, hnext, (hfront _ rfl).trans hhanded⟩
          case isFalse hready =>
            obtain rfl : answer = .ok .needMore := congrArg Reply.answer hreply
            exact .inl ⟨rfl, by simpa using hready, hnext⟩

end Reception

theorem Prod.eta_of_snd {α β : Type} {x : α × β} {b : β} (h : x.2 = b) :
  x = (x.1, b)
  := Prod.ext rfl h

/-! ### Bodies that are collected -/

/-- What is collected from the chunks of a response. -/
def gather (r : Reception) (index : Nat) : List Bytes → Except Fault Bytes
  | [] => .error (Client.closedEarly r)
  | chunk :: line =>
    match r.feed index chunk with
    | (_, .error fault) => .error (.protocol fault)
    | (after, .ok .needMore) => gather after (index + 1) line
    | (after, .ok (.body size)) =>
      .ok (after.front.take (after.head.elim size (·.contentLength.toNat)))

/-- What is collected does not depend on the chunks. -/
theorem gather_eq {r : Reception} {index : Nat} {taken : Bytes} {line : List Bytes}
    (hwhole : r.delivery = .whole) (h : r.Parsed taken) (hindex : index = 0 → taken = [])
    (hopen : Unconcluded taken) (hrefused : ¬ Refused (gather r index line)) :
  gather r index line = conclude (taken ++ line.flatten)
  := by
  induction line generalizing r index taken with
  | nil =>
      rw [List.flatten_nil, List.append_nil, Reception.conclude_of_closedEarly h hopen]
      rfl
  | cons chunk line ih =>
      have hfits : ∀ capacity required,
          (r.feed index chunk).2 ≠ .error (.bufferTooSmall capacity required) := by
        intro capacity required hsmall
        apply hrefused
        rw [gather, Prod.eta_of_snd hsmall]
        rfl
      have hdelivery := (r.feed_keeps index chunk).1
      have hnext : index + 1 = 0 → taken ++ chunk = [] := fun hzero => by cases hzero
      rw [List.flatten_cons, ← List.append_assoc]
      rcases Reception.feed_cases (h.started hindex) hfits with ⟨after, hfeed, hsplit, hafter⟩
        | ⟨after, start, body, fault, hfeed, hsplit, hhead⟩
        | ⟨after, head, body, hresponse, ⟨hfeed, hready, hafter⟩
          | ⟨size, hfeed, hready, hafter, hfront⟩⟩
      · rw [hfeed] at hdelivery
        rw [gather, hfeed] at hrefused ⊢
        apply ih (hdelivery.trans hwhole) hafter hnext (.inl hsplit) hrefused
      · rw [gather, hfeed, conclude_of_error hsplit hhead]
      · rw [hwhole] at hready
        have hshort : body.length < head.contentLength.toNat :=
          Nat.lt_of_not_le (of_decide_eq_false hready)
        rw [hfeed] at hdelivery
        rw [gather, hfeed] at hrefused ⊢
        apply ih (hdelivery.trans hwhole) hafter hnext (.inr ⟨head, body, hresponse, hshort⟩)
          hrefused
      · rw [hwhole] at hready hfront
        have hcomplete : head.contentLength.toNat ≤ body.length := of_decide_eq_true hready
        rw [hfeed] at hdelivery
        have hhead : after.head = some head := by
          have hhead := hafter.head_eq
          rw [Reception.settle, hdelivery.trans hwhole, hresponse] at hhead
          apply hhead
        rw [gather, hfeed, conclude_of_complete hresponse hcomplete]
        simp only [hhead, hfront, Option.elim_some, Reception.heldAfter]

/-! ### Bodies that are streamed -/

/-- What is streamed from the chunks of a response: the fragments of its body, and how the stream
ends. -/
def unreel (r : Reception) (index : Nat) : List Bytes → List Bytes × Outcome
  | [] => ([], if r.bodyComplete then .ok () else .error (Client.closedEarly r))
  | chunk :: line =>
    match r.feed index chunk with
    | (_, .error fault) => ([], .error (.protocol fault))
    | (after, .ok .needMore) =>
      if after.bodyComplete then ([], .ok ()) else unreel after (index + 1) line
    | (after, .ok (.body _)) =>
      if after.bodyComplete then ([after.front], .ok ())
      else
        let (fragments, outcome) := unreel after.drain (index + 1) line
        (after.front :: fragments, outcome)

namespace Reception

variable {r : Reception} {index : Nat} {taken chunk : Bytes}

/-- A body is complete if as much of it has arrived as its head declares. -/
theorem Parsed.complete (h : r.Parsed taken) (hcomplete : r.bodyComplete = true) :
  ∃ head body, response? taken = some (head, body) ∧ head.contentLength.toNat ≤ body.length
  := by
  unfold bodyComplete at hcomplete
  split at hcomplete
  case h_1 head hhead =>
    obtain ⟨⟨_, body⟩, hresponse, rfl⟩ := Option.map_eq_some_iff.mp (h.head_eq.symm.trans hhead)
    rw [h.received_eq, bodyOf_of_response hresponse] at hcomplete
    exact ⟨_, body, hresponse, of_decide_eq_true hcomplete⟩
  case h_2 => cases hcomplete

/-- A response whose body is not complete has not come to anything, unless its head was
rejected. -/
theorem Parsed.unconcluded (h : r.Parsed taken) (hcomplete : ¬ r.bodyComplete = true)
    (haccepted : Text.splitAtFirst Head.terminator taken = none ∨ (response? taken).isSome = true) :
  Unconcluded taken
  := by
  apply haccepted.imp_right
  intro hsome
  obtain ⟨⟨head, body⟩, hresponse⟩ := Option.isSome_iff_exists.mp hsome
  have hhead : r.head = some head := by
    rw [h.head_eq, hresponse]
    rfl
  refine ⟨head, body, hresponse, ?_⟩
  rw [bodyComplete, hhead, h.received_eq, bodyOf_of_response hresponse, decide_eq_true_eq]
    at hcomplete
  apply Nat.lt_of_not_le hcomplete

/-- What a chunk of a streamed response can come to that is not refused: it brings nothing of the
body, it completes a head that is rejected, or it brings a fragment of the body. -/
theorem feed_streamed (hstreamed : r.delivery = .streamed)
    (h : (if index = 0 then r.restart else r).Parsed taken)
    (hfits : ∀ capacity required,
      (r.feed index chunk).2 ≠ .error (.bufferTooSmall capacity required)) :
  (∃ after, r.feed index chunk = (after, .ok .needMore) ∧ after.Parsed (taken ++ chunk)
      ∧ bodyOf (taken ++ chunk) = bodyOf taken
      ∧ (Text.splitAtFirst Head.terminator (taken ++ chunk) = none
        ∨ (response? (taken ++ chunk)).isSome = true))
  ∨ (∃ after start body fault, r.feed index chunk = (after, .error fault)
      ∧ Text.splitAtFirst Head.terminator (taken ++ chunk) = some (start, body)
      ∧ Head.ofBytes start = .error fault)
  ∨ ∃ after size, r.feed index chunk = (after, .ok (.body size))
      ∧ after.drain.Parsed (taken ++ chunk)
      ∧ bodyOf (taken ++ chunk) = bodyOf taken ++ after.front ∧ after.front ≠ []
      ∧ (response? (taken ++ chunk)).isSome = true
  := by
  have hdelivery := (r.feed_keeps index chunk).1
  rcases feed_cases h hfits with ⟨after, hfeed, hsplit, hafter⟩ | hrejected
    | ⟨after, head, body, hresponse,
        ⟨hfeed, hready, hafter⟩ | ⟨size, hfeed, hready, hafter, hfront⟩⟩
  · left
    refine ⟨after, hfeed, hafter, ?_, .inl hsplit⟩
    have hnone : response? (taken ++ chunk) = none := by
      rw [response?, hsplit]
    have hstarts := bodyOf_starts taken chunk
    rw [bodyOf_of_none hnone] at hstarts ⊢
    exact (List.prefix_nil.mp hstarts).symm
  · exact .inr (.inl hrejected)
  · left
    have hbody := List.prefix_iff_eq_append.mp (bodyOf_starts taken chunk)
    rw [hstreamed] at hready
    have hempty : body.drop (bodyOf taken).length = [] :=
      List.length_eq_zero_iff.mp (Nat.eq_zero_of_not_pos (of_decide_eq_false hready))
    rw [bodyOf_of_response hresponse, hempty, List.append_nil] at hbody
    refine ⟨after, hfeed, hafter, ?_, .inr ?_⟩
    · rw [bodyOf_of_response hresponse, hbody]
    · rw [hresponse]
      rfl
  · right
    right
    have hbody := List.prefix_iff_eq_append.mp (bodyOf_starts taken chunk)
    rw [bodyOf_of_response hresponse] at hbody
    rw [hstreamed] at hready hfront
    have hdrain : after.settle (.ok (.body size)) = after.drain := by
      rw [hfeed] at hdelivery
      rw [settle, hdelivery.trans hstreamed]
    rw [hdrain] at hafter
    refine ⟨after, size, hfeed, hafter, ?_, ?_, ?_⟩
    · rw [bodyOf_of_response hresponse, hfront]
      exact hbody.symm
    · rw [hfront]
      apply List.length_pos_iff.mp (of_decide_eq_true hready)
    · rw [hresponse]
      rfl

end Reception

section

variable {r : Reception} {index : Nat} {taken : Bytes} {line : List Bytes}

/-- Whatever a stream ends with, its fragments continue the body, and none of them is empty. -/
theorem unreel_starts (hstreamed : r.delivery = .streamed) (h : r.Parsed taken)
    (hindex : index = 0 → taken = []) :
  bodyOf taken ++ (unreel r index line).1.flatten <+: bodyOf (taken ++ line.flatten)
    ∧ [] ∉ (unreel r index line).1
  := by
  induction line generalizing r index taken with
  | nil => simp [unreel]
  | cons chunk line ih =>
      have hdelivery := (r.feed_keeps index chunk).1
      have hnext : index + 1 = 0 → taken ++ chunk = [] := fun hzero => by cases hzero
      have hnone : bodyOf taken ++ [].flatten <+: bodyOf (taken ++ (chunk :: line).flatten)
          ∧ [] ∉ ([] : List Bytes) := by
        rw [List.flatten_nil, List.append_nil]
        exact ⟨bodyOf_starts _ _, List.not_mem_nil⟩
      by_cases hfits : ∀ capacity required,
        (r.feed index chunk).2 ≠ .error (.bufferTooSmall capacity required)
      · rcases Reception.feed_streamed hstreamed (h.started hindex) hfits
          with ⟨after, hfeed, hafter, hbody, -⟩ | ⟨after, start, body, fault, hfeed, -⟩
          | ⟨after, size, hfeed, hafter, hbody, hne, -⟩
        · rw [hfeed] at hdelivery
          rw [unreel, hfeed]
          dsimp only
          split
          · apply hnone
          · rw [← hbody, List.flatten_cons, ← List.append_assoc]
            apply ih (hdelivery.trans hstreamed) hafter hnext
        · rw [unreel, hfeed]
          apply hnone
        · rw [hfeed] at hdelivery
          rw [unreel, hfeed, List.flatten_cons, ← List.append_assoc]
          dsimp only
          split
          · rw [List.flatten_singleton, ← hbody, List.mem_singleton]
            exact ⟨bodyOf_starts _ _, hne.symm⟩
          · have hdrain : after.drain.delivery = .streamed := hdelivery.trans hstreamed
            obtain ⟨hstarts, hmem⟩ := ih hdrain hafter hnext
            rw [List.flatten_cons, ← List.append_assoc, ← hbody, List.mem_cons, not_or]
            exact ⟨hstarts, hne.symm, hmem⟩
      · simp only [not_forall, not_not] at hfits
        obtain ⟨capacity, required, hsmall⟩ := hfits
        rw [unreel, Prod.eta_of_snd hsmall]
        apply hnone

/-- A response of whose body as much has arrived as its head declares has come to something. -/
theorem concluded_of_complete {bytes body : Bytes} {head : Head}
    (hresponse : response? bytes = some (head, body))
    (hcomplete : head.contentLength.toNat ≤ body.length) :
  ¬ Unconcluded bytes
  := by
  rintro (hnone | ⟨_, _, hshort, hlt⟩)
  · rw [response?, hnone] at hresponse
    cases hresponse
  · rw [hresponse] at hshort
    obtain ⟨rfl, rfl⟩ := Prod.mk.inj (Option.some.inj hshort)
    omega

/-- What has not come to anything has not done so before. -/
theorem Unconcluded.of_start {bytes all : Bytes} (h : Unconcluded all) (hstart : bytes <+: all) :
  Unconcluded bytes
  := by
  obtain ⟨more, rfl⟩ := hstart
  cases hsplit : Text.splitAtFirst Head.terminator bytes with
  | none => exact .inl hsplit
  | some found =>
      obtain ⟨start, body⟩ := found
      have hall := Text.splitAtFirst_append hsplit more
      rcases h with hnone | ⟨head, _, hresponse, hshort⟩
      · rw [hnone] at hall
        cases hall
      · obtain ⟨_, hother, hhead⟩ := response?_eq_some_iff.mp hresponse
        rw [hall] at hother
        obtain ⟨rfl, rfl⟩ := Prod.mk.inj (Option.some.inj hother)
        refine .inr ⟨head, body, response?_eq_some_iff.mpr ⟨start, hsplit, hhead⟩, ?_⟩
        rw [List.length_append] at hshort
        omega

/-- A complete body is all there is of it, if it is not to be longer than its head declares. -/
theorem complete_eq {bytes more body : Bytes} {head : Head}
    (hresponse : response? bytes = some (head, body))
    (hcomplete : head.contentLength.toNat ≤ body.length)
    (hlength : WithinLength (bytes ++ more)) :
  bodyOf (bytes ++ more) = bodyOf bytes ∧ ∃ body, conclude (bytes ++ more) = .ok body
  := by
  have hmore := response?_append hresponse more
  refine ⟨?_, _, conclude_of_complete hresponse hcomplete more⟩
  have hnothing : more = [] := by
    apply List.length_eq_zero_iff.mp
    have := hlength _ _ hmore
    rw [List.length_append] at this
    omega
  rw [hnothing, List.append_nil]

/-- A stream whose chunks are not refused, and bring no more of the body than its head declares,
has all of the body in its fragments, and ends as the response comes to. -/
theorem unreel_eq (hstreamed : r.delivery = .streamed) (h : r.Parsed taken)
    (hindex : index = 0 → taken = []) (hopen : Unconcluded taken)
    (hlength : WithinLength (taken ++ line.flatten))
    (hrefused : ¬ Refused (unreel r index line).2) :
  bodyOf taken ++ (unreel r index line).1.flatten = bodyOf (taken ++ line.flatten)
    ∧ (unreel r index line).2 = (conclude (taken ++ line.flatten)).map fun _ => ()
  := by
  induction line generalizing r index taken with
  | nil =>
      have hcomplete : ¬ r.bodyComplete = true := by
        intro hcomplete
        obtain ⟨head, body, hresponse, hbody⟩ := h.complete hcomplete
        apply concluded_of_complete hresponse hbody hopen
      rw [List.flatten_nil, List.append_nil, Reception.conclude_of_closedEarly h hopen, unreel,
        if_neg hcomplete]
      exact ⟨List.append_nil _, rfl⟩
  | cons chunk line ih =>
      have hfits : ∀ capacity required,
          (r.feed index chunk).2 ≠ .error (.bufferTooSmall capacity required) := by
        intro capacity required hsmall
        apply hrefused
        rw [unreel, Prod.eta_of_snd hsmall]
        rfl
      have hdelivery := (r.feed_keeps index chunk).1
      have hnext : index + 1 = 0 → taken ++ chunk = [] := fun hzero => by cases hzero
      rw [List.flatten_cons, ← List.append_assoc] at hlength ⊢
      rcases Reception.feed_streamed hstreamed (h.started hindex) hfits
        with ⟨after, hfeed, hafter, hbody, haccepted⟩
        | ⟨after, start, body, fault, hfeed, hsplit, hhead⟩
        | ⟨after, size, hfeed, hafter, hbody, hne, haccepted⟩
      · rw [hfeed] at hdelivery
        rw [unreel, hfeed] at hrefused ⊢
        dsimp only at hrefused ⊢
        split
        case isTrue hcomplete =>
          obtain ⟨head, body, hresponse, hlong⟩ := hafter.complete hcomplete
          obtain ⟨hall, body, hconclude⟩ := complete_eq hresponse hlong hlength
          rw [hall, hconclude, hbody]
          exact ⟨List.append_nil _, rfl⟩
        case isFalse hcomplete =>
          rw [if_neg hcomplete] at hrefused
          rw [← hbody]
          apply ih (hdelivery.trans hstreamed) hafter hnext
            (hafter.unconcluded hcomplete haccepted) hlength hrefused
      · have hnone : response? (taken ++ chunk ++ line.flatten) = none := by
          rw [response?, Text.splitAtFirst_append hsplit]
          dsimp only
          rw [hhead]
        have hbody : bodyOf taken = [] := by
          have hstarts := bodyOf_starts taken (chunk ++ line.flatten)
          rw [← List.append_assoc, bodyOf_of_none hnone] at hstarts
          apply List.prefix_nil.mp hstarts
        rw [unreel, hfeed, conclude_of_error hsplit hhead, bodyOf_of_none hnone, hbody]
        exact ⟨rfl, rfl⟩
      · rw [hfeed] at hdelivery
        rw [unreel, hfeed] at hrefused ⊢
        dsimp only at hrefused ⊢
        split
        case isTrue hcomplete =>
          obtain ⟨head, body, hresponse, hlong⟩ := hafter.complete hcomplete
          obtain ⟨hall, body, hconclude⟩ := complete_eq hresponse hlong hlength
          rw [hall, hconclude, hbody, List.flatten_singleton]
          exact ⟨rfl, rfl⟩
        case isFalse hcomplete =>
          rw [if_neg hcomplete] at hrefused
          rw [List.flatten_cons, ← List.append_assoc, ← hbody]
          have hdrain : after.drain.delivery = .streamed := hdelivery.trans hstreamed
          have hopen := hafter.unconcluded hcomplete (.inr haccepted)
          apply ih hdrain hafter hnext hopen hlength hrefused

end

/-! ### Chunks that fit -/

/-- The chunks of a line fit into a buffer, where `taken` has come before: all up to the one that
completes the head together, and every later one by itself. -/
def Fits (capacity : Nat) (taken : Bytes) : List Bytes → Prop
  | [] => True
  | chunk :: line =>
    (if (Text.splitAtFirst Head.terminator taken).isSome then chunk.length
      else (taken ++ chunk).length) ≤ capacity
    ∧ Fits capacity (taken ++ chunk) line

instance Fits.decidable (capacity : Nat) : (taken : Bytes) → (line : List Bytes) →
    Decidable (Fits capacity taken line)
  | _, [] => inferInstanceAs (Decidable True)
  | taken, chunk :: line =>
    have := decidable capacity (taken ++ chunk) line
    inferInstanceAs (Decidable (_ ∧ _))

namespace Reception

variable {r : Reception} {index : Nat} {taken chunk : Bytes}

/-- A chunk for which there is room behind the held bytes is not refused. -/
theorem feed_of_room (hroom : (if index = 0 then r.restart else r).held + chunk.length
      ≤ r.buffer.capacity) (capacity required : Nat) :
  (r.feed index chunk).2 ≠ .error (.bufferTooSmall capacity required)
  := by
  have hcapacity : (if index = 0 then r.restart else r).buffer.capacity = r.buffer.capacity := by
    split
    · rfl
    · rfl
  unfold feed
  dsimp only
  rw [hcapacity, if_neg (Nat.not_lt_of_le hroom)]
  generalize (if index = 0 then r.restart else r) = r
  unfold take
  dsimp only
  split
  · rintro ⟨⟩
  · split
    · rintro ⟨⟩
    · split
      case h_1 start _ _ fault hhead =>
        rintro ⟨rfl⟩
        cases Head.isRefusal_of_ofBytes hhead
      · rintro ⟨⟩

/-- How many bytes a streamed reception holds before the next chunk. -/
theorem Parsed.held_streamed (h : r.Parsed taken) (hstreamed : r.delivery = .streamed) :
  r.held = if (response? taken).isSome then 0 else taken.length
  := by
  have hfront := h.front_eq
  rw [h.head_eq, hstreamed] at hfront
  rw [← length_front h.filled, hfront]
  cases response? taken with
  | none => rfl
  | some _ => rfl

/-- A reception holds no more than it has taken in. -/
theorem Parsed.held_le (h : r.Parsed taken) :
  r.held ≤ taken.length
  := by
  have hfront := congrArg List.length h.front_eq
  have hbody : (bodyOf taken).length ≤ taken.length := by
    cases hresponse : response? taken with
    | none =>
        rw [bodyOf_of_none hresponse]
        apply Nat.zero_le
    | some response =>
        obtain ⟨start, hsplit, -⟩ := response?_eq_some_iff.mp hresponse
        have hlength := congrArg List.length (Text.append_of_splitAtFirst hsplit)
        rw [bodyOf_of_response hresponse]
        simp only [List.length_append] at hlength
        omega
  rw [length_front h.filled] at hfront
  rw [hfront]
  split
  · apply Nat.le_refl
  · apply hbody
  · apply Nat.zero_le

end Reception

/-- That a connection was closed too early is not a refusal. -/
theorem closedEarly_unrefused (r : Reception) :
  ¬ (Client.closedEarly r).IsRefusal
  := by
  unfold Client.closedEarly
  split
  · rintro ⟨⟩
  · exact id

/-- A body that is collected is not refused if the whole response fits. -/
theorem gather_unrefused {r : Reception} {index : Nat} {taken : Bytes} {line : List Bytes}
    (h : r.Parsed taken) (hindex : index = 0 → taken = [])
    (hwhole : r.delivery = .whole) (hfits : (taken ++ line.flatten).length ≤ r.buffer.capacity) :
  ¬ Refused (gather r index line)
  := by
  induction line generalizing r index taken with
  | nil => apply closedEarly_unrefused
  | cons chunk line ih =>
      have hstarted := h.started hindex
      have hheld := hstarted.held_le
      rw [List.flatten_cons, ← List.append_assoc] at hfits
      have hroom : (if index = 0 then r.restart else r).held + chunk.length
          ≤ r.buffer.capacity := by
        simp only [List.length_append] at hfits
        omega
      have hkept := r.feed_keeps index chunk
      have hnext : index + 1 = 0 → taken ++ chunk = [] := fun hzero => by cases hzero
      rcases Reception.feed_cases hstarted (Reception.feed_of_room hroom)
        with ⟨after, hfeed, -, hafter⟩ | ⟨after, start, body, fault, hfeed, -, hhead⟩
        | ⟨after, head, body, hresponse, ⟨hfeed, -, hafter⟩ | ⟨size, hfeed, -⟩⟩
      · rw [hfeed] at hkept
        rw [gather, hfeed]
        apply ih hafter hnext (hkept.1.trans hwhole)
        rwa [hkept.2]
      · rw [gather, hfeed]
        change ¬ (fault.isRefusal = true)
        rw [Head.isRefusal_of_ofBytes hhead]
        rintro ⟨⟩
      · rw [hfeed] at hkept
        rw [gather, hfeed]
        apply ih hafter hnext (hkept.1.trans hwhole)
        rwa [hkept.2]
      · rw [gather, hfeed]
        exact id

/-- A stream whose chunks fit is not refused any. -/
theorem unreel_unrefused {r : Reception} {index : Nat} {taken : Bytes} {line : List Bytes}
    (hstreamed : r.delivery = .streamed) (h : r.Parsed taken) (hindex : index = 0 → taken = [])
    (haccepted : Text.splitAtFirst Head.terminator taken = none
      ∨ (response? taken).isSome = true)
    (hfits : Fits r.buffer.capacity taken line) :
  ¬ Refused (unreel r index line).2
  := by
  induction line generalizing r index taken with
  | nil =>
      rw [unreel]
      dsimp only
      split
      · exact id
      · apply closedEarly_unrefused
  | cons chunk line ih =>
      have hstarted := h.started hindex
      have hroom : (if index = 0 then r.restart else r).held + chunk.length
          ≤ r.buffer.capacity := by
        have hchunk := hfits.1
        rw [List.length_append] at hchunk
        rw [hstarted.held_streamed (by split <;> exact hstreamed)]
        rcases haccepted with hnone | hsome
        · rw [response?, hnone]
          rw [hnone] at hchunk
          exact hchunk
        · have hsplit : (Text.splitAtFirst Head.terminator taken).isSome = true := by
            rw [response?] at hsome
            split at hsome
            · cases hsome
            · simp [*]
          rw [if_pos hsplit] at hchunk
          rw [if_pos hsome, Nat.zero_add]
          exact hchunk
      have hkept := r.feed_keeps index chunk
      have hnext : index + 1 = 0 → taken ++ chunk = [] := fun hzero => by cases hzero
      rcases Reception.feed_streamed hstreamed hstarted (Reception.feed_of_room hroom)
        with ⟨after, hfeed, hafter, -, haccepted⟩ | ⟨after, start, body, fault, hfeed, -, hhead⟩
        | ⟨after, size, hfeed, hafter, -, -, haccepted⟩
      · rw [hfeed] at hkept
        obtain ⟨hdelivery, hcapacity⟩ := hkept
        rw [unreel, hfeed]
        dsimp only
        split
        · exact id
        · apply ih (hdelivery.trans hstreamed) hafter hnext haccepted
          rw [hcapacity]
          apply hfits.2
      · rw [unreel, hfeed]
        change ¬ (fault.isRefusal = true)
        rw [Head.isRefusal_of_ofBytes hhead]
        rintro ⟨⟩
      · rw [hfeed] at hkept
        obtain ⟨hdelivery, hcapacity⟩ := hkept
        rw [unreel, hfeed]
        dsimp only
        split
        · exact id
        · apply ih (r := after.drain) (hdelivery.trans hstreamed) hafter hnext (.inr haccepted)
          change Fits after.buffer.capacity _ _
          rw [hcapacity]
          apply hfits.2

end FirmwareUpdate
