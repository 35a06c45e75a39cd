import GameProbe.Proofs.Rcon.Packet
import GameProbe.Proofs.Transport.Peer
import GameProbe.Rcon.Session

/-!
# Consoles

A remote console that answers in order, as the other side of a stream. Every command makes it append
the packets of an answer to what it says, and every request that it does not know makes it append
one refusal. How long it takes over that, and how long the client waits for it, is open.
-/

namespace GameProbe.Rcon

open Peer

/-! ### Answers -/

/-- The text of a refusal. -/
abbrev refusalText : Bytes := Utf8.encode unknownRequestReply

/-- The refusal of a request. -/
def refusal (requestId : Int32) : Reply where
  requestId := requestId
  payload := refusalText
  nonzero := by decide +kernel
  fits := by decide +kernel

/-- What a server appends for a command with the given request id. The fragments of the response
are the packets with that id; behind the first of them there may be packets of other requests. -/
structure Answer (requestId : Int32) where
  first : Reply
  rest : List Reply
  requestId_first : first.requestId = requestId
  rest_of_short : first.payload.length < fragmentThreshold → rest = []
  unlike_refusal : ∀ reply ∈ rest, reply.payload ≠ refusalText

namespace Answer

variable {requestId : Int32}

/-- All its packets. -/
def replies (answer : Answer requestId) : List Reply := answer.first :: answer.rest

/-- The whole response. -/
def contents (answer : Answer requestId) : Bytes :=
  (answer.replies.filter fun reply => reply.requestId = requestId).flatMap Reply.payload

lemma contents_of_plain {answer : Answer requestId}
    (h : ∀ reply ∈ answer.replies, reply.requestId = requestId) :
    answer.contents = answer.replies.flatMap Reply.payload := by
  rw [contents, List.filter_eq_self.mpr fun reply hr => decide_eq_true (h reply hr)]

/-- What a client has to write to get the whole response to a command. -/
def requests (answer : Answer requestId) (text : String) : Bytes :=
  packet requestId commandType text ++
    if answer.first.payload.length < fragmentThreshold then []
    else packet requestId invalidType ""

end Answer

/-! ### The machine -/

/-- What happens when a client begins to wait for a packet. -/
structure Turn where
  /-- How many of the requests that are waiting the server answers before that. -/
  answered : Nat := 0
  /-- Whether the time of the client runs out. -/
  expires : Bool := false

/-- A server that answers requests in order, and all that passes between it and its client. -/
structure Console where
  /-- The answer to each command, by the number of commands before it, its id, and what is heard of
  its text. -/
  answers : Nat → (requestId : Int32) → Bytes → Answer requestId
  turns : List Turn
  /-- How many commands have come. -/
  commands : Nat := 0
  /-- What has come of the next request. -/
  incomplete : Bytes := []
  /-- What is due for the requests that have not been answered yet. -/
  due : List (List Reply) := []
  /-- What has been said and not been read. -/
  outbox : List Reply := []
  /-- The rest of the packet that is being read. -/
  current : Bytes := []
  written : Bytes := []

namespace Console

/-- The answer to a command. -/
abbrev answerTo (c : Console) (commands : Nat) (requestId : Int32) (text : String) :
    Answer requestId := c.answers commands requestId (heard text)

/-- All that the client has not begun to read, whether it has been said yet or not. -/
def backlog (c : Console) : List Reply := c.outbox ++ c.due.flatten

/-- Answer the next `n` requests. -/
def answer (n : Nat) (c : Console) : Console :=
  { c with outbox := c.outbox ++ (c.due.take n).flatten, due := c.due.drop n }

/-- See to it that something has been said, if anything is due. -/
def await (c : Console) : Console := if c.outbox = [] then c.answer c.due.length else c

/-- Wait for the next packet. -/
def next : EStateM Fault Console Reply := fun c =>
  let turn := c.turns.headD {}
  let c := { c with turns := c.turns.tail }.answer turn.answered
  if turn.expires then .error Fault.timedOut c
  else
    let c := c.await
    match c.outbox with
    | [] => .error Fault.timedOut c
    | reply :: outbox => .ok reply { c with outbox }

/-- The next byte. Time runs out between packets only. -/
def receive : EStateM Fault Console (Option UInt8) := fun c =>
  match c.current with
  | b :: current => .ok (some b) { c with current }
  | [] =>
    match c.next with
    | .ok reply c => .ok reply.bytes.head? { c with current := reply.bytes.tail }
    | .error e c => .error e c

/-- Take a request: what is due for it comes behind all the rest. -/
def take (request : Packet) (c : Console) : Console :=
  if request.type = commandType then
    { c with
      commands := c.commands + 1
      due := c.due ++ [(c.answers c.commands request.requestId request.payload).replies] }
  else if request.type = invalidType then
    { c with due := c.due ++ [[refusal request.requestId]] }
  else c

/-- Take a byte. -/
def send (b : UInt8) : EStateM Fault Console Bool := fun c =>
  let heard := c.incomplete ++ [b]
  let c := { c with written := c.written ++ [b], incomplete := [] }
  match readPacket heard with
  | .ok request _ => .ok true (c.take request)
  | .error _ _ => .ok true { c with incomplete := heard }

/-! ### What a wait can do -/

@[simp] lemma backlog_answer (n : Nat) (c : Console) : (c.answer n).backlog = c.backlog := by
  rw [backlog, answer, List.append_assoc, ← List.flatten_append, List.take_append_drop, backlog]

lemma await_eq (c : Console) : ∃ outbox due, c.await = { c with outbox, due } ∧
    outbox ++ due.flatten = c.backlog ∧ (outbox = [] → c.backlog = []) := by
  rw [await]
  by_cases h : c.outbox = []
  · rw [if_pos h]
    refine ⟨_, _, rfl, backlog_answer _ c, ?_⟩
    simp [backlog, h]
  · rw [if_neg h]
    exact ⟨c.outbox, c.due, rfl, rfl, fun h' => absurd h' h⟩

/-- Waiting brings the first packet of the backlog, or nothing. It moves the backlog, takes a turn,
and changes nothing else. -/
lemma next_cases (c : Console) : ∃ outbox due,
    (c.next = .error Fault.timedOut { c with turns := c.turns.tail, outbox, due } ∧
      outbox ++ due.flatten = c.backlog ∧ ((c.turns.headD {}).expires = true ∨ c.backlog = [])) ∨
    (∃ reply, c.next = .ok reply { c with turns := c.turns.tail, outbox, due } ∧
      reply :: (outbox ++ due.flatten) = c.backlog) := by
  have hbacklog := backlog_answer (c.turns.headD {}).answered c
  rw [next]
  dsimp only
  by_cases hexpires : (c.turns.headD {}).expires = true
  · rw [if_pos hexpires]
    exact ⟨_, _, .inl ⟨rfl, hbacklog, .inl hexpires⟩⟩
  · obtain ⟨outbox, due, hawait, hsaid, hnil⟩ :=
      await_eq ({ c with turns := c.turns.tail }.answer (c.turns.headD {}).answered)
    rw [if_neg hexpires, hawait]
    have hsaid' := hsaid.trans hbacklog
    cases outbox with
    | nil => exact ⟨[], due, .inl ⟨rfl, hsaid', .inr (hbacklog.symm.trans (hnil rfl))⟩⟩
    | cons reply outbox => exact ⟨outbox, due, .inr ⟨reply, rfl, hsaid'⟩⟩

/-! ### What a byte can do -/

lemma receive_current {b : UInt8} {current : Bytes} {c : Console} (h : c.current = b :: current) :
    c.receive = .ok (some b) { c with current } := by
  simp only [receive, h]

lemma receive_of_next {reply : Reply} {c c' : Console} (h : c.current = [])
    (hnext : c.next = .ok reply c') :
    ∃ b bytes, reply.bytes = b :: bytes ∧
      c.receive = .ok (some b) { c' with current := bytes } := by
  obtain ⟨b, bytes, hb⟩ := List.exists_cons_of_ne_nil reply.bytes_ne_nil
  refine ⟨b, bytes, hb, ?_⟩
  simp only [receive, h, hnext, hb]
  rfl

lemma receive_of_next_error {e : Fault} {c c' : Console} (h : c.current = [])
    (hnext : c.next = .error e c') : c.receive = .error e c' := by
  simp only [receive, h, hnext]

/-- How many bytes the client has still to read. -/
def unread (c : Console) : Nat := c.current.length + (c.backlog.flatMap Reply.bytes).length

lemma receive_cases (c : Console) :
    (∃ b c', c.receive = .ok (some b) c' ∧ c.unread = c'.unread + 1) ∨
    (∃ c', c.receive = .error Fault.timedOut c' ∧ c'.unread = c.unread) := by
  cases hcurrent : c.current with
  | cons b current =>
    refine .inl ⟨b, _, receive_current hcurrent, ?_⟩
    simp only [unread, backlog, hcurrent, List.length_cons]
    omega
  | nil =>
    obtain ⟨outbox, due, ⟨hnext, hbacklog, -⟩ | ⟨reply, hnext, hbacklog⟩⟩ := next_cases c
    · refine .inr ⟨_, receive_of_next_error hcurrent hnext, ?_⟩
      rw [unread, unread, ← hbacklog]
      rfl
    · obtain ⟨b, bytes, hb, hreceive⟩ := receive_of_next hcurrent hnext
      refine .inl ⟨b, _, hreceive, ?_⟩
      have hlength : (c.backlog.flatMap Reply.bytes).length =
          bytes.length + 1 + ((outbox ++ due.flatten).flatMap Reply.bytes).length := by
        rw [← hbacklog, List.flatMap_cons, List.length_append, hb, List.length_cons]
      rw [unread, hcurrent, hlength]
      show 0 + _ = bytes.length + ((outbox ++ due.flatten).flatMap Reply.bytes).length + 1
      omega

@[simp] lemma written_take (request : Packet) (c : Console) :
    (c.take request).written = c.written := by
  rw [take]
  split
  · rfl
  · split <;> rfl

@[simp] lemma turns_take (request : Packet) (c : Console) : (c.take request).turns = c.turns := by
  rw [take]
  split
  · rfl
  · split <;> rfl

end Console

instance : Peer Console where
  receive := Console.receive
  send := Console.send
  flush c := .ok () c
  setReadTimeout _ c := .ok () c
  close c := .ok () c
  written := Console.written
  unread := Console.unread
  written_of_send h := by
    unfold Console.send at h
    dsimp only at h
    split at h <;> cases h
    · exact Console.written_take _ _
    · rfl
  unread_of_receive {b c c'} h := by
    rcases Console.receive_cases c with ⟨b', c₁, h', hunread⟩ | ⟨c₁, h', -⟩
    · rw [h'] at h
      cases h
      exact hunread
    · rw [h'] at h
      cases h
  unread_of_end {c c'} h := by
    rcases Console.receive_cases c with ⟨b', c₁, h', -⟩ | ⟨c₁, h', -⟩ <;> rw [h'] at h <;> cases h
  unread_of_fault {e c c'} h := by
    rcases Console.receive_cases c with ⟨b', c₁, h', -⟩ | ⟨c₁, h', hunread⟩
    · rw [h'] at h
      cases h
    · rw [h'] at h
      cases h
      exact Nat.le_of_eq hunread
  unread_of_setReadTimeout h := by
    cases h
    exact Nat.le_refl _

/-! ### Between packets -/

namespace Console

/-- Whether the time of the client never runs out. -/
def Steady (c : Console) : Prop := ∀ turn ∈ c.turns, turn.expires = false

/-- Whether all packets of an answer are fragments of it. -/
def Plain (c : Console) : Prop :=
  ∀ k requestId text, ∀ reply ∈ (c.answers k requestId text).replies, reply.requestId = requestId

/-- What has become of the console `start` when it stands between two packets in both directions:
so many commands have come, the backlog is still to be read, and all that was ever written. -/
structure Later (start : Console) (commands : Nat) (backlog : List Reply) (written : Bytes)
    (c : Console) : Prop where
  answers : c.answers = start.answers
  turns : c.turns <:+ start.turns
  commands : c.commands = commands
  backlog : c.backlog = backlog
  written : c.written = written
  incomplete : c.incomplete = []
  current : c.current = []

/-- The rest of a packet comes without a break. -/
lemma gives_current (bytes : Bytes) (c : Console) :
    Gives bytes { c with current := bytes } { c with current := [] } := by
  induction bytes with
  | nil => rfl
  | cons b bytes ih => exact ⟨_, receive_current rfl, ih⟩

lemma gives_of_next {reply : Reply} {c c' : Console} (h : c.current = [])
    (hnext : c.next = .ok reply c') : Gives reply.bytes c { c' with current := [] } := by
  obtain ⟨b, bytes, hb, hreceive⟩ := receive_of_next h hnext
  rw [hb]
  exact ⟨_, hreceive, gives_current bytes c'⟩

lemma send_of_ok {request : Packet} {rest : Bytes} {b : UInt8} {c : Console}
    (h : readPacket (c.incomplete ++ [b]) = .ok request rest) :
    c.send b =
      .ok true ({ c with written := c.written ++ [b], incomplete := [] }.take request) := by
  simp only [send, h]

lemma send_of_error {e : Error} {rest : Bytes} {b : UInt8} {c : Console}
    (h : readPacket (c.incomplete ++ [b]) = .error e rest) :
    c.send b = .ok true
      { c with written := c.written ++ [b], incomplete := c.incomplete ++ [b] } := by
  simp only [send, h]

/-- A server takes a request with its last byte, and no earlier. -/
lemma sendAll_of_takes {request : Packet} {bytes : Bytes}
    (htakes : Decoder.Takes readPacket bytes request) (hbytes : bytes ≠ []) {c : Console}
    (hc : c.incomplete = []) :
    sendAll bytes c = .ok () ({ c with written := c.written ++ bytes }.take request) := by
  suffices ∀ (missing : Bytes) (c : Console), missing ≠ [] → c.incomplete ++ missing = bytes →
      sendAll missing c =
        .ok () ({ c with written := c.written ++ missing, incomplete := [] }.take request) by
    have h := this bytes c hbytes (by rw [hc, List.nil_append])
    rw [← hc] at h
    exact h
  -- along what is missing: up to the last byte, what has been heard is a strict beginning
  intro missing
  induction missing with
  | nil =>
    intro c hne
    exact absurd rfl hne
  | cons b missing ih =>
    intro c _ hall
    rw [List.append_cons] at hall
    by_cases hmissing : missing = []
    · subst hmissing
      have hread := htakes.append []
      rw [List.append_nil] at hall hread
      rw [← hall] at hread
      rw [sendAll]
      simp only [Peer.send, send_of_ok hread]
      rfl
    · have hprefix : c.incomplete ++ [b] <+: bytes := ⟨missing, hall⟩
      have hne : c.incomplete ++ [b] ≠ bytes := by
        intro heq
        rw [heq] at hall
        exact hmissing (List.append_cancel_left (hall.trans (List.append_nil bytes).symm))
      obtain ⟨expected, received, -, hread⟩ := htakes.truncated _ hprefix hne
      rw [sendAll]
      simp only [Peer.send, send_of_error hread]
      rw [ih _ hmissing hall]
      simp only [List.append_assoc, List.singleton_append]

/-- The console stands between two packets in both directions, and nothing is left to read. -/
structure Idle (c : Console) : Prop where
  backlog : c.backlog = []
  incomplete : c.incomplete = []
  current : c.current = []

lemma Idle.later {c : Console} (h : c.Idle) : Later c c.commands [] c.written c :=
  ⟨rfl, List.suffix_rfl, rfl, h.backlog, rfl, h.incomplete, h.current⟩

namespace Later

variable {start c : Console} {commands : Nat} {backlog : List Reply} {written : Bytes}

lemma idle (h : Later start commands [] written c) : c.Idle :=
  ⟨h.backlog, h.incomplete, h.current⟩

/-- As long as time does not run out, a client waits in vain only if nothing is to come. -/
lemma backlog_eq_nil (h : Later start commands backlog written c) (hsteady : start.Steady)
    (hwhy : (c.turns.headD {}).expires = true ∨ backlog = []) : backlog = [] := by
  refine hwhy.resolve_left ?_
  cases hturns : c.turns with
  | nil => nofun
  | cons turn turns =>
    have hturn := hsteady turn (h.turns.subset (hturns ▸ List.mem_cons_self))
    simp [hturn]

/-- Between packets a client gets the first packet of the backlog whole, or waits in vain. -/
lemma receive_or_gives (h : Later start commands backlog written c) :
    (∃ c', Peer.receive c = .error Fault.timedOut c' ∧ Later start commands backlog written c' ∧
      ((c.turns.headD {}).expires = true ∨ backlog = [])) ∨
    (∃ reply rest c', backlog = reply :: rest ∧ Gives reply.bytes c c' ∧
      Later start commands rest written c') := by
  have hturns : c.turns.tail <:+ start.turns := (List.tail_suffix _).trans h.turns
  obtain ⟨outbox, due, ⟨hnext, hbacklog, hwhy⟩ | ⟨reply, hnext, hbacklog⟩⟩ := next_cases c
  · refine .inl ⟨_, receive_of_next_error h.current hnext, ?_, ?_⟩
    · exact ⟨h.answers, hturns, h.commands, hbacklog.trans h.backlog, h.written, h.incomplete,
        h.current⟩
    · exact hwhy.imp_right h.backlog.symm.trans
  · refine .inr ⟨reply, _, _, h.backlog.symm.trans hbacklog.symm, gives_of_next h.current hnext, ?_⟩
    exact ⟨h.answers, hturns, h.commands, rfl, h.written, h.incomplete, rfl⟩

/-- A command makes the server append its answer. -/
lemma take_command {request : Packet} (h : Later start commands backlog written c)
    (htype : request.type = commandType) :
    Later start (commands + 1)
      (backlog ++ (start.answers commands request.requestId request.payload).replies)
      written (c.take request) := by
  rw [take, if_pos htype]
  refine ⟨h.answers, h.turns, congrArg (· + 1) h.commands, ?_, h.written, h.incomplete, h.current⟩
  rw [← h.backlog, ← h.answers, ← h.commands]
  simp [Console.backlog]

/-- A request that the server does not know makes it append a refusal. -/
lemma take_invalid {request : Packet} (h : Later start commands backlog written c)
    (htype : request.type = invalidType) :
    Later start commands (backlog ++ [refusal request.requestId]) written (c.take request) := by
  have hne : request.type ≠ commandType := by
    rw [htype]
    decide
  rw [take, if_neg hne, if_pos htype]
  refine ⟨h.answers, h.turns, h.commands, ?_, h.written, h.incomplete, h.current⟩
  rw [← h.backlog]
  simp [Console.backlog]

/-- What a server makes of a request that it has heard to the end. -/
lemma sendAll_packet (h : Later start commands backlog written c) (requestId type : Int32)
    {text : String} (htext : (Utf8.encode text).length ≤ maxCommandLength) :
    ∃ request c', request.requestId = requestId ∧ request.type = type ∧
      request.payload = heard text ∧
      sendAll (packet requestId type text) c = .ok () (c'.take request) ∧ c'.turns = c.turns ∧
      Later start commands backlog (written ++ packet requestId type text) c' := by
  have hfits : (Utf8.encode text).length + minPacketLength ≤ maxPacketLength :=
    Nat.le_trans (Nat.add_le_add_right htext _) (by decide)
  obtain ⟨request, hread, hid, htype, hpayload⟩ := readPacket_packet requestId type hfits
  obtain ⟨bytes, hbytes, htakes⟩ := selfDelimiting_readPacket _ _ _ hread
  rw [List.append_nil] at hbytes
  subst hbytes
  refine ⟨request, _, hid, htype, hpayload,
    sendAll_of_takes htakes (packet_ne_nil _ _ _) h.incomplete, rfl, ?_⟩
  exact ⟨h.answers, h.turns, h.commands, h.backlog, congrArg (· ++ _) h.written, h.incomplete,
    h.current⟩

end Later

end Console

end GameProbe.Rcon
