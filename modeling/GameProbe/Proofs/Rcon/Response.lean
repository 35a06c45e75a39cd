import GameProbe.Proofs.Rcon.Operations
import GameProbe.Proofs.Rcon.Packet
import GameProbe.Proofs.Transport.Cut
import GameProbe.Proofs.Transport.Quiet

/-!
# Responses among any bytes

What a command makes of whatever a server says, be it an answer or not. The first packet decides
whether there is more to read. If there is, packets are read up to the first refusal, and those of
other requests add nothing; if no packet can be read before that, nothing of the response is left.
-/

namespace GameProbe.Rcon

open EStateM.Result Carrier

/-! ### Packets in a string of bytes -/

/-- What a packet adds to the response to a request. -/
def Packet.share (requestId : Int32) (p : Packet) : Bytes :=
  if p.requestId = requestId then p.payload else []

/-- Packets that are read one behind the other, none of them a refusal, and what they leave. -/
inductive Fragments : Bytes → List Packet → Bytes → Prop
  | nil (bytes : Bytes) : Fragments bytes [] bytes
  | cons {bytes left rest : Bytes} {p : Packet} {ps : List Packet} :
    readPacket bytes = .ok p left → p.payload ≠ Utf8.encode unknownRequestReply →
    Fragments left ps rest → Fragments bytes (p :: ps) rest

/-- What is read from a string of bytes as the response to a request, whether its end has to be
asked for, and what is left of the bytes. -/
inductive Reads (requestId : Int32) (bytes : Bytes) :
    Except Error (Packet × Bytes) → Bool → Bytes → Prop
  | unreadable {e : Error} {rest : Bytes} :
    readPacket bytes = .error e rest → Reads requestId bytes (.error e) false rest
  | short {first : Packet} {rest : Bytes} :
    readPacket bytes = .ok first rest → first.payload.length < fragmentThreshold →
    Reads requestId bytes (.ok (first, first.payload)) false rest
  | ended {first stop : Packet} {ps : List Packet} {left behind rest : Bytes} :
    readPacket bytes = .ok first left → fragmentThreshold ≤ first.payload.length →
    Fragments left ps behind → readPacket behind = .ok stop rest →
    stop.payload = Utf8.encode unknownRequestReply →
    Reads requestId bytes (.ok (first, first.payload ++
      (ps.filter fun p => p.requestId = requestId).flatMap Packet.payload)) true rest
  | broken {first : Packet} {ps : List Packet} {left behind rest : Bytes} {e : Error} :
    readPacket bytes = .ok first left → fragmentThreshold ≤ first.payload.length →
    Fragments left ps behind → readPacket behind = .error e rest →
    Reads requestId bytes (.error e) true rest

/-- Packets come to an end: there is a refusal, or bytes that are no packet. -/
lemma exists_fragments (bytes : Bytes) : ∃ ps behind, Fragments bytes ps behind ∧
    ((∃ stop rest, readPacket behind = .ok stop rest ∧
      stop.payload = Utf8.encode unknownRequestReply) ∨
      ∃ e rest, readPacket behind = .error e rest) := by
  cases h : readPacket bytes with
  | error e rest => exact ⟨[], bytes, .nil bytes, .inr ⟨e, rest, h⟩⟩
  | ok p left =>
    by_cases hstop : p.payload = Utf8.encode unknownRequestReply
    · exact ⟨[], bytes, .nil bytes, .inl ⟨p, left, h, hstop⟩⟩
    · have hless : left.length + 4 ≤ bytes.length := consumes_readPacket _ _ _ h
      obtain ⟨ps, behind, hps, hend⟩ := exists_fragments left
      exact ⟨p :: ps, behind, .cons h hstop hps, hend⟩
termination_by bytes.length

/-- Every string of bytes is read in one of these ways. -/
lemma exists_reads (requestId : Int32) (bytes : Bytes) :
    ∃ response asked rest, Reads requestId bytes response asked rest := by
  cases h : readPacket bytes with
  | error e rest => exact ⟨_, _, _, .unreadable h⟩
  | ok first left =>
    rcases Nat.lt_or_ge first.payload.length fragmentThreshold with hshort | hlong
    · exact ⟨_, _, _, .short h hshort⟩
    · obtain ⟨ps, behind, hps, ⟨stop, rest, hstop, htext⟩ | ⟨e, rest, hend⟩⟩ :=
        exists_fragments left
      · exact ⟨_, _, _, .ended h hlong hps hstop htext⟩
      · exact ⟨_, _, _, .broken h hlong hps hend⟩

namespace Session

variable {σ ι : Type} [StreamTransport σ] [Carrier σ Traffic] {s : σ} (config : Config)
  (requestId : Int32) {bytes left rest : Bytes} {response : Except Error (Packet × Bytes)}
  {asked : Bool}

/-! ### Reading a response -/

/-- Waiting for a packet brings what is read from the bytes that are to come. -/
lemma receive_of_offers (h : (view s).Offers bytes) :
    (receive config s).mapState view =
      (readPacket bytes).mapState fun left => (view s).after left [] := by
  obtain ⟨s', hlimit, hview⟩ := limitReads_of_quiet h.toQuiet config
  have hpacket : Decoder.Streams (readPacket : Decoder σ Packet) readPacket :=
    mirrors_readPacket.streams
  rw [receive, bind_of_ok hlimit, hpacket s' bytes (hview ▸ h.incoming), hview]

lemma receive_of_ok {p : Packet} (h : (view s).Offers bytes)
    (hread : readPacket bytes = .ok p left) :
    ∃ s', receive config s = .ok p s' ∧ view s' = (view s).after left [] := by
  rw [← mapState_eq_ok_iff, receive_of_offers config h, hread]
  rfl

lemma receive_of_error {e : Error} (h : (view s).Offers bytes)
    (hread : readPacket bytes = .error e rest) :
    ∃ s', receive config s = .error e s' ∧ view s' = (view s).after rest [] := by
  rw [← mapState_eq_error_iff, receive_of_offers config h, hread]
  rfl

/-- What is collected when the fragments have come is collected behind them. -/
lemma collectFrom_of_fragments {ps : List Packet} (hps : Fragments bytes ps left)
    (h : (view s).Offers bytes) (got : List Bytes) :
    ∃ s', view s' = (view s).after left [] ∧
      collectFrom (receiveFragment config requestId) (consumes_receiveFragment config requestId)
          got s =
        collectFrom (receiveFragment config requestId) (consumes_receiveFragment config requestId)
          ((ps.map (Packet.share requestId)).reverse ++ got) s' := by
  induction hps generalizing s got with
  | nil bytes => exact ⟨s, h.after_nil.symm, rfl⟩
  | cons hread hgoes hps ih =>
    -- the loop keeps what it has got in reverse order, so the new share is put in front
    obtain ⟨s₁, hreceive, hview₁⟩ := receive_of_ok config h hread
    obtain ⟨s₂, hview₂, hcollect⟩ := ih (hview₁ ▸ h.after _ _) (_ :: got)
    refine ⟨s₂, by rw [hview₂, hview₁, Traffic.after_after]; rfl, ?_⟩
    rw [collectFrom_eq_bind, bind_of_ok (receiveFragment_of_receive hreceive), if_neg hgoes,
      List.map_cons, List.reverse_cons, List.append_assoc]
    exact hcollect

/-- A long first packet makes the client ask for the end, and collect what comes before it. -/
lemma receiveResponse_of_long {first : Packet} {ps : List Packet} {behind : Bytes}
    (h : (view s).Offers bytes) (hread : readPacket bytes = .ok first left)
    (hlong : fragmentThreshold ≤ first.payload.length) (hps : Fragments left ps behind) :
    ∃ s', view s' = (view s).after behind (packet requestId invalidType "") ∧
      receiveResponse config requestId s =
        (do
          let fragments ← collectFrom (receiveFragment config requestId)
            (consumes_receiveFragment config requestId) (ps.map (Packet.share requestId)).reverse
          return (first, first.payload ++ fragments.flatten) : Decoder σ (Packet × Bytes)) s' := by
  obtain ⟨s₁, hreceive, hview₁⟩ := receive_of_ok config h hread
  have hoffers₁ : (view s₁).Offers left := hview₁ ▸ h.after _ _
  obtain ⟨s₂, hwrite, hview₂⟩ :=
    writeRequest_of_quiet hoffers₁.toQuiet (packet requestId invalidType "")
  rw [hoffers₁.wrote] at hview₂
  obtain ⟨s₃, hview₃, hcollect⟩ := collectFrom_of_fragments config requestId hps
    (hview₂ ▸ hoffers₁.after _ _) []
  refine ⟨s₃, ?_, ?_⟩
  · rw [hview₃, hview₂, hview₁, Traffic.after_after, Traffic.after_after, List.append_nil]
    rfl
  · rw [receiveResponse, bind_of_ok hreceive, if_neg (Nat.not_lt.mpr hlong), bind_of_ok hwrite]
    rw [List.append_nil] at hcollect
    exact bind_of_eq hcollect

lemma receiveResponse_of_reads (h : (view s).Offers bytes)
    (hreads : Reads requestId bytes response asked rest) :
    ∃ s', receiveResponse config requestId s = response.leaving s' ∧
      view s' = (view s).after rest (if asked then packet requestId invalidType "" else []) := by
  cases hreads with
  | unreadable hread =>
    obtain ⟨s', hreceive, hview⟩ := receive_of_error config h hread
    exact ⟨s', bind_of_error hreceive, hview⟩
  | short hread hshort =>
    obtain ⟨s', hreceive, hview⟩ := receive_of_ok config h hread
    refine ⟨s', ?_, hview⟩
    rw [receiveResponse, bind_of_ok hreceive, if_pos hshort]
    rfl
  | ended hread hlong hps hstop htext =>
    obtain ⟨s₁, hview₁, hresponse⟩ := receiveResponse_of_long config requestId h hread hlong hps
    obtain ⟨s₂, hreceive, hview₂⟩ := receive_of_ok config (hview₁ ▸ h.after _ _) hstop
    refine ⟨s₂, ?_, by rw [hview₂, hview₁, Traffic.after_after, List.append_nil]; rfl⟩
    rw [hresponse, ← flatMap_ite_nil, List.flatMap_def]
    refine bind_of_ok ?_
    rw [collectFrom_eq_bind, bind_of_ok (receiveFragment_of_receive hreceive), if_pos htext]
    exact congrArg (EStateM.Result.ok · s₂) (List.reverse_reverse _)
  | broken hread hlong hps hend =>
    obtain ⟨s₁, hview₁, hresponse⟩ := receiveResponse_of_long config requestId h hread hlong hps
    obtain ⟨s₂, hreceive, hview₂⟩ := receive_of_error config (hview₁ ▸ h.after _ _) hend
    refine ⟨s₂, ?_, by rw [hview₂, hview₁, Traffic.after_after, List.append_nil]; rfl⟩
    rw [hresponse]
    exact bind_of_error (collectFrom_of_receive_error _ _ hreceive)

/-! ### Running a command -/

/-- What a command makes of a response that was read. -/
def verdict (response : Packet × Bytes) : Except Error String :=
  if response.1.requestId = refusedId then .error .notAuthenticated
  else if config.strictIds ∧ requestId ≠ response.1.requestId then
    .error (.idMismatch requestId.toInt64 response.1.requestId.toInt64)
  else .ok (Utf8.decodeLossy response.2)

omit [StreamTransport σ] [Carrier σ Traffic] in
lemma conclude_eq_verdict (first : Packet) (output : Bytes) (session : Session σ ι) :
    conclude config requestId first output session =
      (verdict config requestId (first, output)).leaving session := by
  rw [conclude_apply, verdict]
  split_ifs <;> rfl

variable [IdSource ι] {session : Session σ ι} {text : String}

/-- A command over a connection on which nothing fails reads one response from the bytes that are to
come, whatever they are, and leaves just the bytes behind it. It writes its request, and behind that
the request that asks for the end if the first packet is long. If a packet that the response needs
cannot be read, the command fails in that way; else the first packet and the bytes of the response
decide. -/
theorem command_reads_response (hsession : session.LoggedIn s)
    (htext : (Utf8.encode text).length ≤ maxCommandLength) (hoffers : (view s).Offers bytes) :
    (∃ response asked rest, Reads session.nextId bytes response asked rest) ∧
    ∀ response asked rest, Reads session.nextId bytes response asked rest →
      ∃ s', command text session =
          (response.bind (verdict session.config session.nextId)).leaving (session.after s') ∧
        view s' = (view s).after rest (packet session.nextId commandType text ++
          if asked then packet session.nextId invalidType "" else []) := by
  refine ⟨exists_reads session.nextId bytes, fun response asked rest hreads => ?_⟩
  obtain ⟨s₁, hwrite, hview₁⟩ :=
    writeRequest_of_quiet hoffers.toQuiet (packet session.nextId commandType text)
  rw [hoffers.wrote] at hview₁
  obtain ⟨s₂, hresponse, hview₂⟩ := receiveResponse_of_reads session.config session.nextId
    (hview₁ ▸ hoffers.after _ _) hreads
  have hexchange : exchange session.config session.nextId text s = response.leaving s₂ :=
    (bind_of_ok hwrite).trans hresponse
  refine ⟨s₂, ?_, by rw [hview₂, hview₁, Traffic.after_after]⟩
  cases response with
  | error e => exact command_of_error hsession htext hexchange
  | ok response =>
    rw [command_of_exchange hsession htext hexchange]
    exact conclude_eq_verdict ..

lemma zero_notMem_longText : (0 : UInt8) ∉ List.replicate fragmentThreshold 0x61 := by
  simp [List.mem_replicate]

lemma longText_fits :
    (List.replicate fragmentThreshold (0x61 : UInt8)).length + minPacketLength ≤
      maxPacketLength := by
  rw [List.length_replicate]
  decide

/-- The first packet of a long response to the request 7. -/
def longReply : Reply where
  requestId := 7
  payload := List.replicate fragmentThreshold 0x61
  nonzero := zero_notMem_longText
  fits := longText_fits

lemma zero_notMem_letter : (0 : UInt8) ∉ [0x78] := by decide

lemma letter_fits : ([0x78] : Bytes).length + minPacketLength ≤ maxPacketLength := by decide

/-- A packet with another id. -/
def foreignReply : Reply where
  requestId := -5
  payload := [0x78]
  nonzero := zero_notMem_letter
  fits := letter_fits

/-- The last fragment of the response. -/
def lastReply : Reply where
  requestId := 7
  payload := [0x62]
  nonzero := by decide
  fits := by decide

/-- A refusal with another id. -/
def foreignRefusal : Reply where
  requestId := 3
  payload := Utf8.encode unknownRequestReply
  nonzero := by decide +kernel
  fits := by decide +kernel

/-- Those packets, and something behind them. -/
def mixedBytes : Bytes :=
  longReply.bytes ++ (foreignReply.bytes ++ (lastReply.bytes ++ (foreignRefusal.bytes ++ [1, 2])))

lemma reads_mixedBytes : Reads 7 mixedBytes
    (.ok (longReply.packet, List.replicate fragmentThreshold 0x61 ++ [0x62])) true [1, 2] := by
  have hforeign : foreignReply.packet.payload ≠ Utf8.encode unknownRequestReply := by
    decide +kernel
  have hlast : lastReply.packet.payload ≠ Utf8.encode unknownRequestReply := by decide +kernel
  have hlong : fragmentThreshold ≤ longReply.packet.payload.length :=
    Nat.le_of_eq List.length_replicate.symm
  have hshares : ([foreignReply.packet, lastReply.packet].filter fun p =>
      p.requestId = 7).flatMap Packet.payload = [0x62] := by decide
  have hreads : Reads 7 mixedBytes _ _ _ := .ended (longReply.readPacket_bytes_append _) hlong
    (.cons (foreignReply.readPacket_bytes_append _) hforeign
      (.cons (lastReply.readPacket_bytes_append _) hlast (.nil _)))
    (foreignRefusal.readPacket_bytes_append [1, 2]) rfl
  rw [hshares] at hreads
  exact hreads

/-- A session that is logged in to a server that says them. -/
def mixedSession : Session (Cut Traffic) Progression where
  link := .connected { peer := { incoming := mixedBytes.map .ok }, reads := [some 0, none] }
  ids := { next := 7, step := 0 }
  authenticated := true

theorem command_reads_mixedBytes :
    ∃ s', command "list" mixedSession =
        .ok (Utf8.decodeLossy (List.replicate fragmentThreshold 0x61 ++ [0x62]))
          (mixedSession.after s') ∧
      (view s').incoming = [.ok 1, .ok 2] ∧
      (view s').written = packet 7 commandType "list" ++ packet 7 invalidType "" := by
  have hid : longReply.packet.requestId ≠ refusedId := by decide
  have hverdict (output : Bytes) : verdict mixedSession.config mixedSession.nextId
      (longReply.packet, output) = .ok (Utf8.decodeLossy output) := by
    rw [verdict, if_neg hid, if_neg (by simp [mixedSession])]
  have hsession : mixedSession.LoggedIn _ := ⟨rfl, rfl⟩
  have hlength : (Utf8.encode "list").length ≤ maxCommandLength := by decide +kernel
  obtain ⟨s', hcommand, hview⟩ := (command_reads_response hsession hlength
    ⟨⟨rfl, rfl, rfl⟩, rfl⟩).2 _ _ _ reads_mixedBytes
  rw [Except.bind, hverdict] at hcommand
  exact ⟨s', hcommand, by rw [hview]; rfl, by rw [hview]; rfl⟩

end Session

end GameProbe.Rcon
