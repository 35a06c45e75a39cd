import GameProbe.Proofs.Granularity
import GameProbe.Proofs.Rcon.Operations

/-!
# Echoed ids

A client that insists on its ids does the same as one that does not, step by step. It differs in
what it makes of a success that came with another id than the one sent.
-/

namespace GameProbe

open Agree EStateM.Result

/-- The number that a request carries, and the one that the answer to it echoes. -/
structure Echo where
  sent : Int64
  echoed : Int64

section Insist

variable {γ ρ ρ' : Type}

/-- What becomes of an outcome if the client insists on its ids: a success that came with another
id than the one sent is a mismatch, and the client is left as `undo` says. -/
def insist (undo : γ → γ) (echo : Option Echo) :
    EStateM.Result Error γ ρ → EStateM.Result Error γ ρ
  | .ok result client =>
    match echo with
    | none => .ok result client
    | some echo =>
      if echo.sent = echo.echoed then .ok result client
      else .error (.idMismatch echo.sent echo.echoed) (undo client)
  | .error e client => .error e client

variable {undo : γ → γ} {result : ρ} {client : γ}

lemma insist_none (r : EStateM.Result Error γ ρ) : insist undo none r = r := by
  cases r <;> rfl

lemma insist_of_eq {echo : Echo} (h : echo.sent = echo.echoed) (r : EStateM.Result Error γ ρ) :
    insist undo (some echo) r = r := by
  cases r with
  | ok => exact if_pos h
  | error => rfl

lemma insist_of_ne {echo : Echo} (h : echo.sent ≠ echo.echoed) :
    insist undo (some echo) (.ok result client) =
      .error (.idMismatch echo.sent echo.echoed) (undo client) := if_neg h

/-- What is done with a result has no part in which ids came with it. -/
lemma insist_map {F : γ → γ} {echo : Option Echo} {act : EStateM Error γ ρ} (g : ρ → ρ')
    {strict lenient : γ} (h : act strict = (insist undo echo (act lenient)).mapState F) :
    (act >>= fun a => pure (g a)) strict =
      (insist undo echo ((act >>= fun a => pure (g a)) lenient)).mapState F := by
  cases ha : act lenient with
  | error e client =>
    rw [ha] at h
    rw [bind_of_error ha, bind_of_error h]
    rfl
  | ok a client =>
    rw [ha] at h
    rw [bind_of_ok ha]
    cases echo with
    | none => exact bind_of_ok h
    | some echo =>
      by_cases heq : echo.sent = echo.echoed
      · rw [insist_of_eq heq] at h ⊢
        exact bind_of_ok h
      · rw [insist_of_ne heq] at h
        exact (bind_of_error h).trans (congrArg (mapState F) (insist_of_ne heq)).symm

end Insist

/-! ### What does not look at echoed ids -/

variable {ε σ δ ι γ α : Type}

lemma agree_id (act : EStateM ε σ α) : Agree id id act act := by
  rintro s s' rfl
  rfl

lemma agree_within {F : γ → γ} (run : Bytes) (d : Decoder Bytes α) :
    Agree F id (d.within run : EStateM Error γ α) (d.within run) := by
  rintro s s' rfl
  unfold Decoder.within
  cases d run <;> rfl

/-- An operation that agrees with itself on changed clients leaves the client that it would have
left, changed. -/
lemma Agree.apply {F : γ → γ} {act : EStateM ε γ α} (h : Agree F id act act) (client : γ) :
    act (F client) = (act client).mapState F :=
  (mapState_id _).symm.trans (h client (F client) rfl).symm

lemma Link.map_id (link : Link σ) : link.map id = link := by
  cases link <;> rfl

namespace Linked

variable [Linked γ σ] {F : γ → γ}

lemma respects_id : Respects id (id : γ → γ) where
  link _ := (Link.map_id _).symm
  setLink _ _ := congrArg (setLink · _) (Link.map_id _).symm

namespace Respects

/-- A change that has no part in the link. -/
lemma of_untouched (hlink : ∀ client : γ, Linked.link (F client) = Linked.link client)
    (hset : ∀ l client, F (Linked.setLink l client) = Linked.setLink l (F client)) :
    Respects id F where
  link client := (hlink client).trans (Link.map_id _).symm
  setLink l client :=
    (hset l client).trans (congrArg (Linked.setLink · (F client)) (Link.map_id l).symm)

variable (h : Respects id F)

include h

lemma attach (t : σ) :
    Agree F id (Linked.attach t : EStateM Error γ Unit) (Linked.attach t) :=
  agree_attach h respects_id rfl

lemma ensureConnected :
    Agree F id (Linked.ensureConnected : EStateM Error γ Unit) Linked.ensureConnected :=
  agree_ensureConnected h respects_id

lemma use (act : EStateM Error σ α) :
    Agree F id (Linked.use act : EStateM Error γ α) (Linked.use act) :=
  agree_use h respects_id (agree_id act)

lemma release [Transport σ] :
    Agree F id (Linked.release : EStateM Error γ Unit) Linked.release :=
  agree_release h respects_id (agree_id _)

end Respects

end Linked

/-- A use of a link changes the link alone. -/
lemma Linked.setLink_of_use [Linked γ σ] {act : EStateM Error σ α} {client client' : γ} {a : α}
    (h : use act client = .ok a client') : ∃ link, client' = setLink link client := by
  unfold use at h
  split at h
  · split at h <;> cases h
    exact ⟨_, rfl⟩
  · cases h

/-- The configuration with ids insisted on, or not. -/
def Config.withStrictIds (strictIds : Bool) (config : Config) : Config := { config with strictIds }

/-! ### Status sessions -/

namespace Status.Session

/-- The session with ids insisted on, or not. -/
def withStrictIds (strictIds : Bool) (session : Session σ) : Session σ :=
  { session with config := session.config.withStrictIds strictIds }

variable {strictIds : Bool}

lemma respects_withStrictIds : Linked.Respects id (withStrictIds strictIds : Session σ → _) :=
  .of_untouched (fun _ => rfl) fun _ _ => rfl

lemma strictIds_inPhase (phase : Phase) :
    Agree (withStrictIds strictIds) id (modify (inPhase phase) : EStateM Error (Session σ) Unit)
      (modify (inPhase phase)) :=
  .modify fun _ _ h => congrArg (inPhase phase) h

variable [StreamTransport σ]

lemma strictIds_handshake :
    Agree (withStrictIds strictIds) id (handshake : EStateM Error (Session σ) _) handshake := by
  refine .get_bind fun session _ h => ?_
  subst h
  exact (respects_withStrictIds.use _).bind
    fun response => (strictIds_inPhase _).map fun _ => response.properties

lemma strictIds_ping (timing : Timing) :
    Agree (withStrictIds strictIds) id (ping timing : EStateM Error (Session σ) _)
      (ping timing) := by
  refine .get_bind fun session _ h => ?_
  subst h
  show Agree _ _ (if session.phase ≠ .handshakeDone then _ else _)
    (if session.phase ≠ .handshakeDone then _ else _)
  split
  · exact respects_withStrictIds.ensureConnected.bind fun _ =>
      .throw _
  · exact (respects_withStrictIds.use _).bind
      fun pong => (strictIds_inPhase _).map fun _ => timing.since pong.payload

lemma strictIds_disconnect :
    Agree (withStrictIds strictIds) id (disconnect : EStateM Error (Session σ) _) disconnect := by
  rintro session _ rfl
  obtain ⟨host, port, config, parse, _ | transport | transport, phase⟩ := session
  · rfl
  · show mapState _ (disconnect _) = mapState id (disconnect _)
    simp only [disconnect, Linked.release, Linked.link, withStrictIds]
    cases liftIo Transport.close transport <;> rfl
  · rfl

lemma strictIds_perform (call : Call σ) :
    Agree (withStrictIds strictIds) id (perform call : EStateM Error (Session σ) _)
      (perform call) := by
  cases call with
  | connect transport =>
    exact ((respects_withStrictIds.attach transport).bind fun _ =>
      strictIds_inPhase .connected).map fun _ => Outcome.done
  | handshake => exact strictIds_handshake.map Outcome.properties
  | ping timing => exact (strictIds_ping timing).map Outcome.latency
  | status timing =>
    exact (strictIds_handshake.bind fun properties =>
      (agree_unlessUnexpected (.value timing.roundTrip) (strictIds_ping (σ := σ) timing)).map
        fun latency => latency.map fun latency => (properties, latency)).map Outcome.status
  | disconnect => exact strictIds_disconnect.map fun _ => Outcome.done

end Status.Session

/-! ### Legacy sessions -/

namespace Legacy.Session

/-- The session with ids insisted on, or not. -/
def withStrictIds (strictIds : Bool) (session : Session σ) : Session σ :=
  { session with config := session.config.withStrictIds strictIds }

variable {strictIds : Bool}

lemma respects_withStrictIds : Linked.Respects id (withStrictIds strictIds : Session σ → _) :=
  .of_untouched (fun _ => rfl) fun _ _ => rfl

variable [StreamTransport σ]

lemma strictIds_ping (variant : Variant) :
    Agree (withStrictIds strictIds) id (ping variant : EStateM Error (Session σ) _)
      (ping variant) := by
  refine .get_bind fun session _ h => ?_
  subst h
  exact (respects_withStrictIds.use _).map Response.info

lemma strictIds_perform (call : Call σ) :
    Agree (withStrictIds strictIds) id (perform call : EStateM Error (Session σ) _)
      (perform call) := by
  cases call with
  | connect transport =>
    exact (respects_withStrictIds.attach transport).map
      fun _ => Outcome.done
  | ping variant => exact (strictIds_ping variant).map Outcome.info
  | timedPing variant timing =>
    exact ((strictIds_ping (σ := σ) variant).map fun info => (info, timing.roundTrip)).map
      fun ping => Outcome.timedInfo ping.1 ping.2
  | disconnect =>
    exact respects_withStrictIds.release.map
      fun _ => Outcome.done

end Legacy.Session

/-! ### Query sessions -/

namespace Query

lemma header_readHandshake {b rest : Bytes} {response : Handshake}
    (h : readHandshake b = .ok response rest) :
    ∃ rest', readHeader .handshake b = .ok response.toHeader rest' := by
  obtain ⟨header, b₁, hheader, h⟩ := bind_eq_ok_iff.mp h
  obtain ⟨token, b₂, -, h⟩ := bind_eq_ok_iff.mp h
  cases h
  exact ⟨b₁, hheader⟩

lemma header_readBasicResponse {b rest : Bytes} {response : BasicResponse}
    (h : readBasicResponse b = .ok response rest) :
    ∃ rest', readHeader .stat b = .ok response.toHeader rest' := by
  obtain ⟨header, b₁, hheader, h⟩ := bind_eq_ok_iff.mp h
  iterate 7 obtain ⟨_, _, -, h⟩ := bind_eq_ok_iff.mp h
  cases h
  exact ⟨b₁, hheader⟩

lemma header_readFullResponse {b rest : Bytes} {response : FullResponse}
    (h : readFullResponse b = .ok response rest) :
    ∃ rest', readHeader .stat b = .ok response.toHeader rest' := by
  obtain ⟨header, b₁, hheader, h⟩ := bind_eq_ok_iff.mp h
  iterate 4 obtain ⟨_, _, -, h⟩ := bind_eq_ok_iff.mp h
  cases h
  exact ⟨b₁, hheader⟩

namespace Session

/-- No two session ids are the same number. -/
lemma toInt64_injective : Function.Injective fun id : UInt32 => id.toUInt64.toInt64 :=
  fun _ _ h => UInt32.toUInt64_inj.mp (congrArg Int64.toUInt64 h)

/-- The session with ids insisted on, or not. -/
def withStrictIds (strictIds : Bool) (session : Session σ ι) : Session σ ι :=
  { session with config := session.config.withStrictIds strictIds }

variable {strictIds : Bool}

lemma respects_withStrictIds : Linked.Respects id (withStrictIds strictIds : Session σ ι → _) :=
  .of_untouched (fun _ => rfl) fun _ _ => rfl

lemma strictIds_drawSessionId [IdSource ι] :
    Agree (withStrictIds strictIds) id (modify drawSessionId : EStateM Error (Session σ ι) Unit)
      (modify drawSessionId) :=
  .modify fun _ _ h => congrArg drawSessionId h

variable [DatagramTransport δ]

/-- Send a request, and wait for the one datagram that answers it. -/
def datagram (request : Bytes) : EStateM Error (Session δ ι) Bytes := do
  let session ← get
  Linked.use do
    limitReads session.config
    liftIo (DatagramTransport.exchange request)

lemma strictIds_datagram (request : Bytes) :
    Agree (withStrictIds strictIds) id (datagram request : EStateM Error (Session δ ι) _)
      (datagram request) := by
  refine .get_bind fun session _ h => ?_
  subst h
  exact respects_withStrictIds.use _

lemma exchange_eq_bind (request : Bytes) (decoder : Decoder Bytes α) :
    (exchange request decoder : EStateM Error (Session δ ι) α) =
      datagram request >>= fun answer => decoder.within answer :=
  (bind_assoc ..).symm

lemma strictIds_exchange (request : Bytes) (decoder : Decoder Bytes α) :
    Agree (withStrictIds strictIds) id (exchange request decoder : EStateM Error (Session δ ι) α)
      (exchange request decoder) := by
  rw [exchange_eq_bind]
  exact (strictIds_datagram request).bind fun answer => agree_within answer decoder

/-- A successful exchange decodes the datagram, and changes the link alone. -/
lemma exchange_eq_ok_iff {request : Bytes} {decoder : Decoder Bytes α} {response : α}
    {session session' : Session δ ι} :
    exchange request decoder session = .ok response session' ↔
      ∃ answer rest, datagram request session = .ok answer session' ∧
        decoder answer = .ok response rest := by
  rw [exchange_eq_bind, bind_eq_ok_iff]
  constructor
  · rintro ⟨answer, session₁, hdatagram, hwithin⟩
    obtain ⟨⟨rest, hdecoder⟩, rfl⟩ := Decoder.within_eq_ok_iff.mp hwithin
    exact ⟨answer, rest, hdatagram, hdecoder⟩
  · rintro ⟨answer, rest, hdatagram, hdecoder⟩
    exact ⟨answer, session', hdatagram, Decoder.within_eq_ok_iff.mpr ⟨⟨rest, hdecoder⟩, rfl⟩⟩

lemma checkSession_apply (header : Header) (session : Session σ ι) :
    checkSession header session =
      if session.config.strictIds ∧ header.session ≠ session.sessionId then
        .error (.idMismatch session.sessionId.toUInt64.toInt64 header.session.toUInt64.toInt64)
          session
      else .ok () session := by
  rw [checkSession, get_bind_apply]
  split <;> rfl

/-- The session id in a request, and the one at the head of the datagram that answers it. -/
def echoOf (kind : Kind) (request : Bytes) (session : Session δ ι) : Option Echo :=
  (exchange request (readHeader kind) session).value?.map fun header =>
    { sent := session.sessionId.toUInt64.toInt64, echoed := header.session.toUInt64.toInt64 }

/-- The session id in the request of a call, and the one at the head of the answer. -/
def echo (session : Session δ ι) : Call δ → Option Echo
  | .handshake => session.echoOf .handshake (handshakeRequest session.sessionId)
  | .basicStat token => session.echoOf .stat (basicStatRequest session.sessionId token)
  | .fullStat token => session.echoOf .stat (fullStatRequest session.sessionId token)
  | .connect _ | .disconnect => none

/-- An exchange whose answer has its session id checked. -/
def checked {β : Type} (request : Bytes) (decoder : Decoder Bytes α) (header : α → Header)
    (result : α → β) : EStateM Error (Session δ ι) β := do
  let response ← exchange request decoder
  checkSession (header response)
  return result response

/-- The check comes when the whole answer has been decoded, and then looks at its head. -/
lemma insist_checked {β : Type} {kind : Kind} {decoder : Decoder Bytes α} {header : α → Header}
    (hheader : ∀ b rest response, decoder b = .ok response rest →
      ∃ rest', readHeader kind b = .ok (header response) rest')
    (request : Bytes) (result : α → β) (session : Session δ ι) :
    checked request decoder header result (session.withStrictIds true) =
      (insist id (session.echoOf kind request)
        (checked request decoder header result (session.withStrictIds false))).mapState
          (withStrictIds true) := by
  have hexchange (b : Bool) : exchange request decoder (session.withStrictIds b) =
    (exchange request decoder session).mapState (withStrictIds b) :=
    (strictIds_exchange request decoder).apply session
  cases hresponse : exchange request decoder session with
  | error e session' =>
    rw [hresponse] at hexchange
    rw [checked, bind_of_error (hexchange true), bind_of_error (hexchange false)]
    rfl
  | ok response session' =>
    rw [hresponse] at hexchange
    rw [checked, bind_of_ok (hexchange true), bind_of_ok (hexchange false)]
    obtain ⟨answer, rest, hdatagram, hdecoder⟩ := exchange_eq_ok_iff.mp hresponse
    obtain ⟨rest', hhead⟩ := hheader _ _ _ hdecoder
    have hid : session'.sessionId = session.sessionId := by
      obtain ⟨link, rfl⟩ := Linked.setLink_of_use hdatagram
      rfl
    have hecho := exchange_eq_ok_iff.mpr ⟨answer, rest', hdatagram, hhead⟩
    rw [echoOf, hecho, value?_ok, Option.map_some, ← hid]
    -- without insisting, the check lets everything pass
    have hlenient : checkSession (header response) (session'.withStrictIds false) =
        .ok () (session'.withStrictIds false) := by
      rw [checkSession_apply]
      exact if_neg fun h => Bool.false_ne_true h.1
    rw [bind_of_ok hlenient]
    have hstrict := checkSession_apply (header response) (session'.withStrictIds true)
    by_cases heq : (header response).session = session'.sessionId
    · rw [if_neg fun h => h.2 heq] at hstrict
      rw [bind_of_ok hstrict, insist_of_eq (by rw [heq])]
      rfl
    · rw [if_pos ⟨rfl, heq⟩] at hstrict
      show _ = mapState _ (insist id _ (.ok (result response) (session'.withStrictIds false)))
      rw [bind_of_error hstrict, insist_of_ne fun h => heq (toInt64_injective h).symm]
      rfl

lemma insist_perform [IdSource ι] (session : Session δ ι) (call : Call δ) :
    perform call (session.withStrictIds true) =
      (insist id (session.echo call) (perform call (session.withStrictIds false))).mapState
        (withStrictIds true) := by
  cases call with
  | connect transport =>
    rw [echo, insist_none]
    exact (((respects_withStrictIds.attach transport).bind fun _ =>
      strictIds_drawSessionId).map fun _ => Outcome.done).apply (session.withStrictIds false)
  | handshake =>
    exact insist_map _ (insist_checked (fun _ _ _ => header_readHandshake) _ Handshake.token _)
  | basicStat token =>
    exact insist_map _ (insist_checked (fun _ _ _ => header_readBasicResponse) _
      BasicResponse.stat _)
  | fullStat token =>
    exact insist_map _ (insist_checked (fun _ _ _ => header_readFullResponse) _
      FullResponse.stat _)
  | disconnect =>
    rw [echo, insist_none]
    exact (respects_withStrictIds.release.map
      fun _ => Outcome.done).apply (session.withStrictIds false)

end Session

end Query

/-! ### Bedrock sessions -/

namespace Bedrock.Session

/-- The session with ids insisted on, or not. -/
def withStrictIds (strictIds : Bool) (session : Session σ ι) : Session σ ι :=
  { session with config := session.config.withStrictIds strictIds }

variable {strictIds : Bool}

lemma respects_withStrictIds : Linked.Respects id (withStrictIds strictIds : Session σ ι → _) :=
  .of_untouched (fun _ => rfl) fun _ _ => rfl

lemma strictIds_drawGuid [IdSource ι] :
    Agree (withStrictIds strictIds) id (modify drawGuid : EStateM Error (Session σ ι) Unit)
      (modify drawGuid) :=
  .modify fun _ _ h => congrArg drawGuid h

variable [DatagramTransport δ]

/-- Send a ping, and read the pong that answers it. -/
def pong (variant : Variant) (timing : Timing) : EStateM Error (Session δ ι) Pong := do
  let session ← get
  let answer ← Linked.use do
    limitReads session.config
    liftIo (DatagramTransport.exchange
      (pingRequest timing.sentAt.toUInt64 (variant.guid session.guid)))
  (readPong variant).within answer

/-- What a ping makes of the pong. -/
def conclude (timing : Timing) (config : Config) (pong : Pong) :
    EStateM Error (Session σ ι) (Status × Int64) := do
  if config.strictIds ∧ pong.timestamp ≠ timing.sentAt.toUInt64 then
    throw (.idMismatch timing.sentAt.toUInt64.toInt64 pong.timestamp.toInt64)
  return (.ofText pong.status, timing.roundTrip)

lemma conclude_apply (timing : Timing) (config : Config) (pong : Pong) (session : Session σ ι) :
    conclude timing config pong session =
      if config.strictIds ∧ pong.timestamp ≠ timing.sentAt.toUInt64 then
        .error (.idMismatch timing.sentAt.toUInt64.toInt64 pong.timestamp.toInt64) session
      else .ok (.ofText pong.status, timing.roundTrip) session := by
  rw [conclude]
  split <;> rfl

lemma ping_eq (variant : Variant) (timing : Timing) (session : Session δ ι) :
    ping variant timing session =
      (pong variant timing >>= conclude timing session.config) session := by
  rw [pong, bind_assoc]
  simp only [bind_assoc]
  rfl

lemma strictIds_pong (variant : Variant) (timing : Timing) :
    Agree (withStrictIds strictIds) id (pong variant timing : EStateM Error (Session δ ι) Pong)
      (pong variant timing) := by
  refine .get_bind fun session _ h => ?_
  subst h
  exact (respects_withStrictIds.use _).bind
    fun answer => agree_within answer _

/-- The timestamp in the ping that a call sends, and the one in the pong. -/
def echo (session : Session δ ι) : Call δ → Option Echo
  | .ping variant timing =>
    (pong variant timing session).value?.map fun pong =>
      { sent := timing.sentAt.toUInt64.toInt64, echoed := pong.timestamp.toInt64 }
  | .connect _ | .disconnect => none

lemma insist_ping (variant : Variant) (timing : Timing) (session : Session δ ι) :
    ping variant timing (session.withStrictIds true) =
      (insist id (session.echo (.ping variant timing))
        (ping variant timing (session.withStrictIds false))).mapState (withStrictIds true) := by
  have hpong (b : Bool) : pong variant timing (session.withStrictIds b) =
    (pong variant timing session).mapState (withStrictIds b) :=
    (strictIds_pong variant timing).apply session
  rw [ping_eq, ping_eq, echo]
  cases h : pong variant timing session with
  | error e session' =>
    rw [h] at hpong
    rw [bind_of_error (hpong true), bind_of_error (hpong false)]
    rfl
  | ok pong session' =>
    rw [h] at hpong
    have hlenient := conclude_apply timing (session.withStrictIds false).config pong
      (session'.withStrictIds false)
    rw [if_neg fun h => Bool.false_ne_true h.1] at hlenient
    rw [bind_of_ok (hpong true), bind_of_ok (hpong false), value?_ok, Option.map_some,
      hlenient, conclude_apply]
    by_cases heq : pong.timestamp = timing.sentAt.toUInt64
    · rw [if_neg fun h => h.2 heq, insist_of_eq (by rw [heq])]
      rfl
    · rw [if_pos ⟨rfl, heq⟩, insist_of_ne fun h => heq (congrArg Int64.toUInt64 h).symm]
      rfl

lemma insist_perform [IdSource ι] (session : Session δ ι) (call : Call δ) :
    perform call (session.withStrictIds true) =
      (insist id (session.echo call) (perform call (session.withStrictIds false))).mapState
        (withStrictIds true) := by
  cases call with
  | connect transport =>
    rw [echo, insist_none]
    exact (((respects_withStrictIds.attach transport).bind fun _ =>
      strictIds_drawGuid).map fun _ => Outcome.done).apply (session.withStrictIds false)
  | ping variant timing =>
    exact insist_map (fun result : Status × Int64 => Outcome.status result.1 result.2)
      (insist_ping variant timing session)
  | disconnect =>
    rw [echo, insist_none]
    exact (respects_withStrictIds.release.map
      fun _ => Outcome.done).apply (session.withStrictIds false)

end Bedrock.Session

/-! ### Remote console sessions -/

namespace Rcon.Session

/-- The session with ids insisted on, or not. -/
def withStrictIds (strictIds : Bool) (session : Session σ ι) : Session σ ι :=
  { session with config := session.config.withStrictIds strictIds }

/-- The session as logged in, or not. -/
def withAuthenticated (authenticated : Bool) (session : Session σ ι) : Session σ ι :=
  { session with authenticated }

variable {strictIds : Bool}

lemma respects_withStrictIds : Linked.Respects id (withStrictIds strictIds : Session σ ι → _) :=
  .of_untouched (fun _ => rfl) fun _ _ => rfl

/-- No two request ids are the same number. -/
lemma toInt64_injective : Function.Injective Int32.toInt64 := by
  intro a b h
  simpa using congrArg Int64.toInt32 h

variable [StreamTransport σ] [IdSource ι]

/-- The id of a request, and the one of a packet that answers it. -/
def echoOf (session : Session σ ι) (reply : Packet) : Echo :=
  { sent := session.nextId.toInt64, echoed := reply.requestId.toInt64 }

/-- The id in the request of a call, and the one in the answer: for a login in the reply that
decides it, unless that refuses the password, and for a command in the first packet. -/
def echo (session : Session σ ι) : Call σ → Option Echo
  | .authenticate password =>
    ((Linked.use (login session.config session.nextId password) session).value?.filter
      fun reply => reply.requestId ≠ refusedId).map session.echoOf
  | .command text =>
    (Linked.use (do
      writeRequest (packet session.nextId commandType text)
      receive session.config) session).value?.map session.echoOf
  | .connect _ | .disconnect => none

/-- What a mismatch takes back: a login is not remembered. -/
def undo (session : Session σ ι) : Call σ → Session σ ι → Session σ ι
  | .authenticate _ => withAuthenticated session.authenticated
  | .connect _ | .command _ | .disconnect => id

lemma insist_authenticate (password : String) (session : Session σ ι) :
    authenticate password (session.withStrictIds true) =
      (insist (session.undo (.authenticate password)) (session.echo (.authenticate password))
        (authenticate password (session.withStrictIds false))).mapState (withStrictIds true) := by
  rcases session.link.not_connected_or with hlink | ⟨s, hlink⟩
  · have hrun (b : Bool) : authenticate password (session.withStrictIds b) =
      .error .notConnected (session.withStrictIds b) := authenticate_of_not_connected hlink
    rw [hrun, hrun]
    rfl
  have huse : Linked.use (login session.config session.nextId password) session = _ :=
    Linked.use_of_connected _ hlink
  cases h : login session.config session.nextId password s with
  | error e s' =>
    have hrun (b : Bool) : authenticate password (session.withStrictIds b) =
      .error e ((session.withStrictIds b).after s') := authenticate_of_error hlink h
    rw [hrun, hrun]
    rfl
  | ok reply s' =>
    have hrun (b : Bool) : authenticate password (session.withStrictIds b) =
        concludeLogin (session.config.withStrictIds b) session.nextId reply
          ((session.withStrictIds b).after s') := authenticate_of_login hlink h
    rw [h] at huse
    have hecho : session.echo (.authenticate password) =
        if reply.requestId = refusedId then none else some (session.echoOf reply) := by
      rw [echo, huse]
      by_cases hrefused : reply.requestId = refusedId <;>
        simp [mapState, Option.filter_some, hrefused]
    rw [hrun, hrun, hecho, concludeLogin_apply, concludeLogin_apply]
    by_cases hrefused : reply.requestId = refusedId
    · rw [if_pos hrefused, if_pos hrefused, if_pos hrefused, insist_none]
      rfl
    rw [if_neg hrefused, if_neg hrefused, if_neg hrefused]
    by_cases heq : session.nextId = reply.requestId
    · rw [if_neg fun h => h.2 heq, if_neg fun h => h.2 heq,
        insist_of_eq (congrArg Int32.toInt64 heq)]
      rfl
    · rw [if_pos ⟨rfl, heq⟩, if_neg fun h => Bool.false_ne_true h.1,
        insist_of_ne fun h => heq (toInt64_injective h)]
      rfl

/-- The first packet of a response is the one that is read first. -/
lemma exchange_first {config : Config} {requestId : Int32} {text : String} {first : Packet}
    {output : Bytes} {s s' : σ} (h : exchange config requestId text s = .ok (first, output) s') :
    ∃ s₁, (writeRequest (packet requestId commandType text) >>= fun _ => receive config) s =
      .ok first s₁ := by
  obtain ⟨_, s₁, hwrite, h⟩ := bind_eq_ok_iff.mp h
  obtain ⟨first', s₂, hfirst, h⟩ := bind_eq_ok_iff.mp h
  refine ⟨s₂, (bind_of_ok hwrite).trans (hfirst.trans ?_)⟩
  split at h
  · cases h
    rfl
  · obtain ⟨_, _, -, h⟩ := bind_eq_ok_iff.mp h
    obtain ⟨_, _, -, h⟩ := bind_eq_ok_iff.mp h
    cases h
    rfl

lemma insist_command (text : String) (session : Session σ ι) :
    command text (session.withStrictIds true) =
      (insist (session.undo (.command text)) (session.echo (.command text))
        (command text (session.withStrictIds false))).mapState (withStrictIds true) := by
  -- a command that is turned away is turned away in the same way
  by_cases htext : maxCommandLength < (Utf8.encode text).length
  · have hrun (b : Bool) : command text (session.withStrictIds b) =
      .error (.commandTooLong _ _) (session.withStrictIds b) := command_of_long htext
    rw [hrun, hrun]
    rfl
  rw [Nat.not_lt] at htext
  rcases session.link.not_connected_or with hlink | ⟨s, hlink⟩
  · have hrun (b : Bool) : command text (session.withStrictIds b) =
      .error .notConnected (session.withStrictIds b) := command_of_not_connected htext hlink
    rw [hrun, hrun]
    rfl
  cases hauthenticated : session.authenticated with
  | false =>
    have hrun (b : Bool) : command text (session.withStrictIds b) =
        .error .notAuthenticated (session.withStrictIds b) :=
      command_of_not_authenticated htext hlink hauthenticated
    rw [hrun, hrun]
    rfl
  | true =>
    have hsession (b : Bool) : (session.withStrictIds b).LoggedIn s := ⟨hlink, hauthenticated⟩
    cases h : exchange session.config session.nextId text s with
    | error e s' =>
      have hrun (b : Bool) : command text (session.withStrictIds b) =
        .error e ((session.withStrictIds b).after s') := command_of_error (hsession b) htext h
      rw [hrun, hrun]
      rfl
    | ok response s' =>
      obtain ⟨first, output⟩ := response
      have hrun (b : Bool) : command text (session.withStrictIds b) =
          conclude (session.config.withStrictIds b) session.nextId first output
            ((session.withStrictIds b).after s') := command_of_exchange (hsession b) htext h
      obtain ⟨s₁, hfirst⟩ := exchange_first h
      have huse : Linked.use (writeRequest (packet session.nextId commandType text) >>= fun _ =>
        receive session.config) session = _ := Linked.use_of_connected _ hlink
      rw [hfirst] at huse
      have hecho : session.echo (.command text) = some (session.echoOf first) := by
        rw [echo, huse]
        rfl
      rw [hrun, hrun, hecho, conclude_apply, conclude_apply]
      by_cases hrefused : first.requestId = refusedId
      · rw [if_pos hrefused, if_pos hrefused]
        rfl
      rw [if_neg hrefused, if_neg hrefused]
      by_cases heq : session.nextId = first.requestId
      · rw [if_neg fun h => h.2 heq, if_neg fun h => h.2 heq,
          insist_of_eq (congrArg Int32.toInt64 heq)]
        rfl
      · rw [if_pos ⟨rfl, heq⟩, if_neg fun h => Bool.false_ne_true h.1,
          insist_of_ne fun h => heq (toInt64_injective h)]
        rfl

lemma insist_perform (session : Session σ ι) (call : Call σ) :
    perform call (session.withStrictIds true) =
      (insist (session.undo call) (session.echo call)
        (perform call (session.withStrictIds false))).mapState (withStrictIds true) := by
  cases call with
  | connect transport =>
    rw [echo, insist_none]
    exact ((respects_withStrictIds.attach transport).map
      fun _ => Outcome.done).apply (session.withStrictIds false)
  | authenticate password =>
    exact insist_map Outcome.accepted (insist_authenticate password session)
  | command text => exact insist_map Outcome.response (insist_command text session)
  | disconnect =>
    have hlogout : Agree (withStrictIds true) id
        (modify (withAuthenticated false) : EStateM Error (Session σ ι) Unit)
        (modify (withAuthenticated false)) :=
      .modify fun _ _ h => congrArg (withAuthenticated false) h
    rw [echo, insist_none]
    exact ((hlogout.bind fun _ => respects_withStrictIds.release).map
      fun _ => Outcome.done).apply (session.withStrictIds false)

end Rcon.Session

/-! ### All clients -/

/-- To insist on echoed ids only filters. Whatever state a client is in and whatever its transport
does, a call with ids insisted on leaves the client, its transport and its id source as the same
call without does, and brings the same, unless that succeeds with another id than the one sent:
then the outcome is a mismatch of the two, and after a login a remote console is logged in as it was
before. A transport may record all that is done with it, so to leave the same transport is to have
done the same with it. -/
theorem strictIds_only_filter [StreamTransport σ] [DatagramTransport δ] [IdSource ι] :
    (∀ (session : Status.Session σ) call,
      Status.Session.perform call (session.withStrictIds true) =
        (Status.Session.perform call (session.withStrictIds false)).mapState
          (Status.Session.withStrictIds true)) ∧
    (∀ (session : Legacy.Session σ) call,
      Legacy.Session.perform call (session.withStrictIds true) =
        (Legacy.Session.perform call (session.withStrictIds false)).mapState
          (Legacy.Session.withStrictIds true)) ∧
    (∀ (session : Query.Session δ ι) call,
      Query.Session.perform call (session.withStrictIds true) =
        (insist id (session.echo call)
          (Query.Session.perform call (session.withStrictIds false))).mapState
          (Query.Session.withStrictIds true)) ∧
    (∀ (session : Bedrock.Session δ ι) call,
      Bedrock.Session.perform call (session.withStrictIds true) =
        (insist id (session.echo call)
          (Bedrock.Session.perform call (session.withStrictIds false))).mapState
          (Bedrock.Session.withStrictIds true)) ∧
    (∀ (session : Rcon.Session σ ι) call,
      Rcon.Session.perform call (session.withStrictIds true) =
        (insist (session.undo call) (session.echo call)
          (Rcon.Session.perform call (session.withStrictIds false))).mapState
          (Rcon.Session.withStrictIds true)) := by
  refine ⟨?_, ?_, Query.Session.insist_perform, Bedrock.Session.insist_perform,
    Rcon.Session.insist_perform⟩
  · intro session call
    exact (Status.Session.strictIds_perform call).apply (session.withStrictIds false)
  · intro session call
    exact (Legacy.Session.strictIds_perform call).apply (session.withStrictIds false)

end GameProbe
