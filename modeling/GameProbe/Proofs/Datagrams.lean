import GameProbe.Proofs.EchoedIds
import GameProbe.Proofs.Lifecycle
import GameProbe.Proofs.Query.Answers
import GameProbe.Proofs.Text.Decimal
import GameProbe.Proofs.Transport.Posted
import GameProbe.Proofs.Wire.Fixed
import GameProbe.Transport.Scripted

/-!
# Datagrams

What the clients of datagram protocols send, over any calls. The number that a client goes by is
drawn when it connects, and never again. An operation sends at most one datagram, which is its
request with that number, and whatever comes of it only the transport is changed.
-/

namespace GameProbe

open EStateM.Result Posted

/-! ### Operations that ask once -/

/-- A client that consists of its link and of what has no part in the link. -/
class LinkLens (γ : Type) {σ : outParam Type} [Linked γ σ] : Prop extends LawfulLinked γ where
  setLink_setLink : ∀ (l l' : Link σ) (client : γ),
    Linked.setLink l (Linked.setLink l' client) = Linked.setLink l client
  setLink_link : ∀ client : γ, Linked.setLink (Linked.link client) client = client

namespace Linked

variable {γ σ α β : Type} [Linked γ (Posted σ)] {request : γ → Bytes}
  {yields : Bytes → α → Prop} {yields' : Bytes → β → Prop} {op : EStateM Error γ α}

/-- The operation sends its request at most once, and changes nothing but the transport. Without a
connection it changes nothing at all. -/
structure Asks (request : γ → Bytes) (yields : Bytes → α → Prop) (op : EStateM Error γ α) :
    Prop where
  refuses : ∀ client, (link client).isConnected = false → op client = .error .notConnected client
  asks : ∀ client p, link client = .connected p →
    ∃ p', (op client).state = setLink (.connected p') client ∧
      Asked (request client) yields p (op client).toExcept p'

/-- To use the transport for one exchange is to ask once. -/
lemma Asks.of_use [DatagramTransport σ] {op : EStateM Error γ Bytes} (config : γ → Config)
    (h : ∀ client, op client = use (do
      limitReads (config client)
      liftIo (DatagramTransport.exchange (request client))) client) :
    Asks request (· = ·) op where
  refuses client hlink := (h client).trans (use_of_not_connected _ hlink)
  asks client p hlink := by
    rw [h, use_of_connected _ hlink, state_mapState, toExcept_mapState]
    exact ⟨_, rfl, asked_exchange (config client) (request client) p⟩

/-- What is made of the answer, and changes nothing, sends nothing either. -/
lemma Asks.of_bind {op' : EStateM Error γ β} {k : γ → α → EStateM Error γ β}
    (h : Asks request yields op) (hop : ∀ client, op' client = (op >>= k client) client)
    (hk : ∀ client a, Moves Eq (k client a))
    (hyields : ∀ {datagram a client client₁ b client₂}, yields datagram a →
      k client a client₁ = .ok b client₂ → yields' datagram b) :
    Asks request yields' op' where
  refuses client hlink := (hop client).trans (bind_of_error (h.refuses client hlink))
  asks client p hlink := by
    obtain ⟨p', hstate, hasked⟩ := h.asks client p hlink
    rw [hop]
    cases hfirst : op client with
    | error e client₁ =>
      rw [hfirst] at hstate hasked
      rw [bind_of_error hfirst]
      refine ⟨p', hstate, ?_⟩
      cases hasked with
      | unsent h => exact .unsent h
      | failed h => exact .failed h
    | ok a client₁ =>
      rw [hfirst] at hstate hasked
      have hstill : client₁ = (k client a client₁).state := hk client a client₁
      rw [bind_of_ok hfirst]
      refine ⟨p', hstill.symm.trans hstate, ?_⟩
      cases hasked with
      | answered hletters ha =>
        cases hresult : k client a client₁ with
        | ok b client₂ => exact .answered hletters (hyields ha hresult)
        | error e client₂ => exact .failed hletters

lemma Asks.map (h : Asks request yields op) (g : α → β) :
    Asks request (fun datagram b => ∃ a, yields datagram a ∧ g a = b)
      (op >>= fun a => pure (g a)) := by
  refine h.of_bind (fun _ => rfl) (fun _ a => .pure (g a)) ?_
  rintro datagram a client client₁ _ _ ha ⟨⟩
  exact ⟨a, ha, rfl⟩

/-! ### One call -/

variable {ρ ρ' : Type} {draw : γ → γ} {sends : γ → Option Bytes} {call : Link.Call (Posted σ)}
  {client client' : γ} {result : Except Error ρ}

/-- What a call brings, and how it takes one client to another. Only a connect that succeeds draws,
and only an operation sends something. -/
inductive Posting (draw : γ → γ) (sends : γ → Option Bytes) :
    Link.Call (Posted σ) → γ → Except Error ρ → γ → Prop
  | connects {t : Posted σ} {client : γ} {result : ρ} (fresh : link client = .unconnected) :
    Posting draw sends (.connect t) client (.ok result) (draw (setLink (.connected t) client))
  | connectRejected {t : Posted σ} {client : γ} {e : Error}
    (old : (link client).isUnconnected = false) :
    Posting draw sends (.connect t) client (.error e) client
  /-- Whatever comes of the operation, nothing but the transport is changed. -/
  | asks {client : γ} {p p' : Posted σ} {request : Bytes} {sent : List Letter}
    {result : Except Error ρ} (connected : link client = .connected p)
    (encoded : sends client = some request) (letters : p'.letters = p.letters ++ sent)
    (once : (sent.map Letter.request).Sublist [request]) :
    Posting draw sends .operation client result (setLink (.connected p') client)
  | refused {client : γ} (refused : (link client).isConnected = false) :
    Posting draw sends .operation client (.error .notConnected) client
  | closes {client : γ} {p p' : Posted σ} {result : Except Error ρ}
    (connected : link client = .connected p) (letters : p'.letters = p.letters) :
    Posting draw sends .disconnect client result (setLink (.disconnected p') client)
  | closeRefused {client : γ} (refused : (link client).isConnected = false) :
    Posting draw sends .disconnect client (.error .notConnected) client

lemma Asks.posting (h : Asks request yields op)
    (hsends : ∀ client, sends client = some (request client)) (client : γ) :
    Posting draw sends .operation client (op client).toExcept (op client).state := by
  rcases (link client).not_connected_or with hlink | ⟨p, hlink⟩
  · rw [h.refuses client hlink]
    exact .refused hlink
  · obtain ⟨p', hstate, hasked⟩ := h.asks client p hlink
    obtain ⟨sent, hletters, hsent⟩ := hasked.letters
    rw [hstate]
    exact .asks hlink (hsends client) hletters hsent

lemma posting_attach (t : Posted σ) (r : ρ) (client : γ) :
    Posting draw sends (.connect t) client
      (((do attach t; modify draw) >>= fun _ => pure r : EStateM Error γ ρ) client).toExcept
      (((do attach t; modify draw) >>= fun _ => pure r : EStateM Error γ ρ) client).state := by
  rw [bind_assoc]
  cases hlink : link client with
  | unconnected =>
    have hcheck : ensureUnconnected client = .ok () client := by rw [ensureUnconnected, hlink]
    have hattach : attach t client = .ok () (setLink (.connected t) client) := bind_of_ok hcheck
    rw [bind_of_ok hattach]
    exact .connects hlink
  | connected p =>
    have hattach : attach t client = .error .alreadyConnected client :=
      attach_of_refusal t (by rw [hlink]; rfl)
    rw [bind_of_error hattach]
    exact .connectRejected (by rw [hlink]; rfl)
  | disconnected p =>
    have hattach : attach t client = .error .connectionTerminated client :=
      attach_of_refusal t (by rw [hlink]; rfl)
    rw [bind_of_error hattach]
    exact .connectRejected (by rw [hlink]; rfl)

lemma posting_release [Transport σ] (r : ρ) (client : γ) :
    Posting draw sends .disconnect client
      ((do release; return r : EStateM Error γ ρ) client).toExcept
      ((do release; return r : EStateM Error γ ρ) client).state := by
  rw [state_bind_pure]
  rcases (link client).not_connected_or with hlink | ⟨p, hlink⟩
  · have hrelease : release client = .error .notConnected client := release_of_not_connected hlink
    rw [toExcept_bind_pure, hrelease]
    exact .closeRefused hlink
  · have hletters : (liftIo Transport.close p).state.letters = p.letters := by
      rw [state_liftIo]
      exact letters_quietly _ p
    have hrelease : release client = _ := release_of_connected hlink
    rw [hrelease, state_mapState]
    exact .closes hlink hletters

namespace Posting

/-- Before a transport is offered, nothing is changed. -/
lemma unconnected (h : Posting draw sends call client result client')
    (hlink : link client = .unconnected) (hcall : call.isConnect = false) : client' = client := by
  cases h with
  | connects => cases hcall
  | connectRejected | refused | closeRefused => rfl
  | asks connected => cases hlink.symm.trans connected
  | closes connected => cases hlink.symm.trans connected

/-- The first transport that is offered is taken up, and then the client draws. -/
lemma first {t : Posted σ} (h : Posting draw sends (.connect t) client result client')
    (hlink : link client = .unconnected) : client' = draw (setLink (.connected t) client) := by
  cases h with
  | connects => rfl
  | connectRejected old =>
    rw [hlink] at old
    cases old

variable [LinkLens γ]

/-- Once there is a transport, nothing but the link is changed, and at most one letter is sent. -/
lemma established {p : Posted σ} (h : Posting draw sends call client result client')
    (hlink : (link client).transport? = some p) :
    ∃ l p' sent, client' = setLink l client ∧ l.transport? = some p' ∧
      p'.letters = p.letters ++ sent ∧
      (sent.map Letter.request).Sublist (sends client).toList := by
  have hstill : ∃ l p' sent, client = setLink l client ∧ l.transport? = some p' ∧
      p'.letters = p.letters ++ sent ∧
      (sent.map Letter.request).Sublist (sends client).toList :=
    ⟨link client, p, [], (LinkLens.setLink_link client).symm, hlink,
      (List.append_nil _).symm, List.nil_sublist _⟩
  cases h with
  | connects fresh =>
    rw [fresh] at hlink
    cases hlink
  | connectRejected | refused | closeRefused => exact hstill
  | asks connected encoded letters once =>
    rw [connected] at hlink
    cases hlink
    rw [encoded]
    exact ⟨_, _, _, rfl, rfl, letters, once⟩
  | closes connected letters =>
    rw [connected] at hlink
    cases hlink
    exact ⟨_, _, [], rfl, rfl, by rw [letters, List.append_nil], List.nil_sublist _⟩

end Posting

/-! ### Whole runs -/

variable {κ : Type} {perform : κ → EStateM Error γ ρ} {onLink : κ → Link.Call (Posted σ)}
  {request : γ → κ → Option Bytes} {fresh : γ}

/-- What a client sends and draws, over any calls that start with a fresh one. -/
structure Correspondence (perform : κ → EStateM Error γ ρ) (onLink : κ → Link.Call (Posted σ))
    (draw : γ → γ) (request : γ → κ → Option Bytes) (fresh : γ) : Prop where
  /-- What any call brings, sends and changes, at any client. -/
  step : ∀ call client, Posting draw (request · call) (onLink call) client
    (perform call client).toExcept (perform call client).state
  /-- Before a transport is offered, nothing is drawn, and nothing else is changed. -/
  undrawn : ∀ calls, (∀ call ∈ calls, (onLink call).isConnect = false) →
    (runAll perform calls fresh).2 = fresh
  /-- The first connect draws. From then on nothing but the link is changed, and what is sent are
  the requests of some of the calls, in order and each once, under the number that was drawn. -/
  drawn : ∀ early call t later, (∀ call ∈ early, (onLink call).isConnect = false) →
    onLink call = .connect t → ∃ l p sent,
      (runAll perform (early ++ call :: later) fresh).2 = setLink l (draw fresh) ∧
      l.transport? = some p ∧ p.letters = t.letters ++ sent ∧
      (sent.map Letter.request).Sublist (later.filterMap (request (draw fresh)))

lemma undrawn_runAll {calls : List κ}
    (hstep : ∀ call client, Posting draw (request · call) (onLink call) client
      (perform call client).toExcept (perform call client).state)
    (hfresh : link fresh = .unconnected)
    (hcalls : ∀ call ∈ calls, (onLink call).isConnect = false) :
    (runAll perform calls fresh).2 = fresh := by
  induction calls with
  | nil => rfl
  | cons call calls ih =>
    rw [runAll_cons, (hstep call fresh).unconnected hfresh (hcalls call List.mem_cons_self)]
    exact ih fun call h => hcalls call (List.mem_cons_of_mem _ h)

variable [LinkLens γ]

/-- The induction is on the calls. Each of them leaves a transport behind, and a client that goes by
the same number, so that the rest of the calls makes the same requests. -/
lemma established_runAll {p : Posted σ} (calls : List κ)
    (hstep : ∀ call client, Posting draw (request · call) (onLink call) client
      (perform call client).toExcept (perform call client).state)
    (hrequest : ∀ l client call, request (setLink l client) call = request client call)
    (hlink : (link client).transport? = some p) :
    ∃ l p' sent, (runAll perform calls client).2 = setLink l client ∧ l.transport? = some p' ∧
      p'.letters = p.letters ++ sent ∧
      (sent.map Letter.request).Sublist (calls.filterMap (request client)) := by
  induction calls generalizing client p with
  | nil =>
    exact ⟨link client, p, [], (LinkLens.setLink_link client).symm, hlink,
      (List.append_nil _).symm, List.nil_sublist _⟩
  | cons call calls ih =>
    obtain ⟨l₁, p₁, sent₁, hclient₁, hl₁, hletters₁, hsent₁⟩ :=
      (hstep call client).established hlink
    have hlink₁ : (link (setLink l₁ client)).transport? = some p₁ := by
      rwa [LawfulLinked.link_setLink]
    obtain ⟨l₂, p₂, sent₂, hclient₂, hl₂, hletters₂, hsent₂⟩ := ih hlink₁
    refine ⟨l₂, p₂, sent₁ ++ sent₂, ?_, hl₂, ?_, ?_⟩
    · rw [runAll_cons, hclient₁, hclient₂, LinkLens.setLink_setLink]
    · rw [hletters₂, hletters₁, List.append_assoc]
    · have hsame : request (setLink l₁ client) = request client := funext (hrequest l₁ client)
      rw [hsame] at hsent₂
      have hsplit : (call :: calls).filterMap (request client) =
          (request client call).toList ++ calls.filterMap (request client) := by
        cases h : request client call with
        | none => rw [List.filterMap_cons_none h]; rfl
        | some r => rw [List.filterMap_cons_some h]; rfl
      rw [hsplit, List.map_append]
      exact hsent₁.append hsent₂

/-- What a client sends and draws follows from what each call does. -/
theorem Correspondence.of_postings
    (hstep : ∀ call client, Posting draw (request · call) (onLink call) client
      (perform call client).toExcept (perform call client).state)
    (hrequest : ∀ l client call, request (setLink l client) call = request client call)
    (hdraw : ∀ l client, draw (setLink l client) = setLink l (draw client))
    (hfresh : link fresh = .unconnected) :
    Correspondence perform onLink draw request fresh where
  step := hstep
  undrawn _ := undrawn_runAll hstep hfresh
  drawn early call t later hearly hcall := by
    have hfirst := hstep call fresh
    rw [hcall] at hfirst
    have hclient := (hfirst.first hfresh).trans (hdraw _ _)
    have hlink : (link (setLink (.connected t) (draw fresh))).transport? = some t := by
      rw [LawfulLinked.link_setLink]
      rfl
    obtain ⟨l, p, sent, hrun, hl, hletters, hsent⟩ :=
      established_runAll later hstep hrequest hlink
    refine ⟨l, p, sent, ?_, hl, hletters, ?_⟩
    · rw [runAll_append, undrawn_runAll hstep hfresh hearly, runAll_cons, hclient, hrun,
        LinkLens.setLink_setLink]
    · rwa [show request (setLink (.connected t) (draw fresh)) = request (draw fresh) from
        funext (hrequest _ _)] at hsent

end Linked

variable {δ ι α β : Type} [DatagramTransport δ]

open Linked

/-! ### Query sessions -/

namespace Query.Session

instance {σ : Type} : LinkLens (Session σ ι) where
  setLink_setLink _ _ _ := rfl
  setLink_link _ := rfl

/-- The request of a call, with the id of the session. -/
def request {σ : Type} (session : Session σ ι) : Call σ → Option Bytes
  | .handshake => some (handshakeRequest session.sessionId)
  | .basicStat token => some (basicStatRequest session.sessionId token)
  | .fullStat token => some (fullStatRequest session.sessionId token)
  | .connect _ | .disconnect => none

lemma moves_eq_checkSession {σ : Type} (header : Header) :
    Moves Eq (checkSession header : EStateM Error (Session σ ι) Unit) := by
  intro session
  rw [checkSession_apply]
  split <;> rfl

/-- An operation asks once, and what it brings comes from the datagram that answers it. -/
lemma asks_checked (request : Session (Posted δ) ι → Bytes) (decoder : Decoder Bytes α)
    (header : α → Header) (result : α → β) :
    Asks request
      (fun datagram b => ∃ response rest, decoder datagram = .ok response rest ∧
        result response = b)
      (get >>= fun session => checked (request session) decoder header result) := by
  have hbase : Asks request (· = ·) (do
      let session : Session (Posted δ) ι ← get
      datagram (request session)) :=
    .of_use Session.config fun _ => rfl
  refine hbase.of_bind (k := fun _ answer => do
    let response ← decoder.within answer
    checkSession (header response)
    return result response) (fun session => ?_) (fun _ answer => ?_) ?_
  · simp only [checked, exchange_eq_bind, bind_assoc]
  · exact (Moves.within answer decoder).bind fun response =>
      (moves_eq_checkSession _).map fun _ => result response
  · rintro datagram _ _ client b client' rfl h
    obtain ⟨response, _, hresponse, h⟩ := bind_eq_ok_iff.mp h
    obtain ⟨_, _, -, h⟩ := bind_eq_ok_iff.mp h
    obtain ⟨⟨rest, hdecoder⟩, -⟩ := Decoder.within_eq_ok_iff.mp hresponse
    cases h
    exact ⟨response, rest, hdecoder, rfl⟩

variable [IdSource ι]

lemma posting_perform (call : Call (Posted δ)) (session : Session (Posted δ) ι) :
    Posting drawSessionId (request · call) call.onLink session (perform call session).toExcept
      (perform call session).state := by
  cases call with
  | connect t => exact posting_attach t Outcome.done session
  | handshake =>
    exact ((asks_checked (fun session => handshakeRequest session.sessionId) readHandshake
      Handshake.toHeader Handshake.token).map Outcome.token).posting (fun _ => rfl) session
  | basicStat token =>
    exact ((asks_checked (fun session => basicStatRequest session.sessionId token)
      readBasicResponse BasicResponse.toHeader BasicResponse.stat).map Outcome.basicStat).posting
        (fun _ => rfl) session
  | fullStat token =>
    exact ((asks_checked (fun session => fullStatRequest session.sessionId token)
      readFullResponse FullResponse.toHeader FullResponse.stat).map Outcome.fullStat).posting
        (fun _ => rfl) session
  | disconnect => exact posting_release Outcome.done session

omit [IdSource ι] in
/-- A token that a handshake brings is the number that the answer tells in decimal. -/
lemma tells_of_handshake {session session' : Session (Posted δ) ι} {token : Int32}
    (h : handshake session = .ok token session') :
    ∃ p p' datagram header left text rest, session.link = .connected p ∧
      session' = { session with link := .connected p' } ∧
      p'.letters = p.letters ++ [⟨handshakeRequest session.sessionId, .ok datagram⟩] ∧
      readHeader .handshake datagram = .ok header left ∧
      Wire.readCstring left = .ok text rest ∧ Decimal.Tells text.toList token.toInt := by
  have hasks := asks_checked (ι := ι) (δ := δ) (fun session => handshakeRequest session.sessionId)
    readHandshake Handshake.toHeader Handshake.token
  rcases session.link.not_connected_or with hlink | ⟨p, hlink⟩
  · cases h.symm.trans (hasks.refuses session hlink)
  obtain ⟨p', hstate, hasked⟩ := hasks.asks session p hlink
  change (handshake session).state = _ at hstate
  change Asked _ _ p (handshake session).toExcept p' at hasked
  rw [h] at hstate hasked
  cases hasked with
  | answered hletters hresponse =>
    obtain ⟨response, rest, hread, rfl⟩ := hresponse
    obtain ⟨header, left, hheader, hread⟩ := bind_eq_ok_iff.mp hread
    obtain ⟨token, rest', hnumber, hread⟩ := bind_eq_ok_iff.mp hread
    cases hread
    obtain ⟨text, rest'', htext, hnumber⟩ := bind_eq_ok_iff.mp hnumber
    refine ⟨p, p', _, header, left, text, rest'', hlink, hstate, hletters, hheader, htext, ?_⟩
    cases hint : Decimal.int32? text with
    | some n =>
      simp only [hint] at hnumber
      cases hnumber
      exact Decimal.tells_of_int32? hint
    | none =>
      simp only [hint] at hnumber
      cases hnumber

omit [DatagramTransport δ] [IdSource ι] in
/-- A request for a stat shows its token right behind the session id. -/
lemma token_of_request {session : Session (Posted δ) ι} {token : Int32} {request : Bytes}
    (h : session.request (.basicStat token) = some request ∨
      session.request (.fullStat token) = some request) :
    (request.drop 7).take 4 = Wire.bigEndian 4 (token.toInt % 2 ^ 32).toNat := by
  have hheader : (requestHeader .stat session.sessionId).length = 7 := by simp [requestHeader]
  have htoken : (Wire.int32BE token).length = 4 := Wire.length_uint32BE _
  rcases h with h | h
  · cases h
    rw [basicStatRequest, List.drop_left' hheader, List.take_of_length_le (Nat.le_of_eq htoken),
      Wire.int32BE_eq_bigEndian]
  · cases h
    rw [fullStatRequest, basicStatRequest, List.append_assoc, List.drop_left' hheader,
      List.take_left' htoken, Wire.int32BE_eq_bigEndian]

end Query.Session

/-! ### Bedrock sessions -/

namespace Bedrock.Session

instance {σ : Type} : LinkLens (Session σ ι) where
  setLink_setLink _ _ _ := rfl
  setLink_link _ := rfl

/-- The request of a call, with the guid of the session. -/
def request {σ : Type} (session : Session σ ι) : Call σ → Option Bytes
  | .ping variant timing =>
    some (pingRequest timing.sentAt.toUInt64 (variant.guid session.guid))
  | .connect _ | .disconnect => none

lemma moves_eq_conclude {σ : Type} (timing : Timing) (config : Config) (pong : Pong) :
    Moves Eq (conclude timing config pong : EStateM Error (Session σ ι) _) := by
  intro session
  rw [conclude_apply]
  split <;> rfl

lemma asks_ping (variant : Variant) (timing : Timing) :
    Asks (fun session : Session (Posted δ) ι =>
        pingRequest timing.sentAt.toUInt64 (variant.guid session.guid))
      (fun _ _ => True) (ping variant timing : EStateM Error (Session (Posted δ) ι) _) := by
  have hbase : Asks (fun session : Session (Posted δ) ι =>
        pingRequest timing.sentAt.toUInt64 (variant.guid session.guid)) (· = ·) (do
      let session ← get
      Linked.use do
        limitReads session.config
        liftIo (DatagramTransport.exchange
          (pingRequest timing.sentAt.toUInt64 (variant.guid session.guid)))) :=
    .of_use Session.config fun _ => rfl
  refine hbase.of_bind (k := fun session answer => do
    let pong ← (readPong variant).within answer
    conclude timing session.config pong) (fun session => ?_) (fun session answer => ?_)
    fun _ _ => trivial
  · rw [ping_eq, pong]
    simp only [bind_assoc]
  · exact (Moves.within answer _).bind fun pong => moves_eq_conclude timing session.config pong

variable [IdSource ι]

lemma posting_perform (call : Call (Posted δ)) (session : Session (Posted δ) ι) :
    Posting drawGuid (request · call) call.onLink session (perform call session).toExcept
      (perform call session).state := by
  cases call with
  | connect t => exact posting_attach t Outcome.done session
  | ping variant timing =>
    exact ((asks_ping variant timing).map fun result : Status × Int64 =>
      Outcome.status result.1 result.2).posting (fun _ => rfl) session
  | disconnect => exact posting_release Outcome.done session

omit [DatagramTransport δ] [IdSource ι] in
/-- A ping carries the magic, and a guid that the variant alone decides on. -/
lemma shape_of_request {session : Session (Posted δ) ι} {variant : Variant} {timing : Timing}
    {request : Bytes} (h : session.request (.ping variant timing) = some request) :
    request.length = 33 ∧ (request.drop 9).take 16 = magic ∧
      (variant = .ping → request.drop 25 = Wire.uint64BE session.guid) ∧
      (variant = .stat → request.drop 25 = statGuid) := by
  cases h
  have hlead : (pingId :: Wire.uint64BE timing.sentAt.toUInt64).length = 9 :=
    congrArg Nat.succ (Wire.length_uint64BE _)
  have hmagic : (pingId :: Wire.uint64BE timing.sentAt.toUInt64 ++ magic).length = 25 := by
    rw [List.length_append, hlead]
    rfl
  have hguid : (variant.guid session.guid).length = 8 := by
    cases variant with
    | ping => exact Wire.length_uint64BE session.guid
    | stat => rfl
  have hdrop : (pingRequest timing.sentAt.toUInt64 (variant.guid session.guid)).drop 25 =
    variant.guid session.guid := List.drop_left' hmagic
  refine ⟨?_, ?_, ?_, ?_⟩
  · rw [pingRequest, List.length_append, hmagic, hguid]
  · rw [pingRequest, List.append_assoc, List.drop_left' hlead]
    rfl
  · rintro rfl
    exact hdrop
  · rintro rfl
    exact hdrop

end Bedrock.Session

/-! ### All clients of datagram protocols -/

namespace Query.Session

/-- A challenge that echoes the session id brings its token. -/
lemma handshake_of_answer {session session' : Session δ ι} {token : Int32}
    (hid : session'.sessionId = session.sessionId)
    (h : datagram (handshakeRequest session.sessionId) session =
      .ok (handshakeAnswer session.sessionId token) session') :
    handshake session = .ok token session' := by
  have hread := readHandshake_handshakeAnswer session.sessionId token []
  rw [List.append_nil] at hread
  rw [handshake, get_bind_apply, bind_of_ok (exchange_eq_ok_iff.mpr ⟨_, _, h, hread⟩)]
  have hcheck : checkSession { packetType := 9, session := session.sessionId } session' =
      .ok () session' := by
    rw [checkSession_apply, if_neg fun hstrict => hstrict.2 hid.symm]
  exact bind_of_ok hcheck

/-- A session whose server answers with a negative challenge token. -/
def challengedSession : Session (Posted ScriptedPeer) Progression where
  link := .connected { transport := { responses := [[.bytes (handshakeAnswer 7 (-9))]] } }
  ids := { next := 8, step := 1 }
  sessionId := 7

end Query.Session

end GameProbe
