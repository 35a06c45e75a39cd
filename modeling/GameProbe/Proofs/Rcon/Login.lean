import GameProbe.Proofs.Rcon.Response

/-!
# Logins among any bytes

What a login makes of whatever a server says. An empty response ahead of the reply is skipped, once
and only if it is no refusal. The packet that is then in its place decides alone, and the flag of
the session goes by it; a login that fails leaves the flag as it was.
-/

namespace GameProbe.Rcon

open EStateM.Result Carrier

/-! ### The reply that decides -/

/-- The packet is an empty response, and no refusal. -/
structure Packet.Ahead (p : Packet) : Prop where
  type_eq : p.type = responseType
  payload_eq : p.payload = []
  requestId_ne : p.requestId ≠ refusedId

/-- What is read from a string of bytes as the reply to a login, and what is left of the bytes. A
second packet is read just if the first is ahead of the reply. -/
inductive Decides (bytes : Bytes) : Except Error Packet → Bytes → Prop
  | unreadable {e : Error} {rest : Bytes} :
    readPacket bytes = .error e rest → Decides bytes (.error e) rest
  | first {reply : Packet} {rest : Bytes} :
    readPacket bytes = .ok reply rest → ¬reply.Ahead → Decides bytes (.ok reply) rest
  | secondUnreadable {ahead : Packet} {left rest : Bytes} {e : Error} :
    readPacket bytes = .ok ahead left → ahead.Ahead → readPacket left = .error e rest →
    Decides bytes (.error e) rest
  | second {ahead reply : Packet} {left rest : Bytes} :
    readPacket bytes = .ok ahead left → ahead.Ahead → readPacket left = .ok reply rest →
    Decides bytes (.ok reply) rest

/-- Every string of bytes is read in one of these ways. -/
lemma exists_decides (bytes : Bytes) : ∃ reply rest, Decides bytes reply rest := by
  cases h : readPacket bytes with
  | error e rest => exact ⟨_, _, .unreadable h⟩
  | ok p left =>
    by_cases hp : p.Ahead
    · cases hsecond : readPacket left with
      | error e rest => exact ⟨_, _, .secondUnreadable h hp hsecond⟩
      | ok reply rest => exact ⟨_, _, .second h hp hsecond⟩
    · exact ⟨_, _, .first h hp⟩

namespace Session

variable {σ ι : Type} [StreamTransport σ] [Carrier σ Traffic] {s s₁ : σ} (config : Config)
  {bytes rest : Bytes} {p : Packet} {reply : Except Error Packet}

omit [Carrier σ Traffic] in
lemma receiveLoginReply_of_ahead (h : receive config s = .ok p s₁) (hp : p.Ahead) :
    receiveLoginReply config s = receive config s₁ := by
  have hahead : p.type = responseType ∧ p.payload.isEmpty ∧ p.requestId ≠ refusedId :=
    ⟨hp.type_eq, List.isEmpty_iff.mpr hp.payload_eq, hp.requestId_ne⟩
  rw [receiveLoginReply, bind_of_ok h, if_pos hahead]

omit [Carrier σ Traffic] in
lemma receiveLoginReply_of_reply (h : receive config s = .ok p s₁) (hp : ¬p.Ahead) :
    receiveLoginReply config s = .ok p s₁ := by
  have hreply : ¬(p.type = responseType ∧ p.payload.isEmpty ∧ p.requestId ≠ refusedId) :=
    fun ⟨htype, hpayload, hid⟩ => hp ⟨htype, List.isEmpty_iff.mp hpayload, hid⟩
  rw [receiveLoginReply, bind_of_ok h, if_neg hreply]
  rfl

lemma receiveLoginReply_of_decides (h : (view s).Offers bytes) (hreply : Decides bytes reply rest) :
    ∃ s', receiveLoginReply config s = reply.leaving s' ∧ view s' = (view s).after rest [] := by
  cases hreply with
  | unreadable hread =>
    obtain ⟨s₁, hreceive, hview₁⟩ := receive_of_error config h hread
    exact ⟨s₁, bind_of_error hreceive, hview₁⟩
  | first hread hp =>
    obtain ⟨s₁, hreceive, hview₁⟩ := receive_of_ok config h hread
    exact ⟨s₁, receiveLoginReply_of_reply config hreceive hp, hview₁⟩
  | secondUnreadable hread hp hsecond =>
    obtain ⟨s₁, hreceive, hview₁⟩ := receive_of_ok config h hread
    obtain ⟨s₂, hreceive₂, hview₂⟩ := receive_of_error config (hview₁ ▸ h.after _ _) hsecond
    refine ⟨s₂, ?_, by rw [hview₂, hview₁, Traffic.after_after, List.append_nil]⟩
    rw [receiveLoginReply_of_ahead config hreceive hp, hreceive₂]
    rfl
  | second hread hp hsecond =>
    obtain ⟨s₁, hreceive, hview₁⟩ := receive_of_ok config h hread
    obtain ⟨s₂, hreceive₂, hview₂⟩ := receive_of_ok config (hview₁ ▸ h.after _ _) hsecond
    refine ⟨s₂, ?_, by rw [hview₂, hview₁, Traffic.after_after, List.append_nil]⟩
    rw [receiveLoginReply_of_ahead config hreceive hp, hreceive₂]
    rfl

/-! ### Logging in -/

/-- The outcome is the one that a login makes of the reply that decides. -/
structure Follows (requestId : Int32) (reply : Except Error Packet) (outcome : Except Error Bool) :
    Prop where
  failed : ∀ e, reply = .error e → outcome = .error e
  refused_iff : ∀ p, reply = .ok p → (outcome = .ok false ↔ p.requestId = refusedId)
  foreign_iff : ∀ p, reply = .ok p →
    (outcome = .error (.idMismatch requestId.toInt64 p.requestId.toInt64) ↔
      config.strictIds = true ∧ p.requestId ≠ refusedId ∧ p.requestId ≠ requestId)
  accepted_iff : ∀ p, reply = .ok p →
    (outcome = .ok true ↔
      p.requestId ≠ refusedId ∧ (config.strictIds = true → p.requestId = requestId))

/-- What a login makes of the reply that decides, if that can be read. -/
def loginVerdict (requestId : Int32) (p : Packet) : Except Error Bool :=
  if p.requestId = refusedId then .ok false
  else if config.strictIds ∧ requestId ≠ p.requestId then
    .error (.idMismatch requestId.toInt64 p.requestId.toInt64)
  else .ok true

lemma follows_loginVerdict (requestId : Int32) (reply : Except Error Packet) :
    Follows config requestId reply (reply.bind (loginVerdict config requestId)) := by
  cases reply with
  | error e => exact ⟨fun _ h => by cases h; rfl, nofun, nofun, nofun⟩
  | ok p =>
    show Follows config requestId (.ok p) (loginVerdict config requestId p)
    rw [loginVerdict]
    split
    · rename_i hrefused
      refine ⟨nofun, ?_, ?_, ?_⟩ <;> rintro _ ⟨⟩ <;> simp [hrefused]
    · rename_i hne
      by_cases hforeign : config.strictIds = true ∧ requestId ≠ p.requestId
      · rw [if_pos hforeign]
        refine ⟨nofun, ?_, ?_, ?_⟩ <;> rintro _ ⟨⟩ <;> simp [hne, hforeign, Ne.symm hforeign.2]
      · rw [if_neg hforeign]
        have hown : config.strictIds = true → p.requestId = requestId :=
          fun hstrict => not_not.mp fun h => hforeign ⟨hstrict, Ne.symm h⟩
        refine ⟨nofun, ?_, ?_, ?_⟩ <;> rintro _ ⟨⟩
        · simp [hne]
        · simpa [hne] using hown
        · simpa [hne] using hown

variable [IdSource ι] {session : Session σ ι} (password : String)

/-- The session behind a login, which remembers what that brought if it went through. -/
def afterLogin (session : Session σ ι) (s : σ) (outcome : Except Error Bool) : Session σ ι :=
  { session.after s with authenticated := outcome.toOption.getD session.authenticated }

omit [StreamTransport σ] [Carrier σ Traffic] in
lemma concludeLogin_eq_verdict (requestId : Int32) (p : Packet) :
    concludeLogin config requestId p (session.after s) =
      (loginVerdict config requestId p).leaving
        (session.afterLogin s (loginVerdict config requestId p)) := by
  rw [concludeLogin_apply, loginVerdict]
  split_ifs <;> rfl

lemma authenticate_of_decides (hlink : session.link = .connected s)
    (hoffers : (view s).Offers bytes) (hreply : Decides bytes reply rest) :
    ∃ outcome s', Follows session.config session.nextId reply outcome ∧
      authenticate password session = outcome.leaving (session.afterLogin s' outcome) ∧
      view s' = (view s).after rest (packet session.nextId loginType password) := by
  obtain ⟨s₁, hwrite, hview₁⟩ :=
    writeRequest_of_quiet hoffers.toQuiet (packet session.nextId loginType password)
  rw [hoffers.wrote] at hview₁
  obtain ⟨s₂, hreceive, hview₂⟩ :=
    receiveLoginReply_of_decides session.config (hview₁ ▸ hoffers.after _ _) hreply
  have hlogin : login session.config session.nextId password s = reply.leaving s₂ :=
    (bind_of_ok hwrite).trans hreceive
  refine ⟨_, s₂, follows_loginVerdict _ _ _, ?_, ?_⟩
  · cases reply with
    | error e => exact authenticate_of_error hlink hlogin
    | ok p =>
      rw [authenticate_of_login hlink hlogin]
      exact concludeLogin_eq_verdict ..
  · rw [hview₂, hview₁, Traffic.after_after, List.append_nil]

/-- A login over a connection on which nothing fails writes just its request and reads one packet
from the bytes that are to come, whatever they are, or two if the first is ahead of the reply. If a
packet that it needs cannot be read, it fails in that way. Else the id of the last packet decides
alone: a refusal clears the flag, another id than the one sent is a mismatch if ids are insisted on,
and all else sets the flag. A failure leaves the flag as it was. So who insists on ids is let in
only by a packet with the id that was sent, and a refusal that comes first is never skipped. -/
theorem authenticate_follows_reply (hlink : session.link = .connected s)
    (hoffers : (view s).Offers bytes) :
    (∃ reply rest, Decides bytes reply rest) ∧
    (∀ reply rest, Decides bytes reply rest → ∃ outcome s',
      Follows session.config session.nextId reply outcome ∧
      authenticate password session = outcome.leaving (session.afterLogin s' outcome) ∧
      view s' = (view s).after rest (packet session.nextId loginType password)) ∧
    (session.config.strictIds = true → (authenticate password session).toExcept = .ok true →
      ∃ reply rest, Decides bytes (.ok reply) rest ∧ reply.requestId = session.nextId) ∧
    (∀ first left, readPacket bytes = .ok first left → first.requestId = refusedId →
      (authenticate password session).toExcept = .ok false) := by
  have hdecided := fun reply rest (hreply : Decides bytes reply rest) =>
    authenticate_of_decides password hlink hoffers hreply
  refine ⟨exists_decides bytes, hdecided, ?_, ?_⟩
  · intro hstrict haccepted
    obtain ⟨reply, rest, hreply⟩ := exists_decides bytes
    obtain ⟨outcome, s', hfollows, hauthenticate, -⟩ := hdecided reply rest hreply
    rw [hauthenticate, toExcept_leaving] at haccepted
    subst haccepted
    cases reply with
    | error e => exact absurd (hfollows.failed e rfl) nofun
    | ok p => exact ⟨p, rest, hreply, ((hfollows.accepted_iff p rfl).mp rfl).2 hstrict⟩
  · intro first left hread hrefused
    obtain ⟨outcome, s', hfollows, hauthenticate, -⟩ :=
      hdecided _ left (.first hread fun hahead => hahead.requestId_ne hrefused)
    rw [hauthenticate, toExcept_leaving]
    exact (hfollows.refused_iff first rfl).mpr hrefused

/-- An empty response with the id that was sent. -/
def emptyReply : Reply where
  requestId := 7
  payload := []
  nonzero := by decide
  fits := by decide

/-- The reply to a login that was accepted. -/
def acceptance : Reply where
  requestId := 7
  type := commandType
  payload := []
  nonzero := by decide
  fits := by decide

/-- A session that insists on ids and is not logged in, to which both are to come, and one more
byte. -/
def strictSession : Session (Cut Traffic) Progression where
  config := { strictIds := true }
  link := .connected
    { peer.incoming := (emptyReply.bytes ++ (acceptance.bytes ++ [1])).map .ok
      reads := [some 0, none, some 5] }
  ids := { next := 7, step := 0 }

theorem authenticate_skips_emptyReply :
    ∃ s', authenticate "secret" strictSession =
        .ok true { strictSession.after s' with authenticated := true } ∧
      (view s').incoming = [.ok 1] ∧ (view s').written = packet 7 loginType "secret" := by
  have hdecides : Decides (emptyReply.bytes ++ (acceptance.bytes ++ [1]))
      (.ok acceptance.packet) [1] :=
    .second (emptyReply.readPacket_bytes_append _) ⟨rfl, rfl, by decide⟩
      (acceptance.readPacket_bytes_append [1])
  obtain ⟨outcome, s', hfollows, hauthenticate, hview⟩ :=
    (authenticate_follows_reply "secret" (rfl : strictSession.link = _)
      ⟨⟨rfl, rfl, rfl⟩, rfl⟩).2.1 _ _ hdecides
  obtain rfl : outcome = .ok true :=
    (hfollows.accepted_iff _ rfl).mpr ⟨by decide, fun _ => rfl⟩
  exact ⟨s', hauthenticate, by rw [hview]; rfl, by rw [hview]; rfl⟩

end Session

end GameProbe.Rcon
