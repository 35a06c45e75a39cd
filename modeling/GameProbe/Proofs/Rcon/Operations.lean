import GameProbe.Proofs.Transport.Link
import GameProbe.Rcon.Session
import Mathlib.Tactic.SplitIfs

/-!
# Operations of a remote console

What a login and a command do, outcome by outcome: which check turns them away, what they exchange
with the server, and what they make of its answer.
-/

namespace GameProbe.Rcon.Session

variable {σ ι : Type} [IdSource ι]

/-- The session is connected over the transport and logged in. -/
structure LoggedIn (session : Session σ ι) (s : σ) : Prop where
  link : session.link = .connected s
  authenticated : session.authenticated = true

/-- The id of the next request. -/
abbrev nextId (session : Session σ ι) : Int32 := (IdSource.requestId session.ids).1

/-- The session with an id drawn and its transport moved on. -/
def after (session : Session σ ι) (s : σ) : Session σ ι :=
  { session with link := .connected s, ids := (IdSource.requestId session.ids).2 }

variable {session : Session σ ι} {s s' : σ} {password text : String}

lemma LoggedIn.after (h : session.LoggedIn s) (s' : σ) : (session.after s').LoggedIn s' :=
  ⟨rfl, h.authenticated⟩

omit [IdSource ι] in
lemma ensureConnected_of_connected (h : session.link = .connected s) :
    Linked.ensureConnected session = .ok () session := by
  simp only [Linked.ensureConnected, Linked.isConnected, Linked.link, h, Link.isConnected]
  rfl

omit [IdSource ι] in
lemma ensureConnected_of_not_connected (h : session.link.isConnected = false) :
    Linked.ensureConnected session = .error .notConnected session := by
  simp only [Linked.ensureConnected, Linked.isConnected, Linked.link, h]
  rfl

lemma drawRequestId_apply (session : Session σ ι) :
    drawRequestId session =
      .ok session.nextId { session with ids := (IdSource.requestId session.ids).2 } := rfl

omit [IdSource ι] in
lemma checkRequestId_apply (config : Config) (sent echoed : Int32) :
    checkRequestId config sent echoed =
      if config.strictIds ∧ sent ≠ echoed then .error (.idMismatch sent.toInt64 echoed.toInt64)
      else .ok () := rfl

variable [StreamTransport σ]

/-! ### Logging in -/

/-- Send a password and wait for the reply that decides. -/
abbrev login (config : Config) (requestId : Int32) (password : String) : Decoder σ Packet :=
  writeRequest (packet requestId loginType password) >>= fun _ => receiveLoginReply config

/-- What a login makes of the reply that decides. -/
def concludeLogin (config : Config) (requestId : Int32) (reply : Packet) :
    EStateM Error (Session σ ι) Bool := do
  if reply.requestId = refusedId then
    modify fun session => { session with authenticated := false }
    return false
  else
    match checkRequestId config requestId reply.requestId with
    | .ok () =>
      modify fun session => { session with authenticated := true }
      return true
    | .error e => throw e

omit [IdSource ι] [StreamTransport σ] in
lemma concludeLogin_apply (config : Config) (requestId : Int32) (reply : Packet)
    (session : Session σ ι) :
    concludeLogin config requestId reply session =
      if reply.requestId = refusedId then .ok false { session with authenticated := false }
      else if config.strictIds ∧ requestId ≠ reply.requestId then
        .error (.idMismatch requestId.toInt64 reply.requestId.toInt64) session
      else .ok true { session with authenticated := true } := by
  rw [concludeLogin, checkRequestId_apply]
  split
  · rfl
  · by_cases hcheck : config.strictIds ∧ requestId ≠ reply.requestId
    · rw [if_pos hcheck, if_pos hcheck]
      rfl
    · rw [if_neg hcheck, if_neg hcheck]
      rfl

omit [IdSource ι] [StreamTransport σ] in
lemma link_concludeLogin (config : Config) (requestId : Int32) (reply : Packet)
    (session : Session σ ι) :
    (concludeLogin config requestId reply session).state.link = session.link := by
  rw [concludeLogin_apply]
  split_ifs <;> rfl

lemma authenticate_of_not_connected (h : session.link.isConnected = false) :
    authenticate password session = .error .notConnected session := by
  rw [authenticate, get_bind_apply]
  exact bind_of_error (ensureConnected_of_not_connected h)

lemma authenticate_eq (h : session.link = .connected s) :
    authenticate password session =
      (Linked.use (login session.config session.nextId password) >>=
        concludeLogin session.config session.nextId)
        { session with ids := (IdSource.requestId session.ids).2 } := by
  rw [authenticate, get_bind_apply, bind_of_ok (ensureConnected_of_connected h),
    bind_of_ok (drawRequestId_apply session)]
  rfl

lemma authenticate_of_error {e : Error} (hlink : session.link = .connected s)
    (h : login session.config session.nextId password s = .error e s') :
    authenticate password session = .error e (session.after s') := by
  rw [authenticate_eq hlink]
  apply bind_of_error
  rw [Linked.use_of_connected _ hlink, h]
  rfl

lemma authenticate_of_login {reply : Packet} (hlink : session.link = .connected s)
    (h : login session.config session.nextId password s = .ok reply s') :
    authenticate password session =
      concludeLogin session.config session.nextId reply (session.after s') := by
  rw [authenticate_eq hlink]
  apply bind_of_ok
  rw [Linked.use_of_connected _ hlink, h]
  rfl

lemma link_authenticate (hlink : session.link = .connected s) :
    (authenticate password session).state.link =
      .connected (login session.config session.nextId password s).state := by
  cases h : login session.config session.nextId password s with
  | error e s' =>
    rw [authenticate_of_error hlink h]
    rfl
  | ok reply s' =>
    rw [authenticate_of_login hlink h]
    exact link_concludeLogin ..

/-! ### Fragments -/

section Fragments

variable {config : Config} {requestId : Int32} {p : Packet}

omit [IdSource ι] in
lemma receiveFragment_of_receive (h : receive config s = .ok p s') :
    receiveFragment config requestId s =
      .ok (if p.payload = Utf8.encode unknownRequestReply then none
        else some (if p.requestId = requestId then p.payload else [])) s' := bind_of_ok h

lemma collectFrom_of_receive_error {e : Error} (requestId : Int32) (got : List Bytes)
    (h : receive config s = .error e s') :
    collectFrom (receiveFragment config requestId) (consumes_receiveFragment config requestId)
      got s = .error e s' := by
  rw [collectFrom_eq_bind]
  exact bind_of_error (bind_of_error h)

/-- What packets of other requests leave out is as good as the packets left out. -/
lemma flatMap_ite_nil {α : Type} (P : α → Prop) [DecidablePred P] (f : α → Bytes) (l : List α) :
    (l.flatMap fun a => if P a then f a else []) = (l.filter fun a => P a).flatMap f := by
  induction l with
  | nil => rfl
  | cons a l ih =>
    rw [List.flatMap_cons, ih]
    by_cases h : P a
    · rw [if_pos h, List.filter_cons_of_pos (by simpa using h), List.flatMap_cons]
    · rw [if_neg h, List.filter_cons_of_neg (by simpa using h), List.nil_append]

end Fragments

/-! ### Commands -/

/-- Write a command and read the response. -/
abbrev exchange (config : Config) (requestId : Int32) (text : String) :
    Decoder σ (Packet × Bytes) :=
  writeRequest (packet requestId commandType text) >>= fun _ => receiveResponse config requestId

/-- What a command makes of its exchange. -/
def conclude (config : Config) (requestId : Int32) (first : Packet) (output : Bytes) :
    EStateM Error (Session σ ι) String := do
  if first.requestId = refusedId then throw .notAuthenticated
  match checkRequestId config requestId first.requestId with
  | .ok () => return Utf8.decodeLossy output
  | .error e => throw e

omit [IdSource ι] [StreamTransport σ] in
lemma conclude_apply (config : Config) (requestId : Int32) (first : Packet) (output : Bytes)
    (session : Session σ ι) :
    conclude config requestId first output session =
      if first.requestId = refusedId then .error .notAuthenticated session
      else if config.strictIds ∧ requestId ≠ first.requestId then
        .error (.idMismatch requestId.toInt64 first.requestId.toInt64) session
      else .ok (Utf8.decodeLossy output) session := by
  rw [conclude, checkRequestId_apply]
  dsimp only
  split
  · rfl
  · by_cases hcheck : config.strictIds ∧ requestId ≠ first.requestId
    · rw [if_pos hcheck, if_pos hcheck]
      rfl
    · rw [if_neg hcheck, if_neg hcheck]
      rfl

omit [IdSource ι] [StreamTransport σ] in
lemma state_conclude (config : Config) (requestId : Int32) (first : Packet) (output : Bytes)
    (session : Session σ ι) :
    (conclude config requestId first output session).state = session := by
  rw [conclude_apply]
  split_ifs <;> rfl

lemma command_of_long (h : maxCommandLength < (Utf8.encode text).length) :
    command text session =
      .error (.commandTooLong (Utf8.encode text).length maxCommandLength) session := by
  rw [command, get_bind_apply]
  dsimp only
  rw [if_pos h]
  rfl

lemma command_of_not_connected (htext : (Utf8.encode text).length ≤ maxCommandLength)
    (h : session.link.isConnected = false) :
    command text session = .error .notConnected session := by
  rw [command, get_bind_apply]
  dsimp only
  rw [if_neg (Nat.not_lt.mpr htext)]
  exact bind_of_error (ensureConnected_of_not_connected h)

lemma command_of_not_authenticated (htext : (Utf8.encode text).length ≤ maxCommandLength)
    (hlink : session.link = .connected s) (h : session.authenticated = false) :
    command text session = .error .notAuthenticated session := by
  rw [command, get_bind_apply]
  dsimp only
  rw [if_neg (Nat.not_lt.mpr htext), bind_of_ok (ensureConnected_of_connected hlink), h]
  rfl

section Exchanged

variable {e : Error} {first : Packet} {output : Bytes}

lemma command_eq (hsession : session.LoggedIn s)
    (htext : (Utf8.encode text).length ≤ maxCommandLength) :
    command text session =
      (Linked.use (exchange session.config session.nextId text) >>=
        fun (first, output) => conclude session.config session.nextId first output)
        { session with ids := (IdSource.requestId session.ids).2 } := by
  rw [command, get_bind_apply]
  dsimp only
  rw [if_neg (Nat.not_lt.mpr htext), bind_of_ok (ensureConnected_of_connected hsession.link),
    if_neg (by simp [hsession.authenticated]), bind_of_ok (drawRequestId_apply session)]
  rfl

lemma command_of_error (hsession : session.LoggedIn s)
    (htext : (Utf8.encode text).length ≤ maxCommandLength)
    (h : exchange session.config session.nextId text s = .error e s') :
    command text session = .error e (session.after s') := by
  rw [command_eq hsession htext]
  apply bind_of_error
  rw [Linked.use_of_connected _ hsession.link, h]
  rfl

lemma command_of_exchange (hsession : session.LoggedIn s)
    (htext : (Utf8.encode text).length ≤ maxCommandLength)
    (h : exchange session.config session.nextId text s =
      .ok (first, output) s') :
    command text session = conclude session.config session.nextId first output
      (session.after s') := by
  rw [command_eq hsession htext]
  refine bind_of_ok (a := (first, output)) ?_
  rw [Linked.use_of_connected _ hsession.link, h]
  rfl

lemma link_command (hsession : session.LoggedIn s)
    (htext : (Utf8.encode text).length ≤ maxCommandLength) :
    (command text session).state.link =
      .connected (exchange session.config session.nextId text s).state := by
  cases h : exchange session.config session.nextId text s with
  | error e s' =>
    rw [command_of_error hsession htext h]
    rfl
  | ok response s' =>
    rw [command_of_exchange hsession htext h, state_conclude]
    rfl

omit [IdSource ι] [StreamTransport σ] in
lemma conclude_of_eq {requestId : Int32} {config : Config} (hid : first.requestId = requestId)
    (hne : requestId ≠ refusedId) :
    conclude config requestId first output session =
      .ok (Utf8.decodeLossy output) session := by
  rw [conclude_apply, if_neg (by rwa [hid]), if_neg (by simp [hid])]

omit [IdSource ι] [StreamTransport σ] in
lemma conclude_of_ne {requestId : Int32} {config : Config} (hstrict : config.strictIds = true)
    (hid : first.requestId ≠ requestId) :
    ∃ e, conclude config requestId first output session = .error e session := by
  rw [conclude_apply]
  split
  · exact ⟨_, rfl⟩
  · rw [if_pos ⟨hstrict, Ne.symm hid⟩]
    exact ⟨_, rfl⟩

end Exchanged

end GameProbe.Rcon.Session
