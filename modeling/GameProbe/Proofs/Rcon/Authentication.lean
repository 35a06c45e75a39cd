import GameProbe.Proofs.Lifecycle

/-!
# Authentication

When a remote console counts as logged in, over any calls of a client, and what it writes then. The
flag is set and taken back in several places and left alone by most failures; what it says is what
the last login said that went through.
-/

namespace GameProbe.Rcon

open EStateM.Result Watched

variable {σ ι : Type}

/-! ### What the calls brought -/

/-- Whether the call logs out. -/
def Call.isDisconnect : Call σ → Bool
  | disconnect => true
  | _ => false

/-- What a login brought, if it went through. -/
def login? : Call σ × Except Error Outcome → Option Bool
  | (.authenticate _, .ok (.accepted accepted)) => some accepted
  | _ => none

lemma eq_of_login? {call : Call σ} {result : Except Error Outcome} {accepted : Bool}
    (h : login? (call, result) = some accepted) : result = .ok (.accepted accepted) := by
  unfold login? at h
  split at h
  · rename_i heq
    cases heq
    cases h
    rfl
  · cases h

/-- What the last login brought that went through since the last disconnect. -/
def lastLogin (history : List (Call σ × Except Error Outcome)) : Option Bool :=
  (history.reverse.takeWhile fun event => !event.1.isDisconnect).findSome? login?

lemma lastLogin_concat (history : List (Call σ × Except Error Outcome)) (call : Call σ)
    (result : Except Error Outcome) :
    lastLogin (history ++ [(call, result)]) =
      if call.isDisconnect then none else (login? (call, result)).or (lastLogin history) := by
  rw [lastLogin, List.reverse_concat, List.takeWhile_cons]
  cases call.isDisconnect with
  | true => rfl
  | false =>
    show List.findSome? login? ((call, result) :: _) =
      (login? (call, result)).or (lastLogin history)
    rw [List.findSome?_cons]
    cases login? (call, result) <;> rfl

namespace Session

variable [StreamTransport σ] [IdSource ι]

/-! ### The flag -/

/-- A login moves the flag just when it goes through. -/
lemma authenticated_authenticate (password : String) (session : Session σ ι) :
    (authenticate password session).state.authenticated =
      ((authenticate password session).value?).getD session.authenticated := by
  rcases session.link.not_connected_or with hlink | ⟨s, hlink⟩
  · rw [authenticate_of_not_connected hlink]
    rfl
  cases h : login session.config session.nextId password s with
  | error e s' =>
    rw [authenticate_of_error hlink h]
    rfl
  | ok reply s' =>
    rw [authenticate_of_login hlink h, concludeLogin_apply]
    split_ifs <;> rfl

lemma authenticated_command (text : String) (session : Session σ ι) :
    (command text session).state.authenticated = session.authenticated := by
  by_cases htext : maxCommandLength < (Utf8.encode text).length
  · rw [command_of_long htext]
    rfl
  rw [Nat.not_lt] at htext
  rcases session.link.not_connected_or with hlink | ⟨s, hlink⟩
  · rw [command_of_not_connected htext hlink]
    rfl
  cases hauthenticated : session.authenticated with
  | false =>
    rw [command_of_not_authenticated htext hlink hauthenticated]
    exact hauthenticated
  | true =>
    cases h : exchange session.config session.nextId text s with
    | error e s' =>
      rw [command_of_error ⟨hlink, hauthenticated⟩ htext h]
      exact hauthenticated
    | ok response s' =>
      rw [command_of_exchange ⟨hlink, hauthenticated⟩ htext h, state_conclude]
      exact hauthenticated

omit [StreamTransport σ] [IdSource ι] in
lemma authenticated_attach (t : σ) (session : Session σ ι) :
    (Linked.attach t session : EStateM.Result Error _ Unit).state.authenticated =
      session.authenticated := by
  obtain ⟨config, _ | transport | transport, ids, authenticated⟩ := session <;> rfl

omit [IdSource ι] in
lemma authenticated_disconnect (session : Session σ ι) :
    (disconnect session).state.authenticated = false := by
  show (Linked.release { session with authenticated := false } :
    EStateM.Result Error (Session σ ι) Unit).state.authenticated = false
  obtain ⟨config, _ | transport | transport, ids, authenticated⟩ := session
  · rfl
  · rw [Linked.release_of_connected rfl, state_mapState]
    rfl
  · rfl

/-- A call other than a disconnect leaves the flag as it is, unless it is a login that goes
through. -/
lemma authenticated_perform (call : Call σ) (session : Session σ ι) :
    (perform call session).state.authenticated =
      if call.isDisconnect then false
      else (login? (call, (perform call session).toExcept)).getD session.authenticated := by
  cases call with
  | connect t =>
    rw [perform, state_bind_pure]
    exact authenticated_attach t session
  | authenticate password =>
    rw [perform, state_bind_pure, toExcept_bind_pure, authenticated_authenticate]
    cases authenticate password session <;> rfl
  | command text =>
    rw [perform, state_bind_pure]
    exact authenticated_command text session
  | disconnect =>
    rw [perform, state_bind_pure]
    exact authenticated_disconnect session

/-! ### Requests -/

/-- What a call may write: a login its packet, and a command, with the flag set, its packet and the
request that no server knows. -/
def requests (session : Session (Watched σ) ι) : Call (Watched σ) → Bytes
  | .authenticate password => packet session.nextId loginType password
  | .command text =>
    if session.authenticated then
      packet session.nextId commandType text ++ packet session.nextId invalidType ""
    else []
  | .connect _ | .disconnect => []

omit [IdSource ι] in
lemma writes_login (config : Config) (requestId : Int32) (password : String) :
    Writes (packet requestId loginType password)
      (login config requestId password : Decoder (Watched σ) Packet) := by
  rw [← List.append_nil (packet requestId loginType password)]
  exact .request_bind (.of_silent (moves_receiveLoginReply listens_silent config))

lemma writes_exchange (config : Config) (requestId : Int32) (text : String) :
    Writes (packet requestId commandType text ++ packet requestId invalidType "")
      (exchange config requestId text : Decoder (Watched σ) _) := by
  refine .request_bind (.silent_bind (moves_receive listens_silent config) fun first => ?_)
  split
  · exact .of_silent (.pure _)
  · rw [← List.append_nil (packet requestId invalidType "")]
    exact .request_bind (.of_silent
      ((moves_collectFragments listens_silent config requestId).map _))

/-- A call writes a beginning of what it may write. -/
lemma written_perform (call : Call (Watched σ)) {session : Session (Watched σ) ι} {w : Watched σ}
    (hlink : session.link.transport? = some w) :
    ∃ w' taken, (perform call session).state.link.transport? = some w' ∧
      taken <+: session.requests call ∧ w'.written = w.written ++ taken := by
  have hstep : Link.Step call.refusal call.onLink session.link (perform call session).toExcept
    (perform call session).state.link := steps_perform call session
  cases hconnection : session.link with
  | unconnected =>
    rw [hconnection] at hlink
    cases hlink
  | disconnected w₀ =>
    rw [hconnection] at hlink
    obtain rfl := Option.some.inj hlink
    rw [hconnection] at hstep
    refine ⟨w₀, [], ?_, List.nil_prefix, (List.append_nil _).symm⟩
    exact congrArg Link.transport? hstep.disconnected
  | connected w₀ =>
    rw [hconnection] at hlink
    obtain rfl := Option.some.inj hlink
    rw [hconnection] at hstep
    cases call with
    | connect t =>
      refine ⟨w₀, [], ?_, List.nil_prefix, (List.append_nil _).symm⟩
      exact congrArg Link.transport? hstep.reconnects
    | authenticate password =>
      obtain ⟨taken, hprefix, hwritten⟩ :=
        writes_login session.config session.nextId password w₀
      refine ⟨_, taken, ?_, hprefix, hwritten⟩
      rw [perform, state_bind_pure, link_authenticate hconnection]
      rfl
    | command text =>
      rw [perform, state_bind_pure]
      by_cases htext : maxCommandLength < (Utf8.encode text).length
      · rw [command_of_long htext, state_error, hconnection]
        exact ⟨w₀, [], rfl, List.nil_prefix, (List.append_nil _).symm⟩
      rw [Nat.not_lt] at htext
      cases hauthenticated : session.authenticated with
      | false =>
        rw [command_of_not_authenticated htext hconnection hauthenticated, state_error, hconnection]
        exact ⟨w₀, [], rfl, List.nil_prefix, (List.append_nil _).symm⟩
      | true =>
        obtain ⟨taken, hprefix, hwritten⟩ := writes_exchange session.config session.nextId text w₀
        rw [link_command ⟨hconnection, hauthenticated⟩ htext, requests, if_pos hauthenticated]
        exact ⟨_, taken, rfl, hprefix, hwritten⟩
    | disconnect =>
      obtain ⟨w', hlink', hacts⟩ := hstep.disconnects
      refine ⟨w', [], congrArg Link.transport? hlink', List.nil_prefix, ?_⟩
      exact written_of_acts hacts

/-- A transport is taken up as it was offered. -/
lemma transport_perform {call : Call (Watched σ)} {session : Session (Watched σ) ι} {w : Watched σ}
    (hlink : session.link.transport? = none)
    (h : (perform call session).state.link.transport? = some w) : call = .connect w := by
  have hstep : Link.Step call.refusal call.onLink session.link (perform call session).toExcept
    (perform call session).state.link := steps_perform call session
  cases hconnection : session.link with
  | unconnected =>
    rw [hconnection] at hstep
    cases call with
    | connect t =>
      rw [hstep.connects] at h
      rw [Option.some.inj h]
    | authenticate | command | disconnect =>
      rw [hstep.unconnected rfl] at h
      cases h
  | connected | disconnected =>
    rw [hconnection] at hlink
    cases hlink

end Session

/-! ### Whole runs -/

open Session

variable [StreamTransport σ] [IdSource ι]

/-- What is known of a session after a history of calls, and of the calls that come next. -/
structure Guarded (history : List (Call (Watched σ) × Except Error Outcome))
    (session : Session (Watched σ) ι) : Prop where
  /-- The flag is what the last login said that went through since the last disconnect. -/
  authenticated_iff : session.authenticated = true ↔ lastLogin history = some true
  isConnected : session.authenticated = true → session.link.isConnected = true
  /-- A transport is taken up as it was offered. -/
  connect : ∀ call w, session.link.transport? = none →
    (perform call session).state.link.transport? = some w → call = .connect w
  /-- A login writes its packet at most, and only with the flag set a command writes its own; it
  then leaves the flag as it is. -/
  written : ∀ call w, session.link.transport? = some w →
    ∃ w' taken, (perform call session).state.link.transport? = some w' ∧
      taken <+: session.requests call ∧ w'.written = w.written ++ taken
  authenticated_command : ∀ text,
    (perform (.command text) session).state.authenticated = session.authenticated
  /-- A login that is refused takes the flag back. -/
  refused : ∀ password reply w w', session.link = .connected w →
    login session.config session.nextId password w = .ok reply w' → reply.requestId = refusedId →
    ∃ session', perform (.authenticate password) session = .ok (.accepted false) session' ∧
      session'.authenticated = false
  /-- Without the flag, every command is turned away until a login is accepted. -/
  unauthenticated : ∀ later text, session.authenticated = false →
    (∀ result ∈ (runAll perform later session).1, result ≠ .ok (.accepted true)) →
    ∃ e, perform (.command text) (runAll perform later session).2 =
      .error e (runAll perform later session).2
  /-- A command that is turned away leaves the session as it is, with its transport and its ids. -/
  commandTooLong : ∀ text, maxCommandLength < (Utf8.encode text).length →
    perform (.command text) session =
      .error (.commandTooLong (Utf8.encode text).length maxCommandLength) session
  notConnected : ∀ text, (Utf8.encode text).length ≤ maxCommandLength →
    session.link.isConnected = false →
    perform (.command text) session = .error .notConnected session
  notAuthenticated : ∀ text, (Utf8.encode text).length ≤ maxCommandLength →
    session.link.isConnected = true → session.authenticated = false →
    perform (.command text) session = .error .notAuthenticated session

namespace Session

lemma perform_command_of_long {text : String} (session : Session σ ι)
    (htext : maxCommandLength < (Utf8.encode text).length) :
    perform (.command text) session =
      .error (.commandTooLong (Utf8.encode text).length maxCommandLength) session :=
  bind_of_error (command_of_long htext)

lemma perform_command_of_not_connected {text : String} {session : Session σ ι}
    (htext : (Utf8.encode text).length ≤ maxCommandLength)
    (hlink : session.link.isConnected = false) :
    perform (.command text) session = .error .notConnected session :=
  bind_of_error (command_of_not_connected htext hlink)

lemma perform_command_of_not_authenticated {text : String} {session : Session σ ι}
    (htext : (Utf8.encode text).length ≤ maxCommandLength)
    (hlink : session.link.isConnected = true) (hauthenticated : session.authenticated = false) :
    perform (.command text) session = .error .notAuthenticated session := by
  rcases session.link.not_connected_or with hlink' | ⟨s, hlink'⟩
  · rw [hlink] at hlink'
    cases hlink'
  · exact bind_of_error (command_of_not_authenticated htext hlink' hauthenticated)

/-- Without the flag a command is turned away, for one reason or another. -/
lemma perform_command_of_unauthenticated (text : String) {session : Session σ ι}
    (hauthenticated : session.authenticated = false) :
    ∃ e, perform (.command text) session = .error e session := by
  by_cases htext : maxCommandLength < (Utf8.encode text).length
  · exact ⟨_, perform_command_of_long session htext⟩
  rw [Nat.not_lt] at htext
  cases hlink : session.link.isConnected with
  | false => exact ⟨_, perform_command_of_not_connected htext hlink⟩
  | true => exact ⟨_, perform_command_of_not_authenticated htext hlink hauthenticated⟩

lemma authenticated_runAll {later : List (Call σ)} {session : Session σ ι}
    (hauthenticated : session.authenticated = false)
    (hlater : ∀ result ∈ (runAll perform later session).1, result ≠ .ok (.accepted true)) :
    (runAll perform later session).2.authenticated = false := by
  induction later generalizing session with
  | nil => exact hauthenticated
  | cons call later ih =>
    rw [runAll_cons] at hlater ⊢
    refine ih ?_ fun result h => hlater result (List.mem_cons_of_mem _ h)
    have hresult := hlater _ List.mem_cons_self
    rw [authenticated_perform, hauthenticated]
    split
    · rfl
    · cases hlogin : login? (call, (perform call session).toExcept) with
      | none => rfl
      | some accepted =>
        cases accepted with
        | false => rfl
        | true => exact absurd (eq_of_login? hlogin) hresult

lemma refused_of_login {password : String} {reply : Packet} {session : Session σ ι} {s s' : σ}
    (hlink : session.link = .connected s)
    (h : login session.config session.nextId password s = .ok reply s')
    (hrefused : reply.requestId = refusedId) :
    ∃ session', perform (.authenticate password) session = .ok (.accepted false) session' ∧
      session'.authenticated = false := by
  have hlogin := authenticate_of_login hlink h
  rw [concludeLogin_apply, if_pos hrefused] at hlogin
  exact ⟨_, bind_of_ok hlogin, rfl⟩

/-- Only over a connection a login goes through. -/
lemma isConnected_of_login? {call : Call σ} {session : Session σ ι} {accepted : Bool}
    (h : login? (call, (perform call session).toExcept) = some accepted) :
    session.link.isConnected = true := by
  cases call with
  | authenticate password =>
    rcases session.link.not_connected_or with hlink | ⟨s, hlink⟩
    · have hfail : perform (.authenticate password) session = .error .notConnected session :=
        bind_of_error (authenticate_of_not_connected hlink)
      rw [hfail] at h
      cases h
    · rw [hlink]
      rfl
  | connect | command | disconnect => cases h

end Session

/-- The flag says what the last login of a history said, and is set over a connection only. -/
structure Flagged (history : List (Call (Watched σ) × Except Error Outcome))
    (session : Session (Watched σ) ι) : Prop where
  authenticated : session.authenticated = (lastLogin history).getD false
  isConnected : session.authenticated = true → session.link.isConnected = true

lemma Flagged.perform {history : List (Call (Watched σ) × Except Error Outcome)}
    {session : Session (Watched σ) ι} (h : Flagged history session) (call : Call (Watched σ)) :
    Flagged (history ++ [(call, (perform call session).toExcept)])
      (perform call session).state where
  authenticated := by
    rw [authenticated_perform, lastLogin_concat, h.authenticated]
    split
    · rfl
    · rw [Option.getD_or]
  isConnected := by
    intro hauthenticated
    rw [authenticated_perform] at hauthenticated
    split at hauthenticated
    · cases hauthenticated
    rename_i hcall
    have hconnected : session.link.isConnected = true := by
      cases hlogin : login? (call, (Session.perform call session).toExcept) with
      | some accepted => exact isConnected_of_login? hlogin
      | none =>
        rw [hlogin] at hauthenticated
        exact h.isConnected hauthenticated
    -- a connection is given up by a disconnect only
    rcases session.link.not_connected_or with hlink | ⟨w, hlink⟩
    · rw [hconnected] at hlink
      cases hlink
    have hstep : Link.Step call.refusal call.onLink session.link
      (Session.perform call session).toExcept (Session.perform call session).state.link :=
        steps_perform call session
    rw [hlink] at hstep
    obtain ⟨w', hlink', -⟩ := hstep.connected (by cases call <;> trivial)
    rw [hlink']
    rfl

lemma Flagged.runAll {history : List (Call (Watched σ) × Except Error Outcome)}
    {session : Session (Watched σ) ι} (h : Flagged history session)
    (calls : List (Call (Watched σ))) :
    Flagged (history ++ calls.zip (runAll Session.perform calls session).1)
      (runAll Session.perform calls session).2 := by
  induction calls generalizing history session with
  | nil => rwa [List.zip_nil_left, List.append_nil]
  | cons call calls ih =>
    rw [runAll_cons, List.zip_cons_cons, List.append_cons]
    exact ih (h.perform call)

/-- All but the flag itself is known of every session. -/
lemma Guarded.of_flag {history : List (Call (Watched σ) × Except Error Outcome)}
    {session : Session (Watched σ) ι}
    (hflag : session.authenticated = true ↔ lastLogin history = some true)
    (hlink : session.authenticated = true → session.link.isConnected = true) :
    Guarded history session where
  authenticated_iff := hflag
  isConnected := hlink
  connect _ _ := transport_perform
  written call _ h := written_perform call h
  authenticated_command text := authenticated_perform (.command text) session
  refused _ _ _ _ := refused_of_login
  unauthenticated _ text h hlater :=
    perform_command_of_unauthenticated text (authenticated_runAll h hlater)
  commandTooLong _ := perform_command_of_long session
  notConnected _ := perform_command_of_not_connected
  notAuthenticated _ := perform_command_of_not_authenticated

/-- Whatever is called on a new session, and whatever its server and its transport do: the session
is logged in just if, since the last disconnect, the last login that went through was accepted, and
then it is connected. Commands, and the request that marks the end of a response, are written in
that state only, so that after a refused login nothing of a command is written until another login
is accepted; and a command that is turned away does nothing at all. -/
theorem commands_need_login (config : Config) (ids : ι) (calls : List (Call (Watched σ))) :
    Guarded
      (calls.zip (runAll perform calls ({ config, ids } : Session (Watched σ) ι)).1)
      (runAll perform calls ({ config, ids } : Session (Watched σ) ι)).2 := by
  have hfresh : Flagged [] ({ config, ids } : Session (Watched σ) ι) := ⟨rfl, nofun⟩
  obtain ⟨hauthenticated, hconnected⟩ := hfresh.runAll calls
  rw [List.nil_append] at hauthenticated
  refine .of_flag ?_ hconnected
  rw [hauthenticated, Option.getD_eq_iff]
  simp

end GameProbe.Rcon
