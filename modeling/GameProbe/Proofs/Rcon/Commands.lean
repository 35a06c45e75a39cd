import GameProbe.Proofs.Calls
import GameProbe.Proofs.Rcon.Exchange
import GameProbe.Proofs.Text.Utf8
import GameProbe.Proofs.Transport.Cut

/-!
# Commands

What a client gets for its commands when it talks to a server that answers in order. If time never
runs out, every command brings its whole response. If it does run out, what was left unread comes
later; a client that insists on its ids then takes nothing for the response to another command.
-/

namespace GameProbe.Rcon

open Carrier

/-! ### Request ids -/

section Ids

variable {ι : Type} [IdSource ι]

/-- The next `n` ids of requests. -/
def requestIds : Nat → ι → List Int32
  | 0, _ => []
  | n + 1, ids => (IdSource.requestId ids).1 :: requestIds n (IdSource.requestId ids).2

/-- No request has the id that stands for a refused password. -/
lemma requestId_ne_refusedId (ids : ι) : (IdSource.requestId ids).1 ≠ refusedId := by
  intro h
  have hn := congrArg Int32.toUInt32 h
  change (IdSource.draw32 ids).1 &&& 0x7FFFFFFF = 0xFFFFFFFF at hn
  have hle : ((IdSource.draw32 ids).1 &&& 0x7FFFFFFF).toNat ≤ 0x7FFFFFFF := by
    rw [UInt32.toNat_and]
    exact Nat.and_le_right
  rw [hn] at hle
  revert hle
  decide

end Ids

/-! ### What is to be expected -/

namespace Console

/-- What comes back for commands if time never runs out. -/
def responses (c : Console) (commands : Nat) (texts : List String) (ids : List Int32) :
    List (Except Error String) :=
  (texts.zip ids).mapIdx fun k (text, requestId) =>
    .ok (Utf8.decodeLossy (c.answerTo (commands + k) requestId text).contents)

/-- What is written for commands if time never runs out. -/
def requests (c : Console) (commands : Nat) (texts : List String) (ids : List Int32) : Bytes :=
  ((texts.zip ids).mapIdx fun k (text, requestId) =>
    (c.answerTo (commands + k) requestId text).requests text).flatten

lemma responses_cons (c : Console) (commands : Nat) (text : String) (texts : List String)
    (requestId : Int32) (ids : List Int32) :
    c.responses commands (text :: texts) (requestId :: ids) =
      .ok (Utf8.decodeLossy (c.answerTo commands requestId text).contents) ::
        c.responses (commands + 1) texts ids := by
  simp only [responses, List.zip_cons_cons, List.mapIdx_cons, Nat.add_zero, Nat.add_assoc,
    Nat.add_comm 1]

lemma requests_cons (c : Console) (commands : Nat) (text : String) (texts : List String)
    (requestId : Int32) (ids : List Int32) :
    c.requests commands (text :: texts) (requestId :: ids) =
      (c.answerTo commands requestId text).requests text ++
        c.requests (commands + 1) texts ids := by
  simp only [requests, List.zip_cons_cons, List.mapIdx_cons, List.flatten_cons, Nat.add_zero,
    Nat.add_assoc, Nat.add_comm 1]

end Console

namespace Session

open Console

variable {σ ι : Type} [IdSource ι] [StreamTransport σ] {session : Session σ ι} {s : σ}
  {text : String}

/-! ### One command -/

variable [Carrier σ Console] {start : Console} {commands : Nat} {backlog : List Reply}
  {written : Bytes}

/-- With nothing left unread, a command brings its own response, or time runs out. -/
lemma command_of_idle (hsession : session.LoggedIn s)
    (htext : (Utf8.encode text).length ≤ maxCommandLength)
    (h : Later start commands [] written (view s)) :
    (∃ s', command text session = .ok
        (Utf8.decodeLossy (start.answerTo commands session.nextId text).contents)
        (session.after s') ∧
      Later start (commands + 1) []
        (written ++ (start.answerTo commands session.nextId text).requests text) (view s')) ∨
    (∃ s' rest written', command text session = .error (.io Fault.timedOut) (session.after s') ∧
      rest ⊆ (start.answerTo commands session.nextId text).replies ++ [refusal session.nextId] ∧
      Later start (commands + 1) rest written' (view s') ∧ ¬ start.Steady) := by
  rcases exchange_of_idle session.config session.nextId h htext with
    ⟨s', hx, hs'⟩ | ⟨s', rest, written', hx, hrest, hs', hwhy⟩
  · refine .inl ⟨s', (command_of_exchange hsession htext hx).trans ?_, hs'⟩
    exact conclude_of_eq (Answer.requestId_first _) (requestId_ne_refusedId _)
  · exact .inr ⟨s', rest, written', command_of_error hsession htext hx, hrest, hs', hwhy⟩

/-- A short response comes with the first wait, if time does not run out over that. -/
lemma command_of_short (hsession : session.LoggedIn s)
    (htext : (Utf8.encode text).length ≤ maxCommandLength)
    (h : Later start commands [] written (view s))
    (hturn : ((view s).turns.headD {}).expires = false)
    (hshort : (start.answerTo commands session.nextId text).first.payload.length <
      fragmentThreshold) :
    ∃ s', command text session = .ok
      (Utf8.decodeLossy (start.answerTo commands session.nextId text).contents)
      (session.after s') := by
  obtain ⟨s', hx⟩ := exchange_of_short session.config session.nextId h htext hturn hshort
  refine ⟨s', (command_of_exchange hsession htext hx).trans ?_⟩
  exact conclude_of_eq (Answer.requestId_first _) (requestId_ne_refusedId _)

/-- With something left unread, a command that insists on its id fails. -/
lemma command_of_backlog (hsession : session.LoggedIn s) (hstrict : session.config.strictIds = true)
    (htext : (Utf8.encode text).length ≤ maxCommandLength) {stale : Reply}
    (h : Later start commands (stale :: backlog) written (view s))
    (hstale : stale.requestId ≠ session.nextId) :
    ∃ e s' rest written', command text session = .error e (session.after s') ∧
      rest ⊆ stale :: backlog ++ (start.answerTo commands session.nextId text).replies ++
        [refusal session.nextId] ∧
      Later start (commands + 1) rest written' (view s') := by
  obtain ⟨s', rest, written', hs', hrest, hx | ⟨output, hx⟩⟩ :=
    exchange_of_backlog session.config session.nextId h htext
  · exact ⟨_, s', rest, written', command_of_error hsession htext hx, hrest, hs'⟩
  · obtain ⟨e, he⟩ : ∃ e, conclude session.config session.nextId stale.packet output
        (session.after s') = .error e (session.after s') := conclude_of_ne hstrict hstale
    exact ⟨e, s', rest, written', (command_of_exchange hsession htext hx).trans he, hrest, hs'⟩

/-- A client that insists on its ids gets the response to its own command, or fails. -/
lemma command_of_strict (hsession : session.LoggedIn s) (hstrict : session.config.strictIds = true)
    (htext : (Utf8.encode text).length ≤ maxCommandLength)
    (h : Later start commands backlog written (view s))
    (hstale : ∀ reply ∈ backlog, reply.requestId ≠ session.nextId) :
    ∃ s' rest written', Later start (commands + 1) rest written' (view s') ∧
      rest ⊆ backlog ++ (start.answerTo commands session.nextId text).replies ++
        [refusal session.nextId] ∧
      (command text session = .ok
          (Utf8.decodeLossy (start.answerTo commands session.nextId text).contents)
          (session.after s') ∨
        ∃ e, command text session = .error e (session.after s')) := by
  cases backlog with
  | nil =>
    rcases command_of_idle hsession htext h with
      ⟨s', hc, hs'⟩ | ⟨s', rest, written', hc, hrest, hs', -⟩
    · exact ⟨s', _, _, hs', List.nil_subset _, .inl hc⟩
    · exact ⟨s', rest, written', hs', hrest, .inr ⟨_, hc⟩⟩
  | cons stale backlog =>
    obtain ⟨e, s', rest, written', hc, hrest, hs'⟩ :=
      command_of_backlog hsession hstrict htext h (hstale stale List.mem_cons_self)
    exact ⟨s', rest, written', hs', hrest, .inr ⟨e, hc⟩⟩

/-! ### Many commands -/

variable {texts : List String}

lemma runAll_command_of_steady (hsteady : start.Steady) (hsession : session.LoggedIn s)
    (h : Later start commands [] written (view s))
    (htexts : ∀ text ∈ texts, (Utf8.encode text).length ≤ maxCommandLength) :
    (runAll command texts session).1 =
        start.responses commands texts (requestIds texts.length session.ids) ∧
      ∃ s', (runAll command texts session).2.LoggedIn s' ∧
        Later start (commands + texts.length) []
          (written ++ start.requests commands texts (requestIds texts.length session.ids))
          (view s') := by
  induction texts generalizing session s commands written with
  | nil => exact ⟨rfl, s, hsession, by simpa [Console.requests] using h⟩
  | cons text texts ih =>
    rcases command_of_idle hsession (htexts text List.mem_cons_self) h with
      ⟨s₁, hc, hs₁⟩ | ⟨_, _, _, _, _, _, hunsteady⟩
    · obtain ⟨hresults, s', hsession', hs'⟩ := ih (hsession.after s₁) hs₁
        fun text ht => htexts text (List.mem_cons_of_mem _ ht)
      rw [runAll_cons_of_ok hc, List.length_cons, requestIds, responses_cons, requests_cons,
        hresults]
      refine ⟨rfl, s', hsession', ?_⟩
      rw [List.append_assoc] at hs'
      rwa [Nat.add_comm texts.length, ← Nat.add_assoc]
    · exact absurd hsteady hunsteady

/-- What is left unread never has the id of a request that is still to come, so no command takes it
for its response. -/
lemma runAll_command_of_strict (hstrict : session.config.strictIds = true) (hplain : start.Plain)
    (hsession : session.LoggedIn s) (h : Later start commands backlog written (view s))
    (htexts : ∀ text ∈ texts, (Utf8.encode text).length ≤ maxCommandLength)
    (hids : (requestIds texts.length session.ids).Nodup)
    (hstale : ∀ reply ∈ backlog, reply.requestId ∉ requestIds texts.length session.ids)
    {k : Nat} {output : String}
    (hk : (runAll command texts session).1[k]? = some (.ok output)) :
    ∃ text requestId, texts[k]? = some text ∧
      (requestIds texts.length session.ids)[k]? = some requestId ∧
      output = Utf8.decodeLossy (start.answerTo (commands + k) requestId text).contents := by
  induction texts generalizing session s commands backlog written k with
  | nil => cases hk
  | cons text texts ih =>
    obtain ⟨hfresh, hids'⟩ := List.nodup_cons.mp hids
    have hstale₀ : ∀ reply ∈ backlog, reply.requestId ≠ session.nextId := by
      intro reply hr heq
      exact hstale reply hr (heq ▸ List.mem_cons_self)
    obtain ⟨s', rest, written', hs', hrest, hc⟩ :=
      command_of_strict hsession hstrict (htexts text List.mem_cons_self) h hstale₀
    -- what is left now was left before, or is an answer to the id that has just been used up
    have hstale' : ∀ reply ∈ rest,
        reply.requestId ∉ requestIds texts.length (session.after s').ids := by
      intro reply hreply
      rcases List.mem_append.mp (hrest hreply) with hr | hr
      · rcases List.mem_append.mp hr with hr | hr
        · exact fun hmem => hstale reply hr (List.mem_cons_of_mem _ hmem)
        · rwa [hplain _ _ _ reply hr]
      · rwa [List.mem_singleton.mp hr]
    have hlater : ∀ k, (runAll command texts (session.after s')).1[k]? = some (.ok output) →
        ∃ later requestId, (text :: texts)[k + 1]? = some later ∧
          (requestIds (texts.length + 1) session.ids)[k + 1]? = some requestId ∧
          output = Utf8.decodeLossy
            (start.answerTo (commands + (k + 1)) requestId later).contents := by
      intro k hk
      have hstrict' : (session.after s').config.strictIds = true := hstrict
      have hnext := ih hstrict' (hsession.after s') hs'
        (fun text ht => htexts text (List.mem_cons_of_mem _ ht)) hids' hstale' hk
      simp only [Nat.add_assoc, Nat.add_comm 1 k] at hnext
      exact hnext
    rcases hc with hc | ⟨e, hc⟩
    · rw [runAll_cons_of_ok hc] at hk
      cases k with
      | zero =>
        obtain rfl := Except.ok.inj (Option.some.inj hk)
        exact ⟨_, _, rfl, rfl, rfl⟩
      | succ k => exact hlater k hk
    · rw [runAll_cons_of_error hc] at hk
      cases k with
      | zero => cases hk
      | succ k => exact hlater k hk

end Session

/-! ### Main results -/

section Main

open Session

variable {σ ι : Type} [IdSource ι] [StreamTransport σ] [Carrier σ Console]
  (session : Session σ ι) (texts : List String) {s : σ}

/-- A client that insists on its ids never takes anything for the response to another command. Time
may run out before any packet, so that later commands find packets of earlier ones unread; yet if
the ids of the requests differ, a command that succeeds brings all fragments of its own response,
and nothing else. -/
theorem command_brings_own_response (hsession : session.LoggedIn s)
    (hstrict : session.config.strictIds = true) (hidle : (view s).Idle) (hplain : (view s).Plain)
    (htexts : ∀ text ∈ texts, (Utf8.encode text).length ≤ maxCommandLength)
    (hids : (requestIds texts.length session.ids).Nodup) :
    ∀ k output, (runAll command texts session).1[k]? = some (.ok output) →
      ∃ text requestId, texts[k]? = some text ∧
        (requestIds texts.length session.ids)[k]? = some requestId ∧
        output = Utf8.decodeLossy
          (((view s).answerTo ((view s).commands + k) requestId text).replies.flatMap
            Reply.payload) := by
  intro k output hk
  have hstale : ∀ reply ∈ ([] : List Reply),
      reply.requestId ∉ requestIds texts.length session.ids := by
    intro reply hreply
    cases hreply
  obtain ⟨text, requestId, htext, hid, houtput⟩ :=
    runAll_command_of_strict hstrict hplain hsession hidle.later htexts hids hstale hk
  refine ⟨text, requestId, htext, hid, houtput.trans ?_⟩
  rw [Answer.contents_of_plain (hplain _ _ _)]

/-- A long answer whose last character comes in two packets, with other packets between them. -/
def splitAnswer (between : List Reply) (h : ∀ reply ∈ between, reply.payload ≠ refusalText)
    (requestId : Int32) : Answer requestId where
  first :=
    { requestId
      payload := List.replicate fragmentThreshold 0x61
      nonzero := by simp [List.mem_replicate]
      fits := by rw [List.length_replicate]; decide }
  rest :=
    { requestId, payload := [0xC3], nonzero := by decide, fits := by decide } :: between ++
      [{ requestId, payload := [0xA9], nonzero := by decide, fits := by decide }]
  requestId_first := rfl
  rest_of_short hshort := by simp at hshort
  unlike_refusal := by
    have hlead : ([0xC3] : Bytes) ≠ refusalText := by decide +kernel
    have htail : ([0xA9] : Bytes) ≠ refusalText := by decide +kernel
    intro reply hreply
    rcases List.mem_append.mp hreply with hreply | hreply
    · rcases List.mem_cons.mp hreply with rfl | hreply
      · exact hlead
      · exact h reply hreply
    · rw [List.mem_singleton.mp hreply]
      exact htail

/-- An answer that repeats what was heard of a command. -/
def echo (requestId : Int32) (text : Bytes) : Answer requestId where
  first :=
    { requestId
      payload := (text.filter (· ≠ 0)).take fragmentThreshold
      nonzero := fun h => by simpa using List.mem_of_mem_take h
      fits := by
        have h := List.length_take_le fragmentThreshold (text.filter (· ≠ 0))
        exact Nat.le_trans (Nat.add_le_add_right h _) (by decide) }
  rest := []
  requestId_first := rfl
  rest_of_short _ := rfl
  unlike_refusal := nofun

/-- A server that repeats the first command. The time of its client runs out over the second
answer, which is a long one. -/
def lateServer : Cut Console :=
  { peer :=
      { answers := fun commands requestId text =>
          if commands = 0 then echo requestId text else splitAnswer [] (by simp) requestId
        turns := [{}, {}, {}, { expires := true }, { answered := 1 }] }
    reads := [some 0, none]
    writes := [none, some 2] }

/-- A session that insists on its ids. -/
def strictSession : Session (Cut Console) Progression :=
  { config := { strictIds := true }, link := .connected lateServer, ids := { next := 7, step := 1 },
    authenticated := true }

lemma plain_lateServer : (view lateServer).Plain := by
  intro k requestId text reply hreply
  change reply ∈ (if k = 0 then echo requestId text
    else splitAnswer [] (by simp) requestId).replies at hreply
  split at hreply
  · rw [List.mem_singleton.mp hreply]
    rfl
  · simp only [splitAnswer, Answer.replies, List.mem_cons, List.cons_append, List.nil_append,
      List.not_mem_nil, or_false] at hreply
    rcases hreply with rfl | rfl | rfl <;> rfl

/-- The first call brings its response, and that is an answer to its command. -/
theorem own_response_of_late_answer :
    (view lateServer).Idle ∧ (view lateServer).Plain ∧ (requestIds 3 strictSession.ids).Nodup ∧
      (runAll command ["list", "help", "seed"] strictSession).1[0]? = some (.ok "list") ∧
      ∃ text requestId, ["list", "help", "seed"][0]? = some text ∧
        (requestIds 3 strictSession.ids)[0]? = some requestId ∧
        "list" = Utf8.decodeLossy
          (((view lateServer).answerTo 0 requestId text).replies.flatMap Reply.payload) := by
  have hidle : (view lateServer).Idle := ⟨rfl, rfl, rfl⟩
  have hids : (requestIds 3 strictSession.ids).Nodup := by decide +kernel
  have htexts : ∀ text ∈ ["list", "help", "seed"],
      (Utf8.encode text).length ≤ maxCommandLength := by decide +kernel
  have hsession : strictSession.LoggedIn lateServer := ⟨rfl, rfl⟩
  obtain ⟨s', hcommand⟩ := command_of_short hsession (htexts "list" List.mem_cons_self) hidle.later
    rfl (by decide +kernel)
  have hcontents : ((view lateServer).answerTo 0 strictSession.nextId "list").contents =
      Utf8.encode "list" := by decide +kernel
  have hresponse : Utf8.decodeLossy
      ((view lateServer).answerTo 0 strictSession.nextId "list").contents = "list" := by
    rw [hcontents, Utf8.decodeLossy_encode]
  have hfirst : (runAll command ["list", "help", "seed"] strictSession).1[0]? =
      some (.ok "list") := by
    rw [runAll_cons_of_ok hcommand, List.getElem?_cons_zero]
    exact congrArg (fun output => some (Except.ok output)) hresponse
  exact ⟨hidle, plain_lateServer, hids, hfirst, command_brings_own_response strictSession
    ["list", "help", "seed"] hsession rfl hidle plain_lateServer htexts hids 0 "list" hfirst⟩

/-- As long as time does not run out, every command brings its whole response, whatever the ids are,
whether or not the client insists on them, and wherever a fragment ends. What is written is each
command, with one unknown request behind it if its response is long. Nothing is left unread. -/
theorem commands_bring_whole_responses (hsession : session.LoggedIn s) (hidle : (view s).Idle)
    (hsteady : (view s).Steady)
    (htexts : ∀ text ∈ texts, (Utf8.encode text).length ≤ maxCommandLength) :
    (runAll command texts session).1 =
        (view s).responses (view s).commands texts (requestIds texts.length session.ids) ∧
      (∀ k text requestId response, texts[k]? = some text →
        (requestIds texts.length session.ids)[k]? = some requestId →
        ((view s).answerTo ((view s).commands + k) requestId text).contents =
          Utf8.encode response →
        (runAll command texts session).1[k]? = some (.ok response)) ∧
      ∃ s', (runAll command texts session).2.LoggedIn s' ∧ (view s').Idle ∧
        (view s').written = (view s).written ++ (view s).requests (view s).commands texts
          (requestIds texts.length session.ids) := by
  obtain ⟨hresults, s', hsession', hs'⟩ :=
    runAll_command_of_steady hsteady hsession hidle.later htexts
  refine ⟨hresults, ?_, s', hsession', hs'.idle, hs'.written⟩
  intro k text requestId response htext hid hresponse
  have hzip : (texts.zip (requestIds texts.length session.ids))[k]? = some (text, requestId) :=
    List.getElem?_zip_eq_some.mpr ⟨htext, hid⟩
  rw [hresults, Console.responses, List.getElem?_mapIdx, hzip, Option.map_some]
  dsimp only
  rw [hresponse, Utf8.decodeLossy_encode]

/-- A packet that belongs to no request. -/
def strayReply : Reply where
  requestId := -5
  payload := [0x78]
  nonzero := by decide
  fits := by decide

lemma strayReply_ne_refusal : ∀ reply ∈ [strayReply], reply.payload ≠ refusalText := by
  intro reply hreply
  rw [List.mem_singleton.mp hreply]
  decide +kernel

/-- A server that says other things in between. -/
def strayServer : Cut Console :=
  { peer :=
      { answers := fun _ requestId _ => splitAnswer [strayReply] strayReply_ne_refusal requestId
        turns := [] }
    reads := [some 0, none]
    writes := [none, some 2] }

/-- A session that uses one id for all requests. -/
def lenientSession : Session (Cut Console) Progression :=
  { link := .connected strayServer, ids := { next := 7, step := 0 }, authenticated := true }

theorem whole_responses_of_stray_replies :
    (view strayServer).Idle ∧
      (runAll command ["list", "help"] lenientSession).1 =
        (view strayServer).responses 0 ["list", "help"] (requestIds 2 lenientSession.ids) ∧
      ∃ s', (runAll command ["list", "help"] lenientSession).2.LoggedIn s' ∧ (view s').Idle ∧
        (view s').written =
          (view strayServer).requests 0 ["list", "help"] (requestIds 2 lenientSession.ids) := by
  have hidle : (view strayServer).Idle := ⟨rfl, rfl, rfl⟩
  have hsteady : (view strayServer).Steady := by
    intro turn hturn
    cases hturn
  obtain ⟨hresults, -, s', hsession, hidle', hwritten⟩ :=
    commands_bring_whole_responses lenientSession ["list", "help"] ⟨rfl, rfl⟩ hidle hsteady
      (by decide +kernel)
  exact ⟨hidle, hresults, s', hsession, hidle', hwritten⟩

end Main

end GameProbe.Rcon
