import GameProbe.Bedrock.Session
import GameProbe.Legacy.Session
import GameProbe.Proofs.Outcome
import GameProbe.Query.Session
import GameProbe.Rcon.Session
import GameProbe.Status.Session
import Mathlib.Tactic.Lemma

/-!
# Calls

What can be asked of the clients, one call after another. A call that fails does not keep the next
one from being made.
-/

namespace GameProbe

/-- Make the calls in order: the result of each, and the client after the last. -/
def runAll {ε γ κ ρ : Type} (perform : κ → EStateM ε γ ρ) : List κ → γ → List (Except ε ρ) × γ
  | [], client => ([], client)
  | call :: calls, client =>
    match perform call client with
    | .ok result client =>
      let (results, client) := runAll perform calls client
      (.ok result :: results, client)
    | .error e client =>
      let (results, client) := runAll perform calls client
      (.error e :: results, client)

section Runs

variable {ε γ κ ρ : Type} {perform : κ → EStateM ε γ ρ} {call : κ} {client client' : γ}

lemma runAll_cons_of_ok {result : ρ} (h : perform call client = .ok result client')
    (calls : List κ) :
    runAll perform (call :: calls) client =
      (.ok result :: (runAll perform calls client').1, (runAll perform calls client').2) := by
  simp only [runAll, h]

lemma runAll_cons_of_error {e : ε} (h : perform call client = .error e client')
    (calls : List κ) :
    runAll perform (call :: calls) client =
      (.error e :: (runAll perform calls client').1, (runAll perform calls client').2) := by
  simp only [runAll, h]

lemma runAll_cons (call : κ) (calls : List κ) (client : γ) :
    runAll perform (call :: calls) client =
      ((perform call client).toExcept :: (runAll perform calls (perform call client).state).1,
        (runAll perform calls (perform call client).state).2) := by
  cases h : perform call client with
  | ok result client' => rw [runAll_cons_of_ok h, EStateM.Result.toExcept_ok,
      EStateM.Result.state_ok]
  | error e client' => rw [runAll_cons_of_error h, EStateM.Result.toExcept_error,
      EStateM.Result.state_error]

lemma runAll_append (calls later : List κ) (client : γ) :
    runAll perform (calls ++ later) client =
      ((runAll perform calls client).1 ++ (runAll perform later (runAll perform calls client).2).1,
        (runAll perform later (runAll perform calls client).2).2) := by
  induction calls generalizing client with
  | nil => rfl
  | cons call calls ih => rw [List.cons_append, runAll_cons, runAll_cons, ih, List.cons_append]

end Runs

/-! ### Status sessions -/

namespace Status

/-- A call of a status session. -/
inductive Call (σ : Type)
  | connect (transport : σ)
  | handshake
  | ping (timing : Timing)
  | status (timing : Timing)
  | disconnect

/-- What a call of a status session brings. -/
inductive Outcome
  | done
  | properties (properties : Json.Object)
  | latency (latency : Checked Int64)
  | status (result : Checked (Json.Object × Int64))

/-- Make a call. -/
def Session.perform {σ : Type} [StreamTransport σ] : Call σ → EStateM Error (Session σ) Outcome
  | .connect transport => do
    connect transport
    return .done
  | .handshake => return .properties (← handshake)
  | .ping timing => return .latency (← ping timing)
  | .status timing => return .status (← status timing)
  | .disconnect => do
    disconnect
    return .done

end Status

/-! ### Legacy sessions -/

namespace Legacy

/-- A call of a legacy session. -/
inductive Call (σ : Type)
  | connect (transport : σ)
  | ping (variant : Variant)
  | timedPing (variant : Variant) (timing : Timing)
  | disconnect

/-- What a call of a legacy session brings. -/
inductive Outcome
  | done
  | info (info : Info)
  | timedInfo (info : Info) (latency : Int64)

/-- Make a call. -/
def Session.perform {σ : Type} [StreamTransport σ] : Call σ → EStateM Error (Session σ) Outcome
  | .connect transport => do
    connect transport
    return .done
  | .ping variant => return .info (← ping variant)
  | .timedPing variant timing => do
    let (info, latency) ← timedPing variant timing
    return .timedInfo info latency
  | .disconnect => do
    disconnect
    return .done

end Legacy

/-! ### Query sessions -/

namespace Query

/-- A call of a query session. -/
inductive Call (σ : Type)
  | connect (transport : σ)
  | handshake
  | basicStat (token : Int32)
  | fullStat (token : Int32)
  | disconnect

/-- What a call of a query session brings. -/
inductive Outcome
  | done
  | token (token : Int32)
  | basicStat (stat : BasicStat)
  | fullStat (stat : FullStat)

/-- Make a call. -/
def Session.perform {σ ι : Type} [DatagramTransport σ] [IdSource ι] :
    Call σ → EStateM Error (Session σ ι) Outcome
  | .connect transport => do
    connect transport
    return .done
  | .handshake => return .token (← handshake)
  | .basicStat token => return .basicStat (← basicStat token)
  | .fullStat token => return .fullStat (← fullStat token)
  | .disconnect => do
    disconnect
    return .done

end Query

/-! ### Bedrock sessions -/

namespace Bedrock

/-- A call of a Bedrock session. -/
inductive Call (σ : Type)
  | connect (transport : σ)
  | ping (variant : Variant) (timing : Timing)
  | disconnect

/-- What a call of a Bedrock session brings. -/
inductive Outcome
  | done
  | status (status : Status) (latency : Int64)

/-- Make a call. -/
def Session.perform {σ ι : Type} [DatagramTransport σ] [IdSource ι] :
    Call σ → EStateM Error (Session σ ι) Outcome
  | .connect transport => do
    connect transport
    return .done
  | .ping variant timing => do
    let (status, latency) ← ping variant timing
    return .status status latency
  | .disconnect => do
    disconnect
    return .done

end Bedrock

/-! ### Remote console sessions -/

namespace Rcon

/-- A call of a remote console session. -/
inductive Call (σ : Type)
  | connect (transport : σ)
  | authenticate (password : String)
  | command (text : String)
  | disconnect

/-- What a call of a remote console session brings. -/
inductive Outcome
  | done
  | accepted (accepted : Bool)
  | response (text : String)

/-- Make a call. -/
def Session.perform {σ ι : Type} [StreamTransport σ] [IdSource ι] :
    Call σ → EStateM Error (Session σ ι) Outcome
  | .connect transport => do
    connect transport
    return .done
  | .authenticate password => return .accepted (← authenticate password)
  | .command text => return .response (← command text)
  | .disconnect => do
    disconnect
    return .done

end Rcon

end GameProbe
