import GameProbe.Probe

/-!
# Command line

Arguments, and what the program prints for them.
-/

namespace GameProbe.CommandLine

open Decimal (natUpTo)

/-! ### Arguments -/

/-- What was asked for on the command line. -/
structure Options where
  json : Bool := false
  strictIds : Bool := false
  dialTimeoutMs : Option UInt64 := none
  readTimeoutMs : Option UInt64 := none
  /-- The arguments without a name, last first. -/
  positional : List String := []

/-- What to do about the arguments. -/
inductive Request
  | run (protocol : String) (target : Target) (options : Options)
  | help
  | version
  /-- The arguments make no sense. -/
  | refuse

/-- A number of milliseconds. -/
def milliseconds? (text : String) : Option UInt64 :=
  match text.toList with
  | '+' :: digits => (natUpTo (UInt64.size - 1) digits).map UInt64.ofNat
  | digits => (natUpTo (UInt64.size - 1) digits).map UInt64.ofNat

/-- The number of a port. A minus sign is understood, though no port is below zero. -/
def port? (text : String) : Option UInt16 :=
  match text.toList with
  | '-' :: digits => (natUpTo 0 digits).map UInt16.ofNat
  | _ => Decimal.uint16? text

/-- The most arguments without a name. -/
def maxPositional : Nat := 5

/-- Take an argument without a name. The third is a port. -/
def Options.take (options : Options) (argument : String) : Option Options :=
  let count := options.positional.length
  if count ≥ maxPositional ∨ count = 2 ∧ (port? argument).isNone then none
  else some { options with positional := argument :: options.positional }

/-- Set a named argument without a value. Each may be given once. -/
def Options.setFlag (options : Options) (name : String) : Option Options :=
  match name with
  | "json" => if options.json then none else some { options with json := true }
  | "strict-ids" => if options.strictIds then none else some { options with strictIds := true }
  | _ => none

/-- Set a named argument with a value. Each may be given once. -/
def Options.setValue (options : Options) (name value : String) : Option Options :=
  match name, milliseconds? value with
  | "dial-timeout-ms", some n =>
    if options.dialTimeoutMs.isSome then none else some { options with dialTimeoutMs := some n }
  | "read-timeout-ms", some n =>
    if options.readTimeoutMs.isSome then none else some { options with readTimeoutMs := some n }
  | _, _ => none

/-- The request of the arguments that were taken. -/
def Options.request (options : Options) : Request :=
  let run (protocol host port : String) (password command : Option String) : Request :=
    match port? port with
    | some port => .run protocol { host, port, password, command } options
    | none => .refuse
  match options.positional.reverse with
  | [protocol, host, port] => run protocol host port none none
  | [protocol, host, port, password] => run protocol host port (some password) none
  | [protocol, host, port, password, command] =>
    run protocol host port (some password) (some command)
  | _ => .refuse

/-- What an argument looks like. -/
inductive Argument
  /-- Two dashes: no argument behind has a name. -/
  | separator
  /-- Two dashes and a name, perhaps with a value behind an equality sign. -/
  | long (name : String) (value : Option String)
  /-- One dash and letters. -/
  | short (first : Char)
  | positional

/-- Tell what an argument looks like. A single dash has no name. -/
def Argument.of (argument : String) : Argument :=
  match argument.toList with
  | ['-', '-'] => .separator
  | '-' :: '-' :: rest =>
    let name := String.ofList (rest.takeWhile (· ≠ '='))
    match rest.dropWhile (· ≠ '=') with
    | _ :: value => .long name (some (String.ofList value))
    | [] => .long name none
  | '-' :: first :: _ => .short first
  | _ => .positional

/-- Whether an argument can be the value of a named one. -/
def isValue (argument : String) : Bool :=
  match Argument.of argument with
  | .positional => true
  | _ => false

/-- Take arguments none of which has a name. -/
def takeAll (options : Options) : List String → Request
  | [] => options.request
  | argument :: arguments =>
    match options.take argument with
    | some options => takeAll options arguments
    | none => .refuse

/-- Read the arguments from left to right. -/
def parseFrom (options : Options) : List String → Request
  | [] => options.request
  | argument :: arguments =>
    match Argument.of argument with
    | .separator => takeAll options arguments
    | .short 'h' | .long "help" none => .help
    | .short 'V' | .long "version" none => .version
    | .short _ => .refuse
    | .positional =>
      match options.take argument with
      | some options => parseFrom options arguments
      | none => .refuse
    | .long name (some value) =>
      match options.setValue name value with
      | some options => parseFrom options arguments
      | none => .refuse
    | .long name none =>
      match options.setFlag name with
      | some options => parseFrom options arguments
      | none =>
        match arguments with
        | [] => .refuse
        | value :: arguments =>
          match isValue value, options.setValue name value with
          | true, some options => parseFrom options arguments
          | _, _ => .refuse

/-- What the arguments ask for. -/
def parse (arguments : List String) : Request := parseFrom {} arguments

/-- The configuration that the options ask for. -/
def Options.config (options : Options) : Config :=
  { dialTimeoutMs := options.dialTimeoutMs.getD 5000
    readTimeoutMs := options.readTimeoutMs.getD 5000
    strictIds := options.strictIds }

/-! ### Output -/

/-- What the program leaves behind. -/
structure Output where
  exitCode : UInt8
  stdout : String := ""
  stderr : String := ""
deriving Inhabited

/-- The name of the program. -/
def programName : String := "mcwire"

/-- The version of the program. -/
def programVersion : String := "0.1.0"

/-- The arguments of the program in short. -/
def help : String :=
  "Query status from, and run commands on, Minecraft servers\n\nUsage: " ++ programName ++
    " [OPTIONS] <PROTOCOL> <HOSTNAME> <PORT> [PASSWORD] [COMMAND]\n\nOptions:\n" ++
    "      --json\n      --dial-timeout-ms <MILLISECONDS>\n" ++
    "      --read-timeout-ms <MILLISECONDS>\n      --strict-ids\n  -h, --help\n  -V, --version\n"

/-- A failure to name a protocol, with the names that there are. -/
def Output.unknownProtocol (e : Error) : Output :=
  { exitCode := 1
    stderr := "Error : " ++ e.message ++ ". Known protocols: " ++
      ", ".intercalate (Protocol.all.map Protocol.name) ++ ".\n" }

/-- A failure of a protocol, with a reminder of its arguments. -/
def Output.failure (protocol : Protocol) (e : Error) : Output :=
  { exitCode := 1
    stderr := "Error : " ++ e.message ++ ".\nUsage : " ++ programName ++ " [--json] " ++
      protocol.name ++ " " ++ protocol.usage ++ "\n" }

/-- A report, as asked for. -/
def Output.success (json : Bool) (report : Report) : Output :=
  { exitCode := 0
    stdout := if json then report.toJson.render .indented ++ "\n" else report.text }

/-- The end of a program that was stopped by an overflow. -/
def Output.overflow : Output := { exitCode := 101, stderr := "attempt to subtract with overflow\n" }

variable {σ δ ι : Type} [StreamTransport σ] [DatagramTransport δ] [IdSource ι]

/-- Run the program. A target is reached with `connect`. -/
def run (connect : Config → Target → Network σ δ) (ids : ι) (timing : Timing)
    (arguments : List String) : Output × Option (σ ⊕ δ) :=
  match parse arguments with
  | .help => ({ exitCode := 0, stdout := help }, none)
  | .version => ({ exitCode := 0, stdout := programName ++ " " ++ programVersion ++ "\n" }, none)
  | .refuse => ({ exitCode := 2 }, none)
  | .run name target options =>
    match Protocol.ofName name with
    | .error e => (Output.unknownProtocol e, none)
    | .ok protocol =>
      let config := options.config
      let run := Probe.execute
        ({ config, network := connect config target, ids, timing } : Probe.Setting σ δ ι)
        protocol target
      match run.result with
      | .ok (.value report) => (.success options.json report, run.transport)
      | .ok .overflow => (.overflow, run.transport)
      | .error e => (.failure protocol e, run.transport)

end GameProbe.CommandLine
