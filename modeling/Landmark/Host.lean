import Landmark.JsonText.Record
import Landmark.Log.Directives
import Landmark.Resolver
import Landmark.X86.Decode

/-! # The host

A session has at most one resolver, installed once; questions go to it. A fatal fault
ends the session, or is raised to whoever asked, as the handler in force has it.
Events are written once a log has been started, and the first start stays. The decoder and the JSON
format that a session runs with come with the modules imported here.
-/

namespace Landmark.Host

open Log

/-- What becomes of a fatal fault. -/
inductive Handler where
  /-- It is raised. -/
  | panic
  /-- It ends the session. -/
  | exit
  deriving DecidableEq

/-- How events are written. -/
inductive Form where
  | lines
  | records
  deriving DecidableEq

/-- The name of a form. -/
def Form.text : Form → String
  | lines => "text"
  | records => "json"

/-- What is written beside the answers. -/
inductive Written where
  | line (text : String)
  | record (event : Event)
  deriving DecidableEq

/-- What a session remembers. -/
structure Session where
  resolver : Option Resolver := none
  handler : Handler := .exit
  /-- The form and the limits of the log, once it has been started. -/
  log : Option (Form × Directives) := none
  /-- The text of the limits that the log is to have. -/
  requested : Option String := none

/-- What a session is told or asked. -/
inductive Command where
  | setHandler (handler : Handler)
  | adopt (owner : LoadedModule) (config : Config)
  | install (name : String) (view : Image.View) (config : Config)
  | startLog (form : Form)
  | report (target : String) (fault : Fatal) (context : Option String)
  | moduleName
  | isLoaded (s : Symbol)
  | notifierInstance
  | notifierNotify
  | tryGlobals
  | globals
  | player
  | cvar
  | unwrap (result : Except Fatal Nat)

/-- What a session answers. -/
inductive Reply where
  | done
  | flag (value : Bool)
  | address (value : Nat)
  | maybeAddress (value : Option Nat)
  | name (text : String)
  /-- A fault that is given back. -/
  | failed (fault : Fatal)
  /-- A fault that is raised, with its text. -/
  | raised (message : String)
  deriving DecidableEq

/-- What a command leads to; without an answer the session has ended. -/
structure Turn where
  session : Session
  reply : Option Reply
  written : List Written

/-- The exit code of a session that a fatal fault ended. -/
def faultExitCode : Nat := 1

namespace Session

/-- What is written of events. -/
def writes (session : Session) (events : List Event) : List Written :=
  match session.log with
  | none => []
  | some (.lines, limits) => (limits.record events).map fun event => .line event.line
  | some (.records, limits) => (limits.record events).map .record

/-- An answer with the events on the way to it. -/
def answer (session : Session) (events : List Event) (reply : Reply) : Turn :=
  { session, reply := some reply, written := session.writes events }

/-- What is reported of a fault. -/
def faultEvent (target : String) (fault : Fatal) (context : Option String) : Event :=
  { level := .error, target, message := "failure"
    fields := ("error", .shown fault.message) ::
      (context.map fun text => ("context", Value.quoted text)).toList }

/-- The last line of a session that a fault ends. -/
def lastWords (fault : Fatal) : String :=
  match fault.owner? with
  | some owner => "Fatal error in " ++ owner ++ ": " ++ fault.message
  | none => "Fatal error: " ++ fault.message

/-- Hands a fault to the handler, after the events on the way to it. -/
def abort (session : Session) (events : List Event) (fault : Fatal) : Turn :=
  let event := faultEvent "sigresolve::fatal" fault (some "fatal analysis error")
  let written := session.writes (events ++ [event])
  match session.handler with
  | .panic => { session, reply := some (.raised ("fatal: " ++ fault.message)), written }
  | .exit => { session, reply := none, written := written ++ [.line (lastWords fault)] }

/-- The fault of asking a session that has no resolver. -/
def noResolver : Fatal :=
  .noHostImage "the current process is not a PE image; install a module explicitly"

/-- Asks the resolver; a fault goes to the handler. -/
def ask {α : Type} (session : Session) (query : Query α) (reply : α → Reply) : Turn :=
  match session.resolver with
  | none => session.abort [] noResolver
  | some resolver =>
    let asked := query.ask resolver
    let later := { session with resolver := some asked.value.2 }
    match asked.value.1 with
    | .ok value => later.answer asked.events (reply value)
    | .error fault => later.abort asked.events fault

/-- Takes a resolver for a module, unless there is one. A fault is given back. -/
def adopt (session : Session) (owner : LoadedModule) (config : Config) : Turn :=
  match Resolver.new owner config with
  | .error fault => session.answer [] (.failed fault)
  | .ok resolver =>
    match session.resolver with
    | some _ => session.answer [] (.flag false)
    | none =>
      let event : Event :=
        { level := .info, target := "sigresolve::host", message := "host resolver installed"
          fields := [("module", .shown owner.name)] }
      { session with resolver := some resolver }.answer [event] (.flag true)

/-- Opens an image as a module and adopts it. -/
def install (session : Session) (name : String) (view : Image.View) (config : Config) : Turn :=
  let loaded := (LoadedModule.load name view config.opening).outcome
  match loaded.value with
  | .error fault => session.answer loaded.events (.failed fault)
  | .ok owner =>
    let turn := session.adopt owner config
    { turn with written := session.writes loaded.events ++ turn.written }

/-- Starts the log, unless it has been started. -/
def startLog (session : Session) (form : Form) : Turn :=
  match session.log with
  | some _ => session.answer [] .done
  | none =>
    let event : Event :=
      { level := .debug, target := "sigresolve::logging", message := "subscriber installed"
        fields := [("mode", .quoted form.text)] }
    { session with log := some (form, Directives.requested session.requested) }.answer [event]
      .done

variable [Decoder]

/-- Carries out a command. -/
def perform (session : Session) : Command → Turn
  | .setHandler handler => { session with handler }.answer [] .done
  | .adopt owner config => session.adopt owner config
  | .install name view config => session.install name view config
  | .startLog form => session.startLog form
  | .report target fault context =>
    session.answer [faultEvent target fault context] (.failed fault)
  | .moduleName => session.ask (do return (← get).owner.name) .name
  | .isLoaded s => session.ask (Resolver.isLoaded s) .flag
  | .notifierInstance =>
    session.ask (Resolver.require .notifier) fun found => .address found.instance
  | .notifierNotify =>
    session.ask (Resolver.require .notifier) fun found => .address found.notify
  | .tryGlobals => session.ask (Resolver.find? .globals) .maybeAddress
  | .globals => session.ask (Resolver.require .globals) .address
  | .player => session.ask (Resolver.require .player) .address
  | .cvar => session.ask (Resolver.require .cvar) .address
  | .unwrap (.ok value) => session.answer [] (.address value)
  | .unwrap (.error fault) => session.abort [] fault

/-- Carries out commands until one of them ends the session: the answers, what was written,
and the exit code. -/
def run (session : Session) : List Command → List Reply × List Written × Nat
  | [] => ([], [], 0)
  | command :: rest =>
    let turn := session.perform command
    match turn.reply with
    | none => ([], turn.written, faultExitCode)
    | some reply =>
      let (replies, written, code) := turn.session.run rest
      (reply :: replies, turn.written ++ written, code)

end Session

end Landmark.Host
