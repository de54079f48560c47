import HolidayApi.CommandLine.Inspection
import HolidayApi.Daemon.Filter
import HolidayApi.Daemon.Server

/-! # The server program

    The command line of the server names the file with the settings and may
    put another address in place of that of the listener. The address is
    replaced after the settings were checked.
-/

namespace HolidayApi.CommandLine.Program

/-- The option that names the address of the listener. -/
def bindForm : OptionForm := ⟨'b', "bind", true⟩

/-- The help on the program. -/
def help : String :=
  "Holiday API with nested call tracing and IP allow lists\n\n"
  ++ "Usage: skeleton-api [OPTIONS]\n\n"
  ++ "Options:\n"
  ++ "  -c, --config <CONFIG>  Path to a TOML config file. Defaults apply when omitted\n"
  ++ "  -b, --bind <BIND>      Override \x60listener.bind_address\x60\n"
  ++ "  -h, --help             Print help\n"

/-- What the command line says. -/
structure Arguments where
  /-- The path of the settings. -/
  config : Option String
  /-- The address of the listener. -/
  bind : Option String
  deriving DecidableEq, Repr

/-- Reads the command line. -/
def parse (args : List String) : Except Stopped Arguments :=
  (scan [configForm, bindForm] (some 0) {} args).map fun (r, _) =>
    ⟨r.value? configForm.long, r.value? bindForm.long⟩

/-- The settings with the address of the command line. -/
def override (a : Arguments) (s : Settings) : Settings :=
  match a.bind with
  | some address => { s with listener := ⟨address⟩ }
  | none => s

/-- The exit code of a run that breaks down before the log is set up. -/
def brokenDown : Nat := 101

/-- What a run leaves behind. -/
structure Run where
  /-- The exit code. -/
  code : Nat
  /-- The events that the log shows. -/
  log : List Call.Event := []
  /-- How the log is written. -/
  format : Settings.LogFormat := .pretty
  /-- The answers to the requests. -/
  responses : List Web.Response := []

/-- The run of the program: `asked` is the log filter of the environment,
    `file` the content of the settings, and `cause` ends the server. -/
def run (host : Daemon.Host) (shown : Net.Endpoint → String) (asked : Option String)
    (file : Option (Option (List UInt8))) (a : Arguments) (requests : List Web.Request)
    (cause : Daemon.Cause) : Run :=
  match Inspection.settings file with
  | .error _ => { code := 1 }
  | .ok s =>
    match Daemon.Filter.choose? asked s.observability.logLevel with
    | none => { code := brokenDown }
    | some filter =>
      let (outcome, session) :=
        (Daemon.run host shown (override a s) requests cause).run { data := {} }
      let log := session.events.filter filter.admits
      let format := s.observability.logFormat
      match outcome with
      | .ok responses => { code := 0, log, format, responses }
      | .error _ => { code := 1, log, format }

end HolidayApi.CommandLine.Program
