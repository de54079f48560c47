import HolidayApi.CommandLine.Grammar
import HolidayApi.Settings.Report

/-! # The inspection program

    Checks on settings without running the server:

    * `validate` says whether the settings are usable and warns about dead
      entries of allow lists;
    * `check-ip` says what becomes of a caller;
    * `operations` lists the operations with their advices.
-/

namespace HolidayApi.CommandLine

/-- What a program leaves behind. -/
structure Result where
  /-- The exit code. -/
  code : Nat
  /-- What is written to the standard output. -/
  stdout : String := ""
  /-- What is written to the standard error output. -/
  stderr : String := ""
  deriving DecidableEq, Repr

/-- The option that names the file with the settings. -/
def configForm : OptionForm := ⟨'c', "config", false⟩

namespace Inspection

/-- What the program can be asked. -/
inductive Command where
  | validate
  | checkIp (address : String) (operation : Option String)
  | operations
  deriving DecidableEq, Repr

/-- The option that names an operation. -/
def operationForm : OptionForm := ⟨'o', "operation", true⟩

/-! ### Help -/

/-- The help on the whole program. -/
def help : String :=
  "Offline checks against a skeleton-api config\n\n"
  ++ "Usage: skeleton-cli [OPTIONS] <COMMAND>\n\n"
  ++ "Commands:\n"
  ++ "  validate    Validate the config and report malformed allow-list entries\n"
  ++ "  check-ip    Decide whether an address may call the write routes or an operation\n"
  ++ "  operations  List declared operations with their advice chains\n"
  ++ "  help        Print this message or the help of the given subcommand(s)\n\n"
  ++ "Options:\n"
  ++ "  -c, --config <CONFIG>  Path to a TOML config file. Defaults apply when omitted\n"
  ++ "  -h, --help             Print help\n"

/-- The help on `validate`. -/
def helpValidate : String :=
  "Validate the config and report malformed allow-list entries\n\n"
  ++ "Usage: skeleton-cli validate\n\n"
  ++ "Options:\n  -h, --help  Print help\n"

/-- The help on `check-ip`. -/
def helpCheckIp : String :=
  "Decide whether an address may call the write routes or an operation\n\n"
  ++ "Usage: skeleton-cli check-ip [OPTIONS] <ADDRESS>\n\n"
  ++ "Arguments:\n  <ADDRESS>  \n\n"
  ++ "Options:\n"
  ++ "  -o, --operation <OPERATION>  Operation name, e.g. HolidayController.delete\n"
  ++ "  -h, --help                   Print help\n"

/-- The help on `operations`. -/
def helpOperations : String :=
  "List declared operations with their advice chains\n\n"
  ++ "Usage: skeleton-cli operations\n\n"
  ++ "Options:\n  -h, --help  Print help\n"

/-- The help on `help`. -/
def helpHelp : String :=
  "Print this message or the help of the given subcommand(s)\n\n"
  ++ "Usage: skeleton-cli help [COMMAND]...\n\n"
  ++ "Arguments:\n  [COMMAND]...  Print help for the subcommand(s)\n"

/-! ### Reading the command line -/

/-- Why the program does nothing. -/
inductive Refusal where
  /-- It is used in a wrong way. -/
  | wrong
  /-- Help is asked for, with this text. -/
  | help (text : String)
  deriving DecidableEq, Repr

/-- The refusal of a command line, where `help` is the help on this part. -/
def refuse (help : String) : Stopped → Refusal
  | .wrong => .wrong
  | .help => .help help

/-- A command that has no options and no words. -/
def bare (command : Command) (help : String) (args : List String) : Except Refusal Command :=
  match scan [] (some 0) {} args with
  | .error e => .error (refuse help e)
  | .ok _ => .ok command

/-- The command `check-ip`. -/
def checkIp (args : List String) : Except Refusal Command :=
  match scan [operationForm] (some 1) {} args with
  | .error e => .error (refuse helpCheckIp e)
  | .ok (r, _) =>
    match r.words with
    | [address] => .ok (.checkIp address (r.value? operationForm.long))
    | _ => .error .wrong

/-- The command `help`. -/
def helpOn : List String → Refusal
  | [] => .help help
  | ["validate"] => .help helpValidate
  | ["check-ip"] => .help helpCheckIp
  | ["operations"] => .help helpOperations
  | ["help"] => .help helpHelp
  | _ => .wrong

/-- The command with its own words. -/
def command : List String → Except Refusal Command
  | "validate" :: args => bare .validate helpValidate args
  | "check-ip" :: args => checkIp args
  | "operations" :: args => bare .operations helpOperations args
  | "help" :: args => .error (helpOn args)
  | _ => .error .wrong

/-- The path of the settings, if one is given, and the command. -/
def parse (args : List String) : Except Refusal (Option String × Command) :=
  match scan [configForm] none {} args with
  | .error e => .error (refuse help e)
  | .ok (r, rest) => (command rest).map fun c => (r.value? configForm.long, c)

/-! ### Answering -/

/-- The lines of a text. -/
def unlines (lines : List String) : String := String.join (lines.map (· ++ "\n"))

/-- The answer to a command. -/
def answer (s : Settings) : Command → Result
  | .validate =>
    { code := 0
      stdout := "config OK\n"
      stderr := unlines (s.deadEntries.map fun d => "warning: " ++ d.text) }
  | .checkIp address operation =>
    let target := operation.getD "write routes"
    let verdict := s.verdict address operation
    { code := 0, stdout := unlines [target ++ ": " ++ address ++ " " ++ verdict.text] }
  | .operations =>
    let registry := (Web.declarations s).registry (Call.Recorder.standard (σ := Unit))
    { code := 0
      stdout := unlines ((Settings.chains registry).map fun (name, chain) =>
        name ++ ": [" ++ ", ".intercalate chain ++ "]") }

/-- What the program leaves behind where it does nothing. -/
def refused : Refusal → Result
  | .wrong => { code := 2 }
  | .help text => { code := 0, stdout := text }

/-- The settings: those of the file, or the defaults without one. -/
def settings (file : Option (Option (List UInt8))) : Except Settings.Problem Settings :=
  match file with
  | none => .ok {}
  | some content => (StateT.run (Settings.load content) ({ data := () } : Call.Session Unit)).1

/-- What the program leaves behind once the file was read. -/
def run (file : Option (Option (List UInt8))) (c : Command) : Result :=
  match settings file with
  | .ok s => answer s c
  | .error _ => { code := 1 }

end Inspection
end HolidayApi.CommandLine
