import HolidayApi.CommandLine.Program
import HolidayApi.Daemon.Line
import HolidayApi.Net.Listener

/-! # The programs

    The first word `serve` starts the server; it answers the requests on the
    lines of the standard input, each a method and a target, and stops at its
    end. All other words go to the inspection program.
-/

namespace HolidayApi.Main

open HolidayApi.CommandLine

/-- The content of a file, if there is one. -/
def content? (path : String) : IO (Option (List UInt8)) :=
  try return some (← IO.FS.readBinFile path).toList catch _ => return none

/-- The content of the file that the command line names. -/
def fileOf (path : Option String) : IO (Option (Option (List UInt8))) :=
  path.mapM content?

/-- The text of an issued id. -/
def idText (n : Nat) : String := "request-" ++ toString n

/-- Requests come on the standard input, so that all endpoints are free. -/
def host : Daemon.Host := ⟨true, Net.Listener.parse?⟩

/-- The request on a line. -/
def requestOf (line : String) : Web.Request :=
  let words := Text.splitOn ' ' line.toList
  { method := String.ofList (words.headD [])
    target := String.ofList (words.getD 1 [])
    peer := some (.v4 0x7F000001) }

/-- The lines of a stream up to its end. -/
partial def readLines (input : IO.FS.Stream) (read : List String) : IO (List String) := do
  let line ← input.getLine
  if line.isEmpty then return read.reverse
  readLines input (String.ofList (line.toList.takeWhile (· ≠ '\n')) :: read)

/-- An event on a line of the log. -/
def logLine : Settings.LogFormat → Call.Event → String
  | .pretty, e => Daemon.Line.pretty idText 0 e
  | .json, e => (Daemon.Line.json idText 0 e).write

/-- A response on a line. -/
def responseLine (now : Nat) (r : Web.Response) : String :=
  toString r.status ++ match r.body with
    | .empty => ""
    | .text t => " " ++ t
    | .envelope e => " " ++ (e.toJson idText now).write

/-- Runs the server. -/
def serve (args : List String) : IO UInt32 := do
  match Program.parse args with
  | .error .help =>
    IO.print Program.help
    return 0
  | .error .wrong => return 2
  | .ok a =>
    let file ← fileOf a.config
    let asked ← IO.getEnv "RUST_LOG"
    let requests := (← readLines (← IO.getStdin) []).map requestOf
    let r := Program.run host Net.Endpoint.text asked file a requests .triggered
    for e in r.log do IO.println (logLine r.format e)
    for response in r.responses do IO.println (responseLine (← IO.monoMsNow) response)
    return UInt32.ofNat r.code

/-- Runs the inspection program. -/
def inspect (args : List String) : IO UInt32 := do
  let r ← match Inspection.parse args with
    | .error e => pure (Inspection.refused e)
    | .ok (path, c) => pure (Inspection.run (← fileOf path) c)
  IO.print r.stdout
  IO.eprint r.stderr
  return UInt32.ofNat r.code

end HolidayApi.Main

/-- Runs the program that the first word names. -/
def main : List String → IO UInt32
  | "serve" :: args => HolidayApi.Main.serve args
  | args => HolidayApi.Main.inspect args
