import ChatChannels.Message.Document
import ChatChannels.Service
import Std.Time.Format

/-! The command line: a console on standard input, whose deliveries are printed as JSON lines. The
only argument is the path of a configuration file. -/
namespace ChatChannels.CommandLine

/-- The current time; empty where the clock has no known time zone. -/
def currentTime : IO String := do
  try return (← Std.Time.DateTime.now).toISO8601String
  catch _ => return ""

def readSource : List String → IO ConfigSource
  | [] => return .absent
  | path :: _ => do
    try return .text (← IO.FS.readFile path)
    catch _ => return .unreadable

def printDeliveries (out : IO.FS.Stream) (events : List Event) : IO Unit := do
  for (recipient, m) in Event.deliveries events do
    out.putStrLn (m.delivery (← currentTime) recipient).json
  out.flush

/-- Runs a console on an input as it comes in; `pending` is the beginning of an incomplete line. -/
partial def drive (input out : IO.FS.Stream) (c : Console) (pending : List UInt8) :
    IO InputEnd := do
  let chunk ← input.read 4096
  let (ready, pending) :=
    if chunk.isEmpty then (pending, [])
    else Text.cutAfterLastBreak (pending ++ chunk.toList)
  let reply := c.run ready
  printDeliveries out reply.events
  if chunk.isEmpty || reply.answer = .invalidText then return reply.answer
  drive input out reply.state pending

/-- Runs the console and gives the exit code. -/
def run (args : List String) : IO UInt32 := do
  match Console.start (← readSource args) with
  | .error failure =>
    IO.eprintln failure.message
    return failure.exitCode
  | .ok console =>
    match ← drive (← IO.getStdin) (← IO.getStdout) console [] with
    | .finished => return 0
    | .invalidText =>
      IO.eprintln "Error: input is not UTF-8"
      return 1

end ChatChannels.CommandLine

def main (args : List String) : IO UInt32 := ChatChannels.CommandLine.run args
