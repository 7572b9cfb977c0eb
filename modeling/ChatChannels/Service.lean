import ChatChannels.Config.Decode
import ChatChannels.Config.Validation
import ChatChannels.Console.Input
import ChatChannels.Toml

/-! How a console service starts: its configuration is loaded and checked. -/
namespace ChatChannels

inductive ConfigSource where
  | absent
  /-- A file that cannot be read. -/
  | unreadable
  | text (s : String)

inductive LoadError where
  | unreadable
  | unparsable
deriving DecidableEq

def ConfigSource.load : ConfigSource → Except LoadError Config
  | .absent => .ok {}
  | .unreadable => .error .unreadable
  | .text s =>
    match (Toml.parse? s).bind (Config.ofData? .allowed) with
    | some config => .ok config
    | none => .error .unparsable

inductive StartFailure where
  | load (e : LoadError)
  | invalid (faults : List ConfigFault)
  /-- The configuration has no faults, but no mailbox can be as large as it says. -/
  | mailboxTooLarge (capacity : Nat)

namespace StartFailure

def message : StartFailure → String
  | .load .unreadable => "Error: failed to read config file"
  | .load .unparsable => "Error: failed to parse config"
  | .invalid faults => s!"Error: configuration has {faults.length} error(s)"
  | .mailboxTooLarge capacity => s!"no mailbox can hold {capacity} requests"

/-- A configuration that is refused gives 1, and a service that breaks off gives 101. -/
def exitCode : StartFailure → UInt32
  | .load _ | .invalid _ => 1
  | .mailboxTooLarge _ => 101

end StartFailure

/-- A console under a configuration that loads and has no faults. -/
def Console.start (source : ConfigSource) : Except StartFailure Console :=
  match source.load with
  | .error e => .error (.load e)
  | .ok config =>
    match config.faults with
    | [] =>
      match Console.ofConfig? config with
      | some console => .ok console
      | none => .error (.mailboxTooLarge config.limits.mailboxCapacity)
    | faults => .error (.invalid faults)

end ChatChannels
