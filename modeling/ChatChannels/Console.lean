import ChatChannels.Console.Line
import ChatChannels.Registry

/-! Console sessions: a registry with the players who are logged in, driven line by line. The clock
stands still for the length of a session. -/
namespace ChatChannels

structure Console where
  world : World := ∅
  registry : Registry

namespace Console

def ofConfig? (c : Config) : Option Console :=
  (Registry.ofConfig? c).map fun registry => { registry }

def statusLine (label channel : String) : Answer → String
  | .ok .applied => s!"{label} {channel}: Applied"
  | .ok .unchanged => s!"{label} {channel}: Unchanged"
  | .error cause => s!"{label} {channel}: {cause.code}"

def withPlayer (c : Console) (id : PlayerId)
    (run : Player → Reply Console (Except LineError String)) :
    Reply Console (Except LineError String) :=
  match c.world.directory.player? id with
  | none => ⟨c, .error (.unknownPlayer id), []⟩
  | some player => run player

def apply (c : Console) : ConsoleLine → Reply Console (Except LineError String)
  | .login player =>
    let directory := c.world.directory.insert player
    ⟨{ c with world := { c.world with directory } },
      .ok s!"logged in {player.id} as {player.name}", []⟩
  | .logout id => c.withPlayer id fun player =>
    let parted := c.registry.partAll c.world player
    let directory := c.world.directory.remove id
    ⟨{ world := { c.world with directory }, registry := parted.state },
      .ok s!"logged out {id}, left {parted.answer} channel(s)", parted.events⟩
  | .ignore who whom =>
    ⟨{ c with world := { c.world with ignores := c.world.ignores.add who whom } },
      .ok s!"{who} now ignores {whom}", []⟩
  | .setStatic channel want =>
    let reply := c.registry.setStatic c.world channel want
    ⟨{ c with registry := reply.state },
      .ok s!"static {channel}: changed={reply.answer}", reply.events⟩
  | .channels => ⟨c, .ok (" ".intercalate c.registry.names), []⟩
  | .player id channel command => c.withPlayer id fun player =>
    let reply := c.registry.execute c.world player channel command
    ⟨{ c with registry := reply.state },
      .ok (statusLine command.label channel reply.answer), reply.events⟩

/-- Reads a line and applies it; a line that does not parse changes nothing. -/
def enter (c : Console) (line : String) : Reply Console (Except LineError String) :=
  match ConsoleLine.parse line with
  | .ok parsed => c.apply parsed
  | .error e => ⟨c, .error e, []⟩

end Console
end ChatChannels
