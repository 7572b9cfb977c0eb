import ChatChannels.Channel.Command
import ChatChannels.Text.Token

/-! Lines typed at the console, and how they are read. A line is read token by token; only the text
of `say` keeps its inner white space. -/
namespace ChatChannels

inductive ConsoleLine where
  | login (player : Player)
  | logout (id : PlayerId)
  | ignore (who whom : PlayerId)
  | setStatic (channel : String) (want : Bool)
  | channels
  | player (actor : PlayerId) (channel : String) (command : Command)
deriving DecidableEq

inductive LineError where
  | empty
  | unknownCommand (word : String)
  | missing (what : String)
  | invalid (what value : String)
  | unknownPlayer (id : PlayerId)
deriving DecidableEq

def LineError.message : LineError → String
  | .empty => "empty line"
  | .unknownCommand word => s!"unknown command '{word}'"
  | .missing what => s!"missing argument: {what}"
  | .invalid what value => s!"invalid {what}: '{value}'"
  | .unknownPlayer id => s!"unknown player {id}"

namespace ConsoleLine

abbrev Token := List Char

/-- Reads a token; a token that is no such thing is named in the error. -/
def readToken {α : Type} (what : String) (read : Token → Option α) (token : Token) :
    Except LineError α :=
  match read token with
  | some a => .ok a
  | none => .error (.invalid what (String.ofList token))

def readRequired {α : Type} (missing what : String) (read : Token → Option α) :
    Option Token → Except LineError α
  | none => .error (.missing missing)
  | some token => readToken what read token

def readOptional {α : Type} (what : String) (read : Token → Option α) (default : α) :
    Option Token → Except LineError α
  | none => .ok default
  | some token => readToken what read token

def id? (token : Token) : Option PlayerId :=
  (Text.readNumeral UInt64.size token).map fun n => ⟨.ofNat n⟩

def byte? (token : Token) : Option UInt8 := (Text.readNumeral UInt8.size token).map .ofNat

/-- Guild 0 stands for none. -/
def guild? (token : Token) : Option (Option UInt32) :=
  (Text.readNumeral UInt32.size token).map fun n => if n = 0 then none else some (.ofNat n)

def readId (missing : String) : Option Token → Except LineError PlayerId :=
  readRequired missing "player id" id?

def readName : Option Token → Except LineError String
  | none => .error (.missing "player name")
  | some token => .ok (String.ofList token)

def readSwitch : Option Token → Except LineError Bool :=
  readRequired "on|off" "switch" fun token =>
    if token = "on".toList then some true
    else if token = "off".toList then some false
    else none

/-- Reads what follows `login`: an identity, a name, and as far as given a security level, a team, a
rank and a guild. -/
def readLogin (args : List Token) : Except LineError Player := do
  let id ← readId "id" args[0]?
  let name ← match args[1]? with
    | some token => pure (String.ofList token)
    | none => .error (.missing "name")
  let security ← readOptional "security level" (byte? · >>= SecurityLevel.ofCode?) .player args[2]?
  let team ← readOptional "team" (byte? · >>= Team.ofCode?) .alliance args[3]?
  let rank ← readOptional "rank" byte? 0 args[4]?
  let guild ← readOptional "guild" guild? none args[5]?
  return { id, name, security, team, rank, guild }

/-- Reads the command that a verb stands for, from what follows the channel in the line. -/
def readCommand (verb : Token) (rest : List Char) : Except LineError Command :=
  let args := Text.tokens rest
  match String.ofList verb with
  | "join" => .ok (.join (args[0]?.map String.ofList))
  | "leave" => .ok (.leave true)
  | "kick" => do return .expel (← readName args[0]?) false
  | "ban" => do return .expel (← readName args[0]?) true
  | "unban" => do return .unban (← readName args[0]?)
  | "password" => .ok (.setPassword (String.ofList (args[0]?.getD [])))
  | "moderator" => do return .setMode (← readName args[0]?) .moderator (← readSwitch args[1]?)
  | "mute" => do return .setMode (← readName args[0]?) .mute (← readSwitch args[1]?)
  | "owner" => do return .setOwner (← readName args[0]?)
  | "whoowner" => .ok .queryOwner
  | "list" => .ok .list
  | "announce" => .ok .toggleAnnounce
  | "moderate" => .ok .toggleModerate
  | "say" => .ok (.say (String.ofList (Text.trim rest)) .universal)
  | "invite" => do return .invite (← readName args[0]?)
  | word => .error (.unknownCommand word)

/-- Reads a player's line: who acts, the verb, the channel, and the rest as the verb asks. -/
def readPlayerLine (head : Token) (rest : List Char) : Except LineError ConsoleLine := do
  let actor ← readToken "player id" id? head
  let verb := Text.cutAtBlank (Text.trimStart rest)
  if verb.1.isEmpty then throw (.missing "command")
  let channel := Text.cutAtBlank (Text.trimStart verb.2)
  if channel.1.isEmpty then throw (.missing "channel")
  return .player actor (String.ofList channel.1) (← readCommand verb.1 channel.2)

def parse (line : String) : Except LineError ConsoleLine :=
  let head := Text.cutAtBlank (Text.trim line.toList)
  let args := Text.tokens head.2
  match String.ofList head.1 with
  | "" => .error .empty
  | "login" => do return .login (← readLogin args)
  | "logout" => do return .logout (← readId "id" args[0]?)
  | "ignore" => do return .ignore (← readId "who" args[0]?) (← readId "whom" args[1]?)
  | "static" =>
    match args[0]? with
    | none => .error (.missing "channel")
    | some channel => do return .setStatic (String.ofList channel) (← readSwitch args[1]?)
  | "channels" => .ok .channels
  | _ => readPlayerLine head.1 head.2

end ConsoleLine
end ChatChannels
