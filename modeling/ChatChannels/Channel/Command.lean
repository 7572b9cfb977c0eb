import ChatChannels.Channel.Inquiry
import ChatChannels.Channel.Setting
import ChatChannels.Channel.Speech
import ChatChannels.Channel.Standing
import ChatChannels.Throttle

/-! The commands that players give to a channel, and how a channel works them off. -/
namespace ChatChannels

inductive Command where
  | join (password : Option String)
  | leave (notify : Bool)
  | expel (target : String) (ban : Bool)
  | unban (target : String)
  | setPassword (password : String)
  | setMode (target : String) (mode : RoleMode) (on : Bool)
  | setOwner (target : String)
  | queryOwner
  | list
  | toggleAnnounce
  | toggleModerate
  | say (text : String) (language : Language)
  | invite (target : String)
deriving DecidableEq

namespace Command

def label : Command → String
  | .join _ => "join"
  | .leave _ => "leave"
  | .expel _ ban => if ban then "ban" else "kick"
  | .unban _ => "unban"
  | .setPassword _ => "password"
  | .setMode _ .moderator _ => "moderator"
  | .setMode _ .mute _ => "mute"
  | .setOwner _ => "owner"
  | .queryOwner => "query_owner"
  | .list => "list"
  | .toggleAnnounce => "announce"
  | .toggleModerate => "moderate"
  | .say .. => "say"
  | .invite _ => "invite"

/-- Whether the actor is told of not being a member; only a quiet leave keeps it to itself. -/
def report : Command → Report
  | .leave false => .silent
  | _ => .notify

end Command

namespace Channel

/-- Whether a command asks for a token of the actor's speech budget: a line of text by a member
does. -/
def asksToSpeak (c : Channel) (actor : Player) : Command → Bool
  | .say text _ => !text.isEmpty && c.contains actor.id
  | _ => false

def throttleAfter (c : Channel) (t : Throttle) (actor : Player) (command : Command) : Throttle :=
  if c.asksToSpeak actor command then t.ask actor.id else t

variable (p : Policy) (w : World) (t : Throttle) (c : Channel)

def perform (actor : Player) : Command → Turn Answer
  | .join password => c.join p w actor password
  | .leave notify => c.leave p w actor notify
  | .expel target ban => c.expel w actor target ban
  | .unban target => c.unban w actor target
  | .setPassword password => c.setPassword w actor password
  | .setMode target mode on => c.setMode p w actor target mode on
  | .setOwner target => c.changeOwner p w actor target
  | .queryOwner => c.queryOwner p w actor
  | .list => c.list p w actor
  | .toggleAnnounce => c.toggleAnnounce w actor
  | .toggleModerate => c.toggleModerate w actor
  | .say text language => c.say p w actor text language (t.admits actor.id)
  | .invite target => c.invite p w actor target

/-- Works off a command and records that it did. -/
def execute (actor : Player) (command : Command) : Turn Answer :=
  let turn := c.perform p w t actor command
  { turn with events := turn.events ++
      (match turn.answer with
        | .error cause => [.refused command.label cause]
        | .ok _ => []) ++ [.commanded command.label] }

end Channel
end ChatChannels
