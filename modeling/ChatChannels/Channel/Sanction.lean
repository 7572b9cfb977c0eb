import ChatChannels.Channel.Presence

/-! What moderators may do to players: kicks and bans, and the gate before every moderator's
command. -/
namespace ChatChannels.Channel

variable (p : Policy) (w : World) (c : Channel)

/-- Runs a command that asks for a moderator or a game master among the members. -/
def asModerator (actor : Player) (command : Turn Answer) : Turn Answer :=
  match c.roster.role? actor.id with
  | none => c.reject w actor.id .notMember
  | some role =>
    if Policy.canModerate role actor.security then command else c.reject w actor.id .notModerator

def findMember (name : String) : Option Player :=
  (w.directory.findByName name).filter fun target => c.contains target.id

/-- Removes a member, and with a ban keeps them out. The target still hears of it, and a player who
is banned already is only kicked. -/
def expel (actor : Player) (targetName : String) (ban : Bool) : Turn Answer :=
  c.asModerator w actor <|
    match c.findMember w targetName with
    | none => c.reject w actor.id (.playerNotFound targetName)
    | some target =>
      if !Policy.mayActOn actor c.owner target.id then c.reject w actor.id .notOwner
      else
        let sanction : NoticeBody :=
          if ban && !c.bans.contains target.id then .playerBanned target.id actor.id
          else .playerKicked target.id actor.id
        let without := { c with
          bans := if ban then c.bans.add target.id else c.bans
          roster := c.roster.remove target.id }
        let inherited := without.inherit w (c.owner = some target.id)
        { channel := inherited.channel
          answer := .ok .applied
          events := c.broadcast w sanction ++ inherited.events }

def unban (actor : Player) (targetName : String) : Turn Answer :=
  c.asModerator w actor <|
    match w.directory.findByName targetName with
    | none => c.reject w actor.id (.playerNotFound targetName)
    | some target =>
      if !c.bans.contains target.id then c.reject w actor.id (.notBanned targetName)
      else
        { channel := { c with bans := c.bans.remove target.id }
          answer := .ok .applied
          events := c.broadcast w (.playerUnbanned target.id actor.id) }

end ChatChannels.Channel
