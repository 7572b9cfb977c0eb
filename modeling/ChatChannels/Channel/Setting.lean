import ChatChannels.Channel.Sanction

/-! The settings of a channel that moderators change: password, announcements and moderation. -/
namespace ChatChannels.Channel

variable (w : World) (c : Channel)

/-- Sets the password, or with an empty one clears it. Built-in channels have none. -/
def setPassword (actor : Player) (password : String) : Turn Answer :=
  c.asModerator w actor <|
    if c.isBuiltIn then c.reject w actor.id .notModerator
    else
      { channel := { c with password := if password.isEmpty then none else some password }
        answer := .ok .applied
        events := c.broadcast w (.passwordChanged actor.id) }

def toggleAnnounce (actor : Player) : Turn Answer :=
  c.asModerator w actor
    { channel := { c with announce := !c.announce }
      answer := .ok .applied
      events := c.broadcast w
        (if c.announce then .announcementsOff actor.id else .announcementsOn actor.id) }

def toggleModerate (actor : Player) : Turn Answer :=
  c.asModerator w actor
    { channel := { c with moderate := !c.moderate }
      answer := .ok .applied
      events := c.broadcast w
        (if c.moderate then .moderationOff actor.id else .moderationOn actor.id) }

end ChatChannels.Channel
