import ChatChannels.Event
import ChatChannels.Roster
import ChatChannels.World

/-! Delivery to one player, to all members and to the audience of a speaker. Whoever is not online
is passed over. -/
namespace ChatChannels

/-- The same message for every recipient, and how many it went to. -/
def Event.fanOut (recipients : List PlayerId) (m : Message) : List Event :=
  recipients.map (.delivered · m) ++ [.fannedOut recipients.length]

namespace World

variable (w : World)

def sendTo (recipient : PlayerId) (m : Message) : List Event :=
  if w.isOnline recipient then [.delivered recipient m] else []

def onlineMembers (r : Roster) : List PlayerId := r.players.filter w.isOnline

def sendToAll (r : Roster) (m : Message) : List Event := Event.fanOut (w.onlineMembers r) m

/-- Who hears a line of chat: the members online, less those who ignore the speaker and less one
who may be left out. -/
def audience (r : Roster) (sender : PlayerId) (except : Option PlayerId) : List PlayerId :=
  r.players.filter fun p => some p ≠ except && w.isOnline p && !w.ignores.has p sender

def sendChat (r : Roster) (line : ChatLine) (except : Option PlayerId) : List Event :=
  Event.fanOut (w.audience r line.sender except) (.chat line)

end World
end ChatChannels
