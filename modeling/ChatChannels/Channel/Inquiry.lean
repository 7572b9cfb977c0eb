import ChatChannels.Channel

/-! What members may ask of a channel: who owns it and who is on it. -/
namespace ChatChannels.Channel

variable (p : Policy) (w : World) (c : Channel)

/-- Whether a player shows up for an observer in owner replies and lists. -/
def shows (observer target : Player) : Bool :=
  p.showsInWhoList observer.security target.security
    (w.directory.isVisible observer.id target.id)

/-- The owner as an observer is told of them. One who may not be seen is nobody, and one without a
known name is reported as such. -/
def ownerName (observer : Player) : String :=
  match c.owner with
  | none => Notice.nobody
  | some id =>
    match w.directory.player? id with
    | none => Notice.unresolved
    | some owner =>
      if !shows p w observer owner then Notice.nobody
      else if owner.name.isEmpty then Notice.unresolved
      else owner.name

def queryOwner (actor : Player) : Turn Answer :=
  if !c.contains actor.id then c.reject w actor.id .notMember
  else ⟨c, .ok .applied, c.tell w actor.id (.ownerReply (c.ownerName p w actor))⟩

/-- The members that an observer is shown, in the order in which they joined. -/
def listedMembers (observer : Player) : List ListedMember :=
  c.roster.members.filterMap fun m =>
    (w.directory.player? m.player).bind fun target =>
      if shows p w observer target then some ⟨m.player, m.role⟩ else none

def list (actor : Player) : Turn Answer :=
  if !c.contains actor.id then c.reject w actor.id .notMember
  else ⟨c, .ok .applied,
    w.sendTo actor.id (.memberList ⟨c.name, c.flags, c.listedMembers p w actor⟩)⟩

end ChatChannels.Channel
