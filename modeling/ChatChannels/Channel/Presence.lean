import ChatChannels.Channel.Conversion

/-! Joining and leaving a channel. -/
namespace ChatChannels.Channel

variable (p : Policy) (w : World) (c : Channel)

/-- The flags of the one channel that guild members may not join. -/
def guildRefusingFlags : ChannelFlags := ⟨0x38⟩

/-- Why a player may not join, if so, and whether the player is told. Joining a built-in channel
again is refused in silence. -/
def joinRefusal (actor : Player) (password : Option String) : Option (Report × Refusal) :=
  if c.contains actor.id then
    some (if c.isBuiltIn then .silent else .notify, .alreadyMember actor.id)
  else if c.bans.contains actor.id then some (.notify, .banned)
  else if c.password.isSome && password ≠ c.password then some (.notify, .wrongPassword)
  else if actor.guild.isSome && c.flags = guildRefusingFlags then
    some (.silent, .guildRestricted)
  else none

/-- Gives a channel that may have an owner and has none to a player, proclaimed if there are
others. -/
def adopt (player : PlayerId) : Turn Unit :=
  if !c.isPublic && c.owner.isNone then c.setOwner w (some player) (1 < c.roster.size)
  else ⟨c, (), []⟩

/-- Joins a channel. The first to come owns it, and enough members make it static. -/
def join (actor : Player) (password : Option String) : Turn Answer :=
  match c.joinRefusal actor password with
  | some (report, cause) => c.refuse w actor.id report cause
  | none =>
    let entered := { c with roster := c.roster.insert actor.id }
    let announcement :=
      if entered.announces p actor then entered.broadcast w (.joined actor.id) else []
    let welcome := entered.tell w actor.id (.youJoined c.flags c.id 0)
    let owned := entered.adopt w actor.id
    let settled := owned.channel.convert p w true false
    { channel := settled.channel
      answer := .ok .applied
      events := announcement ++ welcome ++ owned.events ++ settled.events }

/-- Finds a new owner if the one who left had been the owner. -/
def inherit (wasOwner : Bool) : Turn Unit :=
  if wasOwner && !c.isPublic then c.succeed w else ⟨c, (), []⟩

/-- Leaves a channel; a quiet leave neither confirms nor tells of a refusal. -/
def leave (actor : Player) (notify : Bool) : Turn Answer :=
  match c.roster.role? actor.id with
  | none => c.refuse w actor.id (if notify then .notify else .silent) .notMember
  | some role =>
    let farewell := if notify then c.tell w actor.id .youLeft else []
    let left := { c with roster := c.roster.remove actor.id }
    let announcement := if left.announces p actor then left.broadcast w (.left actor.id) else []
    let inherited := left.inherit w role.owner
    { channel := inherited.channel
      answer := .ok .applied
      events := farewell ++ announcement ++ inherited.events }

end ChatChannels.Channel
