import ChatChannels.Channel

/-! Custom channels that become static, and dynamic again. A static channel has no owner and no
moderators, is not moderated and announces nobody. -/
namespace ChatChannels.Channel

variable (p : Policy) (w : World) (c : Channel)

/-- Whether a channel may be converted. An explicit wish needs no majority of members, and a
channel with a password never becomes static. -/
def mayConvert (wantStatic explicit : Bool) : Bool :=
  !c.isBuiltIn && c.flags.contains .custom && c.isStatic ≠ wantStatic &&
    !(wantStatic && c.password.isSome) &&
    (explicit || p.allowsAutoStatic wantStatic c.roster.size)

/-- Takes away the owner, proclaimed on an explicit wish or if there are two or more members. -/
def releaseOwner (explicit : Bool) : Turn Unit :=
  if c.owner.isSome then c.setOwner w none (explicit || 1 < c.roster.size) else ⟨c, (), []⟩

/-- Lets everyone speak; the service itself does it. -/
def endModeration : Turn Unit :=
  if c.moderate then
    ⟨{ c with moderate := false }, (), c.broadcast w (.moderationOff none)⟩
  else ⟨c, (), []⟩

def endAnnouncements : Turn Unit :=
  if c.announce then
    ⟨{ c with announce := false }, (), c.broadcast w (.announcementsOff none)⟩
  else ⟨c, (), []⟩

def becomeStatic (explicit : Bool) : Turn Unit :=
  let released := c.releaseOwner w explicit
  let levelled := { released.channel with roster := released.channel.roster.stripModerators }
  let opened := levelled.endModeration w
  let quiet := opened.channel.endAnnouncements w
  { channel := { quiet.channel with isStatic := true }
    answer := ()
    events := released.events ++ opened.events ++ quiet.events ++ [.converted true] }

def becomeDynamic : Turn Unit :=
  let owned := if c.owner.isNone then c.setOwner w c.roster.successor false else ⟨c, (), []⟩
  { channel := { owned.channel with isStatic := false }
    answer := ()
    events := owned.events ++ [.converted false] }

def convert (wantStatic explicit : Bool) : Turn Bool :=
  if c.mayConvert p wantStatic explicit then
    let t := if wantStatic then c.becomeStatic w explicit else c.becomeDynamic w
    ⟨t.channel, true, t.events⟩
  else ⟨c, false, []⟩

end ChatChannels.Channel
