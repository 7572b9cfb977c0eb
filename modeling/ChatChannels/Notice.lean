import ChatChannels.ChannelFlags
import ChatChannels.Notice.Kind
import ChatChannels.Role

/-! Channel notices: the name of a channel and what there is to tell about it. -/
namespace ChatChannels

/-- What a notice tells. A toggle without an actor was made by the service itself. -/
inductive NoticeBody where
  | joined (player : PlayerId)
  | left (player : PlayerId)
  | youJoined (flags : ChannelFlags) (channelId : UInt32) (splitIndex : UInt32)
  | youLeft
  | wrongPassword
  | notMember
  | notModerator
  | passwordChanged (actor : PlayerId)
  | ownerChanged (owner : Option PlayerId)
  | playerNotFound (name : String)
  | notOwner
  | ownerReply (ownerName : String)
  | roleChanged (player : PlayerId) (old new : Role)
  | announcementsOn (actor : Option PlayerId)
  | announcementsOff (actor : Option PlayerId)
  | moderationOn (actor : Option PlayerId)
  | moderationOff (actor : Option PlayerId)
  | muted
  | playerKicked (target actor : PlayerId)
  | banned
  | playerBanned (target actor : PlayerId)
  | playerUnbanned (target actor : PlayerId)
  | playerNotBanned (name : String)
  | playerAlreadyMember (player : PlayerId)
  | invite (inviter : PlayerId)
  | inviteWrongFaction
  | wrongFaction
  | invalidName
  | notModerated
  | playerInvited (name : String)
  | playerInviteBanned (name : String)
  | throttled
deriving DecidableEq

namespace NoticeBody

def kind : NoticeBody → NoticeKind
  | .joined _ => .joined
  | .left _ => .left
  | .youJoined .. => .youJoined
  | .youLeft => .youLeft
  | .wrongPassword => .wrongPassword
  | .notMember => .notMember
  | .notModerator => .notModerator
  | .passwordChanged _ => .passwordChanged
  | .ownerChanged _ => .ownerChanged
  | .playerNotFound _ => .playerNotFound
  | .notOwner => .notOwner
  | .ownerReply _ => .ownerReply
  | .roleChanged .. => .roleChanged
  | .announcementsOn _ => .announcementsOn
  | .announcementsOff _ => .announcementsOff
  | .moderationOn _ => .moderationOn
  | .moderationOff _ => .moderationOff
  | .muted => .muted
  | .playerKicked .. => .playerKicked
  | .banned => .banned
  | .playerBanned .. => .playerBanned
  | .playerUnbanned .. => .playerUnbanned
  | .playerNotBanned _ => .playerNotBanned
  | .playerAlreadyMember _ => .playerAlreadyMember
  | .invite _ => .invite
  | .inviteWrongFaction => .inviteWrongFaction
  | .wrongFaction => .wrongFaction
  | .invalidName => .invalidName
  | .notModerated => .notModerated
  | .playerInvited _ => .playerInvited
  | .playerInviteBanned _ => .playerInviteBanned
  | .throttled => .throttled

/-- An optional identity in a text; a hyphen stands for none. -/
private def idText : Option PlayerId → String
  | some id => toString id
  | none => "-"

def details : NoticeBody → String
  | .joined p | .left p | .playerAlreadyMember p => s!" player={p}"
  | .youJoined flags id _ => s!" flags={flags.text} id={id}"
  | .passwordChanged a => s!" by={a}"
  | .ownerChanged owner => s!" owner={idText owner}"
  | .playerNotFound name | .playerNotBanned name | .playerInvited name
  | .playerInviteBanned name => s!" name={name}"
  | .ownerReply name => s!" owner={name}"
  | .roleChanged p old new => s!" player={p} old={old.text} new={new.text}"
  | .announcementsOn a | .announcementsOff a | .moderationOn a | .moderationOff a =>
    s!" by={idText a}"
  | .playerKicked t a | .playerBanned t a | .playerUnbanned t a => s!" target={t} by={a}"
  | .invite inviter => s!" from={inviter}"
  | _ => ""

end NoticeBody

structure Notice where
  channel : String
  body : NoticeBody
deriving DecidableEq

namespace Notice

def kind (n : Notice) : NoticeKind := n.body.kind

def text (n : Notice) : String := s!"[{n.channel}] {n.kind.label}{n.body.details}"

/-- The owner named in a reply when there is none that may be seen. -/
def nobody : String := "Nobody"

/-- The owner named in a reply when the owner's name is not known. -/
def unresolved : String := "PLAYER_NOT_FOUND"

end Notice
end ChatChannels
