import ChatChannels.Notice

/-! Why a channel refuses a request. Each cause has a code, a text and at most one notice. -/
namespace ChatChannels

inductive Refusal where
  | notMember
  | notModerator
  | notOwner
  | playerNotFound (name : String)
  | alreadyMember (player : PlayerId)
  | banned
  | wrongPassword
  | inviteWrongFaction
  | muted
  | notBanned (name : String)
  | inviteBanned (name : String)
  | invalidName
  | throttled
  /-- The channel takes no guild members; the player is not told. -/
  | guildRestricted
  /-- The channel has been given up and takes no more requests. -/
  | draining
deriving DecidableEq

namespace Refusal

def code : Refusal → String
  | .notMember => "not_member"
  | .notModerator => "not_moderator"
  | .notOwner => "not_owner"
  | .playerNotFound _ => "player_not_found"
  | .alreadyMember _ => "already_member"
  | .banned => "banned"
  | .wrongPassword => "wrong_password"
  | .inviteWrongFaction => "invite_wrong_faction"
  | .muted => "muted"
  | .notBanned _ => "not_banned"
  | .inviteBanned _ => "invite_banned"
  | .invalidName => "invalid_name"
  | .throttled => "throttled"
  | .guildRestricted => "guild_restricted"
  | .draining => "draining"

def message : Refusal → String
  | .notMember => "not on channel"
  | .notModerator => "not a channel moderator"
  | .notOwner => "not the channel owner"
  | .playerNotFound name => s!"player {name} not found"
  | .alreadyMember player => s!"player {player} is already on the channel"
  | .banned => "banned from channel"
  | .wrongPassword => "wrong channel password"
  | .inviteWrongFaction => "cannot invite across factions"
  | .muted => "muted"
  | .notBanned name => s!"player {name} is not banned"
  | .inviteBanned name => s!"player {name} is banned and cannot be invited"
  | .invalidName => "invalid channel name"
  | .throttled => "speaking too fast"
  | .guildRestricted => "guild members cannot join this channel"
  | .draining => "channel is draining"

def noticeBody? : Refusal → Option NoticeBody
  | .notMember => some .notMember
  | .notModerator => some .notModerator
  | .notOwner => some .notOwner
  | .playerNotFound name => some (.playerNotFound name)
  | .alreadyMember player => some (.playerAlreadyMember player)
  | .banned => some .banned
  | .wrongPassword => some .wrongPassword
  | .inviteWrongFaction => some .inviteWrongFaction
  | .muted => some .muted
  | .notBanned name => some (.playerNotBanned name)
  | .inviteBanned name => some (.playerInviteBanned name)
  | .invalidName => some .invalidName
  | .throttled => some .throttled
  | .guildRestricted | .draining => none

def notice? (r : Refusal) (channel : String) : Option Notice :=
  r.noticeBody?.map (Notice.mk channel)

end Refusal
end ChatChannels
