import ChatChannels.Player

/-! The kinds of channel notices, each with a stable code, a label for texts and a word for documents. -/
namespace ChatChannels

inductive NoticeKind where
  | joined
  | left
  | youJoined
  | youLeft
  | wrongPassword
  | notMember
  | notModerator
  | passwordChanged
  | ownerChanged
  | playerNotFound
  | notOwner
  | ownerReply
  | roleChanged
  | announcementsOn
  | announcementsOff
  | moderationOn
  | moderationOff
  | muted
  | playerKicked
  | banned
  | playerBanned
  | playerUnbanned
  | playerNotBanned
  | playerAlreadyMember
  | invite
  | inviteWrongFaction
  | wrongFaction
  | invalidName
  | notModerated
  | playerInvited
  | playerInviteBanned
  | throttled
deriving DecidableEq

namespace NoticeKind

def entry : NoticeKind → UInt8 × String × String
  | .joined => (0x00, "JOINED", "joined")
  | .left => (0x01, "LEFT", "left")
  | .youJoined => (0x02, "YOU_JOINED", "you_joined")
  | .youLeft => (0x03, "YOU_LEFT", "you_left")
  | .wrongPassword => (0x04, "WRONG_PASSWORD", "wrong_password")
  | .notMember => (0x05, "NOT_MEMBER", "not_member")
  | .notModerator => (0x06, "NOT_MODERATOR", "not_moderator")
  | .passwordChanged => (0x07, "PASSWORD_CHANGED", "password_changed")
  | .ownerChanged => (0x08, "OWNER_CHANGED", "owner_changed")
  | .playerNotFound => (0x09, "PLAYER_NOT_FOUND", "player_not_found")
  | .notOwner => (0x0A, "NOT_OWNER", "not_owner")
  | .ownerReply => (0x0B, "CHANNEL_OWNER", "channel_owner_reply")
  | .roleChanged => (0x0C, "MODE_CHANGE", "role_changed")
  | .announcementsOn => (0x0D, "ANNOUNCEMENTS_ON", "announcements_on")
  | .announcementsOff => (0x0E, "ANNOUNCEMENTS_OFF", "announcements_off")
  | .moderationOn => (0x0F, "MODERATION_ON", "moderation_on")
  | .moderationOff => (0x10, "MODERATION_OFF", "moderation_off")
  | .muted => (0x11, "MUTED", "muted")
  | .playerKicked => (0x12, "PLAYER_KICKED", "player_kicked")
  | .banned => (0x13, "BANNED", "banned")
  | .playerBanned => (0x14, "PLAYER_BANNED", "player_banned")
  | .playerUnbanned => (0x15, "PLAYER_UNBANNED", "player_unbanned")
  | .playerNotBanned => (0x16, "PLAYER_NOT_BANNED", "player_not_banned")
  | .playerAlreadyMember => (0x17, "PLAYER_ALREADY_MEMBER", "player_already_member")
  | .invite => (0x18, "INVITE", "invite")
  | .inviteWrongFaction => (0x19, "INVITE_WRONG_FACTION", "invite_wrong_faction")
  | .wrongFaction => (0x1A, "WRONG_FACTION", "wrong_faction")
  | .invalidName => (0x1B, "INVALID_NAME", "invalid_name")
  | .notModerated => (0x1C, "NOT_MODERATED", "not_moderated")
  | .playerInvited => (0x1D, "PLAYER_INVITED", "player_invited")
  | .playerInviteBanned => (0x1E, "PLAYER_INVITE_BANNED", "player_invite_banned")
  | .throttled => (0x1F, "THROTTLED", "throttled")

def code (k : NoticeKind) : UInt8 := k.entry.1
def label (k : NoticeKind) : String := k.entry.2.1
def word (k : NoticeKind) : String := k.entry.2.2

def all : List NoticeKind := [
    .joined, .left, .youJoined, .youLeft, .wrongPassword, .notMember, .notModerator,
    .passwordChanged, .ownerChanged, .playerNotFound, .notOwner, .ownerReply, .roleChanged,
    .announcementsOn, .announcementsOff, .moderationOn, .moderationOff, .muted, .playerKicked,
    .banned, .playerBanned, .playerUnbanned, .playerNotBanned, .playerAlreadyMember, .invite,
    .inviteWrongFaction, .wrongFaction, .invalidName, .notModerated, .playerInvited,
    .playerInviteBanned, .throttled]

def ofCode? (c : UInt8) : Option NoticeKind := all.find? fun k => k.code = c

theorem ofCode?_code (k : NoticeKind) : ofCode? k.code = some k := by cases k <;> decide

def ofWord? (w : String) : Option NoticeKind := all.find? fun k => k.word = w

theorem ofWord?_word (k : NoticeKind) : ofWord? k.word = some k := by cases k <;> decide

def decode (raw : UInt8) : Except UnknownValue NoticeKind :=
  match ofCode? raw with
  | some k => .ok k
  | none => .error (.notice raw)

end NoticeKind
end ChatChannels
