import ChatChannels.Message

/-! Messages as plain data, and back. Each form of message has a table with its own keys; a key that
is absent reads like null. -/
namespace ChatChannels

namespace NoticeBody

def fields : NoticeBody → List (String × Data)
  | .joined p | .left p | .playerAlreadyMember p => [("player", p.data)]
  | .youJoined flags id split =>
    [("flags", flags.data), ("channel_id", .nat id.toNat), ("split_index", .nat split.toNat)]
  | .passwordChanged a => [("by", a.data)]
  | .ownerChanged owner => [("owner", .opt PlayerId.data owner)]
  | .playerNotFound name | .playerNotBanned name | .playerInvited name
  | .playerInviteBanned name => [("name", .text name)]
  | .ownerReply name => [("owner_name", .text name)]
  | .roleChanged p old new => [("player", p.data), ("old", old.data), ("new", new.data)]
  | .announcementsOn a | .announcementsOff a | .moderationOn a | .moderationOff a =>
    [("by", .opt PlayerId.data a)]
  | .playerKicked t a | .playerBanned t a | .playerUnbanned t a =>
    [("target", t.data), ("by", a.data)]
  | .invite inviter => [("from", inviter.data)]
  | _ => []

def id? (d : Data) (key : String) : Option PlayerId := (d.get? key).bind PlayerId.ofData?

/-- An identity that may be absent or null. -/
def optionalId? (d : Data) (key : String) : Option (Option PlayerId) :=
  match d.get? key with
  | none | some .null => some none
  | some v => (PlayerId.ofData? v).map some

def name? (d : Data) (key : String) : Option String := (d.get? key).bind Data.text?

def role? (d : Data) (key : String) : Option Role := (d.get? key).bind Role.ofData?

def ofFields? (d : Data) : NoticeKind → Option NoticeBody
  | .joined => (id? d "player").map .joined
  | .left => (id? d "player").map .left
  | .youJoined => do
    let flags ← (d.get? "flags").bind ChannelFlags.ofData?
    let id ← (d.get? "channel_id").bind Data.word32?
    let split ← (d.get? "split_index").bind Data.word32?
    return .youJoined flags id split
  | .youLeft => some .youLeft
  | .wrongPassword => some .wrongPassword
  | .notMember => some .notMember
  | .notModerator => some .notModerator
  | .passwordChanged => (id? d "by").map .passwordChanged
  | .ownerChanged => (optionalId? d "owner").map .ownerChanged
  | .playerNotFound => (name? d "name").map .playerNotFound
  | .notOwner => some .notOwner
  | .ownerReply => (name? d "owner_name").map .ownerReply
  | .roleChanged => do
    return .roleChanged (← id? d "player") (← role? d "old") (← role? d "new")
  | .announcementsOn => (optionalId? d "by").map .announcementsOn
  | .announcementsOff => (optionalId? d "by").map .announcementsOff
  | .moderationOn => (optionalId? d "by").map .moderationOn
  | .moderationOff => (optionalId? d "by").map .moderationOff
  | .muted => some .muted
  | .playerKicked => do return .playerKicked (← id? d "target") (← id? d "by")
  | .banned => some .banned
  | .playerBanned => do return .playerBanned (← id? d "target") (← id? d "by")
  | .playerUnbanned => do return .playerUnbanned (← id? d "target") (← id? d "by")
  | .playerNotBanned => (name? d "name").map .playerNotBanned
  | .playerAlreadyMember => (id? d "player").map .playerAlreadyMember
  | .invite => (id? d "from").map .invite
  | .inviteWrongFaction => some .inviteWrongFaction
  | .wrongFaction => some .wrongFaction
  | .invalidName => some .invalidName
  | .notModerated => some .notModerated
  | .playerInvited => (name? d "name").map .playerInvited
  | .playerInviteBanned => (name? d "name").map .playerInviteBanned
  | .throttled => some .throttled

end NoticeBody

namespace ListedMember

def data (m : ListedMember) : Data := .table [("player", m.player.data), ("flags", m.role.data)]

def ofData? (d : Data) : Option ListedMember := do
  return ⟨← (d.get? "player").bind PlayerId.ofData?, ← (d.get? "flags").bind Role.ofData?⟩

end ListedMember

namespace Message

def entries : Message → List (String × Data)
  | .notice n =>
    [("type", .text "notify"), ("channel", .text n.channel), ("kind", .text n.kind.word)] ++
      n.body.fields
  | .memberList l =>
    [("type", .text "channel_list"), ("channel", .text l.channel), ("flags", l.flags.data),
      ("members", .list (l.members.map ListedMember.data))]
  | .chat line =>
    [("type", .text "chat"), ("channel", .text line.channel), ("sender", line.sender.data),
      ("sender_name", .text line.senderName), ("text", .text line.text),
      ("language", .nat line.language.code.toNat), ("honor_rank", .nat line.rank.toNat)]

def data (m : Message) : Data := .table m.entries

def delivery (time : String) (recipient : PlayerId) (m : Message) : Data :=
  .table ([("at", .text time), ("to", recipient.data)] ++ m.entries)

def ofData? (d : Data) : Option Message := do
  let channel ← (d.get? "channel").bind Data.text?
  match ← (d.get? "type").bind Data.text? with
  | "notify" =>
    let kind ← ((d.get? "kind").bind Data.text?).bind NoticeKind.ofWord?
    return .notice ⟨channel, ← NoticeBody.ofFields? d kind⟩
  | "channel_list" =>
    let flags ← (d.get? "flags").bind ChannelFlags.ofData?
    match ← d.get? "members" with
    | .list rows => return .memberList ⟨channel, flags, ← rows.mapM ListedMember.ofData?⟩
    | _ => none
  | "chat" =>
    let sender ← (d.get? "sender").bind PlayerId.ofData?
    let senderName ← (d.get? "sender_name").bind Data.text?
    let text ← (d.get? "text").bind Data.text?
    let language ← (d.get? "language").bind Language.ofData?
    let rank ← (d.get? "honor_rank").bind Data.byte?
    return .chat ⟨channel, sender, senderName, text, language, rank⟩
  | _ => none

end Message
end ChatChannels
