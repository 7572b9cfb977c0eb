import ChatChannels.Notice

/-! Everything a channel sends to a player: notices, member lists and lines of chat. -/
namespace ChatChannels

structure ListedMember where
  player : PlayerId
  role : Role
deriving DecidableEq

structure MemberList where
  channel : String
  flags : ChannelFlags
  members : List ListedMember
deriving DecidableEq

structure ChatLine where
  channel : String
  sender : PlayerId
  senderName : String
  text : String
  language : Language
  rank : UInt8
deriving DecidableEq

inductive Message where
  | notice (n : Notice)
  | memberList (l : MemberList)
  | chat (line : ChatLine)
deriving DecidableEq

namespace Message

def channel : Message → String
  | .notice n => n.channel
  | .memberList l => l.channel
  | .chat line => line.channel

def notice? : Message → Option Notice
  | .notice n => some n
  | _ => none

def text : Message → String
  | .notice n => n.text
  | .memberList l =>
    s!"[{l.channel}] LIST flags={l.flags.text}" ++
      String.join (l.members.map fun m => s!" {m.player}:{m.role.text}")
  | .chat line => s!"[{line.channel}] <{line.senderName}> {line.text}"

end Message
end ChatChannels
