import ChatChannels.Channel

/-! Speech on a channel, and invitations to it. -/
namespace ChatChannels.Channel

variable (p : Policy) (w : World) (c : Channel)

/-- Why a member may not speak, if so. Whether the speaker's budget admits the line is asked before
anything else. -/
def speechRefusal (actor : Player) (role : Role) (text : String) (admitted : Bool) :
    Option Refusal :=
  if !admitted then some .throttled
  else if role.muted || !p.rankSuffices c.id actor.rank then some .muted
  else if c.moderate && !role.moderator && !actor.isGameMaster then some .notModerator
  else if p.languageRestricted c.isBuiltIn c.isPublic c.realmRestricted &&
      !Text.isPublicLanguage text then some .muted
  else none

/-- Speaks to the members. A moderator does not hear their own line, and empty text says nothing. -/
def say (actor : Player) (text : String) (language : Language) (admitted : Bool) : Turn Answer :=
  if text.isEmpty then c.unchanged
  else match c.roster.role? actor.id with
    | none => c.reject w actor.id .notMember
    | some role =>
      match c.speechRefusal p actor role text admitted with
      | some cause => c.reject w actor.id cause
      | none =>
        let line : ChatLine := {
          channel := c.name
          sender := actor.id
          senderName := actor.name
          text := text
          language := p.chatLanguage language
          rank := actor.rank }
        ⟨c, .ok .applied, w.sendChat c.roster line (if role.moderator then actor.id else none)⟩

/-- Invites a player. One who ignores the inviter hears nothing of it, and the inviter does not
learn that. -/
def invite (actor : Player) (targetName : String) : Turn Answer :=
  if !c.contains actor.id then c.reject w actor.id .notMember
  else match w.directory.findByName targetName with
    | none => c.reject w actor.id (.playerNotFound targetName)
    | some target =>
      if c.contains target.id then c.reject w actor.id (.alreadyMember target.id)
      else if c.bans.contains target.id then c.reject w actor.id (.inviteBanned targetName)
      else if !p.factionsCompatible actor target then c.reject w actor.id .inviteWrongFaction
      else ⟨c, .ok .applied,
        (if w.ignores.has target.id actor.id then [] else c.tell w target.id (.invite actor.id)) ++
          c.tell w actor.id (.playerInvited targetName)⟩

end ChatChannels.Channel
