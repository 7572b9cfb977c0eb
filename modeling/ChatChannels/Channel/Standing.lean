import ChatChannels.Channel.Sanction

/-! The standing of members: moderators, muted members and the owner. -/
namespace ChatChannels

inductive RoleMode where
  | moderator
  | mute
deriving DecidableEq

def Role.withMode (r : Role) (mode : RoleMode) (on : Bool) : Role :=
  match mode with
  | .moderator => { r with moderator := on }
  | .mute => { r with muted := on }

namespace Channel

variable (p : Policy) (w : World) (c : Channel)

/-- Grants or takes a part of a member's role. A refusal across factions looks like absence. -/
def setMode (actor : Player) (targetName : String) (mode : RoleMode) (on : Bool) : Turn Answer :=
  c.asModerator w actor <|
    match w.directory.findByName targetName with
    | none => c.reject w actor.id (.playerNotFound targetName)
    | some target =>
      if mode = .moderator && c.owner = some actor.id && c.owner = some target.id then c.unchanged
      else if !c.contains target.id || !p.mayChangeRole actor target then
        c.reject w actor.id (.playerNotFound targetName)
      else if c.owner = some target.id && c.owner ≠ some actor.id then
        c.reject w actor.id .notOwner
      else
        let update := c.roster.update target.id (·.withMode mode on)
        let changed := { c with roster := update.1 }
        { channel := changed
          answer := .ok (if update.2.isEmpty then .unchanged else .applied)
          events := update.2.flatMap (changed.broadcastRoleChange w) }

/-- Hands the channel to a named member, which is always proclaimed. -/
def changeOwner (actor : Player) (targetName : String) : Turn Answer :=
  if !c.contains actor.id then c.reject w actor.id .notMember
  else if c.isPublic || (!actor.isGameMaster && c.owner ≠ some actor.id) then
    c.reject w actor.id .notOwner
  else match (c.findMember w targetName).filter (p.factionsCompatible actor) with
    | none => c.reject w actor.id (.playerNotFound targetName)
    | some target =>
      let given := c.setOwner w (some target.id) true
      ⟨given.channel, .ok .applied, given.events⟩

end Channel
end ChatChannels
