import ChatChannels.Config
import ChatChannels.Role

/-! Who may do what, as far as the configuration decides. -/
namespace ChatChannels

structure Policy where
  gmJoinSilently : Bool
  crossFaction : Bool
  languageRestriction : LanguageRestriction
  staticAutoThreshold : Nat
  whoListLevel : SecurityLevel
  localDefenseMinRank : UInt8
  worldDefenseMinRank : UInt8
deriving DecidableEq

namespace Policy

def ofConfig (c : ChannelsConfig) : Policy where
  gmJoinSilently := c.gmJoinSilently
  crossFaction := c.crossFaction
  languageRestriction := c.languageRestriction
  staticAutoThreshold := c.staticAutoThreshold
  whoListLevel := c.whoListLevel
  localDefenseMinRank := c.localDefenseMinRank
  worldDefenseMinRank := c.worldDefenseMinRank

variable (p : Policy)

def announcesPresence (s : SecurityLevel) : Bool := !s.isGameMaster || !p.gmJoinSilently

def canModerate (role : Role) (s : SecurityLevel) : Bool := role.moderator || s.isGameMaster

/-- The owner suffers only their own acts and those of game masters. -/
def mayActOn (actor : Player) (owner : Option PlayerId) (target : PlayerId) : Bool :=
  owner ≠ some target || actor.isGameMaster || owner = some actor.id

def factionsCompatible (a b : Player) : Bool := p.crossFaction || a.team = b.team

/-- Two game masters may change each other's roles across factions. -/
def mayChangeRole (actor target : Player) : Bool :=
  (actor.isGameMaster && target.isGameMaster) || p.factionsCompatible actor target

/-- The defense channels ask a rank of their speakers. -/
def rankSuffices (channelId : UInt32) (rank : UInt8) : Bool :=
  if channelId = CatalogEntry.localDefenseId then p.localDefenseMinRank ≤ rank
  else if channelId = CatalogEntry.worldDefenseId then p.worldDefenseMinRank ≤ rank
  else true

def languageRestricted (isBuiltin isPublic realmRestricted : Bool) : Bool :=
  match p.languageRestriction with
  | .off => false
  | .builtIn => isBuiltin
  | .publicRealm => isPublic && realmRestricted
  | .all => true

/-- Where factions mix, chat is understood by all. -/
def chatLanguage (requested : Language) : Language :=
  if p.crossFaction then .universal else requested

/-- Staff see everyone in owner replies and lists. -/
def showsInWhoList (observer target : SecurityLevel) (visible : Bool) : Bool :=
  observer ≠ .player || (target ≤ p.whoListLevel && visible)

/-- Whether the number of members alone calls for a change to or from static. -/
def allowsAutoStatic (wantStatic : Bool) (members : Nat) : Bool :=
  p.staticAutoThreshold ≠ 0 && wantStatic = decide (p.staticAutoThreshold ≤ members)

end Policy
end ChatChannels
