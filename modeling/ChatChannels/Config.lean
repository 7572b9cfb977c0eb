import ChatChannels.Catalog
import ChatChannels.Player

/-! The configuration of a service and its defaults. -/
namespace ChatChannels

/-- The channels whose speech must be in the public language. -/
inductive LanguageRestriction where
  | off
  | builtIn
  | publicRealm
  | all
deriving DecidableEq, Inhabited

namespace LanguageRestriction

def ofMode? : UInt8 → Option LanguageRestriction
  | 0 => some .off
  | 1 => some .builtIn
  | 2 => some .publicRealm
  | 3 => some .all
  | _ => none

def label : LanguageRestriction → String
  | .off => "Off"
  | .builtIn => "BuiltIn"
  | .publicRealm => "PublicRealm"
  | .all => "All"

end LanguageRestriction

structure ServerConfig where
  /-- Where metrics are served; 0 serves none. -/
  metricsPort : UInt16 := 0
deriving DecidableEq

structure ChannelsConfig where
  gmJoinSilently : Bool := false
  crossFaction : Bool := false
  restrictedLanguageMode : UInt8 := 0
  /-- Members at which a custom channel becomes static; 0 for never. -/
  staticAutoThreshold : Nat := 0
  /-- The greatest security level that a plain player sees in lists. -/
  gmLevelInWhoList : UInt8 := 0
  localDefenseMinRank : UInt8 := 0
  worldDefenseMinRank : UInt8 := 6
deriving DecidableEq

namespace ChannelsConfig

/-- An unknown mode restricts nothing. -/
def languageRestriction (c : ChannelsConfig) : LanguageRestriction :=
  (LanguageRestriction.ofMode? c.restrictedLanguageMode).getD .off

/-- An unknown level shows plain players only. -/
def whoListLevel (c : ChannelsConfig) : SecurityLevel :=
  (SecurityLevel.ofCode? c.gmLevelInWhoList).getD .player

end ChannelsConfig

structure RateLimits where
  /-- Lines per second; 0 for any number. -/
  sayRatePerSecond : UInt32 := 0
  sayBurst : UInt32 := 5
deriving DecidableEq

def RateLimits.isEnabled (r : RateLimits) : Bool := 0 < r.sayRatePerSecond

structure Limits where
  mailboxCapacity : Nat := 100
  /-- The most characters in the name of a custom channel. -/
  maxNameLength : Nat := 64
deriving DecidableEq

/-- The most requests that a mailbox can be made for. This is the documented limit of the runtime on the
permits of a mailbox, not a rule of the program, which accepts greater capacities. -/
def Limits.greatestMailbox : Nat := (UInt64.size - 1) / 8

def Limits.fitsMailbox (l : Limits) : Bool := l.mailboxCapacity ≤ Limits.greatestMailbox

structure Config where
  server : ServerConfig := {}
  channels : ChannelsConfig := {}
  rateLimits : RateLimits := {}
  limits : Limits := {}
  /-- Built-in channels; none stands for the standard catalog. -/
  catalog : List CatalogEntry := []
deriving DecidableEq

def Config.builtIns (c : Config) : List CatalogEntry :=
  if c.catalog.isEmpty then CatalogEntry.standard else c.catalog

end ChatChannels
