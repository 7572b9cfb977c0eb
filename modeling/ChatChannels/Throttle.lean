import ChatChannels.Config
import ChatChannels.Dict

/-! The budget of speech that each player has over all channels, at a standing clock. -/
namespace ChatChannels

def nanosPerSecond : Nat := 1000000000

/-- A token comes back after this many nanoseconds; 0 means that none is ever missing. -/
def RateLimits.tokenInterval (r : RateLimits) : Nat := nanosPerSecond / r.sayRatePerSecond.toNat

/-- Lines a player may speak before the first token comes back. -/
def RateLimits.burst (r : RateLimits) : Nat := max r.sayBurst.toNat 1

/-- Whether an empty budget fills up in less than half a nanosecond, which rounds to no time. -/
def RateLimits.refillsAtOnce (r : RateLimits) : Bool :=
  2 * nanosPerSecond * r.burst < r.sayRatePerSecond.toNat

structure Throttle where
  limits : RateLimits := {}
  /-- How many lines each tracked player has been granted. -/
  granted : Dict PlayerId Nat := ∅

namespace Throttle

def isEnabled (t : Throttle) : Bool := t.limits.isEnabled

def grantedTo (t : Throttle) (id : PlayerId) : Nat := (t.granted.find? id).getD 0

def admits (t : Throttle) (id : PlayerId) : Bool :=
  !t.isEnabled || t.limits.tokenInterval = 0 || t.grantedTo id < t.limits.burst

/-- The budgets after a player has asked to speak: a grant is counted, and whoever asks is
tracked. -/
def ask (t : Throttle) (id : PlayerId) : Throttle :=
  if !t.isEnabled then t
  else { t with granted :=
      t.granted.insert id (if t.admits id then t.grantedTo id + 1 else t.grantedTo id) }

def forget (t : Throttle) (id : PlayerId) : Throttle := { t with granted := t.granted.erase id }

/-- The players a sweep drops: those whose budget is full again. -/
def idle (t : Throttle) : List PlayerId := if t.limits.refillsAtOnce then t.granted.keys else []

def sweep (t : Throttle) : Throttle :=
  { t with granted := t.idle.foldl Dict.erase t.granted }

def tracked (t : Throttle) : Nat := t.granted.size

end Throttle
end ChatChannels
