import ChatChannels.ChannelFlags

/-! The catalog of built-in channels. -/
namespace ChatChannels

/-- One built-in channel; its name is matched without regard to case. -/
structure CatalogEntry where
  name : String
  id : UInt32
  trade : Bool := false
  city : Bool := false
  groupFinding : Bool := false
deriving DecidableEq, Inhabited

namespace CatalogEntry

def localDefenseId : UInt32 := 22
def worldDefenseId : UInt32 := 23

/-- Every built-in channel is general, and either for finding groups or marked as not so. -/
def flags (e : CatalogEntry) : ChannelFlags :=
  .general ||| (if e.trade then .trade else ⟨0⟩) ||| (if e.city then .city else ⟨0⟩) |||
    (if e.groupFinding then .groupFinding else .notGroupFinding)

def standard : List CatalogEntry := [
  { name := "General", id := 1 },
  { name := "Trade", id := 2, trade := true, city := true },
  { name := "LocalDefense", id := localDefenseId },
  { name := "WorldDefense", id := worldDefenseId },
  { name := "GuildRecruitment", id := 25, city := true },
  { name := "LookingForGroup", id := 26, groupFinding := true }]

end CatalogEntry
end ChatChannels
