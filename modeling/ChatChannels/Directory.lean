import ChatChannels.Dict
import ChatChannels.Player
import ChatChannels.Text.Lowercase

/-! The players online, found by identity or, through an index of lowercase names, by name. -/
namespace ChatChannels

structure Directory where
  players : Dict PlayerId Player := ∅
  /-- Lowercase names and who was last online under each. -/
  names : Dict String PlayerId := ∅
  hidden : List PlayerId := []

namespace Directory

instance : EmptyCollection Directory := ⟨{}⟩

def player? (d : Directory) (id : PlayerId) : Option Player := d.players.find? id

def isOnline (d : Directory) (id : PlayerId) : Bool := (d.player? id).isSome

def findByName (d : Directory) (name : String) : Option Player :=
  (d.names.find? (Text.lowercase name)).bind d.player?

def nameOf (d : Directory) (id : PlayerId) : Option String := (d.player? id).map Player.name

/-- Brings a player online or replaces the record; the name of an old record is freed. -/
def insert (d : Directory) (p : Player) : Directory :=
  let freed := match d.player? p.id with
    | some old => d.names.erase (Text.lowercase old.name)
    | none => d.names
  { d with players := d.players.insert p.id p, names := freed.insert (Text.lowercase p.name) p.id }

def remove (d : Directory) (id : PlayerId) : Directory :=
  match d.player? id with
  | some old =>
    { d with players := d.players.erase id, names := d.names.erase (Text.lowercase old.name) }
  | none => d

/-- Whether a player is hidden lasts beyond going offline. -/
def setHidden (d : Directory) (id : PlayerId) (hidden : Bool) : Directory :=
  { d with hidden :=
      if !hidden then d.hidden.filter (· ≠ id)
      else if id ∈ d.hidden then d.hidden else id :: d.hidden }

/-- A hidden player is seen by themselves and by online staff. -/
def isVisible (d : Directory) (observer target : PlayerId) : Bool :=
  observer = target || target ∉ d.hidden ||
    (d.player? observer).any fun o => SecurityLevel.player < o.security

end Directory
end ChatChannels
