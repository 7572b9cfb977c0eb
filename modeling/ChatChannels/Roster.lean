import ChatChannels.Role

/-! The members of a channel with their roles, in the order in which they joined. -/
namespace ChatChannels

structure Member where
  player : PlayerId
  role : Role := {}
deriving DecidableEq

structure Roster where
  members : List Member := []
deriving DecidableEq

namespace Roster

instance : EmptyCollection Roster := ⟨{}⟩

def players (r : Roster) : List PlayerId := r.members.map Member.player

def size (r : Roster) : Nat := r.members.length

def isEmpty (r : Roster) : Bool := r.members.isEmpty

def contains (r : Roster) (p : PlayerId) : Bool := r.members.any fun m => m.player = p

def role? (r : Roster) (p : PlayerId) : Option Role :=
  (r.members.find? fun m => m.player = p).map Member.role

/-- Lists a player, and says whether they are new. A new member comes last and has no role; of a
present one nothing changes. -/
def enlist (r : Roster) (p : PlayerId) : Roster × Bool :=
  if r.contains p then (r, false) else (⟨r.members ++ [{ player := p }]⟩, true)

def insert (r : Roster) (p : PlayerId) : Roster := (r.enlist p).1

/-- Takes out the first row of a player, and gives the role in it. -/
def delist (r : Roster) (p : PlayerId) : Roster × Option Role :=
  match r.members.findIdx? fun m => m.player = p with
  | none => (r, none)
  | some place => (⟨r.members.eraseIdx place⟩, r.members[place]?.map Member.role)

def remove (r : Roster) (p : PlayerId) : Roster := (r.delist p).1

def writeRole (p : PlayerId) (role : Role) : List Member → List Member
  | [] => []
  | m :: rest => if m.player = p then { m with role } :: rest else m :: writeRole p role rest

def setRole (r : Roster) (p : PlayerId) (role : Role) : Roster := ⟨writeRole p role r.members⟩

/-- Changes a member's role and reports the change if there is one. -/
def update (r : Roster) (p : PlayerId) (f : Role → Role) : Roster × List RoleChange :=
  match r.role? p with
  | none => (r, [])
  | some old => (r.setRole p (f old), if old = f old then [] else [⟨p, old, f old⟩])

def stripModerators (r : Roster) : Roster :=
  ⟨r.members.map fun m => { m with role := { m.role with moderator := false } }⟩

/-- The member to inherit a channel: the first moderator, or else the first member. -/
def successor (r : Roster) : Option PlayerId :=
  ((r.members.find? fun m => m.role.moderator).or r.members.head?).map Member.player

def update? (r : Roster) (p : Option PlayerId) (f : Role → Role) : Roster × List RoleChange :=
  match p with
  | some p => r.update p f
  | none => (r, [])

/-- Moves ownership and reports the role changes in order. The former owner keeps the moderator
role only if someone follows, and the new owner always gains it; whoever is no member is passed
over. -/
def transfer (r : Roster) (current next : Option PlayerId) : Roster × List RoleChange :=
  let released := r.update? current fun role =>
    { role with moderator := next.isSome, owner := false }
  let taken := released.1.update? next fun role => { role with moderator := true, owner := true }
  (taken.1, released.2 ++ taken.2)

end Roster
end ChatChannels
