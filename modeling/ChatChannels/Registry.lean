import ChatChannels.House

/-! Channels by name. Built-in channels are there from the start, and the first player to join any
other name opens a channel under it. -/
namespace ChatChannels

structure Registry where
  house : House
  limits : Limits
  /-- The built-in channels by lowercase name. -/
  catalog : Dict String CatalogEntry

namespace Registry

/-- Opens a channel at a key and registers it; rooms are numbered from 1 in order of opening, and no
number comes again, as one of 64 bits would after 2^64 rooms. -/
def openAt (r : Registry) (key : String) (channel : Channel) : Registry × Handle :=
  let room := r.house.openRoom channel key (r.house.rooms.length + 1)
  ({ r with house := room.1.register key room.2 }, room.2)

/-- The registry of a configuration with its built-in channels open, where mailboxes of that size can
be made. Of two catalog entries with one lowercase name the later one counts. -/
def ofConfig (c : Config) : Registry :=
  let catalog := Dict.ofList (c.builtIns.map fun e => (Text.lowercase e.name, e))
  catalog.entries.foldl (fun r e => (r.openAt e.1 (.builtIn e.2)).1) {
    house := { policy := .ofConfig c.channels, throttle := { limits := c.rateLimits } }
    limits := c.limits
    catalog }

/-- Beyond the size that the runtime allows a mailbox no room can be opened and there is no registry.
Wherever there is one it is `ofConfig c`. -/
def ofConfig? (c : Config) : Option Registry :=
  if c.limits.fitsMailbox then some (ofConfig c) else none

def openingEvents (r : Registry) : List Event := r.house.rooms.map fun _ => .opened

/-- A name is one to as many characters as the limit says, none of them a control character. -/
def isValidName (r : Registry) (name : String) : Bool :=
  !name.isEmpty && name.length ≤ r.limits.maxNameLength && !name.toList.any Text.isControl

def find? (r : Registry) (name : String) : Option Handle :=
  r.house.live.find? (Text.lowercase name)

def channel? (r : Registry) (name : String) : Option Channel :=
  (r.find? name).bind r.house.channel?

def handles (r : Registry) : List Handle := r.house.live.values

def size (r : Registry) : Nat := r.house.live.size

def names (r : Registry) : List String :=
  (r.handles.map Handle.name).mergeSort fun a b => a ≤ b

/-- The channel that a name opens: the built-in one of that name, or a custom one. -/
def freshChannel (r : Registry) (name : String) : Channel :=
  match r.catalog.find? (Text.lowercase name) with
  | some entry => .builtIn entry
  | none => .custom name

def findOrOpen (r : Registry) (name : String) : Reply Registry Handle :=
  match r.find? name with
  | some handle => ⟨r, handle, []⟩
  | none =>
    let room := r.openAt (Text.lowercase name) (r.freshChannel name)
    ⟨room.1, room.2, [.opened]⟩

variable (w : World) (r : Registry)

def within {α : Type} (reply : Reply House α) : Reply Registry α :=
  ⟨{ r with house := reply.state }, reply.answer, reply.events⟩

/-- Refuses a request that no channel takes. The notice goes out under the name as it was typed,
whether or not the actor is online. -/
def refuse (actor : Player) (name : String) (report : Report) (cause : Refusal) :
    Reply Registry Answer where
  state := r
  answer := .error cause
  events :=
    match report, cause.notice? name with
    | .notify, some notice => [.delivered actor.id (.notice notice)]
    | _, _ => []

def commandVia (handle : Handle) (actor : Player) (command : Command) : Reply Registry Answer :=
  r.within (r.house.command w handle actor command)

def setStaticVia (handle : Handle) (wantStatic : Bool) : Reply Registry (Except Refusal Bool) :=
  r.within (r.house.setStatic w handle wantStatic)

/-- How often a join is tried that keeps meeting draining rooms. -/
def joinAttempts : Nat := 5

/-- Joins the channel under a name, which is opened if need be. A join that meets a draining room is
tried again, until no attempts are left. -/
def tryJoin (actor : Player) (name : String) (password : Option String) :
    Nat → Registry → Reply Registry Answer
  | 0, r => r.refuse actor name .notify .throttled
  | attempts + 1, r =>
    let found := r.findOrOpen name
    let reply := found.state.commandVia w found.answer actor (.join password)
    match reply.answer with
    | .error .draining =>
      let again := tryJoin actor name password attempts reply.state
      { again with events := found.events ++ reply.events ++ again.events }
    | _ => { reply with events := found.events ++ reply.events }

def join (actor : Player) (name : String) (password : Option String) : Reply Registry Answer :=
  if !r.isValidName name then r.refuse actor name .notify .invalidName
  else tryJoin w actor name password joinAttempts r

/-- Gives a command to the channel under a name. Where there is none, or a draining one, the actor
is answered as someone who is not a member. -/
def execute (actor : Player) (name : String) (command : Command) : Reply Registry Answer :=
  match command with
  | .join password => r.join w actor name password
  | command =>
    let reply : Reply Registry Answer :=
      match r.find? name with
      | none => ⟨r, .error .draining, []⟩
      | some handle => r.commandVia w handle actor command
    match reply.answer with
    | .error .draining =>
      let refused := reply.state.refuse actor name command.report .notMember
      { refused with events := reply.events ++ refused.events }
    | _ => reply

/-- Asks the channel under a name to become static or dynamic; where there is none, nothing
changes. -/
def setStatic (name : String) (wantStatic : Bool) : Reply Registry Bool :=
  match r.find? name with
  | none => ⟨r, false, []⟩
  | some handle =>
    let reply := r.setStaticVia w handle wantStatic
    ⟨reply.state, reply.answer.toOption.getD false, reply.events⟩

/-- Leaves the channels behind the handles quietly, in order, and counts those left. -/
def part (actor : Player) : List Handle → Registry → Reply Registry Nat
  | [], r => ⟨r, 0, []⟩
  | handle :: rest, r =>
    let reply := r.commandVia w handle actor (.leave false)
    let others := part actor rest reply.state
    ⟨others.state, (if reply.answer.toOption.isSome then 1 else 0) + others.answer,
      reply.events ++ others.events⟩

/-- Leaves every channel quietly and gives the player a fresh speech budget, as at the end of a
session. -/
def partAll (actor : Player) : Reply Registry Nat :=
  let parted := part w actor r.handles r
  let house := parted.state.house
  { parted with state := { parted.state with
      house := { house with throttle := house.throttle.forget actor.id } } }

end Registry
end ChatChannels
