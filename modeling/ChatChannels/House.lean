import ChatChannels.Channel.Command
import ChatChannels.Dict

/-! The rooms that channels live in, and the map from lowercase names to the rooms that are live.
A room works off one request at a time. A request that leaves its channel empty and neither built
in nor static makes the room drain for good: it leaves the map and refuses every later request. -/
namespace ChatChannels

/-- A channel, the key it is registered at, and the number that tells it from earlier and later
channels of that name. -/
structure Room where
  channel : Channel
  key : String
  /-- Numbers have no bound here. A counter of 64 bits comes round after 2^64 rooms, so that numbers
  tell rooms apart is meant for fewer rooms than that. -/
  number : Nat
  draining : Bool := false

/-- A reference to a room that stays valid when the room is no longer registered. -/
structure Handle where
  place : Nat
  name : String
  number : Nat
deriving DecidableEq

structure House where
  policy : Policy
  throttle : Throttle
  rooms : List Room := []
  live : Dict String Handle := ∅
  /-- Whether the map of live rooms has been given up. -/
  shut : Bool := false

structure Reply (σ α : Type) where
  state : σ
  answer : α
  events : List Event

namespace House

/-- Opens a room, which is not registered by that. -/
def openRoom (h : House) (channel : Channel) (key : String) (number : Nat) : House × Handle :=
  ({ h with rooms := h.rooms ++ [{ channel, key, number }] },
    { place := h.rooms.length, name := channel.name, number })

def register (h : House) (key : String) (handle : Handle) : House :=
  if h.shut then h else { h with live := h.live.insert key handle }

def giveUp (h : House) : House := { h with live := ∅, shut := true }

def room? (h : House) (handle : Handle) : Option Room := h.rooms[handle.place]?

/-- The channel behind a handle, also when its room is draining. -/
def channel? (h : House) (handle : Handle) : Option Channel :=
  (h.room? handle).map Room.channel

/-- Whether the entry at a room's own key is that room's. -/
def isRegistered (h : House) (room : Room) : Bool :=
  (h.live.find? room.key).any fun handle => handle.number = room.number

/-- Puts a room back after a request, and lets it drain if its channel is to be given up. -/
def settle (h : House) (place : Nat) (room : Room) : House × List Event :=
  let name := room.channel.name
  let counted := Event.counted name room.channel.roster.size
  if !room.channel.isDisposable then ({ h with rooms := h.rooms.set place room }, [counted])
  else
    let drained := { h with rooms := h.rooms.set place { room with draining := true } }
    if h.isRegistered room then
      ({ drained with live := h.live.erase room.key }, [counted, .uncounted name, .closed])
    else (drained, [counted, .uncounted name])

/-- Lets a room work off a request; a draining room answers nothing. -/
def serve {α : Type} (h : House) (handle : Handle)
    (work : Channel → Throttle × Turn α) : Reply House (Option α) :=
  match h.room? handle with
  | none => ⟨h, none, []⟩
  | some room =>
    if room.draining then ⟨h, none, []⟩
    else
      let done := work room.channel
      let settled := { h with throttle := done.1 }.settle handle.place
        { room with channel := done.2.channel }
      ⟨settled.1, some done.2.answer, done.2.events ++ settled.2⟩

def command (w : World) (h : House) (handle : Handle) (actor : Player) (command : Command) :
    Reply House Answer :=
  let reply := h.serve handle fun c =>
    (c.throttleAfter h.throttle actor command, c.execute h.policy w h.throttle actor command)
  { reply with answer := reply.answer.getD (.error .draining) }

def setStatic (w : World) (h : House) (handle : Handle) (wantStatic : Bool) :
    Reply House (Except Refusal Bool) :=
  let reply := h.serve handle fun c => (h.throttle, c.convert h.policy w wantStatic true)
  { reply with answer := match reply.answer with
      | some changed => .ok changed
      | none => .error .draining }

end House
end ChatChannels
