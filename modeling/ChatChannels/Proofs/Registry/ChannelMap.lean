import ChatChannels.Proofs.Registry.Request

/-! A plain map from lowercase names to channels, with no rooms and no handles. It answers requests
by working on the channel that is kept, and gives a channel up when it is left empty. The registry
refines it: every run of requests gives the same responses and deliveries, and the same channels. -/
namespace ChatChannels

structure ChannelMap where
  policy : Policy
  throttle : Throttle
  limits : Limits
  catalog : Dict String CatalogEntry
  channels : Dict String Channel

namespace ChannelMap

def ofConfig (c : Config) : ChannelMap :=
  let catalog := Dict.ofList (c.builtIns.map fun e => (Text.lowercase e.name, e))
  { policy := .ofConfig c.channels
    throttle := { limits := c.rateLimits }
    limits := c.limits
    catalog
    channels := ⟨catalog.entries.map fun e => (e.1, .builtIn e.2), by
      simpa [List.map_map, Function.comp_def] using catalog.nodup⟩ }

variable (w : World) (m : ChannelMap)

def allowsName (name : String) : Bool :=
  !name.isEmpty && name.length ≤ m.limits.maxNameLength && !name.toList.any Text.isControl

def fresh (name : String) : Channel :=
  match m.catalog.find? (Text.lowercase name) with
  | some e => .builtIn e
  | none => .custom name

/-- Puts a channel back after a request, unless it is to be given up. -/
def keep (key : String) (c : Channel) : ChannelMap :=
  { m with channels := if c.isDisposable then m.channels.erase key else m.channels.insert key c }

/-- Gives a command to a channel that is kept, or is to be kept, at a key. -/
def give (key : String) (c : Channel) (actor : Player) (command : Command) :
    Reply ChannelMap Answer :=
  let turn := c.execute m.policy w m.throttle actor command
  ⟨{ m with throttle := c.throttleAfter m.throttle actor command }.keep key turn.channel,
    turn.answer, turn.events⟩

def join (actor : Player) (name : String) (password : Option String) : Reply ChannelMap Answer :=
  if !m.allowsName name then
    ⟨m, .error .invalidName, [.delivered actor.id (.notice ⟨name, .invalidName⟩)]⟩
  else
    let key := Text.lowercase name
    m.give w key ((m.channels.find? key).getD (m.fresh name)) actor (.join password)

/-- Answers a command for a channel that is not there. Only a quiet leave is answered in silence. -/
def miss (actor : Player) (name : String) (command : Command) : Reply ChannelMap Answer :=
  ⟨m, .error .notMember,
    if command = .leave false then [] else [.delivered actor.id (.notice ⟨name, .notMember⟩)]⟩

def execute (actor : Player) (name : String) (command : Command) : Reply ChannelMap Answer :=
  match command with
  | .join password => m.join w actor name password
  | command =>
    match m.channels.find? (Text.lowercase name) with
    | none => m.miss actor name command
    | some c => m.give w (Text.lowercase name) c actor command

def setStatic (name : String) (wantStatic : Bool) : Reply ChannelMap Bool :=
  match m.channels.find? (Text.lowercase name) with
  | none => ⟨m, false, []⟩
  | some c =>
    let turn := c.convert m.policy w wantStatic true
    ⟨m.keep (Text.lowercase name) turn.channel, turn.answer, turn.events⟩

def findOrOpen (name : String) : Reply ChannelMap String :=
  match m.channels.find? (Text.lowercase name) with
  | some c => ⟨m, c.name, []⟩
  | none =>
    ⟨{ m with channels := m.channels.insert (Text.lowercase name) (m.fresh name) },
      (m.fresh name).name, []⟩

def part (actor : Player) : List String → ChannelMap → Reply ChannelMap Nat
  | [], m => ⟨m, 0, []⟩
  | key :: rest, m =>
    match m.channels.find? key with
    | none => part actor rest m
    | some c =>
      let reply := m.give w key c actor (.leave false)
      let others := part actor rest reply.state
      ⟨others.state, (if reply.answer.toOption.isSome then 1 else 0) + others.answer,
        reply.events ++ others.events⟩

def partAll (actor : Player) : Reply ChannelMap Nat :=
  let parted := part w actor m.channels.keys m
  { parted with state := { parted.state with throttle := parted.state.throttle.forget actor.id } }

theorem execute_named {command : Command} (hcommand : ∀ password, command ≠ .join password)
    (actor : Player) (name : String) :
    m.execute w actor name command =
      match m.channels.find? (Text.lowercase name) with
      | none => m.miss actor name command
      | some c => m.give w (Text.lowercase name) c actor command := by
  cases command with
  | join password => exact absurd rfl (hcommand password)
  | _ => rfl

theorem find?_keep (key : String) (c : Channel) (key' : String) :
    (m.keep key c).channels.find? key' =
      if key' = key then if c.isDisposable then none else some c else m.channels.find? key' := by
  unfold keep
  dsimp only
  split
  next => exact Dict.find?_erase _ _ _
  next => exact Dict.find?_insert _ _ _ _

theorem give_insert (key : String) (c : Channel) (actor : Player) (command : Command) :
    { m with channels := m.channels.insert key c }.give w key c actor command =
      m.give w key c actor command := by
  unfold give keep
  dsimp only
  rw [Dict.erase_insert, Dict.insert_insert]

def serve (w : World) (m : ChannelMap) : Request → Reply ChannelMap Response
  | .join actor name password => (m.join w actor name password).map .answered
  | .execute actor name command => (m.execute w actor name command).map .answered
  | .setStatic name wantStatic => (m.setStatic w name wantStatic).map .converted
  | .look name => ⟨m, .shown (m.channels.find? (Text.lowercase name)), []⟩
  | .findOrOpen name => (m.findOrOpen name).map .found
  | .partAll actor => (m.partAll w actor).map .parted

end ChannelMap
end ChatChannels
