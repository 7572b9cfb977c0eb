import ChatChannels.Proofs.Channel.Counted
import ChatChannels.Proofs.Registry.Ignoring

/-! Metrics of a registry. Whatever is asked of it, by name or through handles held from before, the
metrics that count what happens stay right about the live channels. -/
namespace ChatChannels

open Event (gauged)

namespace House

variable {h : House}

/-- A room that works reports its members, and takes its channel off the count when it drains. -/
theorem Sound.settle_events (hs : h.Sound) {place : Nat} {room : Room} (channel : Channel)
    (hroom : h.rooms[place]? = some room) (hdraining : room.draining = false) :
    (h.settle place { room with channel }).2 =
      .counted channel.name channel.roster.size ::
        if channel.isDisposable then [.uncounted channel.name, .closed] else [] := by
  have hregistered : h.isRegistered { room with channel } :=
    (hs.isRegistered hroom hdraining :)
  unfold House.settle
  rw [hregistered]
  cases channel.isDisposable <;> rfl

end House

namespace Registry

variable {α β : Type} {r : Registry}

/-- Metrics that are right about the registry are so again once they have counted what happens by a
reply. -/
def Recounts (r : Registry) (reply : Reply Registry α) : Prop :=
  ∀ m : Metrics, m.Describes r.house.channels →
    (m.recordAll reply.events).Describes reply.state.house.channels

theorem Recounts.map {reply : Reply Registry α} (h : r.Recounts reply) (f : α → β) :
    r.Recounts (reply.map f) := h

/-- What leaves the channels alone need not be counted. -/
theorem recounts_of_gauged {reply : Reply Registry α}
    (hchannels : reply.state.house.channels = r.house.channels) (hevents : gauged reply.events = []) :
    r.Recounts reply := by
  intro m hm
  apply Metrics.Describes.of_gauged
  rw [hevents, hchannels]
  exact hm

theorem Recounts.trans {x : Reply Registry α} {y : Reply Registry β} {γ : Type} (answer : γ)
    (hx : r.Recounts x) (hy : x.state.Recounts y) :
    r.Recounts ⟨y.state, answer, x.events ++ y.events⟩ := by
  intro m hm
  rw [Metrics.recordAll_append]
  exact hy _ (hx m hm)

/-! ## Rooms that work -/

theorem Sound.name_at (hs : r.Sound) (key : String) (c : Channel)
    (hfind : r.house.channels.find? key = some c) : Text.lowercase c.name = key := by
  rw [House.find?_channels, Option.bind_eq_some_iff] at hfind
  obtain ⟨handle, hlive, hchannel⟩ := hfind
  obtain ⟨room, hroom, _, hkey, _⟩ := hs.house.exists_room hlive
  rw [House.channel?_of_room? hroom] at hchannel
  cases hchannel
  exact (hs.house.keyed _ room hroom).trans hkey

theorem Sound.recounts_settle (hs : r.Sound) {place : Nat} {room : Room} {channel : Channel}
    (hroom : r.house.rooms[place]? = some room) (hdraining : room.draining = false)
    (hname : channel.name = room.channel.name) {events : List Event}
    (hevents : gauged events = room.channel.conversion channel) (throttle : Throttle) (answer : α) :
    let settled := { r.house with throttle }.settle place { room with channel }
    r.Recounts ⟨{ r with house := settled.1 }, answer, events ++ settled.2⟩ := by
  have hs' := hs.house.budgeted throttle
  have hfind := hs.find?_channels_room hroom hdraining
  intro settled m hm
  apply Metrics.Describes.of_gauged
  dsimp only [settled]
  rw [Event.gauged_append, hevents, hs'.settle_events channel hroom hdraining,
    hs'.channels_settle hroom hdraining hname]
  cases hgone : channel.isDisposable with
  | false => exact hm.kept hfind hname
  | true =>
    have hdynamic : channel.isStatic = false := by
      rw [Channel.isDisposable, Channel.isPublic, Bool.and_eq_true, Bool.not_eq_true',
        Bool.or_eq_false_iff] at hgone
      exact hgone.1.2
    exact hm.givenUp hs.name_at hfind hname hdynamic

variable (w : World)

theorem Sound.recounts_commandVia (hs : r.Sound) (handle : Handle) (actor : Player)
    (command : Command) : r.Recounts (r.commandVia w handle actor command) := by
  cases hworker : r.house.worker? handle with
  | none =>
    rw [r.commandVia_idle w hworker]
    exact recounts_of_gauged rfl rfl
  | some room =>
    obtain ⟨hroom, hdraining⟩ := House.worker?_eq_some_iff.mp hworker
    have hnext : room.channel.Next r.house.policy _ := .command w r.house.throttle actor command
    rw [r.commandVia_worker w hworker]
    exact hs.recounts_settle hroom hdraining hnext.name_eq
      (room.channel.gauged_execute r.house.policy w actor r.house.throttle command) _ _

theorem Sound.recounts_setStaticVia (hs : r.Sound) (handle : Handle) (wantStatic : Bool) :
    r.Recounts (r.setStaticVia w handle wantStatic) := by
  cases hworker : r.house.worker? handle with
  | none =>
    rw [r.setStaticVia_idle w hworker]
    exact recounts_of_gauged rfl rfl
  | some room =>
    obtain ⟨hroom, hdraining⟩ := House.worker?_eq_some_iff.mp hworker
    have hnext : room.channel.Next r.house.policy _ := .convert w wantStatic true
    rw [r.setStaticVia_worker w hworker]
    exact hs.recounts_settle hroom hdraining hnext.name_eq
      (room.channel.gauged_convert r.house.policy w wantStatic true) _ _

/-! ## Requests -/

theorem gauged_refuse (actor : Player) (name : String) (report : Report) (cause : Refusal) :
    gauged (r.refuse actor name report cause).events = [] := by
  unfold refuse
  dsimp only
  split <;> rfl

theorem recounts_refuse (actor : Player) (name : String) (report : Report) (cause : Refusal) :
    r.Recounts (r.refuse actor name report cause) :=
  recounts_of_gauged rfl (gauged_refuse actor name report cause)

theorem Sound.recounts_findOrOpen (hs : r.Sound) (name : String) :
    r.Recounts (r.findOrOpen name) := by
  unfold findOrOpen
  split
  next => exact recounts_of_gauged rfl rfl
  next hnew =>
    have hnone := hs.house.find?_channels_eq_none.mpr hnew
    have hempty : (r.freshChannel name).roster.isEmpty ∧ (r.freshChannel name).isStatic = false := by
      unfold freshChannel
      split <;> exact ⟨rfl, rfl⟩
    intro m hm
    dsimp only
    rw [channels_openAt hs.house hnew (hs.key_freshChannel name)]
    exact hm.opened hnone hempty.1 hempty.2

theorem Sound.recounts_join (hs : r.Sound) (actor : Player) (name : String)
    (password : Option String) : r.Recounts (r.join w actor name password) := by
  rw [hs.join_eq w]
  split
  next => exact recounts_refuse actor name _ _
  next =>
    have hs' := (hs.findOrOpen_live name).1
    exact (hs.recounts_findOrOpen name).trans _ (hs'.recounts_commandVia w _ actor _)

theorem Sound.recounts_execute (hs : r.Sound) (actor : Player) (name : String) (command : Command) :
    r.Recounts (r.execute w actor name command) := by
  rcases command.join_or_other with ⟨password, rfl⟩ | hjoin
  · exact hs.recounts_join w actor name password
  · rw [hs.execute_eq w hjoin]
    split
    next => exact recounts_refuse actor name _ _
    next handle _ => exact hs.recounts_commandVia w handle actor command

theorem Sound.recounts_setStatic (hs : r.Sound) (name : String) (wantStatic : Bool) :
    r.Recounts (r.setStatic w name wantStatic) := by
  unfold setStatic
  split
  next => exact recounts_of_gauged rfl rfl
  next handle _ => exact (hs.recounts_setStaticVia w handle wantStatic :)

theorem Sound.recounts_part (hs : r.Sound) (actor : Player) (handles : List Handle) :
    r.Recounts (part w actor handles r) := by
  induction handles generalizing r with
  | nil => exact recounts_of_gauged rfl rfl
  | cons handle rest ih =>
    have hs' := (r.commandVia_steps w handle actor (.leave false)).sound hs
    exact (hs.recounts_commandVia w handle actor (.leave false)).trans _ (ih hs')

theorem Sound.recounts_reply (hs : r.Sound) (m : Move) : r.Recounts (r.reply w m) := by
  cases m with
  | command handle actor command => exact (hs.recounts_commandVia w handle actor command).map _
  | convert handle wantStatic => exact (hs.recounts_setStaticVia w handle wantStatic).map _
  | request request =>
    cases request with
    | join actor name password => exact hs.recounts_join w actor name password
    | execute actor name command => exact hs.recounts_execute w actor name command
    | setStatic name wantStatic => exact hs.recounts_setStatic w name wantStatic
    | look name => exact recounts_of_gauged rfl rfl
    | findOrOpen name => exact hs.recounts_findOrOpen name
    | partAll actor => exact hs.recounts_part w actor r.handles

/-! ## Runs -/

/-- What happens in a run, in order. -/
def log (r : Registry) : List (World × Move) → List Event
  | [] => []
  | (w, m) :: rest => (r.reply w m).events ++ log (r.move w m) rest

theorem Sound.describes_run (hs : r.Sound) {m : Metrics} (hm : m.Describes r.house.channels)
    (moves : List (World × Move)) :
    (m.recordAll (r.log moves)).Describes (r.run moves).house.channels := by
  induction moves generalizing r m with
  | nil => exact hm
  | cons first rest ih =>
    obtain ⟨w, move⟩ := first
    have hs' := (hs.move_steps w move).sound hs
    have hmove := hs.recounts_reply w move m hm
    rw [reply_state] at hmove
    rw [log, Metrics.recordAll_append]
    exact ih hs' hmove

theorem Sound.size_channels (hs : r.Sound) : r.house.channels.size = r.size := by
  have hkeys := congrArg List.length hs.house.keys_channels
  rwa [Dict.keys, Dict.keys, List.length_map, List.length_map] at hkeys

theorem rooms_openAt (r : Registry) (key : String) (channel : Channel) :
    (r.openAt key channel).1.house.rooms.length = r.house.rooms.length + 1 := by
  unfold openAt House.openRoom House.register
  dsimp only
  split <;> exact List.length_append

/-- In a new registry every room that was opened is live. -/
theorem rooms_ofConfig (c : Config) :
    (ofConfig c).house.rooms.length = (ofConfig c).house.channels.size := by
  have hopened : ∀ (l : List (String × CatalogEntry)) (r : Registry),
      (l.foldl (fun r e => (r.openAt e.1 (.builtIn e.2)).1) r).house.rooms.length =
        r.house.rooms.length + l.length := by
    intro l
    induction l with
    | nil => exact fun _ => rfl
    | cons e rest ih =>
      intro r
      rw [List.foldl_cons, ih, rooms_openAt, List.length_cons]
      omega
  obtain ⟨_, _, _, _, _, hchannels⟩ := ofConfig_spec c
  rw [Dict.size, hchannels, List.length_map]
  exact (hopened _ _).trans (Nat.zero_add _)

/-- A new registry has opened its channels, and nobody is on them. -/
theorem describes_ofConfig (c : Config) :
    (Metrics.ofEvents (ofConfig c).openingEvents).Describes (ofConfig c).house.channels := by
  have hbuiltIn : ∀ channel ∈ (ofConfig c).house.channels.values, ∃ e, channel = .builtIn e := by
    intro channel hmem
    obtain ⟨_, _, _, _, _, hchannels⟩ := ofConfig_spec c
    rw [Dict.values, hchannels, List.map_map] at hmem
    obtain ⟨e, _, rfl⟩ := List.mem_map.mp hmem
    exact ⟨e.2, rfl⟩
  have hopened : Metrics.ofEvents (ofConfig c).openingEvents =
      { activeChannels := (ofConfig c).house.rooms.length } := by
    have h := Metrics.recordAll_opened {} (ofConfig c).house.rooms.length
    rw [Int.zero_add] at h
    rw [openingEvents, List.map_const']
    exact h
  rw [hopened, rooms_ofConfig]
  refine ⟨rfl, ?_, ?_, ?_⟩
  · intro name n hlabel
    cases hlabel
  · intro key channel hfind _
    have hmem := List.mem_map_of_mem (f := Prod.snd) ((Dict.find?_eq_some_iff _ _ _).mp hfind)
    obtain ⟨e, rfl⟩ := hbuiltIn channel hmem
    rfl
  · have hnone : (ofConfig c).house.channels.values.countP Channel.isStatic = 0 := by
      rw [List.countP_eq_zero]
      intro channel hmem
      obtain ⟨e, rfl⟩ := hbuiltIn channel hmem
      exact Bool.false_ne_true
    rw [hnone]
    rfl

/-- However a registry is used, through whatever handles, the metrics that have counted all that
happened since it was made are right about it: the number of its channels, the members under each
name, and how many of the channels are static. -/
theorem run_metrics (c : Config) (moves : List (World × Move)) :
    let r := (ofConfig c).run moves
    let m := Metrics.ofEvents ((ofConfig c).openingEvents ++ (ofConfig c).log moves)
    m.activeChannels = r.size ∧ m.Describes r.house.channels := by
  intro r m
  have hsound₀ := (ofConfig_spec c).1
  have hsound : r.Sound := (hsound₀.run_steps moves).sound hsound₀
  have hdescribes : m.Describes r.house.channels := by
    have h := hsound₀.describes_run (describes_ofConfig c) moves
    rwa [← Metrics.ofEvents_append] at h
  exact ⟨hdescribes.active.trans (congrArg Nat.cast hsound.size_channels), hdescribes⟩

/-- A channel that is given up and opened again in another spelling is counted in that one. -/
example :
    let ann : Player := { id := ⟨1⟩, name := "Ann" }
    let bob : Player := { id := ⟨2⟩, name := "Bob" }
    let w : World := { directory := ((∅ : Directory).insert ann).insert bob }
    let moves : List (World × Move) := [(w, .request (.join ann "Raiders" none)),
      (w, .request (.execute ann "raiders" (.leave false))),
      (w, .request (.join bob "RAIDERS" none)), (w, .request (.setStatic "raiders" true))]
    let m := Metrics.ofEvents ((ofConfig {}).openingEvents ++ (ofConfig {}).log moves)
    m.activeChannels = 7 ∧ m.channelMembers.entries = [("RAIDERS", 1)] ∧
      m.conversionsTo true = 1 ∧ m.conversionsTo false = 0 := by
  decide +kernel

end Registry
end ChatChannels
