import ChatChannels.Proofs.Registry.ChannelMap
import ChatChannels.Proofs.Registry.Channels

/-! The registry seen as a plain map: the channels of its live rooms by key. Seen so, every request
to the registry is the request to the map, with the same response and the same deliveries. -/
namespace ChatChannels

open Event (deliveries)

/-- The plain map that a registry stands for. -/
def Registry.plain (r : Registry) : ChannelMap :=
  ⟨r.house.policy, r.house.throttle, r.limits, r.catalog, r.house.channels⟩

/-- A reply of the registry that is a reply of the plain map, seen as one. -/
structure Reply.Agrees {α : Type} (x : Reply Registry α) (y : Reply ChannelMap α) : Prop where
  state : x.state.plain = y.state
  answer : x.answer = y.answer
  deliveries : deliveries x.events = deliveries y.events

theorem Reply.Agrees.map {α β : Type} {x : Reply Registry α} {y : Reply ChannelMap α}
    (h : x.Agrees y) (f : α → β) : (x.map f).Agrees (y.map f) :=
  ⟨h.state, congrArg f h.answer, h.deliveries⟩

theorem House.deliveries_settle (h : House) (place : Nat) (room : Room) :
    deliveries (h.settle place room).2 = [] := by
  unfold House.settle
  dsimp only
  split
  · rfl
  · split <;> rfl

namespace Registry

variable (w : World) {r : Registry}

theorem Sound.find?_plain (hs : r.Sound) (name : String) :
    (r.find? name = none ∧ r.plain.channels.find? (Text.lowercase name) = none) ∨
      ∃ handle room, r.find? name = some handle ∧ r.house.room? handle = some room ∧
        room.channel.name = handle.name ∧
        r.plain.channels.find? (Text.lowercase name) = some room.channel := by
  cases hfind : r.find? name with
  | none => exact .inl ⟨rfl, hs.house.find?_channels_eq_none.mpr hfind⟩
  | some handle =>
    obtain ⟨room, hroom, _, _, hname, hchannel⟩ := hs.house.exists_room hfind
    exact .inr ⟨handle, room, rfl, hroom, hname, hchannel⟩

theorem Sound.keep_agrees (hs : r.Sound) {place : Nat} {room : Room} {channel : Channel}
    (hroom : r.house.rooms[place]? = some room) (hdraining : room.draining = false)
    (hname : channel.name = room.channel.name) (throttle : Throttle) :
    plain { r with house := ({ r.house with throttle }.settle place { room with channel }).1 } =
      { r.plain with throttle }.keep room.key channel := by
  have hs' := hs.house.budgeted throttle
  have hchannels := hs'.channels_settle hroom hdraining hname
  have hsettled := hs'.settle_eq channel hroom hdraining
  rw [plain, hchannels, hsettled]
  rfl

theorem Sound.commandVia_agrees (hs : r.Sound) {key : String} {handle : Handle}
    (hlive : r.house.live.find? key = some handle) {room : Room}
    (hroom : r.house.room? handle = some room) (actor : Player) (command : Command) :
    (r.commandVia w handle actor command).Agrees
      (r.plain.give w key room.channel actor command) := by
  obtain ⟨hdraining, rfl, _⟩ := hs.house.handle_eq hlive hroom
  have hworker := House.worker?_eq_some_iff.mpr ⟨hroom, hdraining⟩
  have hnext : room.channel.Next r.house.policy _ := .command w r.house.throttle actor command
  rw [r.commandVia_worker w hworker]
  refine ⟨hs.keep_agrees hroom hdraining hnext.name_eq _, rfl, ?_⟩
  dsimp only [ChannelMap.give]
  rw [Event.deliveries_append, House.deliveries_settle, List.append_nil]
  rfl

theorem Sound.setStaticVia_agrees (hs : r.Sound) {key : String} {handle : Handle}
    (hlive : r.house.live.find? key = some handle) {room : Room}
    (hroom : r.house.room? handle = some room) (wantStatic : Bool) :
    let reply := r.setStaticVia w handle wantStatic
    let turn := room.channel.convert r.house.policy w wantStatic true
    reply.state.plain = r.plain.keep key turn.channel ∧ reply.answer = .ok turn.answer ∧
      deliveries reply.events = deliveries turn.events := by
  obtain ⟨hdraining, rfl, _⟩ := hs.house.handle_eq hlive hroom
  have hworker := House.worker?_eq_some_iff.mpr ⟨hroom, hdraining⟩
  have hnext : room.channel.Next r.house.policy _ := .convert w wantStatic true
  rw [r.setStaticVia_worker w hworker]
  refine ⟨hs.keep_agrees hroom hdraining hnext.name_eq _, rfl, ?_⟩
  dsimp only
  rw [Event.deliveries_append, House.deliveries_settle, List.append_nil]

/-! ## Requests by name -/

theorem Sound.plain_openAt (hs : r.Sound) {name : String} (hnew : r.find? name = none) :
    (r.openAt (Text.lowercase name) (r.freshChannel name)).1.plain =
      { r.plain with
        channels := r.plain.channels.insert (Text.lowercase name) (r.plain.fresh name) } := by
  have hchannels := channels_openAt hs.house hnew (hs.key_freshChannel name)
  rw [plain, hchannels, openAt_house hs.house.standing]
  rfl

theorem Sound.findOrOpen_agrees (hs : r.Sound) (name : String) :
    ((r.findOrOpen name).map Handle.name).Agrees (r.plain.findOrOpen name) := by
  unfold findOrOpen ChannelMap.findOrOpen
  rcases hs.find?_plain name with ⟨hfind, hchannel⟩ | ⟨handle, room, hfind, _, hname, hchannel⟩
  · rw [hfind, hchannel]
    exact ⟨hs.plain_openAt hfind, rfl, rfl⟩
  · rw [hfind, hchannel]
    exact ⟨rfl, hname.symm, rfl⟩

/-- A join works on the fresh channel whether or not it was kept before. -/
theorem Sound.join_agrees (hs : r.Sound) (actor : Player) (name : String)
    (password : Option String) :
    (r.join w actor name password).Agrees (r.plain.join w actor name password) := by
  rw [hs.join_eq w]
  unfold ChannelMap.join
  have hallows : r.plain.allowsName name = r.isValidName name := rfl
  rw [hallows]
  split
  · exact ⟨rfl, rfl, rfl⟩
  · dsimp only
    rcases hs.find?_plain name with ⟨hfind, hchannel⟩ | ⟨handle, room, hfind, hroom, _, hchannel⟩
    · have hlive := find?_openAt hs.house.standing (Text.lowercase name) (r.freshChannel name)
      have hroom := room?_openAt hs.house.standing (Text.lowercase name) (r.freshChannel name)
      have hs' := (Step.opened name hfind).sound hs
      have hagrees := hs'.commandVia_agrees w hlive hroom actor (.join password)
      rw [hs.plain_openAt hfind] at hagrees
      have hgive := r.plain.give_insert w (Text.lowercase name) (r.plain.fresh name) actor
        (.join password)
      rw [findOrOpen, hfind, hchannel]
      exact ⟨hagrees.state.trans (congrArg Reply.state hgive),
        hagrees.answer.trans (congrArg Reply.answer hgive),
        hagrees.deliveries.trans (congrArg (fun reply => deliveries reply.events) hgive)⟩
    · rw [findOrOpen, hfind, hchannel]
      have hagrees := hs.commandVia_agrees w hfind hroom actor (.join password)
      exact ⟨hagrees.state, hagrees.answer, hagrees.deliveries⟩

theorem refuse_agrees (r : Registry) (actor : Player) (name : String) (command : Command) :
    (r.refuse actor name command.report .notMember).Agrees
      (r.plain.miss actor name command) := by
  refine ⟨rfl, rfl, ?_⟩
  unfold refuse ChannelMap.miss
  by_cases hquiet : command = .leave false
  · subst hquiet
    rfl
  · have hreport : command.report = .notify := by
      unfold Command.report
      split
      next => exact absurd rfl hquiet
      next => rfl
    rw [hreport, if_neg hquiet]
    rfl

theorem Sound.execute_agrees (hs : r.Sound) (actor : Player) (name : String) (command : Command) :
    (r.execute w actor name command).Agrees (r.plain.execute w actor name command) := by
  rcases command.join_or_other with ⟨password, rfl⟩ | hjoin
  · exact hs.join_agrees w actor name password
  · rw [hs.execute_eq w hjoin, r.plain.execute_named w hjoin]
    rcases hs.find?_plain name with ⟨hfind, hchannel⟩ | ⟨handle, room, hfind, hroom, _, hchannel⟩
    · rw [hfind, hchannel]
      exact r.refuse_agrees actor name command
    · rw [hfind, hchannel]
      exact hs.commandVia_agrees w hfind hroom actor command

theorem Sound.setStatic_agrees (hs : r.Sound) (name : String) (wantStatic : Bool) :
    (r.setStatic w name wantStatic).Agrees (r.plain.setStatic w name wantStatic) := by
  unfold setStatic ChannelMap.setStatic
  rcases hs.find?_plain name with ⟨hfind, hchannel⟩ | ⟨handle, room, hfind, hroom, _, hchannel⟩
  · rw [hfind, hchannel]
    exact ⟨rfl, rfl, rfl⟩
  · obtain ⟨hstate, hanswer, hdeliveries⟩ := hs.setStaticVia_agrees w hfind hroom wantStatic
    rw [hfind, hchannel]
    refine ⟨hstate, ?_, hdeliveries⟩
    dsimp only
    rw [hanswer]
    rfl

/-! ## Leaving all channels -/

theorem Sound.live_commandVia (hs : r.Sound) {key key' : String} {handle : Handle}
    (hlive : r.house.live.find? key = some handle) (hkey : key' ≠ key) (actor : Player)
    (command : Command) :
    (r.commandVia w handle actor command).state.house.live.find? key' =
      r.house.live.find? key' := by
  obtain ⟨room, hroom, hdraining, rfl, _⟩ := hs.house.exists_room hlive
  have hworker := House.worker?_eq_some_iff.mpr ⟨hroom, hdraining⟩
  rw [r.commandVia_worker w hworker]
  have hs' := hs.house.budgeted (room.channel.throttleAfter r.house.throttle actor command)
  exact hs'.live_settle _ hroom hdraining hkey

/-- The handles taken from the map stay in it until their turn comes, since each room that leaves
has its own key. -/
theorem Sound.part_agrees (hs : r.Sound) (actor : Player) {l : List (String × Handle)}
    (hl : (l.map Prod.fst).Nodup) (hlive : ∀ e ∈ l, r.house.live.find? e.1 = some e.2) :
    (part w actor (l.map Prod.snd) r).Agrees
      (ChannelMap.part w actor (l.map Prod.fst) r.plain) := by
  induction l generalizing r with
  | nil => exact ⟨rfl, rfl, rfl⟩
  | cons e rest ih =>
    rw [List.map_cons, List.nodup_cons] at hl
    have hfirst := hlive e List.mem_cons_self
    obtain ⟨room, hroom, _, _, _, hchannel⟩ := hs.house.exists_room hfirst
    have hhead := hs.commandVia_agrees w hfirst hroom actor (.leave false)
    have hs' := (r.commandVia_steps w e.2 actor (.leave false)).sound hs
    have hrest : ∀ f ∈ rest,
        (r.commandVia w e.2 actor (.leave false)).state.house.live.find? f.1 = some f.2 := by
      intro f hf
      have hne : f.1 ≠ e.1 := fun he => hl.1 (he ▸ List.mem_map_of_mem hf)
      rw [hs.live_commandVia w hfirst hne]
      exact hlive f (List.mem_cons_of_mem _ hf)
    have htail := ih hs' hl.2 hrest
    rw [hhead.state] at htail
    rw [List.map_cons, List.map_cons, part, ChannelMap.part]
    have hkept : r.plain.channels.find? e.1 = some room.channel := hchannel
    rw [hkept]
    refine ⟨htail.state, ?_, ?_⟩
    · dsimp only
      rw [hhead.answer, htail.answer]
    · dsimp only
      rw [Event.deliveries_append, Event.deliveries_append, hhead.deliveries, htail.deliveries]

theorem Sound.partAll_agrees (hs : r.Sound) (actor : Player) :
    (r.partAll w actor).Agrees (r.plain.partAll w actor) := by
  have hlive : ∀ e ∈ r.house.live.entries, r.house.live.find? e.1 = some e.2 :=
    fun e he => (Dict.find?_eq_some_iff _ _ _).mpr he
  have hagrees := hs.part_agrees w actor r.house.live.nodup hlive
  have hkeys : r.plain.channels.keys = r.house.live.entries.map Prod.fst := hs.house.keys_channels
  unfold partAll ChannelMap.partAll
  rw [hkeys]
  refine ⟨?_, hagrees.answer, hagrees.deliveries⟩
  dsimp only
  rw [← hagrees.state]
  rfl

/-! ## Runs -/

theorem Sound.serve_agrees (hs : r.Sound) (request : Request) :
    (r.serve w request).Agrees (r.plain.serve w request) := by
  cases request with
  | join actor name password => exact (hs.join_agrees w actor name password).map _
  | execute actor name command => exact (hs.execute_agrees w actor name command).map _
  | setStatic name wantStatic => exact (hs.setStatic_agrees w name wantStatic).map _
  | look name =>
    refine ⟨rfl, congrArg Response.shown ?_, rfl⟩
    exact (House.find?_channels (Text.lowercase name)).symm
  | findOrOpen name => exact (hs.findOrOpen_agrees name).map Response.found
  | partAll actor => exact (hs.partAll_agrees w actor).map _

theorem Sound.transcript_agrees (hs : r.Sound) (requests : List (World × Request)) :
    (transcript serve r requests).1 = (transcript ChannelMap.serve r.plain requests).1 ∧
      (transcript serve r requests).2.plain = (transcript ChannelMap.serve r.plain requests).2 := by
  induction requests generalizing r with
  | nil => exact ⟨rfl, rfl⟩
  | cons first rest ih =>
    obtain ⟨w, request⟩ := first
    have hagrees := hs.serve_agrees w request
    have hrest := ih ((hs.move_steps w (.request request)).sound hs)
    change _ ∧ _ at hrest
    rw [move, hagrees.state] at hrest
    dsimp only [transcript]
    rw [hagrees.answer, hagrees.deliveries, hrest.1, hrest.2]
    exact ⟨rfl, rfl⟩

theorem plain_ofConfig (c : Config) : (ofConfig c).plain = ChannelMap.ofConfig c := by
  obtain ⟨_, hpolicy, hthrottle, hlimits, hcatalog, hchannels⟩ := ofConfig_spec c
  have hentries : (ofConfig c).house.channels = (ChannelMap.ofConfig c).channels :=
    Dict.ext hchannels
  rw [plain, hpolicy, hthrottle, hlimits, hcatalog, hentries]
  rfl

/-- The registry refines a plain map of channels. Whatever is asked of both, and whatever goes on
around them, they give the same responses with the same deliveries, and hold the same channels. -/
theorem transcript_refines (c : Config) (requests : List (World × Request)) :
    (transcript serve (ofConfig c) requests).1 =
        (transcript ChannelMap.serve (ChannelMap.ofConfig c) requests).1 ∧
      (transcript serve (ofConfig c) requests).2.plain =
        (transcript ChannelMap.serve (ChannelMap.ofConfig c) requests).2 := by
  rw [← plain_ofConfig]
  exact (ofConfig_spec c).1.transcript_agrees requests

end Registry
end ChatChannels
