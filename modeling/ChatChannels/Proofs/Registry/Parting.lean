import ChatChannels.Proofs.Channel.Departure
import ChatChannels.Proofs.Registry.Live
import ChatChannels.Proofs.Registry.Membership
import ChatChannels.Proofs.Registry.Recipients

/-! Leaving every channel. A visit takes the player out of one channel, which goes itself if nobody is
left on it and it is neither built in nor static, and touches no other. So visits in any order come
to the same: only which channel is heard of first is a matter of the order. -/
namespace ChatChannels

open Event (deliveries)

/-! ## What one channel lets out -/

/-- What is delivered under one channel's name, in order. -/
def Event.under (name : String) (events : List Event) : List (PlayerId × Message) :=
  (deliveries events).filter fun d => d.2.channel = name

theorem Event.under_append (name : String) (events events' : List Event) :
    under name (events ++ events') = under name events ++ under name events' := by
  rw [under, deliveries_append, List.filter_append]
  rfl

theorem Event.under_congr {events events' : List Event} (h : deliveries events = deliveries events')
    (name : String) : under name events = under name events' := by
  rw [under, h]
  rfl

theorem World.ReachesUnder.under_eq_nil {w : World} {name name' : String} {events : List Event}
    (h : w.ReachesUnder name events) (hne : name' ≠ name) : Event.under name' events = [] := by
  refine List.filter_eq_nil_iff.mpr fun d hd => ?_
  rw [(h d.1 d.2 hd).2, decide_eq_true_iff]
  exact Ne.symm hne

/-- Replies that differ at most in the order in which the channels are heard of. -/
structure Reply.Matches {σ α : Type} (x y : Reply σ α) : Prop where
  state : x.state = y.state
  answer : x.answer = y.answer
  under : ∀ name, Event.under name x.events = Event.under name y.events

theorem Reply.Matches.refl {σ α : Type} (x : Reply σ α) : x.Matches x := ⟨rfl, rfl, fun _ => rfl⟩

theorem Reply.Matches.trans {σ α : Type} {x y z : Reply σ α} (h : x.Matches y) (h' : y.Matches z) :
    x.Matches z :=
  ⟨h.state.trans h'.state, h.answer.trans h'.answer, fun name => (h.under name).trans (h'.under name)⟩

/-! ## Visits to the plain map -/

namespace ChannelMap

/-- What is left of a channel that a player leaves quietly, if it is kept. -/
def rest? (p : Policy) (w : World) (actor : Player) (c : Channel) : Option Channel :=
  let left := (c.leave p w actor false).channel
  if left.isDisposable then none else some left

variable (w : World) (actor : Player) {m : ChannelMap}

/-- A quiet leave at one key, which costs no speech. -/
theorem give_leave (key : String) (c : Channel) :
    let reply := m.give w key c actor (.leave false)
    reply.state.policy = m.policy ∧ reply.state.throttle = m.throttle ∧
      reply.answer.toOption.isSome = c.contains actor.id ∧
      ∀ key', reply.state.channels.find? key' =
        if key' = key then rest? m.policy w actor c else m.channels.find? key' := by
  refine ⟨rfl, rfl, c.isSome_leave actor false, fun key' => ?_⟩
  exact m.find?_keep key (c.leave m.policy w actor false).channel key'

/-- A channel that is visited is found as it was at first, whatever was visited before it. -/
theorem part_spec {keys : List String} (hkeys : keys.Nodup) :
    let reply := part w actor keys m
    reply.state.throttle = m.throttle ∧
      reply.answer = keys.countP (fun key => (m.channels.find? key).any (·.contains actor.id)) ∧
      ∀ key, reply.state.channels.find? key =
        if key ∈ keys then (m.channels.find? key).bind (rest? m.policy w actor)
        else m.channels.find? key := by
  induction keys generalizing m with
  | nil => exact ⟨rfl, rfl, fun _ => rfl⟩
  | cons key rest ih =>
    rw [List.nodup_cons] at hkeys
    rw [part, List.countP_cons]
    cases hfind : m.channels.find? key with
    | none =>
      obtain ⟨hthrottle, hanswer, hfound⟩ := ih (m := m) hkeys.2
      refine ⟨hthrottle, hanswer, fun key' => ?_⟩
      rw [hfound]
      by_cases hk : key' = key
      · simp [hk, hfind]
      · simp [hk]
    | some c =>
      obtain ⟨hpolicy, hbudget, hleft, hkept⟩ := m.give_leave w actor key c
      obtain ⟨hthrottle, hanswer, hfound⟩ :=
        ih (m := (m.give w key c actor (.leave false)).state) hkeys.2
      dsimp only
      generalize m.give w key c actor (.leave false) = reply at *
      refine ⟨hthrottle.trans hbudget, ?_, fun key' => ?_⟩
      · rw [hanswer, hleft, Option.any_some, Nat.add_comm]
        congr 1
        refine List.countP_congr fun key' hmem => ?_
        have hne : key' ≠ key := fun he => hkeys.1 (he ▸ hmem)
        rw [hkept, if_neg hne]
      · rw [hfound, hkept, hpolicy]
        by_cases hk : key' = key
        · simp [hk, hkeys.1, hfind]
        · simp [hk]

end ChannelMap

/-! ## Visits to the registry -/

/-- A room put back with another channel, draining if that is to be given up. -/
def House.putBack (h : House) (place : Nat) (room : Room) (c : Channel) : House :=
  { h with
    rooms := h.rooms.set place { room with channel := c, draining := c.isDisposable }
    live := if c.isDisposable then h.live.erase room.key else h.live }

theorem House.putBack_comm (h : House) {i j : Nat} (hne : i ≠ j) (room room' : Room)
    (c c' : Channel) :
    (h.putBack i room c).putBack j room' c' = (h.putBack j room' c').putBack i room c := by
  unfold House.putBack
  rw [List.set_comm _ _ hne]
  cases c.isDisposable <;> cases c'.isDisposable <;> simp [Dict.erase_comm _ room.key]

namespace Registry

variable (w : World) (actor : Player) {r : Registry}

theorem mem_handles_iff {handle : Handle} :
    handle ∈ r.handles ↔ ∃ key, r.house.live.find? key = some handle := by
  rw [handles, Dict.values, List.mem_map]
  constructor
  · rintro ⟨e, he, rfl⟩
    exact ⟨e.1, (Dict.find?_eq_some_iff _ _ _).mpr he⟩
  · rintro ⟨key, hlive⟩
    exact ⟨_, (Dict.find?_eq_some_iff _ _ _).mp hlive, rfl⟩

/-- Leaving quietly through one handle in the map. -/
theorem Sound.leaveVia_eq (hs : r.Sound) {key : String} {handle : Handle}
    (hlive : r.house.live.find? key = some handle) {room : Room}
    (hroom : r.house.room? handle = some room) :
    let reply := r.commandVia w handle actor (.leave false)
    let turn := room.channel.leave r.house.policy w actor false
    reply.state = { r with house := r.house.putBack handle.place room turn.channel } ∧
      reply.answer = turn.answer ∧ deliveries reply.events = deliveries turn.events := by
  obtain ⟨hdraining, _⟩ := hs.house.handle_eq hlive hroom
  have hworker := House.worker?_eq_some_iff.mpr ⟨hroom, hdraining⟩
  have hsettled := hs.house.settle_eq (room.channel.leave r.house.policy w actor false).channel
    hroom hdraining
  refine ⟨?_, ?_, deliveries_commandVia hworker w actor (.leave false)⟩
  · rw [r.commandVia_worker w hworker]
    exact congrArg (fun house => { r with house }) hsettled
  · rw [r.commandVia_worker w hworker]
    exact Channel.execute_answer _ _ _ _ _ _

/-- Different handles in the map stand at different keys and lead to rooms at different places. -/
theorem Sound.handles_apart (hs : r.Sound) {key key' : String} {handle handle' : Handle}
    (hlive : r.house.live.find? key = some handle)
    (hlive' : r.house.live.find? key' = some handle') (hne : handle ≠ handle') :
    key ≠ key' ∧ handle.place ≠ handle'.place := by
  have hkey : key ≠ key' := by
    rintro rfl
    exact hne (Option.some.inj (hlive.symm.trans hlive'))
  obtain ⟨room, hroom, _, hroomkey, _⟩ := hs.house.exists_room hlive
  obtain ⟨room', hroom', _, hroomkey', _⟩ := hs.house.exists_room hlive'
  refine ⟨hkey, fun hplace => hkey ?_⟩
  rw [House.room?, hplace] at hroom
  obtain rfl : room = room' := Option.some.inj (hroom.symm.trans hroom')
  exact hroomkey.symm.trans hroomkey'

/-- What one handle leads to is as it was after a visit through another. -/
theorem Sound.leaveVia_other (hs : r.Sound) {key key' : String} {handle handle' : Handle}
    (hlive : r.house.live.find? key = some handle)
    (hlive' : r.house.live.find? key' = some handle') (hne : handle ≠ handle') :
    let r' := (r.commandVia w handle actor (.leave false)).state
    r'.house.policy = r.house.policy ∧ r'.house.live.find? key' = some handle' ∧
      r'.house.room? handle' = r.house.room? handle' := by
  obtain ⟨hkey, hplace⟩ := hs.handles_apart hlive hlive' hne
  obtain ⟨room, hroom, _⟩ := hs.house.exists_room hlive
  obtain ⟨hstate, _⟩ := hs.leaveVia_eq w actor hlive hroom
  refine ⟨?_, (hs.live_commandVia w hlive hkey.symm actor (.leave false)).trans hlive', ?_⟩
  · rw [hstate]
    rfl
  · rw [hstate]
    exact List.getElem?_set_ne hplace

/-- Two visits come to the same in either order. -/
theorem Sound.leaveVia_comm (hs : r.Sound) {a b : Handle} (ha : a ∈ r.handles)
    (hb : b ∈ r.handles) (hne : a ≠ b) :
    let first := r.commandVia w a actor (.leave false)
    let second := first.state.commandVia w b actor (.leave false)
    let first' := r.commandVia w b actor (.leave false)
    let second' := first'.state.commandVia w a actor (.leave false)
    second.state = second'.state ∧ second.answer = first'.answer ∧
      deliveries second.events = deliveries first'.events := by
  obtain ⟨key, hlive⟩ := mem_handles_iff.mp ha
  obtain ⟨key', hlive'⟩ := mem_handles_iff.mp hb
  obtain ⟨room, hroom, _⟩ := hs.house.exists_room hlive
  obtain ⟨room', hroom', _⟩ := hs.house.exists_room hlive'
  have hplace := (hs.handles_apart hlive hlive' hne).2
  have hsa := (r.commandVia_steps w a actor (.leave false)).sound hs
  have hsb := (r.commandVia_steps w b actor (.leave false)).sound hs
  obtain ⟨hpolicyb, hliveb, hroomb⟩ := hs.leaveVia_other w actor hlive hlive' hne
  obtain ⟨hpolicya, hlivea, hrooma⟩ :=
    hs.leaveVia_other w actor hlive' hlive hne.symm
  obtain ⟨hfirst, _⟩ := hs.leaveVia_eq w actor hlive hroom
  obtain ⟨hfirst', hanswer', hdeliveries'⟩ := hs.leaveVia_eq w actor hlive' hroom'
  obtain ⟨hsecond, hanswer, hdeliveries⟩ :=
    hsa.leaveVia_eq w actor hliveb (hroomb.trans hroom')
  obtain ⟨hsecond', _⟩ := hsb.leaveVia_eq w actor hlivea (hrooma.trans hroom)
  rw [hpolicyb] at hsecond hanswer hdeliveries
  rw [hpolicya] at hsecond'
  refine ⟨?_, hanswer.trans hanswer'.symm, hdeliveries.trans hdeliveries'.symm⟩
  rw [hsecond, hsecond', hfirst, hfirst']
  exact congrArg (fun house => { r with house }) (r.house.putBack_comm hplace room room' _ _)

/-- Two channels are not heard of under one name. -/
theorem Orderly.under_leaveVia (hr : r.Orderly) {a b : Handle} (ha : a ∈ r.handles)
    (hb : b ∈ r.handles) (hne : a ≠ b) (name : String) :
    Event.under name (r.commandVia w a actor (.leave false)).events = [] ∨
      Event.under name (r.commandVia w b actor (.leave false)).events = [] := by
  obtain ⟨key, hlive⟩ := mem_handles_iff.mp ha
  obtain ⟨key', hlive'⟩ := mem_handles_iff.mp hb
  obtain ⟨room, hroom, hdraining, hroomkey, _⟩ := hr.house.exists_room hlive
  obtain ⟨room', hroom', hdraining', hroomkey', _⟩ := hr.house.exists_room hlive'
  have hunder := hr.commandVia_reachesUnder (House.worker?_eq_some_iff.mpr ⟨hroom, hdraining⟩) w
    actor (.leave false)
  have hunder' := hr.commandVia_reachesUnder (House.worker?_eq_some_iff.mpr ⟨hroom', hdraining'⟩) w
    actor (.leave false)
  by_cases hname : name = room.channel.name
  · refine .inr (hunder'.under_eq_nil ?_)
    rintro rfl
    have hkey := (hr.house.keyed _ room hroom).symm.trans
      ((congrArg Text.lowercase hname.symm).trans (hr.house.keyed _ room' hroom'))
    exact (hr.handles_apart hlive hlive' hne).1 (hroomkey.symm.trans (hkey.trans hroomkey'))
  · exact .inl (hunder.under_eq_nil hname)

/-- Visits to channels in the map come to the same in any order. -/
theorem Orderly.part_perm (hr : r.Orderly) {handles handles' : List Handle}
    (hperm : handles.Perm handles') (hdistinct : handles.Nodup)
    (hlisted : ∀ handle ∈ handles, handle ∈ r.handles) :
    (part w actor handles r).Matches (part w actor handles' r) := by
  induction hperm generalizing r with
  | nil => exact .refl _
  | @cons a rest rest' _ ih =>
    rw [List.nodup_cons] at hdistinct
    obtain ⟨key, hlive⟩ := mem_handles_iff.mp (hlisted a List.mem_cons_self)
    have hr' := (r.commandVia_steps w a actor (.leave false)).orderly hr
    have hlisted' : ∀ b ∈ rest, b ∈ (r.commandVia w a actor (.leave false)).state.handles := by
      intro b hb
      have hne : a ≠ b := fun he => hdistinct.1 (he ▸ hb)
      obtain ⟨key', hlive'⟩ := mem_handles_iff.mp (hlisted b (List.mem_cons_of_mem a hb))
      exact mem_handles_iff.mpr ⟨key', (hr.leaveVia_other w actor hlive hlive' hne).2.1⟩
    have hrest := ih hr' hdistinct.2 hlisted'
    refine ⟨hrest.state, ?_, fun name => ?_⟩
    · rw [part, part, hrest.answer]
    · rw [part, part, Event.under_append, Event.under_append, hrest.under]
  | swap a b rest =>
    have ha := hlisted a (List.mem_cons_of_mem b List.mem_cons_self)
    have hb := hlisted b List.mem_cons_self
    have hne : a ≠ b := fun he => (List.nodup_cons.mp hdistinct).1 (he ▸ List.mem_cons_self)
    obtain ⟨hstate, hanswer, hdeliveries⟩ := hr.leaveVia_comm w actor hb ha hne.symm
    obtain ⟨_, hanswer', hdeliveries'⟩ := hr.leaveVia_comm w actor ha hb hne
    refine ⟨?_, ?_, fun name => ?_⟩
    · simp only [part]
      rw [hstate]
    · simp only [part]
      rw [hstate, hanswer, hanswer', Nat.add_left_comm]
    · simp only [part, Event.under_append]
      rw [hstate, Event.under_congr hdeliveries, Event.under_congr hdeliveries']
      rcases hr.under_leaveVia w actor ha hb hne name with h | h <;> rw [h] <;> rfl
  | @trans first second _ hperm _ ih ih' =>
    have hlisted' : ∀ handle ∈ second, handle ∈ r.handles :=
      fun handle hmem => hlisted handle (hperm.mem_iff.mpr hmem)
    exact (ih hr hdistinct hlisted).trans (ih' hr (hperm.nodup_iff.mp hdistinct) hlisted')

/-! ## All channels -/

/-- What comes of leaving all channels: how many held the player, and what has become of each. -/
structure Parted (r : Registry) (q : PlayerId) (reply : Reply Registry Nat) : Prop where
  counted : reply.answer = r.house.channels.values.countP (·.contains q)
  budgets : reply.state.house.throttle = r.house.throttle.forget q
  untracked : reply.state.house.throttle.granted.find? q = none
  absent : ∀ key c, reply.state.house.channels.find? key = some c → c.contains q = false
  departed : ∀ key c, r.house.channels.find? key = some c → ∃ c', c.Departed q c' ∧
    reply.state.house.channels.find? key = if c'.isDisposable then none else some c'
  unopened : ∀ key, r.house.channels.find? key = none →
    reply.state.house.channels.find? key = none

/-- Leaves every channel like `partAll`, with the channels visited in an order of one's own. -/
def partAllIn (order : List Handle) : Reply Registry Nat :=
  let parted := part w actor order r
  let house := parted.state.house
  { parted with state := { parted.state with
      house := { house with throttle := house.throttle.forget actor.id } } }

variable {w actor} in
theorem Parted.congr {reply reply' : Reply Registry Nat} (h : reply.Matches reply')
    (hparted : r.Parted actor.id reply') : r.Parted actor.id reply := by
  obtain ⟨state, answer, events⟩ := reply
  obtain ⟨rfl, rfl, _⟩ := h
  exact { hparted with }

theorem Sound.partAll_spec (hs : r.Sound) :
    let reply := r.partAll w actor
    reply.answer = r.house.channels.values.countP (·.contains actor.id) ∧
      reply.state.house.throttle = r.house.throttle.forget actor.id ∧
      ∀ key, reply.state.house.channels.find? key =
        (r.house.channels.find? key).bind (ChannelMap.rest? r.house.policy w actor) := by
  have hagrees := hs.partAll_agrees w actor
  obtain ⟨hthrottle, hanswer, hfound⟩ :=
    ChannelMap.part_spec w actor (m := r.plain) r.house.channels.nodup
  refine ⟨?_, ?_, fun key => ?_⟩
  · rw [hagrees.answer, ← Dict.countP_values]
    exact hanswer
  · exact (congrArg ChannelMap.throttle hagrees.state).trans
      (congrArg (·.forget actor.id) hthrottle)
  · have hkey := (congrArg (fun m => m.channels.find? key) hagrees.state).trans (hfound key)
    split at hkey
    next => exact hkey
    next hunlisted =>
      have hnone : r.house.channels.find? key = none :=
        (Dict.find?_eq_none_iff _ _).mpr hunlisted
      rw [hnone]
      exact hkey.trans hnone

theorem Orderly.partAll_parted (hr : r.Orderly) : r.Parted actor.id (r.partAll w actor) := by
  obtain ⟨hanswer, hbudgets, hchannels⟩ := hr.partAll_spec w actor
  have hdeparted : ∀ key c, r.house.channels.find? key = some c → ∃ c', c.Departed actor.id c' ∧
      (r.partAll w actor).state.house.channels.find? key =
        if c'.isDisposable then none else some c' := by
    intro key c hfind
    have hsound := hr.channels_sound key c hfind
    refine ⟨(c.leave r.house.policy w actor false).channel, hsound.departed_leave actor false, ?_⟩
    rw [hchannels, hfind]
    rfl
  have hunopened : ∀ key, r.house.channels.find? key = none →
      (r.partAll w actor).state.house.channels.find? key = none := by
    intro key hnone
    rw [hchannels, hnone]
    rfl
  refine ⟨hanswer, hbudgets, ?_, ?_, hdeparted, hunopened⟩
  · rw [hbudgets]
    exact Dict.find?_erase_self _ _
  · intro key c' hfind'
    cases hfind : r.house.channels.find? key with
    | none => cases (hunopened key hfind).symm.trans hfind'
    | some c =>
      obtain ⟨left, hleft, hkept⟩ := hdeparted key c hfind
      rw [hkept] at hfind'
      split at hfind'
      next => cases hfind'
      next =>
        cases hfind'
        rw [hleft.contains (hr.channels_sound key c hfind).distinct]
        simp

theorem Orderly.nodup_membersAt (hr : r.Orderly) (key : String) : (r.membersAt key).Nodup := by
  rw [membersAt_eq]
  cases hfind : r.house.channels.find? key with
  | none => exact List.nodup_nil
  | some c => exact (hr.channels_sound key c hfind).distinct

theorem Parted.membersAt_eq {q : PlayerId} {reply : Reply Registry Nat} (h : r.Parted q reply)
    (key : String) : reply.state.membersAt key = (r.membersAt key).erase q := by
  rw [Registry.membersAt_eq, Registry.membersAt_eq]
  cases hfind : r.house.channels.find? key with
  | none =>
    rw [h.unopened key hfind]
    rfl
  | some c =>
    obtain ⟨left, hleft, hkept⟩ := h.departed key c hfind
    rw [hkept]
    split
    next hdisposable =>
      have hempty : left.roster.players = [] := by
        rw [← Roster.isEmpty_iff]
        exact (Bool.and_eq_true_iff.mp hdisposable).2
      exact hempty.symm.trans hleft.players
    next => exact hleft.players

/-- Leaving all channels removes a player from exactly those they are on, whatever the order of
visits. -/
theorem run_partAll (c : Config) (moves : List (World × Move)) {order : List Handle}
    (horder : order.Perm ((ofConfig c).run moves).handles) :
    let r := (ofConfig c).run moves
    r.Parted actor.id (r.partAllIn w actor order) ∧
      (r.partAllIn w actor order).Matches (r.partAll w actor) := by
  intro r
  have hr := run_orderly c moves
  have hhandles : ((ofConfig c).run moves).handles.Nodup :=
    List.Pairwise.of_map Handle.number (fun _ _ hne he => hne (congrArg Handle.number he))
      hr.numbers_nodup
  have hpart := hr.part_perm w actor horder (horder.nodup_iff.mpr hhandles) fun handle =>
    horder.mem_iff.mp
  have hmatches : (r.partAllIn w actor order).Matches (r.partAll w actor) := by
    refine ⟨?_, hpart.answer, hpart.under⟩
    unfold partAllIn partAll
    dsimp only
    rw [hpart.state]
  exact ⟨(hr.partAll_parted w actor).congr hmatches, hmatches⟩

/-- Ann owns a channel that Bob inherits, is on a channel built in, and is the last to go from a
third. A fourth has been opened and never joined. All are visited in the other order. -/
theorem run_partAll_reversed :
    let ann : Player := { id := ⟨1⟩, name := "Ann" }
    let bob : Player := { id := ⟨2⟩, name := "Bob" }
    let w : World := { directory := ((∅ : Directory).insert ann).insert bob }
    let moves : List (World × Move) := [(w, .request (.join ann "Raiders" none)),
      (w, .request (.join bob "Raiders" none)), (w, .request (.join ann "Trade" none)),
      (w, .request (.join ann "Den" none)), (w, .request (.findOrOpen "Hall"))]
    let r := (ofConfig {}).run moves
    let reply := r.partAllIn w ann r.handles.reverse
    r.handles.reverse.Perm r.handles ∧ r.handles.length = 9 ∧
      (reply.answer = 3 ∧ reply.state.size = 7 ∧
        (reply.state.channel? "raiders").bind Channel.owner = some bob.id) ∧
      r.Parted ann.id reply ∧ reply.Matches (r.partAll w ann) := by
  intro ann bob w moves r reply
  have horder : r.handles.reverse.Perm r.handles := List.reverse_perm _
  exact ⟨horder, by decide +kernel, by decide +kernel, run_partAll w ann {} moves horder⟩

end Registry
end ChatChannels
