import ChatChannels.Proofs.Channel.Sound
import ChatChannels.Proofs.Registry.Step

/-! The channels of the live rooms, by key. Settling a room writes its channel at the room's key or
takes it away, opening one adds it at the end, and a new registry has the built-in channels. Every
channel in a registry is sound at any time, since each comes from a new one by steps. -/
namespace ChatChannels

namespace House

def channels (h : House) : Dict String Channel := h.live.filterMap h.channel?

variable {h : House}

theorem find?_channels (key : String) :
    h.channels.find? key = (h.live.find? key).bind h.channel? :=
  Dict.find?_filterMap h.channel? h.live key

theorem channel?_of_room? {handle : Handle} {room : Room} (hroom : h.room? handle = some room) :
    h.channel? handle = some room.channel :=
  congrArg (Option.map Room.channel) hroom

/-- A handle in the map leads to a channel that is not about to go. -/
theorem Sound.exists_room (hs : h.Sound) {key : String} {handle : Handle}
    (hlive : h.live.find? key = some handle) :
    ∃ room, h.room? handle = some room ∧ room.draining = false ∧ room.key = key ∧
      room.channel.name = handle.name ∧ h.channels.find? key = some room.channel := by
  obtain ⟨room, hroom, hdraining, hkey⟩ := hs.live_room key handle hlive
  have hname := congrArg Handle.name (hs.handle_eq hlive hroom).2.2
  refine ⟨room, hroom, hdraining, hkey, hname.symm, ?_⟩
  rw [find?_channels, hlive]
  simp [House.channel?, hroom]

theorem Sound.keys_channels (hs : h.Sound) : h.channels.keys = h.live.keys := by
  apply Dict.keys_filterMap
  intro key handle hlive
  obtain ⟨room, hroom, _⟩ := hs.exists_room hlive
  simp [House.channel?, hroom]

theorem Sound.find?_channels_eq_none (hs : h.Sound) {key : String} :
    h.channels.find? key = none ↔ h.live.find? key = none := by
  rw [Dict.find?_eq_none_iff, Dict.find?_eq_none_iff, hs.keys_channels]

theorem Sound.live_settle (hs : h.Sound) {place : Nat} {room : Room} (channel : Channel)
    (hroom : h.rooms[place]? = some room) (hdraining : room.draining = false) {key : String}
    (hkey : key ≠ room.key) :
    (h.settle place { room with channel }).1.live.find? key = h.live.find? key := by
  rw [hs.settle_eq channel hroom hdraining]
  dsimp only
  split
  next => rw [Dict.find?_erase, if_neg hkey]
  next => rfl

theorem Sound.room?_settle (hs : h.Sound) {place : Nat} {room : Room} (channel : Channel)
    (hroom : h.rooms[place]? = some room) (hdraining : room.draining = false) {key : String}
    (hkey : key ≠ room.key) {handle : Handle} (hlive : h.live.find? key = some handle) :
    (h.settle place { room with channel }).1.room? handle = h.room? handle := by
  rw [hs.settle_eq channel hroom hdraining]
  apply List.getElem?_set_ne
  rintro rfl
  obtain ⟨room', hroom', _, hkey', _⟩ := hs.exists_room hlive
  obtain rfl : room' = room := Option.some.inj (hroom'.symm.trans hroom)
  exact hkey hkey'.symm

/-- A live room that has worked is found with what it worked out, or not at all. -/
theorem Sound.channels_settle (hs : h.Sound) {place : Nat} {room : Room} {channel : Channel}
    (hroom : h.rooms[place]? = some room) (hdraining : room.draining = false)
    (hname : channel.name = room.channel.name) :
    (h.settle place { room with channel }).1.channels =
      if channel.isDisposable then h.channels.erase room.key
      else h.channels.insert room.key channel := by
  have hs' := hs.settle hroom hdraining hname
  have hsettled := hs.settle_eq channel hroom hdraining
  have hlisted := hs.listed place room hroom hdraining
  have hlen : place < h.rooms.length := (List.getElem?_eq_some_iff.mp hroom).1
  apply Dict.ext_find?
  · have hmem : room.key ∈ h.channels.keys := by
      rw [hs.keys_channels]
      exact (Dict.mem_keys_iff h.live _).mpr ⟨_, hlisted⟩
    rw [hs'.keys_channels, hsettled]
    split
    next => rw [Dict.keys_erase, Dict.keys_erase, hs.keys_channels]
    next => rw [Dict.keys_insert_of_mem _ _ _ hmem, hs.keys_channels]
  · intro key
    by_cases hkey : key = room.key
    · subst hkey
      rw [find?_channels, hsettled]
      dsimp only
      split
      next => rw [Dict.find?_erase_self, Dict.find?_erase_self, Option.bind_none]
      next =>
        rw [hlisted, Dict.find?_insert_self]
        simp [House.channel?, House.room?, hlen]
    · have hother : (h.settle place { room with channel }).1.channels.find? key =
          h.channels.find? key := by
        rw [find?_channels, find?_channels, hs.live_settle channel hroom hdraining hkey]
        cases hlive : h.live.find? key with
        | none => rfl
        | some handle =>
          exact congrArg (Option.map Room.channel)
            (hs.room?_settle channel hroom hdraining hkey hlive)
      rw [hother]
      split
      next => rw [Dict.find?_erase, if_neg hkey]
      next => rw [Dict.find?_insert, if_neg hkey]

end House

namespace Registry

variable {r : Registry}

theorem channel?_eq (r : Registry) (name : String) :
    r.channel? name = r.house.channels.find? (Text.lowercase name) :=
  (House.find?_channels (Text.lowercase name)).symm

theorem channels_openAt (hs : r.house.Sound) {key : String} {channel : Channel}
    (hnew : r.house.live.find? key = none) (hkey : Text.lowercase channel.name = key) :
    (r.openAt key channel).1.house.channels = r.house.channels.insert key channel := by
  have hs' := openAt_sound hs hnew hkey
  apply Dict.ext_find?
  · rw [hs'.keys_channels, openAt_house hs.standing, Dict.keys_insert_new _ _ _ hnew,
      Dict.keys_insert_new _ _ _ (hs.find?_channels_eq_none.mpr hnew), hs.keys_channels]
  · intro key'
    rw [House.find?_channels, openAt_house hs.standing, Dict.find?_insert, Dict.find?_insert]
    split
    next => simp [House.channel?, House.room?]
    next =>
      rw [House.find?_channels]
      cases hlive : r.house.live.find? key' with
      | none => rfl
      | some handle =>
        obtain ⟨room, hroom, _⟩ := hs.exists_room hlive
        have hlen := (List.getElem?_eq_some_iff.mp hroom).1
        exact congrArg (Option.map Room.channel) (List.getElem?_append_left hlen)

/-! ## A new registry -/

private theorem openAll_spec {l : List (String × CatalogEntry)} (hl : (l.map Prod.fst).Nodup)
    (hkeys : ∀ e ∈ l, Text.lowercase e.2.name = e.1) (r : Registry) (hs : r.house.Sound)
    (hnew : ∀ e ∈ l, r.house.live.find? e.1 = none) :
    let opened := l.foldl (fun r e => (r.openAt e.1 (.builtIn e.2)).1) r
    opened.house.Sound ∧ opened.house.policy = r.house.policy ∧
      opened.house.throttle = r.house.throttle ∧ opened.limits = r.limits ∧
      opened.catalog = r.catalog ∧
      opened.house.channels.entries =
        r.house.channels.entries ++ l.map fun e => (e.1, .builtIn e.2) := by
  induction l generalizing r with
  | nil => exact ⟨hs, rfl, rfl, rfl, rfl, (List.append_nil _).symm⟩
  | cons e rest ih =>
    rw [List.map_cons, List.nodup_cons] at hl
    have hnone := hnew e List.mem_cons_self
    have hkey : Text.lowercase (Channel.builtIn e.2).name = e.1 := hkeys e List.mem_cons_self
    have hs' := openAt_sound hs hnone hkey
    have hhouse := openAt_house hs.standing e.1 (.builtIn e.2)
    have hnew' : ∀ f ∈ rest, (r.openAt e.1 (.builtIn e.2)).1.house.live.find? f.1 = none := by
      intro f hf
      have hne : f.1 ≠ e.1 := fun he => hl.1 (he ▸ List.mem_map_of_mem hf)
      rw [hhouse, Dict.find?_insert, if_neg hne]
      exact hnew f (List.mem_cons_of_mem _ hf)
    obtain ⟨hsound, hpolicy, hthrottle, hlimits, hcatalog, hchannels⟩ :=
      ih hl.2 (fun f hf => hkeys f (List.mem_cons_of_mem _ hf)) _ hs' hnew'
    refine ⟨hsound, ?_, ?_, hlimits, hcatalog, ?_⟩
    · rw [List.foldl_cons, hpolicy, hhouse]
    · rw [List.foldl_cons, hthrottle, hhouse]
    · rw [List.foldl_cons, hchannels, channels_openAt hs hnone hkey,
        Dict.entries_insert_new _ _ (hs.find?_channels_eq_none.mpr hnone)]
      simp

variable (c : Config)

def catalogOf : Dict String CatalogEntry :=
  Dict.ofList (c.builtIns.map fun e => (Text.lowercase e.name, e))

theorem catalogOf_keyed {key : String} {e : CatalogEntry}
    (h : (catalogOf c).find? key = some e) : e ∈ c.builtIns ∧ Text.lowercase e.name = key := by
  obtain ⟨e', he', h⟩ := List.mem_map.mp (Dict.mem_of_find?_ofList h)
  cases h
  exact ⟨he', rfl⟩

theorem ofConfig_spec :
    (ofConfig c).Sound ∧ (ofConfig c).house.policy = .ofConfig c.channels ∧
      (ofConfig c).house.throttle = { limits := c.rateLimits } ∧
      (ofConfig c).limits = c.limits ∧ (ofConfig c).catalog = catalogOf c ∧
      (ofConfig c).house.channels.entries =
        (catalogOf c).entries.map fun e => (e.1, .builtIn e.2) := by
  have hkeys : ∀ e ∈ (catalogOf c).entries, Text.lowercase e.2.name = e.1 :=
    fun e he => (catalogOf_keyed c ((Dict.find?_eq_some_iff _ _ _).mpr he)).2
  obtain ⟨hsound, hpolicy, hthrottle, hlimits, hcatalog, hchannels⟩ :=
    openAll_spec (catalogOf c).nodup hkeys
      { house := { policy := .ofConfig c.channels, throttle := { limits := c.rateLimits } }
        limits := c.limits
        catalog := catalogOf c }
      ⟨rfl, by simp, by simp, by simp, by simp⟩ (fun _ _ => rfl)
  refine ⟨⟨hsound, ?_⟩, hpolicy, hthrottle, hlimits, hcatalog, hchannels⟩
  intro key e h
  exact (catalogOf_keyed c ((congrArg (Dict.find? · key) hcatalog).symm.trans h)).2

/-! ## Sound channels -/

/-- The registry is sound, and so is every channel in it. -/
structure Orderly (r : Registry) : Prop extends r.Sound where
  channels_sound : ∀ key channel, r.house.channels.find? key = some channel → channel.Sound

theorem freshChannel_sound (r : Registry) (name : String) : (r.freshChannel name).Sound := by
  unfold freshChannel
  split
  next e _ => exact Channel.builtIn_sound e
  next => exact Channel.custom_sound name

theorem Sound.find?_channels_room (hs : r.Sound) {place : Nat} {room : Room}
    (hroom : r.house.rooms[place]? = some room) (hdraining : room.draining = false) :
    r.house.channels.find? room.key = some room.channel := by
  rw [House.find?_channels, hs.house.listed place room hroom hdraining]
  exact House.channel?_of_room? hroom

theorem Orderly.room_sound (hr : r.Orderly) {place : Nat} {room : Room}
    (hroom : r.house.rooms[place]? = some room) (hdraining : room.draining = false) :
    room.channel.Sound :=
  hr.channels_sound room.key room.channel (hr.find?_channels_room hroom hdraining)

theorem Step.orderly {number : Option Nat} {r' : Registry} (h : Step r number r')
    (hr : r.Orderly) : r'.Orderly := by
  refine ⟨h.sound hr.toSound, ?_⟩
  cases h with
  | budgeted throttle => exact hr.channels_sound
  | opened name hnew =>
    intro key channel hfind
    rw [channels_openAt hr.house hnew (hr.key_freshChannel name), Dict.find?_insert] at hfind
    split at hfind
    next =>
      cases hfind
      exact r.freshChannel_sound name
    next => exact hr.channels_sound key channel hfind
  | served place room channel throttle hroom hdraining hnext =>
    have hs' := hr.house.budgeted throttle
    intro key channel' hfind
    dsimp only at hfind
    rw [hs'.channels_settle hroom hdraining hnext.name_eq] at hfind
    split at hfind
    next =>
      rw [Dict.find?_erase] at hfind
      split at hfind
      next => cases hfind
      next => exact hr.channels_sound key channel' hfind
    next =>
      rw [Dict.find?_insert] at hfind
      split at hfind
      next =>
        cases hfind
        exact hnext.sound (hr.room_sound hroom hdraining)
      next => exact hr.channels_sound key channel' hfind

theorem Steps.orderly {numbers : List Nat} {r' : Registry} (h : Steps r numbers r')
    (hr : r.Orderly) : r'.Orderly :=
  h.invariant (fun _ _ _ hstep => hstep.orderly) hr

theorem ofConfig_orderly : (ofConfig c).Orderly := by
  obtain ⟨hsound, _, _, _, _, hchannels⟩ := ofConfig_spec c
  refine ⟨hsound, fun key channel hfind => ?_⟩
  rw [Dict.find?_eq_some_iff, hchannels] at hfind
  obtain ⟨e, _, he⟩ := List.mem_map.mp hfind
  cases he
  exact Channel.builtIn_sound e.2

end Registry
end ChatChannels
