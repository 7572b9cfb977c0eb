import ChatChannels.Proofs.Config
import ChatChannels.Proofs.Registry.Channels
import ChatChannels.Proofs.Registry.Request

/-! The map of live rooms after any run. Built-in channels stay in the rooms they were opened in,
only the catalog makes channels built in, and a room that has worked is draining or in use. -/
namespace ChatChannels

namespace Channel

variable {c c' : Channel}

theorem isBuiltIn_congr (h : c'.classification = c.classification) : c'.isBuiltIn = c.isBuiltIn := by
  have hid : c'.id = c.id := congrArg (fun k => k.2.1) h
  rw [isBuiltIn, isBuiltIn, hid]

theorem not_disposable_of_isBuiltIn (h : c.isBuiltIn) : c.isDisposable = false := by
  rw [isDisposable, isPublic, h]
  rfl

theorem static_or_occupied (hcustom : c.isBuiltIn = false) (h : c.isDisposable = false) :
    c.isStatic ∨ c.roster.isEmpty = false := by
  rw [isDisposable, isPublic, hcustom] at h
  cases hstatic : c.isStatic with
  | true => exact .inl rfl
  | false =>
    rw [hstatic] at h
    exact .inr h

end Channel

namespace Registry

variable {r r' : Registry} {number : Option Nat} {numbers attended : List Nat}

/-! ## Built-in channels -/

/-- A built-in channel stays in its room, and its room in the map. -/
theorem Step.builtIn_stays (h : Step r number r') (hs : r.Sound) {key : String} {handle : Handle}
    (hlive : r.house.live.find? key = some handle) {room : Room}
    (hroom : r.house.room? handle = some room) (hbuiltIn : room.channel.isBuiltIn) :
    r'.house.live.find? key = some handle ∧ ∃ room', r'.house.room? handle = some room' ∧
      room'.channel.classification = room.channel.classification := by
  cases h with
  | budgeted throttle => exact ⟨hlive, room, hroom, rfl⟩
  | opened name hnew =>
    have hne : key ≠ Text.lowercase name := by
      rintro rfl
      cases hnew.symm.trans hlive
    have hlen := (List.getElem?_eq_some_iff.mp hroom).1
    rw [openAt_house hs.house.standing]
    refine ⟨?_, room, (List.getElem?_append_left hlen).trans hroom, rfl⟩
    rw [Dict.find?_insert, if_neg hne, hlive]
  | served place worker channel throttle hworker hdraining hnext =>
    have hs' := hs.house.budgeted throttle
    by_cases hkey : key = worker.key
    · subst hkey
      obtain rfl : handle = ⟨place, worker.channel.name, worker.number⟩ :=
        Option.some.inj (hlive.symm.trans (hs.house.listed place worker hworker hdraining))
      obtain rfl : room = worker := Option.some.inj (hroom.symm.trans hworker)
      have hkept : channel.isDisposable = false :=
        Channel.not_disposable_of_isBuiltIn
          ((Channel.isBuiltIn_congr hnext.classification).trans hbuiltIn)
      have hlen := (List.getElem?_eq_some_iff.mp hworker).1
      dsimp only
      rw [hs'.settle_eq channel hworker hdraining, hkept]
      exact ⟨hlive, _, List.getElem?_set_self hlen, hnext.classification⟩
    · refine ⟨(hs'.live_settle channel hworker hdraining hkey).trans hlive, room, ?_, rfl⟩
      exact (hs'.room?_settle channel hworker hdraining hkey hlive).trans hroom

theorem Steps.builtIn_stays (h : Steps r numbers r') (hs : r.Sound) {key : String}
    {handle : Handle} (hlive : r.house.live.find? key = some handle) {room : Room}
    (hroom : r.house.room? handle = some room) (hbuiltIn : room.channel.isBuiltIn) :
    r'.house.live.find? key = some handle ∧ ∃ room', r'.house.room? handle = some room' ∧
      room'.channel.classification = room.channel.classification := by
  induction h generalizing room with
  | refl => exact ⟨hlive, room, hroom, rfl⟩
  | cons hstep _ ih =>
    obtain ⟨hlive', room', hroom', hclass⟩ := hstep.builtIn_stays hs hlive hroom hbuiltIn
    obtain ⟨hlive'', room'', hroom'', hclass'⟩ :=
      ih (hstep.sound hs) hlive' hroom' ((Channel.isBuiltIn_congr hclass).trans hbuiltIn)
    exact ⟨hlive'', room'', hroom'', hclass'.trans hclass⟩

def BuiltInsListed (r : Registry) : Prop :=
  ∀ key channel, r.house.channels.find? key = some channel → channel.isBuiltIn →
    (r.catalog.find? key).isSome

theorem Step.builtInsListed (h : Step r number r') (hs : r.Sound) (hl : r.BuiltInsListed) :
    r'.BuiltInsListed := by
  cases h with
  | budgeted throttle => exact hl
  | opened name hnew =>
    intro key channel hfind hbuiltIn
    rw [channels_openAt hs.house hnew (hs.key_freshChannel name), Dict.find?_insert] at hfind
    split at hfind
    next he =>
      subst he
      cases hfind
      unfold freshChannel at hbuiltIn
      split at hbuiltIn
      next e he => exact Option.isSome_of_eq_some he
      next => cases hbuiltIn
    next => exact hl key channel hfind hbuiltIn
  | served place worker channel throttle hworker hdraining hnext =>
    have hs' := hs.house.budgeted throttle
    intro key channel' hfind hbuiltIn
    dsimp only at hfind
    rw [hs'.channels_settle hworker hdraining hnext.name_eq] at hfind
    split at hfind
    next =>
      rw [Dict.find?_erase] at hfind
      split at hfind
      next => cases hfind
      next => exact hl key channel' hfind hbuiltIn
    next =>
      rw [Dict.find?_insert] at hfind
      split at hfind
      next he =>
        subst he
        cases hfind
        have hlisted := hs.house.listed place worker hworker hdraining
        obtain ⟨room, hroom, _, _, _, hchannel⟩ := hs.house.exists_room hlisted
        obtain rfl : room = worker := Option.some.inj (hroom.symm.trans hworker)
        exact hl room.key room.channel hchannel
          ((Channel.isBuiltIn_congr hnext.classification).symm.trans hbuiltIn)
      next => exact hl key channel' hfind hbuiltIn

/-! ## Channels in use -/

/-- The rooms that have worked are numbered rooms, and those that still do are in use. -/
structure InUse (r : Registry) (attended : List Nat) : Prop where
  numbered : ∀ n ∈ attended, n ≤ r.house.rooms.length
  kept : ∀ (i : Nat) (room : Room), r.house.rooms[i]? = some room → room.draining = false →
    room.number ∈ attended → room.channel.isDisposable = false

theorem Step.inUse (h : Step r number r') (hs : r.Sound) (hu : r.InUse attended) :
    r'.InUse (attended ++ number.toList) := by
  cases h with
  | budgeted throttle =>
    rw [Option.toList_none, List.append_nil]
    exact ⟨hu.numbered, hu.kept⟩
  | opened name hnew =>
    rw [Option.toList_none, List.append_nil]
    have hhouse := openAt_house hs.house.standing (Text.lowercase name) (r.freshChannel name)
    refine ⟨?_, ?_⟩
    · intro n hn
      have hle := hu.numbered n hn
      rw [hhouse, List.length_append]
      omega
    · intro i room hroom hdraining hmem
      rw [hhouse] at hroom
      rcases getElem?_concat_cases hroom with ⟨_, hroom⟩ | ⟨rfl, rfl⟩
      · exact hu.kept i room hroom hdraining hmem
      · have hle : r.house.rooms.length + 1 ≤ _ := hu.numbered _ hmem
        omega
  | served place worker channel throttle hworker hdraining hnext =>
    have hs' := hs.house.budgeted throttle
    have hlen : place < r.house.rooms.length := (List.getElem?_eq_some_iff.mp hworker).1
    have hnumber := hs.house.numbered place worker hworker
    rw [Option.toList_some]
    dsimp only
    rw [hs'.settle_eq channel hworker hdraining]
    refine ⟨?_, ?_⟩
    · intro n hn
      rw [List.length_set]
      rcases List.mem_append.mp hn with hn | hn
      · exact hu.numbered n hn
      · rw [List.mem_singleton.mp hn, hnumber]
        exact hlen
    · intro i room hroom hdraining' hmem
      rcases getElem?_set_cases hroom with ⟨rfl, rfl⟩ | ⟨hne, hroom⟩
      · exact hdraining'
      · rcases List.mem_append.mp hmem with hmem | hmem
        · exact hu.kept i room hroom hdraining' hmem
        · have hsame := List.mem_singleton.mp hmem
          rw [hs.house.numbered i room hroom, hnumber] at hsame
          omega

theorem Steps.inUse (h : Steps r numbers r') (hs : r.Sound) (hu : r.InUse attended) :
    r'.InUse (attended ++ numbers) := by
  induction h generalizing attended with
  | refl => rwa [List.append_nil]
  | cons hstep _ ih =>
    rw [← List.append_assoc]
    exact ih (hstep.sound hs) (hstep.inUse hs hu)

/-! ## Numbers -/

theorem Sound.number_eq (hs : r.Sound) {key : String} {handle : Handle}
    (hlive : r.house.live.find? key = some handle) : handle.number = handle.place + 1 := by
  obtain ⟨room, hroom, _⟩ := hs.house.live_room key handle hlive
  exact (hs.house.room_number hlive hroom).symm.trans (hs.house.numbered handle.place room hroom)

theorem Sound.numbers_nodup (hs : r.Sound) : (r.handles.map Handle.number).Nodup := by
  have hkeys : r.house.live.entries.Pairwise fun e f => e.1 ≠ f.1 :=
    List.pairwise_map.mp r.house.live.nodup
  rw [handles, Dict.values, List.map_map]
  refine List.pairwise_map.mpr (hkeys.imp_of_mem ?_)
  intro e f he hf hne hnumber
  have hliveE := (Dict.find?_eq_some_iff _ _ _).mpr he
  have hliveF := (Dict.find?_eq_some_iff _ _ _).mpr hf
  obtain ⟨room, hroom, _, hkeyE, _⟩ := hs.house.exists_room hliveE
  obtain ⟨room', hroom', _, hkeyF, _⟩ := hs.house.exists_room hliveF
  have hplace : e.2.place = f.2.place := by
    have hE := hs.number_eq hliveE
    have hF := hs.number_eq hliveF
    dsimp only [Function.comp] at hnumber
    omega
  rw [House.room?, hplace] at hroom
  obtain rfl : room = room' := Option.some.inj (hroom.symm.trans hroom')
  exact hne (hkeyE.symm.trans hkeyF)

theorem Sound.number_not_drained (hs : r.Sound) {room : Room} (hmem : room ∈ r.house.rooms)
    (hdraining : room.draining) : room.number ∉ r.handles.map Handle.number := by
  intro hlisted
  obtain ⟨handle, hhandle, hnumber⟩ := List.mem_map.mp hlisted
  obtain ⟨e, he, rfl⟩ := List.mem_map.mp hhandle
  obtain ⟨i, hroom⟩ := List.getElem?_of_mem hmem
  have hlive := (Dict.find?_eq_some_iff _ _ _).mpr he
  have hplace : i = e.2.place := by
    have hi := hs.house.numbered i room hroom
    have hE := hs.number_eq hlive
    omega
  subst hplace
  obtain ⟨room', hroom', hworking, _⟩ := hs.house.exists_room hlive
  obtain rfl : room = room' := Option.some.inj (hroom.symm.trans hroom')
  cases hdraining.symm.trans hworking

/-! ## Any run -/

/-- What holds of the map of live rooms, given the numbers of the rooms that have worked. -/
structure LiveMap (c : Config) (attended : List Nat) (r : Registry) : Prop where
  /-- Each key leads to the room of its handle's number, and is the lowercase form of the name of
  the channel there. -/
  keyed : ∀ key handle, r.house.live.find? key = some handle →
    ∃ room, r.house.room? handle = some room ∧ room.number = handle.number ∧
      key = Text.lowercase room.channel.name
  distinct : (r.handles.map Handle.number).Nodup
  undrained : ∀ room ∈ r.house.rooms, room.draining → room.number ∉ r.handles.map Handle.number
  /-- Every entry of the catalog has the handle that it had at the start. -/
  builtIn : ∀ e ∈ c.builtIns, ∃ handle channel,
    (ofConfig c).find? e.name = some handle ∧ r.find? e.name = some handle ∧
      r.house.channel? handle = some channel ∧ channel.isBuiltIn ∧
      channel.name = e.name ∧ channel.id = e.id ∧ channel.flags = e.flags
  /-- Every other channel is static, or somebody is there, or it has not been asked anything. -/
  inUse : ∀ key handle, r.house.live.find? key = some handle → (∀ e ∈ c.builtIns, e.key ≠ key) →
    ∃ channel, r.house.channel? handle = some channel ∧
      (channel.isStatic ∨ channel.roster.isEmpty = false ∨ handle.number ∉ attended)

variable {c : Config}

theorem entries_catalogOf (hc : c.faults = []) :
    (catalogOf c).entries = c.builtIns.map fun e => (e.key, e) := by
  obtain ⟨_, _, hkeys⟩ := CatalogEntry.faults_eq_nil_iff.mp (Config.builtIns_faults hc)
  apply Dict.entries_ofList
  rwa [List.map_map]

theorem find?_catalogOf (hc : c.faults = []) {e : CatalogEntry} (he : e ∈ c.builtIns) :
    (catalogOf c).find? e.key = some e := by
  rw [Dict.find?_eq_some_iff, entries_catalogOf hc]
  exact List.mem_map_of_mem he

theorem ofConfig_builtIn (hc : c.faults = []) {e : CatalogEntry} (he : e ∈ c.builtIns) :
    ∃ handle room, (ofConfig c).find? e.name = some handle ∧
      (ofConfig c).house.room? handle = some room ∧ room.channel = .builtIn e := by
  obtain ⟨hsound, _, _, _, _, hchannels⟩ := ofConfig_spec c
  have hfind : (ofConfig c).house.channels.find? e.key = some (.builtIn e) := by
    rw [Dict.find?_eq_some_iff, hchannels]
    have hmem := (Dict.find?_eq_some_iff _ _ _).mp (find?_catalogOf hc he)
    exact List.mem_map.mpr ⟨_, hmem, rfl⟩
  rw [House.find?_channels, Option.bind_eq_some_iff] at hfind
  obtain ⟨handle, hlive, hchannel⟩ := hfind
  obtain ⟨room, hroom, hroomchannel⟩ := Option.map_eq_some_iff.mp hchannel
  exact ⟨handle, room, hlive, hroom, hroomchannel⟩

theorem ofConfig_builtInsListed (c : Config) : (ofConfig c).BuiltInsListed := by
  obtain ⟨_, _, _, _, hcatalog, hchannels⟩ := ofConfig_spec c
  intro key channel hfind _
  rw [Dict.find?_eq_some_iff, hchannels] at hfind
  obtain ⟨e, he, hkey⟩ := List.mem_map.mp hfind
  cases hkey
  rw [hcatalog, (Dict.find?_eq_some_iff _ _ _).mpr he]
  rfl

theorem ofConfig_inUse (c : Config) : (ofConfig c).InUse [] :=
  ⟨fun _ hn => absurd hn List.not_mem_nil, fun _ _ _ _ hn => absurd hn List.not_mem_nil⟩

theorem Steps.builtInsListed (h : Steps r numbers r') (hs : r.Sound) (hl : r.BuiltInsListed) :
    r'.BuiltInsListed := by
  induction h with
  | refl => exact hl
  | cons hstep _ ih => exact ih (hstep.sound hs) (hstep.builtInsListed hs hl)

theorem Steps.catalog (h : Steps r numbers r') : r'.catalog = r.catalog := by
  induction h with
  | refl => rfl
  | cons hstep _ ih =>
    rw [ih]
    cases hstep <;> rfl

/-- Under a key that is not in the catalog there is no built-in channel. -/
theorem Steps.custom_of_unlisted (h : (ofConfig c).Steps numbers r) {key : String}
    {channel : Channel} (hchannel : r.house.channels.find? key = some channel)
    (hother : ∀ e ∈ c.builtIns, e.key ≠ key) : channel.isBuiltIn = false := by
  obtain ⟨hsound, _, _, _, hcatalog, _⟩ := ofConfig_spec c
  rw [← Bool.not_eq_true]
  intro hbuiltIn
  have hlisted := h.builtInsListed hsound (ofConfig_builtInsListed c) key channel hchannel hbuiltIn
  rw [h.catalog, hcatalog] at hlisted
  obtain ⟨e, he⟩ := Option.isSome_iff_exists.mp hlisted
  obtain ⟨hmem, hkey⟩ := catalogOf_keyed c he
  exact hother e hmem hkey

/-- Whatever is asked of the registry of a valid configuration, its map of live rooms is in order. -/
theorem run_liveMap (c : Config) (hc : c.faults = []) (moves : List (World × Move)) :
    ((ofConfig c).run moves).LiveMap c ((ofConfig c).attended moves) := by
  have hsound₀ := (ofConfig_spec c).1
  have hsteps := hsound₀.run_steps moves
  have hsound := hsteps.sound hsound₀
  refine ⟨?_, hsound.numbers_nodup, fun _ => hsound.number_not_drained, ?_, ?_⟩
  · intro key handle hlive
    obtain ⟨room, hroom, _, hkey, _⟩ := hsound.house.exists_room hlive
    exact ⟨room, hroom, hsound.house.room_number hlive hroom,
      hkey.symm.trans (hsound.house.keyed _ room hroom).symm⟩
  · intro e he
    obtain ⟨handle, room, hlive, hroom, hchannel⟩ := ofConfig_builtIn hc he
    have hid := ((CatalogEntry.faults_eq_nil_iff.mp (Config.builtIns_faults hc)).1 e he).1
    have hbuiltIn : room.channel.isBuiltIn := by
      rw [hchannel]
      exact decide_eq_true hid
    obtain ⟨hlive', room', hroom', hclass⟩ := hsteps.builtIn_stays hsound₀ hlive hroom hbuiltIn
    refine ⟨handle, room'.channel, hlive, hlive', congrArg (Option.map Room.channel) hroom',
      (Channel.isBuiltIn_congr hclass).trans hbuiltIn, ?_⟩
    rw [hchannel] at hclass
    exact ⟨congrArg (·.1) hclass, congrArg (·.2.1) hclass, congrArg (·.2.2.1) hclass⟩
  · intro key handle hlive hother
    obtain ⟨room, hroom, hdraining, _, _, hchannel⟩ := hsound.house.exists_room hlive
    have hnumber := hsound.house.room_number hlive hroom
    have hcustom := hsteps.custom_of_unlisted hchannel hother
    have huse := hsteps.inUse hsound₀ (ofConfig_inUse c)
    rw [List.nil_append] at huse
    refine ⟨room.channel, congrArg (Option.map Room.channel) hroom, ?_⟩
    by_cases hmem : handle.number ∈ (ofConfig c).attended moves
    · have hkept := huse.kept handle.place room hroom hdraining (hnumber.symm ▸ hmem)
      exact (Channel.static_or_occupied hcustom hkept).imp_right .inl
    · exact .inr (.inr hmem)

/-- A channel that drains on a refused command, and is opened again under another number. -/
theorem run_liveMap_reopened :
    let c : Config := { catalog := [{ name := "Trade", id := 2, trade := true, city := true }] }
    let moves : List (World × Move) := [
      (∅, .request (.findOrOpen "Raiders")),
      (∅, .command ⟨1, "Raiders", 2⟩ default (.leave true)),
      (∅, .request (.findOrOpen "raiders"))]
    c.faults = [] ∧ (ofConfig c).attended moves = [2] ∧
      ((ofConfig c).run moves).handles.map Handle.number = [1, 3] ∧
      ((ofConfig c).run moves).LiveMap c ((ofConfig c).attended moves) :=
  ⟨by decide, rfl, rfl,
    run_liveMap { catalog := [{ name := "Trade", id := 2, trade := true, city := true }] }
      (by decide) _⟩

end Registry
end ChatChannels
