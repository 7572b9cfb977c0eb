import ChatChannels.Proofs.Registry.Recipients

/-! Handles that are held on to. A room stays in its place for ever, and a handle always leads to the
room it was taken from. Until that room drains the handle does what the name of its channel does. From
then on it does nothing, also when another room has been opened under the name. -/
namespace ChatChannels

/-- What can become of a room: it keeps its number and its name, it drains with nobody on its channel,
and then it stays as it is. -/
structure Room.Becomes (room room' : Room) : Prop where
  number : room'.number = room.number
  name : room'.channel.name = room.channel.name
  kept : room.draining → room' = room
  emptied : room'.draining → room' = room ∨ room'.channel.roster.isEmpty

theorem Room.Becomes.refl (room : Room) : room.Becomes room :=
  ⟨rfl, rfl, fun _ => rfl, fun _ => .inl rfl⟩

theorem Room.Becomes.trans {room room' room'' : Room} (h : room.Becomes room')
    (h' : room'.Becomes room'') : room.Becomes room'' where
  number := h'.number.trans h.number
  name := h'.name.trans h.name
  kept hdraining := by
    obtain rfl := h.kept hdraining
    exact h'.kept hdraining
  emptied hdraining := by
    rcases h'.emptied hdraining with rfl | hempty
    · exact h.emptied hdraining
    · exact .inr hempty

namespace Registry

variable {r r' : Registry} {number : Option Nat} {numbers : List Nat} {place : Nat} {room : Room}

theorem Step.becomes (h : Step r number r') (hs : r.Sound)
    (hroom : r.house.rooms[place]? = some room) :
    ∃ room', r'.house.rooms[place]? = some room' ∧ room.Becomes room' := by
  have hlen := (List.getElem?_eq_some_iff.mp hroom).1
  cases h with
  | budgeted throttle => exact ⟨room, hroom, .refl room⟩
  | opened name hnew =>
    rw [openAt_house hs.house.standing]
    exact ⟨room, (List.getElem?_append_left hlen).trans hroom, .refl room⟩
  | served place' worker channel throttle hworker hdraining hnext =>
    dsimp only
    rw [(hs.house.budgeted throttle).settle_eq channel hworker hdraining]
    dsimp only
    by_cases hplace : place' = place
    · subst hplace
      obtain rfl : room = worker := Option.some.inj (hroom.symm.trans hworker)
      -- A room that works was not draining, so it drains now or not at all.
      refine ⟨_, List.getElem?_set_self hlen, rfl, hnext.name_eq, ?_, ?_⟩
      · intro hdrained
        cases hdraining.symm.trans hdrained
      · exact fun hdisposable => .inr (Bool.and_eq_true_iff.mp hdisposable).2
    · exact ⟨room, (List.getElem?_set_ne hplace).trans hroom, .refl room⟩

theorem Steps.becomes (h : Steps r numbers r') (hs : r.Sound)
    (hroom : r.house.rooms[place]? = some room) :
    ∃ room', r'.house.rooms[place]? = some room' ∧ room.Becomes room' := by
  induction h generalizing room with
  | refl => exact ⟨room, hroom, .refl room⟩
  | cons hstep _ ih =>
    obtain ⟨next, hnext, hbecomes⟩ := hstep.becomes hs hroom
    obtain ⟨last, hlast, hbecomes'⟩ := ih (hstep.sound hs) hnext
    exact ⟨last, hlast, hbecomes.trans hbecomes'⟩

/-! ## What a handle does -/

/-- Whether the room behind a handle has drained. -/
def drained (r : Registry) (handle : Handle) : Bool := (r.house.room? handle).any Room.draining

/-- A request through the handle is the request under its name, of which a join is the only one to ask
whether the name is valid. -/
structure ServesAsNamed (r : Registry) (handle : Handle) : Prop where
  command : ∀ w actor command, (∀ password, command ≠ .join password) →
    r.commandVia w handle actor command = r.execute w actor handle.name command
  join : ∀ w actor password, r.join w actor handle.name password =
    if !r.isValidName handle.name then r.refuse actor handle.name .notify .invalidName
    else r.commandVia w handle actor (.join password)
  convert : ∀ w wantStatic,
    r.setStaticVia w handle wantStatic = (r.setStatic w handle.name wantStatic).map .ok

/-- A request through the handle changes nothing and lets nothing out, and nobody is on the channel
behind it. -/
structure IsInert (r : Registry) (handle : Handle) : Prop where
  command : ∀ w actor command, r.commandVia w handle actor command = ⟨r, .error .draining, []⟩
  convert : ∀ w wantStatic, r.setStaticVia w handle wantStatic = ⟨r, .error .draining, []⟩
  emptied : ∃ c, r.house.channel? handle = some c ∧ c.roster.players = []

variable {handle : Handle}

theorem drained_of_room? (hroom : r.house.room? handle = some room) :
    r.drained handle = room.draining := by
  rw [drained, hroom]
  rfl

theorem Sound.servesAsNamed (hs : r.Sound) (hfind : r.find? handle.name = some handle) :
    r.ServesAsNamed handle where
  command w actor command hcommand := by
    rw [hs.execute_eq w hcommand, hfind]
  join w actor password := by
    rw [hs.join_eq w, findOrOpen, hfind]
    rfl
  convert w wantStatic := by
    obtain ⟨room, hworker, _⟩ := hs.exists_worker hfind
    rw [setStatic, hfind]
    dsimp only
    rw [r.setStaticVia_worker w hworker]
    rfl

theorem isInert (hroom : r.house.room? handle = some room) (hdraining : room.draining)
    (hempty : room.channel.roster.isEmpty) : r.IsInert handle := by
  have hidle : r.house.worker? handle = none := by
    rw [House.worker?, hroom]
    simp [hdraining]
  exact ⟨fun w => r.commandVia_idle w hidle, fun w => r.setStaticVia_idle w hidle,
    room.channel, House.channel?_of_room? hroom, (Roster.isEmpty_iff _).mp hempty⟩

/-! ## Handles from the map -/

/-- What a handle that was in the map leads to later. -/
theorem Steps.exists_room (h : Steps r numbers r') (hs : r.Sound) {key : String}
    (hheld : r.house.live.find? key = some handle) :
    ∃ room, r'.house.room? handle = some room ∧
      handle = ⟨handle.place, room.channel.name, room.number⟩ ∧
      (room.draining → room.channel.roster.isEmpty) := by
  obtain ⟨room, hroom, hdraining, _⟩ := hs.house.live_room key handle hheld
  obtain ⟨room', hroom', hbecomes⟩ := h.becomes hs hroom
  have hhandle := (hs.house.handle_eq hheld hroom).2.2
  rw [← hbecomes.name, ← hbecomes.number] at hhandle
  refine ⟨room', hroom', hhandle, fun hdrained => ?_⟩
  rcases hbecomes.emptied hdrained with rfl | hempty
  · cases hdraining.symm.trans hdrained
  · exact hempty

/-- A handle that was in the map is there under its name exactly until its room drains. -/
theorem Steps.drained_eq_false_iff (h : Steps r numbers r') (hs : r.Sound) {key : String}
    (hheld : r.house.live.find? key = some handle) :
    r'.drained handle = false ↔ r'.find? handle.name = some handle := by
  have hs' := h.sound hs
  obtain ⟨room, hroom, hhandle, _⟩ := h.exists_room hs hheld
  rw [drained_of_room? hroom]
  constructor
  · intro hdraining
    have hlisted := hs'.house.listed handle.place room hroom hdraining
    rw [← hs'.house.keyed handle.place room hroom] at hlisted
    rw [← hhandle] at hlisted
    rw [find?, congrArg Handle.name hhandle]
    exact hlisted
  · intro hfind
    exact (hs'.house.handle_eq hfind hroom).1

/-- What has drained stays as it is. -/
theorem Steps.drained_stays (h : Steps r numbers r') (hs : r.Sound) (hdrained : r.drained handle) :
    r'.drained handle ∧ r'.house.channel? handle = r.house.channel? handle := by
  cases hroom : r.house.room? handle with
  | none =>
    rw [drained, hroom] at hdrained
    cases hdrained
  | some room =>
    have hdraining : room.draining := drained_of_room? hroom ▸ hdrained
    obtain ⟨room', hroom', hbecomes⟩ := h.becomes hs hroom
    obtain rfl := hbecomes.kept hdraining
    have hsame : r'.house.room? handle = r.house.room? handle := Eq.trans hroom' hroom.symm
    rw [drained, House.channel?, House.channel?, hsame]
    exact ⟨hdrained, rfl⟩

/-! ## Handles through a run -/

/-- A handle that was held at some time of a run: while its room works the name leads to it, and the
handle does what the name does. Once the room has drained the handle does nothing, and the channel
behind it is as it was when the last player left. -/
theorem run_held_handle (c : Config) (before later : List (World × Move)) {key : String}
    (hheld : ((ofConfig c).run before).house.live.find? key = some handle) :
    let r := ((ofConfig c).run before).run later
    (r.drained handle = false ↔ r.find? handle.name = some handle) ∧
      (r.drained handle = false → r.ServesAsNamed handle) ∧
      (r.drained handle → r.IsInert handle ∧ ∀ after,
        (r.run after).drained handle ∧
          (r.run after).house.channel? handle = r.house.channel? handle) := by
  intro r
  have hs : ((ofConfig c).run before).Sound := (run_orderly c before).toSound
  have hsteps := hs.run_steps later
  have hs' : r.Sound := hsteps.sound hs
  have hnamed := hsteps.drained_eq_false_iff hs hheld
  refine ⟨hnamed, fun hdrained => hs'.servesAsNamed (hnamed.mp hdrained), fun hdrained => ?_⟩
  obtain ⟨room, hroom, _, hempty⟩ := hsteps.exists_room hs hheld
  have hdraining : room.draining := drained_of_room? hroom ▸ hdrained
  exact ⟨isInert hroom hdraining (hempty hdraining),
    fun after => (hs'.run_steps after).drained_stays hs' hdrained⟩

/-- Ann opens a channel and someone takes its handle. It serves until Ann leaves, and no more when Bob
has opened the channel again. -/
theorem run_held_handle_reopened :
    let ann : Player := { id := ⟨1⟩, name := "Ann" }
    let bob : Player := { id := ⟨2⟩, name := "Bob" }
    let w : World := { directory := ((∅ : Directory).insert ann).insert bob }
    let before : List (World × Move) := [(w, .request (.join ann "Raiders" none))]
    let later : List (World × Move) := [(w, .request (.execute ann "raiders" (.leave true))),
      (w, .request (.join bob "RAIDERS" none))]
    let held : Handle := ⟨6, "Raiders", 7⟩
    let early := (ofConfig {}).run before
    let late := early.run later
    early.house.live.find? "raiders" = some held ∧
      (early.drained held = false ∧ early.ServesAsNamed held) ∧
      (late.find? "Raiders" = some ⟨7, "RAIDERS", 8⟩ ∧ late.drained held ∧ late.IsInert held) := by
  intro ann bob w before later held early late
  have hheld : early.house.live.find? "raiders" = some held := by decide +kernel
  have hserving : early.drained held = false := by decide +kernel
  have hdrained : late.drained held := by decide +kernel
  have hserves := (run_held_handle {} before [] hheld).2.1
  rw [run] at hserves
  exact ⟨hheld, ⟨hserving, hserves hserving⟩,
    ⟨by decide +kernel, hdrained, ((run_held_handle {} before later hheld).2.2 hdrained).1⟩⟩

end Registry
end ChatChannels
