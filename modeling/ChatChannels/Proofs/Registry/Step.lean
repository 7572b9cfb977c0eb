import ChatChannels.Proofs.Channel.Run
import ChatChannels.Proofs.Dict
import ChatChannels.Registry

/-! What one step can do to a registry: the speech budgets change, a channel is opened under a name
that has none, or a room that is not draining works off one request. Everything that is asked of a
registry is a chain of such steps. A registry is sound if the map lists exactly the rooms that are
not draining, each under the lowercase form of its name, and every step keeps that. -/
namespace ChatChannels

theorem getElem?_set_cases {α : Type} {l : List α} {a b : α} {i j : Nat}
    (h : (l.set i a)[j]? = some b) : (i = j ∧ b = a) ∨ (i ≠ j ∧ l[j]? = some b) := by
  by_cases he : i = j
  · subst he
    have hi := (List.getElem?_eq_some_iff.mp h).1
    rw [List.length_set] at hi
    rw [List.getElem?_set_self hi] at h
    exact .inl ⟨rfl, (Option.some.inj h).symm⟩
  · rw [List.getElem?_set_ne he] at h
    exact .inr ⟨he, h⟩

theorem getElem?_concat_cases {α : Type} {l : List α} {a b : α} {i : Nat}
    (h : (l ++ [a])[i]? = some b) : (i < l.length ∧ l[i]? = some b) ∨ (i = l.length ∧ b = a) := by
  rcases Nat.lt_trichotomy i l.length with hi | hi | hi
  · rw [List.getElem?_append_left hi] at h
    exact .inl ⟨hi, h⟩
  · subst hi
    rw [List.getElem?_concat_length] at h
    exact .inr ⟨rfl, (Option.some.inj h).symm⟩
  · rw [List.getElem?_eq_none (by simp; omega)] at h
    cases h

namespace House

variable (h : House)

/-- The map of live rooms lists exactly the rooms that are not draining. -/
structure Sound : Prop where
  standing : h.shut = false
  numbered : ∀ (i : Nat) (room : Room), h.rooms[i]? = some room → room.number = i + 1
  keyed : ∀ (i : Nat) (room : Room), h.rooms[i]? = some room →
    Text.lowercase room.channel.name = room.key
  listed : ∀ (i : Nat) (room : Room), h.rooms[i]? = some room → room.draining = false →
    h.live.find? room.key = some ⟨i, room.channel.name, room.number⟩
  live_room : ∀ key handle, h.live.find? key = some handle →
    ∃ room, h.room? handle = some room ∧ room.draining = false ∧ room.key = key

variable {h}

theorem Sound.budgeted (hs : h.Sound) (throttle : Throttle) : { h with throttle }.Sound :=
  { hs with }

theorem Sound.handle_eq (hs : h.Sound) {key : String} {handle : Handle}
    (hlive : h.live.find? key = some handle) {room : Room} (hroom : h.room? handle = some room) :
    room.draining = false ∧ room.key = key ∧
      handle = ⟨handle.place, room.channel.name, room.number⟩ := by
  obtain ⟨room', hroom', hdraining, rfl⟩ := hs.live_room key handle hlive
  obtain rfl : room = room' := Option.some.inj (hroom.symm.trans hroom')
  exact ⟨hdraining, rfl,
    Option.some.inj (hlive.symm.trans (hs.listed handle.place room hroom hdraining))⟩

theorem Sound.room_number (hs : h.Sound) {key : String} {handle : Handle}
    (hlive : h.live.find? key = some handle) {room : Room} (hroom : h.room? handle = some room) :
    room.number = handle.number :=
  (congrArg Handle.number (hs.handle_eq hlive hroom).2.2).symm

theorem Sound.isRegistered (hs : h.Sound) {place : Nat} {room : Room}
    (hroom : h.rooms[place]? = some room) (hdraining : room.draining = false) :
    h.isRegistered room := by
  rw [House.isRegistered, hs.listed place room hroom hdraining]
  simp

/-- A room drains when its channel is to be given up, and then the entry at its key goes if it is the
room's own. -/
theorem settle_eq {place : Nat} {room : Room} (channel : Channel)
    (hdraining : room.draining = false) :
    (h.settle place { room with channel }).1 =
      { h with
        rooms := h.rooms.set place { room with channel, draining := channel.isDisposable }
        live := if channel.isDisposable && h.isRegistered room then h.live.erase room.key
          else h.live } := by
  have hregistered : h.isRegistered { room with channel } = h.isRegistered room := rfl
  unfold House.settle
  rw [hregistered]
  cases channel.isDisposable <;> cases h.isRegistered room <;> simp [hdraining]

/-- A room that is listed leaves the map when its channel is to be given up. -/
theorem Sound.settle_eq (hs : h.Sound) {place : Nat} {room : Room} (channel : Channel)
    (hroom : h.rooms[place]? = some room) (hdraining : room.draining = false) :
    (h.settle place { room with channel }).1 =
      { h with
        rooms := h.rooms.set place { room with channel, draining := channel.isDisposable }
        live := if channel.isDisposable then h.live.erase room.key else h.live } := by
  rw [House.settle_eq channel hdraining, hs.isRegistered hroom hdraining, Bool.and_true]

/-! ## Working off a request -/

/-- The room behind a handle, unless it is draining. -/
def worker? (h : House) (handle : Handle) : Option Room :=
  (h.room? handle).filter fun room => !room.draining

theorem worker?_eq_some_iff {handle : Handle} {room : Room} :
    h.worker? handle = some room ↔ h.room? handle = some room ∧ room.draining = false := by
  rw [worker?, Option.filter_eq_some_iff, Bool.not_eq_true']

theorem serve_idle {α : Type} {handle : Handle} (hworker : h.worker? handle = none)
    (work : Channel → Throttle × Turn α) : h.serve handle work = ⟨h, none, []⟩ := by
  unfold serve
  split
  next => rfl
  next room hroom =>
    have hdraining : room.draining = true := by simpa [worker?, hroom] using hworker
    rw [if_pos hdraining]

theorem serve_worker {α : Type} {handle : Handle} {room : Room}
    (hworker : h.worker? handle = some room) (work : Channel → Throttle × Turn α) :
    h.serve handle work =
      ⟨({ h with throttle := (work room.channel).1 }.settle handle.place
          { room with channel := (work room.channel).2.channel }).1,
        some (work room.channel).2.answer,
        (work room.channel).2.events ++
          ({ h with throttle := (work room.channel).1 }.settle handle.place
            { room with channel := (work room.channel).2.channel }).2⟩ := by
  obtain ⟨hroom, hdraining⟩ := worker?_eq_some_iff.mp hworker
  simp [serve, hroom, hdraining]

/-- Two rooms that are not draining have different keys. -/
theorem Sound.place_eq (hs : h.Sound) {i j : Nat} {room room' : Room}
    (hroom : h.rooms[i]? = some room) (hdraining : room.draining = false)
    (hroom' : h.rooms[j]? = some room') (hdraining' : room'.draining = false)
    (hkey : room.key = room'.key) : i = j := by
  have hi := hs.listed i room hroom hdraining
  rw [hkey, hs.listed j room' hroom' hdraining'] at hi
  exact (congrArg Handle.place (Option.some.inj hi)).symm

theorem Sound.settle (hs : h.Sound) {place : Nat} {room : Room} {channel : Channel}
    (hroom : h.rooms[place]? = some room) (hdraining : room.draining = false)
    (hname : channel.name = room.channel.name) :
    (h.settle place { room with channel }).1.Sound := by
  have hlen : place < h.rooms.length := (List.getElem?_eq_some_iff.mp hroom).1
  rw [hs.settle_eq channel hroom hdraining]
  refine ⟨hs.standing, ?_, ?_, ?_, ?_⟩
  · intro i room' hroom'
    rcases getElem?_set_cases hroom' with ⟨rfl, rfl⟩ | ⟨_, hroom'⟩
    · exact hs.numbered place room hroom
    · exact hs.numbered i room' hroom'
  · intro i room' hroom'
    rcases getElem?_set_cases hroom' with ⟨rfl, rfl⟩ | ⟨_, hroom'⟩
    · exact (congrArg Text.lowercase hname).trans (hs.keyed place room hroom)
    · exact hs.keyed i room' hroom'
  · intro i room' hroom' hdraining'
    dsimp only
    rcases getElem?_set_cases hroom' with ⟨rfl, rfl⟩ | ⟨hne, hroom'⟩
    · dsimp only at hdraining' ⊢
      rw [if_neg (by simp [hdraining']), hname]
      exact hs.listed place room hroom hdraining
    · have hkey : room'.key ≠ room.key :=
        fun he => hne (hs.place_eq hroom hdraining hroom' hdraining' he.symm)
      split
      next => rw [Dict.find?_erase, if_neg hkey]; exact hs.listed i room' hroom' hdraining'
      next => exact hs.listed i room' hroom' hdraining'
  · intro key handle hlive
    have hold : h.live.find? key = some handle ∧
        (channel.isDisposable = true → key ≠ room.key) := by
      dsimp only at hlive
      split at hlive
      next =>
        rw [Dict.find?_erase] at hlive
        split at hlive
        next => cases hlive
        next hne => exact ⟨hlive, fun _ => hne⟩
      next hd => exact ⟨hlive, fun hd' => absurd hd' hd⟩
    obtain ⟨room', hroom', hdraining', rfl⟩ := hs.live_room key handle hold.1
    rw [House.room?, List.getElem?_set]
    split
    next he =>
      subst he
      obtain rfl : room' = room := Option.some.inj (hroom'.symm.trans hroom)
      refine ⟨_, rfl, ?_, rfl⟩
      exact Bool.eq_false_iff.mpr fun hd => hold.2 hd rfl
    next => exact ⟨room', hroom', hdraining', rfl⟩

end House

namespace Registry

/-- One step, with the number of the room that works off a request in it, if one does. -/
inductive Step (r : Registry) : Option Nat → Registry → Prop
  | budgeted (throttle : Throttle) : Step r none { r with house := { r.house with throttle } }
  | opened (name : String) (hnew : r.find? name = none) :
      Step r none (r.openAt (Text.lowercase name) (r.freshChannel name)).1
  | served (place : Nat) (room : Room) (channel : Channel) (throttle : Throttle)
      (hroom : r.house.rooms[place]? = some room) (hdraining : room.draining = false)
      (hnext : room.channel.Next r.house.policy channel) :
      Step r (some room.number)
        { r with house :=
            ({ r.house with throttle }.settle place { room with channel }).1 }

/-- Steps one after the other, with the numbers of the rooms that work in them. -/
inductive Steps : Registry → List Nat → Registry → Prop
  | refl (r) : Steps r [] r
  | cons {r r' r'' number numbers} (hstep : Step r number r') (hsteps : Steps r' numbers r'') :
      Steps r (number.toList ++ numbers) r''

/-- The house is sound and the catalog is kept by lowercase name. -/
structure Sound (r : Registry) : Prop where
  house : r.house.Sound
  catalog : ∀ key e, r.catalog.find? key = some e → Text.lowercase e.name = key

variable {r r' r'' : Registry} {number : Option Nat} {numbers numbers' : List Nat}

theorem Steps.trans (h : Steps r numbers r') (h' : Steps r' numbers' r'') :
    Steps r (numbers ++ numbers') r'' := by
  induction h with
  | refl => exact h'
  | cons hstep _ ih =>
    rw [List.append_assoc]
    exact .cons hstep (ih h')

theorem Step.steps (h : Step r number r') : Steps r number.toList r' := by
  have hs := Steps.cons h (.refl r')
  rwa [List.append_nil] at hs

/-- What every step keeps is kept by steps one after the other. -/
theorem Steps.invariant {P : Registry → Prop} (hP : ∀ r number r', Step r number r' → P r → P r')
    (h : Steps r numbers r') (hr : P r) : P r' := by
  induction h with
  | refl => exact hr
  | cons hstep _ ih => exact ih (hP _ _ _ hstep hr)

/-- A channel is opened under the key of its own name. -/
theorem Sound.key_freshChannel (hs : r.Sound) (name : String) :
    Text.lowercase (r.freshChannel name).name = Text.lowercase name := by
  unfold freshChannel
  split
  next e he => exact hs.catalog _ e he
  next => rfl

theorem openAt_house (hstanding : r.house.shut = false) (key : String) (channel : Channel) :
    (r.openAt key channel).1.house =
      { r.house with
        rooms := r.house.rooms ++ [⟨channel, key, r.house.rooms.length + 1, false⟩]
        live := r.house.live.insert key
          ⟨r.house.rooms.length, channel.name, r.house.rooms.length + 1⟩ } := by
  simp [openAt, House.openRoom, House.register, hstanding]

theorem find?_openAt (hstanding : r.house.shut = false) (key : String) (channel : Channel) :
    (r.openAt key channel).1.house.live.find? key = some (r.openAt key channel).2 := by
  rw [openAt_house hstanding]
  exact Dict.find?_insert_self _ _ _

theorem room?_openAt (hstanding : r.house.shut = false) (key : String) (channel : Channel) :
    (r.openAt key channel).1.house.room? (r.openAt key channel).2 =
      some ⟨channel, key, r.house.rooms.length + 1, false⟩ := by
  rw [openAt_house hstanding]
  exact List.getElem?_concat_length

theorem openAt_sound (hs : r.house.Sound) {key : String} {channel : Channel}
    (hnew : r.house.live.find? key = none) (hkey : Text.lowercase channel.name = key) :
    (r.openAt key channel).1.house.Sound := by
  rw [openAt_house hs.standing]
  refine ⟨hs.standing, ?_, ?_, ?_, ?_⟩
  · intro i room hroom
    rcases getElem?_concat_cases hroom with ⟨_, hroom⟩ | ⟨rfl, rfl⟩
    · exact hs.numbered i room hroom
    · rfl
  · intro i room hroom
    rcases getElem?_concat_cases hroom with ⟨_, hroom⟩ | ⟨rfl, rfl⟩
    · exact hs.keyed i room hroom
    · exact hkey
  · intro i room hroom hdraining
    rw [Dict.find?_insert]
    rcases getElem?_concat_cases hroom with ⟨_, hroom⟩ | ⟨rfl, rfl⟩
    · have hlisted := hs.listed i room hroom hdraining
      have hne : room.key ≠ key := by
        rintro rfl
        cases hnew.symm.trans hlisted
      rw [if_neg hne, hlisted]
    · exact if_pos rfl
  · intro key' handle hlive
    rw [Dict.find?_insert] at hlive
    split at hlive
    next he =>
      cases hlive
      exact ⟨_, List.getElem?_concat_length, rfl, he.symm⟩
    next =>
      obtain ⟨room, hroom, hdraining, hk⟩ := hs.live_room key' handle hlive
      refine ⟨room, ?_, hdraining, hk⟩
      exact (List.getElem?_append_left (List.getElem?_eq_some_iff.mp hroom).1).trans hroom

theorem Step.sound (h : Step r number r') (hs : r.Sound) : r'.Sound := by
  cases h with
  | budgeted throttle => exact ⟨hs.house.budgeted throttle, hs.catalog⟩
  | opened name hnew =>
    exact ⟨openAt_sound hs.house hnew (hs.key_freshChannel name), hs.catalog⟩
  | served place room channel throttle hroom hdraining hnext =>
    exact ⟨(hs.house.budgeted throttle).settle hroom hdraining hnext.name_eq, hs.catalog⟩

theorem Steps.sound (h : Steps r numbers r') (hs : r.Sound) : r'.Sound :=
  h.invariant (fun _ _ _ hstep => hstep.sound) hs

end Registry
end ChatChannels
