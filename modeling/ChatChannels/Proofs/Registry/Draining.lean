import ChatChannels.Proofs.Registry.Step
import Mathlib.Data.List.Induction

/-! Rooms around one map in sessions of any kind. Rooms are opened with any channel, key and number,
and their handles are put into the map at any key, also over others; the map may be given up, and
policy and budgets may be others from one request to the next. Whatever is sent to the rooms in
whatever order, a room drains once, by the request that leaves its channel to be given up, and takes
along no entry but its own. -/
namespace ChatChannels

theorem Channel.isDisposable_iff (c : Channel) :
    c.isDisposable ↔ c.roster.players = [] ∧ c.id = 0 ∧ c.isStatic = false := by
  simp [isDisposable, isPublic, isBuiltIn, Roster.isEmpty_iff, and_comm, and_assoc]

namespace House

inductive Act where
  | openRoom (channel : Channel) (key : String) (number : Nat)
  | register (key : String) (handle : Handle)
  | giveUp
  | govern (policy : Policy) (throttle : Throttle)
  | command (w : World) (handle : Handle) (actor : Player) (command : Command)
  | convert (w : World) (handle : Handle) (wantStatic : Bool)
  | look (handle : Handle)

def act (h : House) : Act → House
  | .openRoom channel key number => (h.openRoom channel key number).1
  | .register key handle => h.register key handle
  | .giveUp => h.giveUp
  | .govern policy throttle => { h with policy, throttle }
  | .command w handle actor command => (h.command w handle actor command).state
  | .convert w handle wantStatic => (h.setStatic w handle wantStatic).state
  | .look _ => h

def after (h : House) (acts : List Act) : House := acts.foldl act h

/-- The room at a place works off a command or a request to convert, which leaves it the channel. -/
inductive Processes (h : House) : Act → Nat → Room → Channel → Prop
  | command {handle : Handle} {room : Room} (hworker : h.worker? handle = some room) (w : World)
      (actor : Player) (command : Command) :
      Processes h (.command w handle actor command) handle.place room
        (room.channel.execute h.policy w h.throttle actor command).channel
  | convert {handle : Handle} {room : Room} (hworker : h.worker? handle = some room) (w : World)
      (wantStatic : Bool) :
      Processes h (.convert w handle wantStatic) handle.place room
        (room.channel.convert h.policy w wantStatic true).channel

/-- The room works off a request that leaves nobody on its channel, which is neither built in nor
static. -/
def Drains (h : House) (a : Act) (place : Nat) (room : Room) : Prop :=
  ∃ c, h.Processes a place room c ∧ c.roster.players = [] ∧ c.id = 0 ∧ c.isStatic = false

/-- A room that drains takes the entry along: the key is the room's, and so is the number in it. -/
def Removes (h : House) (a : Act) (key : String) (entry : Handle) : Prop :=
  ∃ place room, h.Drains a place room ∧ room.key = key ∧ room.number = entry.number

variable {h : House} {a : Act} {place : Nat} {room : Room} {c : Channel} {key : String}

theorem after_concat (h : House) (acts : List Act) (a : Act) :
    h.after (acts ++ [a]) = (h.after acts).act a := by
  rw [after, List.foldl_append]
  rfl

/-! ## One act -/

theorem Processes.worker (hp : h.Processes a place room c) :
    h.rooms[place]? = some room ∧ room.draining = false := by
  cases hp with
  | command hworker => exact worker?_eq_some_iff.mp hworker
  | convert hworker => exact worker?_eq_some_iff.mp hworker

theorem Processes.unique {place' : Nat} {room' : Room} {c' : Channel}
    (hp : h.Processes a place room c) (hp' : h.Processes a place' room' c') :
    place = place' ∧ room = room' ∧ c = c' := by
  cases hp with
  | command hworker =>
    cases hp' with
    | command hworker' =>
      obtain rfl := Option.some.inj (hworker.symm.trans hworker')
      exact ⟨rfl, rfl, rfl⟩
  | convert hworker =>
    cases hp' with
    | convert hworker' =>
      obtain rfl := Option.some.inj (hworker.symm.trans hworker')
      exact ⟨rfl, rfl, rfl⟩

theorem Processes.drains_iff (hp : h.Processes a place room c) {place' : Nat} {room' : Room} :
    h.Drains a place' room' ↔ place' = place ∧ room' = room ∧ c.isDisposable := by
  rw [Channel.isDisposable_iff]
  constructor
  · rintro ⟨c', hp', hempty⟩
    obtain ⟨rfl, rfl, rfl⟩ := hp.unique hp'
    exact ⟨rfl, rfl, hempty⟩
  · rintro ⟨rfl, rfl, hempty⟩
    exact ⟨c, hp, hempty⟩

theorem serve_state {α : Type} {handle : Handle} (hworker : h.worker? handle = some room)
    (work : Channel → Throttle × Turn α) :
    (h.serve handle work).state =
      { h with
        throttle := (work room.channel).1
        rooms := h.rooms.set handle.place { room with
          channel := (work room.channel).2.channel
          draining := (work room.channel).2.channel.isDisposable }
        live := if (work room.channel).2.channel.isDisposable && h.isRegistered room then
          h.live.erase room.key else h.live } := by
  rw [serve_worker hworker]
  exact settle_eq _ (worker?_eq_some_iff.mp hworker).2

/-- What an act makes of rooms and map. -/
inductive Step (h : House) : Act → House → Prop
  | opened (channel : Channel) (key : String) (number : Nat) :
      Step h (.openRoom channel key number) { h with rooms := h.rooms ++ [{ channel, key, number }] }
  | registered (key : String) (handle : Handle) (hstanding : h.shut = false) :
      Step h (.register key handle) { h with live := h.live.insert key handle }
  | tooLate (key : String) (handle : Handle) (hshut : h.shut = true) : Step h (.register key handle) h
  | gaveUp : Step h .giveUp { h with live := ∅, shut := true }
  | governed (policy : Policy) (throttle : Throttle) :
      Step h (.govern policy throttle) { h with policy, throttle }
  | worked {a : Act} {place : Nat} {room : Room} {c : Channel} (hp : h.Processes a place room c)
      (throttle : Throttle) :
      Step h a { h with
        throttle
        rooms := h.rooms.set place { room with channel := c, draining := c.isDisposable }
        live := if c.isDisposable && h.isRegistered room then h.live.erase room.key else h.live }
  | idle {a : Act} (hidle : ∀ place room c, ¬h.Processes a place room c)
      (hother : ∀ key handle, a ≠ .register key handle) : Step h a h

theorem step_act (h : House) (a : Act) : h.Step a (h.act a) := by
  cases a with
  | openRoom channel key number => exact .opened channel key number
  | register key handle =>
    cases hshut : h.shut with
    | true =>
      have hact : h.act (.register key handle) = h := by simp [act, House.register, hshut]
      rw [hact]
      exact .tooLate key handle hshut
    | false =>
      have hact : h.act (.register key handle) = { h with live := h.live.insert key handle } := by
        simp [act, House.register, hshut]
      rw [hact]
      exact .registered key handle hshut
  | giveUp => exact .gaveUp
  | govern policy throttle => exact .governed policy throttle
  | command w handle actor command =>
    cases hworker : h.worker? handle with
    | some room =>
      rw [act, House.command]
      dsimp only
      rw [serve_state hworker]
      exact .worked (.command hworker w actor command) _
    | none =>
      rw [act, House.command, serve_idle hworker]
      refine .idle (fun place room c hp => ?_) fun _ _ he => (by cases he)
      cases hp with
      | command hworker' => cases hworker.symm.trans hworker'
  | convert w handle wantStatic =>
    cases hworker : h.worker? handle with
    | some room =>
      rw [act, House.setStatic]
      dsimp only
      rw [serve_state hworker]
      exact .worked (.convert hworker w wantStatic) _
    | none =>
      rw [act, House.setStatic, serve_idle hworker]
      refine .idle (fun place room c hp => ?_) fun _ _ he => (by cases he)
      cases hp with
      | convert hworker' => cases hworker.symm.trans hworker'
  | look handle =>
    refine .idle (fun place room c hp => ?_) fun _ _ he => (by cases he)
    cases hp

/-! ## Rooms -/

variable {h' : House}

theorem Step.room_kept (hstep : h.Step a h') (hroom : h.rooms[place]? = some room) :
    (∃ c, h.Processes a place room c ∧
        h'.rooms[place]? = some { room with channel := c, draining := c.isDisposable }) ∨
      (∀ room' c, ¬h.Processes a place room' c) ∧ h'.rooms[place]? = some room := by
  have hlen := (List.getElem?_eq_some_iff.mp hroom).1
  cases hstep with
  | opened channel key number =>
    exact .inr ⟨fun _ _ hp => (by cases hp), (List.getElem?_append_left hlen).trans hroom⟩
  | registered | tooLate | gaveUp | governed => exact .inr ⟨fun _ _ hp => (by cases hp), hroom⟩
  | idle hidle => exact .inr ⟨hidle place, hroom⟩
  | worked hp throttle =>
    rename_i place' worker c
    by_cases hplace : place' = place
    · subst hplace
      obtain rfl : room = worker := Option.some.inj (hroom.symm.trans hp.worker.1)
      exact .inl ⟨c, hp, List.getElem?_set_self hlen⟩
    · refine .inr ⟨fun room' c' hp' => hplace (hp.unique hp').1, ?_⟩
      exact (List.getElem?_set_ne hplace).trans hroom

/-- A new room is not draining. -/
theorem Step.room_new (hstep : h.Step a h') (hnone : h.rooms[place]? = none)
    (hroom : h'.rooms[place]? = some room) : room.draining = false := by
  cases hstep with
  | opened channel key number =>
    rcases getElem?_concat_cases hroom with ⟨_, hroom⟩ | ⟨_, rfl⟩
    · cases hnone.symm.trans hroom
    · rfl
  | registered | tooLate | gaveUp | governed | idle => cases hnone.symm.trans hroom
  | worked hp throttle =>
    rcases getElem?_set_cases hroom with ⟨rfl, _⟩ | ⟨_, hroom⟩
    · cases hnone.symm.trans hp.worker.1
    · cases hnone.symm.trans hroom

/-- The room at a place is draining after an act if it was before, or if it drains by the act. -/
theorem Step.draining_iff (hstep : h.Step a h') :
    (∃ room, h'.rooms[place]? = some room ∧ room.draining) ↔
      (∃ room, h.rooms[place]? = some room ∧ room.draining) ∨ ∃ room, h.Drains a place room := by
  cases hroom : h.rooms[place]? with
  | none =>
    have hdrains : ∀ room, ¬h.Drains a place room :=
      fun room ⟨c, hp, _⟩ => (by cases hroom.symm.trans hp.worker.1)
    constructor
    · rintro ⟨room, hroom', hdraining⟩
      cases (hstep.room_new hroom hroom').symm.trans hdraining
    · rintro (⟨room, hroom', _⟩ | ⟨room, hd⟩)
      · cases hroom'
      · exact absurd hd (hdrains room)
  | some room =>
    simp only [Option.some.injEq, exists_eq_left']
    rcases hstep.room_kept hroom with ⟨c, hp, hroom'⟩ | ⟨hidle, hroom'⟩
    · rw [hroom']
      simp only [Option.some.injEq, exists_eq_left', hp.worker.2, hp.drains_iff]
      simp
    · rw [hroom']
      simp only [Option.some.injEq, exists_eq_left']
      exact (or_iff_left fun ⟨room', c, hp, _⟩ => hidle room' c hp).symm

/-! ## The map -/

theorem Processes.removes_iff (hp : h.Processes a place room c) {entry : Handle} :
    h.Removes a key entry ↔ c.isDisposable ∧ room.key = key ∧ room.number = entry.number := by
  constructor
  · rintro ⟨place', room', hdrains, hown⟩
    obtain ⟨_, rfl, hdisposable⟩ := hp.drains_iff.mp hdrains
    exact ⟨hdisposable, hown⟩
  · rintro ⟨hdisposable, hown⟩
    exact ⟨place, room, hp.drains_iff.mpr ⟨rfl, rfl, hdisposable⟩, hown⟩

theorem not_removes (hidle : ∀ place room c, ¬h.Processes a place room c) {entry : Handle} :
    ¬h.Removes a key entry :=
  fun ⟨place, room, ⟨c, hp, _⟩, _⟩ => hidle place room c hp

theorem isRegistered_iff :
    h.isRegistered room ↔ ∃ entry, h.live.find? room.key = some entry ∧ entry.number = room.number := by
  simp [isRegistered, Option.any_eq_true]

/-- An entry outlasts a room that may go unless it is the room's own. -/
theorem find?_released {disposable : Bool} {entry : Handle} :
    (if disposable && h.isRegistered room then h.live.erase room.key else h.live).find? key =
        some entry ↔
      h.live.find? key = some entry ∧
        ¬(disposable ∧ room.key = key ∧ room.number = entry.number) := by
  split
  next hgone =>
    obtain ⟨hdisposable, hregistered⟩ := Bool.and_eq_true_iff.mp hgone
    obtain ⟨own, hown, hnumber⟩ := isRegistered_iff.mp hregistered
    rw [Dict.find?_erase]
    by_cases hkey : key = room.key
    · subst hkey
      rw [if_pos rfl, hown]
      refine iff_of_false (by simp) ?_
      rintro ⟨hentry, hother⟩
      obtain rfl := Option.some.inj hentry
      exact hother ⟨hdisposable, rfl, hnumber.symm⟩
    · rw [if_neg hkey]
      exact (and_iff_left fun hown => hkey hown.2.1.symm).symm
  next hstays =>
    refine (and_iff_left_of_imp fun hentry hown => hstays ?_).symm
    obtain ⟨hdisposable, rfl, hnumber⟩ := hown
    exact Bool.and_eq_true_iff.mpr ⟨hdisposable, isRegistered_iff.mpr ⟨entry, hentry, hnumber.symm⟩⟩

/-- While there is a map, it holds what an act puts into it and, at all other keys, what it held
before, but for the entry that a room takes along. -/
theorem Step.find?_live_iff (hstep : h.Step a h') (hstanding : h'.shut = false) {entry : Handle} :
    h'.live.find? key = some entry ↔
      a = .register key entry ∨
        (∀ handle, a ≠ .register key handle) ∧ h.live.find? key = some entry ∧
          ¬h.Removes a key entry := by
  cases hstep with
  | opened channel key' number =>
    have hremoves : ¬h.Removes (.openRoom channel key' number) key entry :=
      not_removes fun _ _ _ hp => (by cases hp)
    simp [hremoves]
  | registered key' handle =>
    have hremoves : ¬h.Removes (.register key' handle) key entry :=
      not_removes fun _ _ _ hp => (by cases hp)
    rw [Dict.find?_insert]
    by_cases hkey : key = key'
    · subst hkey
      simp
    · simp [hkey, Ne.symm hkey, hremoves]
  | tooLate key' handle hshut => cases hshut.symm.trans hstanding
  | gaveUp => cases hstanding
  | governed policy throttle =>
    have hremoves : ¬h.Removes (.govern policy throttle) key entry :=
      not_removes fun _ _ _ hp => (by cases hp)
    simp [hremoves]
  | idle hidle hother =>
    simp [hother, not_removes hidle]
  | worked hp throttle =>
    rename_i place room c
    have hother : ∀ handle, a ≠ .register key handle := by
      rintro handle rfl
      cases hp
    simp only [hother, ne_eq, not_false_eq_true, implies_true, true_and, false_or]
    rw [find?_released, hp.removes_iff]

/-! ## Sessions -/

/-- A room that is draining stays as it is, whatever comes after. -/
theorem draining_after (hroom : h.rooms[place]? = some room) (hdraining : room.draining)
    (acts : List Act) : (h.after acts).rooms[place]? = some room := by
  induction acts generalizing h with
  | nil => exact hroom
  | cons a rest ih =>
    rcases (h.step_act a).room_kept hroom with ⟨c, hp, _⟩ | ⟨_, hroom'⟩
    · cases hp.worker.2.symm.trans hdraining
    · exact ih hroom'

/-- At some time of a session the room at a place drained. -/
def HasDrained (start : House) (acts : List Act) (place : Nat) : Prop :=
  ∃ before a room, before ++ [a] <+: acts ∧ (start.after before).Drains a place room

theorem hasDrained_concat {start : House} {acts : List Act} {a : Act} :
    HasDrained start (acts ++ [a]) place ↔
      HasDrained start acts place ∨ ∃ room, (start.after acts).Drains a place room := by
  constructor
  · rintro ⟨before, b, room, hbefore, hdrains⟩
    rcases List.prefix_concat_iff.mp hbefore with he | hbefore
    · obtain ⟨rfl, hb⟩ := List.append_inj' he rfl
      obtain rfl := List.head_eq_of_cons_eq hb
      exact .inr ⟨room, hdrains⟩
    · exact .inl ⟨before, b, room, hbefore, hdrains⟩
  · rintro (⟨before, b, room, hbefore, hdrains⟩ | ⟨room, hdrains⟩)
    · exact ⟨before, b, room, hbefore.trans (List.prefix_append _ _), hdrains⟩
    · exact ⟨acts, a, room, List.prefix_refl _, hdrains⟩

/-- From an empty house, exactly the rooms that have drained are draining. -/
theorem draining_iff_hasDrained {start : House} (hempty : start.rooms = []) (acts : List Act) :
    (∃ room, (start.after acts).rooms[place]? = some room ∧ room.draining) ↔
      HasDrained start acts place := by
  induction acts using List.reverseRecOn with
  | nil =>
    refine iff_of_false ?_ ?_
    · rintro ⟨room, hroom, _⟩
      rw [after, List.foldl_nil, hempty] at hroom
      cases hroom
    · rintro ⟨before, a, room, hbefore, _⟩
      simp at hbefore
  | append_singleton acts a ih =>
    rw [after_concat, ((start.after acts).step_act a).draining_iff, ih, hasDrained_concat]

/-- An act leaves a room that works off a request with the channel it makes, draining if that is to be
given up, and all other rooms alone. While there is a map, an entry vanishes exactly if a room drains
that it is the own entry of, and all entries are put there by the act or have been there untouched. -/
structure Orderly (h : House) (a : Act) : Prop where
  worked : ∀ place room c, h.Processes a place room c →
    (h.act a).rooms[place]? = some { room with channel := c, draining := c.isDisposable }
  untouched : ∀ place room, h.rooms[place]? = some room →
    (∀ room' c, ¬h.Processes a place room' c) → (h.act a).rooms[place]? = some room
  vanished : (h.act a).shut = false → ∀ key entry, h.live.find? key = some entry →
    ((h.act a).live.find? key = none ↔ h.Removes a key entry)
  listed : (h.act a).shut = false → ∀ key entry, (h.act a).live.find? key = some entry ↔
    a = .register key entry ∨
      (∀ handle, a ≠ .register key handle) ∧ h.live.find? key = some entry ∧ ¬h.Removes a key entry

theorem orderly (h : House) (a : Act) : h.Orderly a where
  worked place room c hp := by
    rcases (h.step_act a).room_kept hp.worker.1 with ⟨c', hp', hroom⟩ | ⟨hidle, _⟩
    · rw [hroom, (hp.unique hp').2.2]
    · exact absurd hp (hidle room c)
  untouched place room hroom hidle := by
    rcases (h.step_act a).room_kept hroom with ⟨c, hp, _⟩ | ⟨_, hroom'⟩
    · exact absurd hp (hidle room c)
    · exact hroom'
  listed hstanding key entry := (h.step_act a).find?_live_iff hstanding
  vanished hstanding key entry hentry := by
    have hlisted : ∀ e, (h.act a).live.find? key = some e ↔ _ :=
      fun e => (h.step_act a).find?_live_iff hstanding
    constructor
    · intro hnone
      by_cases hremoves : h.Removes a key entry
      · exact hremoves
      · have hput : ∀ handle, a ≠ .register key handle :=
          fun handle he => (by cases hnone.symm.trans ((hlisted handle).mpr (.inl he)))
        cases hnone.symm.trans ((hlisted entry).mpr (.inr ⟨hput, hentry, hremoves⟩))
    · intro hremoves
      rw [Option.eq_none_iff_forall_ne_some]
      intro e he
      rcases (hlisted e).mp he with rfl | ⟨_, hold, hkept⟩
      · obtain ⟨_, _, ⟨_, hp, _⟩, _⟩ := hremoves
        cases hp
      · obtain rfl := Option.some.inj (hentry.symm.trans hold)
        exact hkept hremoves

/-- In every session that starts from an empty house, exactly the rooms drain that work off a request
which leaves their channel empty and neither built in nor static. They stay as they are from then on,
and every act is orderly. -/
theorem rooms_drain_once (policy : Policy) (throttle : Throttle) (acts : List Act) :
    let start : House := { policy, throttle }
    let h := start.after acts
    (∀ place : Nat, (∃ room, h.rooms[place]? = some room ∧ room.draining) ↔
        HasDrained start acts place) ∧
      (∀ (place : Nat) (room : Room), h.rooms[place]? = some room → room.draining →
        ∀ later, (h.after later).rooms[place]? = some room) ∧
      ∀ a, h.Orderly a := by
  intro start h
  exact ⟨fun place => draining_iff_hasDrained rfl acts,
    fun place room hroom hdraining => draining_after hroom hdraining, fun a => h.orderly a⟩

/-- Two rooms share a key, and the second has taken the entry of the first. The entry outlasts the
first room and goes with the second. -/
theorem rooms_drain_once_replaced :
    let ann : Player := { id := ⟨1⟩, name := "Ann" }
    let w : World := { directory := (∅ : Directory).insert ann }
    let first : Handle := ⟨0, "test", 1⟩
    let second : Handle := ⟨1, "TEST", 2⟩
    let visit (handle : Handle) : List Act :=
      [.command w handle ann (.join none), .command w handle ann (.leave false)]
    let start : House := { policy := .ofConfig {}, throttle := {} }
    let acts : List Act := [.openRoom (.custom "test") "test" 1, .register "test" first,
      .openRoom (.custom "TEST") "test" 2, .register "test" second] ++ visit first
    let h := start.after acts
    HasDrained start acts 0 ∧ ¬HasDrained start acts 1 ∧ h.live.find? "test" = some second ∧
      (h.after (visit second)).live.find? "test" = none := by
  intro ann w first second visit start acts h
  have hdraining := (rooms_drain_once (.ofConfig {}) {} acts).1
  have hfirst : (h.rooms[0]?).any Room.draining := by decide +kernel
  have hsecond : (h.rooms[1]?).any Room.draining = false := by decide +kernel
  refine ⟨(hdraining 0).mp ?_, fun hdrained => ?_, by decide +kernel, by decide +kernel⟩
  · exact (Option.any_eq_true _ _).mp hfirst
  · have hany := (Option.any_eq_true _ _).mpr ((hdraining 1).mpr hdrained)
    cases hsecond.symm.trans hany

end House
end ChatChannels
