import ChatChannels.Proofs.Registry.Step

/-! What can be asked of a registry, by name or through a handle held from before, and runs of such
requests. Each request comes down to steps, in which exactly the rooms that it attends to work. -/
namespace ChatChannels

inductive Request where
  | join (actor : Player) (name : String) (password : Option String)
  | execute (actor : Player) (name : String) (command : Command)
  | setStatic (name : String) (wantStatic : Bool)
  | look (name : String)
  | findOrOpen (name : String)
  | partAll (actor : Player)

inductive Response where
  | answered (a : Answer)
  | converted (changed : Bool)
  | shown (c : Option Channel)
  /-- The display name of the channel that was found or opened. -/
  | found (name : String)
  | parted (count : Nat)

def Reply.map {σ α β : Type} (f : α → β) (r : Reply σ α) : Reply σ β :=
  ⟨r.state, f r.answer, r.events⟩

/-- Requests made one after the other, each amid what surrounds it then: the responses, each with
what is delivered on the way, and the state at the end. -/
def transcript {σ : Type} (serve : World → σ → Request → Reply σ Response) (s : σ) :
    List (World × Request) → List (Response × List (PlayerId × Message)) × σ
  | [] => ([], s)
  | (w, request) :: rest =>
    let reply := serve w s request
    let others := transcript serve reply.state rest
    ((reply.answer, Event.deliveries reply.events) :: others.1, others.2)

/-- A request by name, or one through a handle that may be held from long before. Budgets of speech
change by requests only: no time passes between moves, in which a token might come back. -/
inductive Move where
  | request (request : Request)
  | command (handle : Handle) (actor : Player) (command : Command)
  | convert (handle : Handle) (wantStatic : Bool)

/-- The number of the room behind a handle, if it works off what it is given. -/
def House.attending (h : House) (handle : Handle) : List Nat :=
  (h.worker? handle).toList.map Room.number

theorem Command.join_or_other (command : Command) :
    (∃ password, command = .join password) ∨ ∀ password, command ≠ .join password := by
  cases command with
  | join password => exact .inl ⟨password, rfl⟩
  | _ => exact .inr fun _ h => by cases h

namespace Registry

def serve (w : World) (r : Registry) : Request → Reply Registry Response
  | .join actor name password => (r.join w actor name password).map .answered
  | .execute actor name command => (r.execute w actor name command).map .answered
  | .setStatic name wantStatic => (r.setStatic w name wantStatic).map .converted
  | .look name => ⟨r, .shown (r.channel? name), []⟩
  | .findOrOpen name => (r.findOrOpen name).map fun handle => .found handle.name
  | .partAll actor => (r.partAll w actor).map .parted

def move (w : World) (r : Registry) : Move → Registry
  | .request request => (r.serve w request).state
  | .command handle actor command => (r.commandVia w handle actor command).state
  | .convert handle wantStatic => (r.setStaticVia w handle wantStatic).state

/-! ## The rooms that work -/

variable (w : World) (r : Registry)

def attendingNamed (name : String) : List Nat :=
  match r.find? name with
  | none => []
  | some handle => r.house.attending handle

def attendingJoin (name : String) : List Nat :=
  if !r.isValidName name then []
  else
    let found := r.findOrOpen name
    found.state.house.attending found.answer

def attendingPart (actor : Player) : List Handle → Registry → List Nat
  | [], _ => []
  | handle :: rest, r =>
    r.house.attending handle ++
      attendingPart actor rest (r.commandVia w handle actor (.leave false)).state

/-- The numbers of the rooms that work off something in a request, in order. -/
def attendingRequest : Request → List Nat
  | .join _ name _ | .execute _ name (.join _) => r.attendingJoin name
  | .execute _ name _ | .setStatic name _ => r.attendingNamed name
  | .look _ | .findOrOpen _ => []
  | .partAll actor => attendingPart w actor r.handles r

def attending : Move → List Nat
  | .request request => r.attendingRequest w request
  | .command handle _ _ | .convert handle _ => r.house.attending handle

/-! ## Runs -/

/-- Moves made one after the other, each amid what surrounds it then. The clock stands still all along,
unlike in a run of `Scene.Act` or `House.Act`, where `surround` and `govern` bring in any budgets. -/
def run (r : Registry) : List (World × Move) → Registry
  | [] => r
  | (w, m) :: rest => run (r.move w m) rest

/-- The numbers of the rooms that have worked off something in a run. -/
def attended (r : Registry) : List (World × Move) → List Nat
  | [] => []
  | (w, m) :: rest => r.attending w m ++ attended (r.move w m) rest

/-! ## Requests as steps -/

theorem commandVia_idle {handle : Handle} (hworker : r.house.worker? handle = none)
    (actor : Player) (command : Command) :
    r.commandVia w handle actor command = ⟨r, .error .draining, []⟩ := by
  rw [commandVia, House.command, House.serve_idle hworker]
  rfl

theorem commandVia_worker {handle : Handle} {room : Room}
    (hworker : r.house.worker? handle = some room) (actor : Player) (command : Command) :
    let turn := room.channel.execute r.house.policy w r.house.throttle actor command
    let settled := { r.house with
      throttle := room.channel.throttleAfter r.house.throttle actor command }.settle handle.place
        { room with channel := turn.channel }
    r.commandVia w handle actor command =
      ⟨{ r with house := settled.1 }, turn.answer, turn.events ++ settled.2⟩ := by
  rw [commandVia, House.command, House.serve_worker hworker]
  rfl

theorem setStaticVia_idle {handle : Handle} (hworker : r.house.worker? handle = none)
    (wantStatic : Bool) : r.setStaticVia w handle wantStatic = ⟨r, .error .draining, []⟩ := by
  rw [setStaticVia, House.setStatic, House.serve_idle hworker]
  rfl

theorem setStaticVia_worker {handle : Handle} {room : Room}
    (hworker : r.house.worker? handle = some room) (wantStatic : Bool) :
    let turn := room.channel.convert r.house.policy w wantStatic true
    let settled := { r.house with throttle := r.house.throttle }.settle handle.place
      { room with channel := turn.channel }
    r.setStaticVia w handle wantStatic =
      ⟨{ r with house := settled.1 }, .ok turn.answer, turn.events ++ settled.2⟩ := by
  rw [setStaticVia, House.setStatic, House.serve_worker hworker]
  rfl

theorem commandVia_steps (handle : Handle) (actor : Player) (command : Command) :
    r.Steps (r.house.attending handle) (r.commandVia w handle actor command).state := by
  cases hworker : r.house.worker? handle with
  | none =>
    rw [r.commandVia_idle w hworker, House.attending, hworker]
    exact .refl r
  | some room =>
    obtain ⟨hroom, hdraining⟩ := House.worker?_eq_some_iff.mp hworker
    rw [r.commandVia_worker w hworker, House.attending, hworker]
    exact (Step.served handle.place room _ _ hroom hdraining (.command w _ actor command)).steps

theorem setStaticVia_steps (handle : Handle) (wantStatic : Bool) :
    r.Steps (r.house.attending handle) (r.setStaticVia w handle wantStatic).state := by
  cases hworker : r.house.worker? handle with
  | none =>
    rw [r.setStaticVia_idle w hworker, House.attending, hworker]
    exact .refl r
  | some room =>
    obtain ⟨hroom, hdraining⟩ := House.worker?_eq_some_iff.mp hworker
    rw [r.setStaticVia_worker w hworker, House.attending, hworker]
    exact (Step.served handle.place room _ _ hroom hdraining (.convert w wantStatic true)).steps

theorem findOrOpen_steps (name : String) : r.Steps [] (r.findOrOpen name).state := by
  unfold findOrOpen
  split
  next => exact .refl r
  next hnew => exact (Step.opened name hnew).steps

/-! ## Rooms in the map

No room that is found by name is draining, so a join is never tried twice and a command by name is
never answered for a room that is about to go. -/

variable {r}

theorem Sound.exists_worker (hs : r.Sound) {key : String} {handle : Handle}
    (hlive : r.house.live.find? key = some handle) :
    ∃ room, r.house.worker? handle = some room ∧ room.key = key := by
  obtain ⟨room, hroom, hdraining, hkey⟩ := hs.house.live_room key handle hlive
  exact ⟨room, House.worker?_eq_some_iff.mpr ⟨hroom, hdraining⟩, hkey⟩

theorem Sound.commandVia_not_draining (hs : r.Sound) {key : String} {handle : Handle}
    (hlive : r.house.live.find? key = some handle) (actor : Player) (command : Command) :
    (r.commandVia w handle actor command).answer ≠ .error .draining := by
  obtain ⟨room, hworker, _⟩ := hs.exists_worker hlive
  rw [r.commandVia_worker w hworker]
  exact (room.channel.perform_effect r.house.policy w actor r.house.throttle command).not_draining

theorem Sound.findOrOpen_live (hs : r.Sound) (name : String) :
    (r.findOrOpen name).state.Sound ∧
      (r.findOrOpen name).state.house.live.find? (Text.lowercase name) =
        some (r.findOrOpen name).answer := by
  refine ⟨(r.findOrOpen_steps name).sound hs, ?_⟩
  unfold findOrOpen
  split
  next hfind => exact hfind
  next => exact find?_openAt hs.house.standing _ _

/-- The first attempt at a join is the last. -/
theorem Sound.join_eq (hs : r.Sound) (actor : Player) (name : String) (password : Option String) :
    r.join w actor name password =
      if !r.isValidName name then r.refuse actor name .notify .invalidName
      else
        let found := r.findOrOpen name
        let reply := found.state.commandVia w found.answer actor (.join password)
        { reply with events := found.events ++ reply.events } := by
  obtain ⟨hs', hlive⟩ := hs.findOrOpen_live name
  have hanswer := hs'.commandVia_not_draining w hlive actor (.join password)
  unfold join
  split
  next => rfl
  next =>
    rw [joinAttempts, tryJoin]
    dsimp only
    split
    next hdraining => exact absurd hdraining hanswer
    next => rfl

theorem Sound.execute_eq (hs : r.Sound) {command : Command}
    (hcommand : ∀ password, command ≠ .join password) (actor : Player) (name : String) :
    r.execute w actor name command =
      match r.find? name with
      | none => r.refuse actor name command.report .notMember
      | some handle => r.commandVia w handle actor command := by
  unfold execute
  split
  next password => exact absurd rfl (hcommand password)
  next =>
    cases hfind : r.find? name with
    | none => rfl
    | some handle =>
      have hanswer := hs.commandVia_not_draining w hfind actor command
      dsimp only
      split
      next hdraining => exact absurd hdraining hanswer
      next => rfl

/-! ## Requests by name as steps -/

theorem Sound.join_steps (hs : r.Sound) (actor : Player) (name : String)
    (password : Option String) :
    r.Steps (r.attendingJoin name) (r.join w actor name password).state := by
  rw [hs.join_eq w]
  unfold attendingJoin
  split
  next => exact .refl r
  next => exact (r.findOrOpen_steps name).trans (commandVia_steps w _ _ actor _)

theorem Sound.execute_steps (hs : r.Sound) (actor : Player) (name : String) (command : Command) :
    r.Steps (r.attendingRequest w (.execute actor name command))
      (r.execute w actor name command).state := by
  rcases command.join_or_other with ⟨password, rfl⟩ | hjoin
  · exact hs.join_steps w actor name password
  · have hattending : r.attendingRequest w (.execute actor name command) = r.attendingNamed name := by
      cases command with
      | join password => exact absurd rfl (hjoin password)
      | _ => rfl
    rw [hs.execute_eq w hjoin, hattending, attendingNamed]
    split
    next => exact .refl r
    next handle hfind => exact r.commandVia_steps w handle actor command

variable (r)

theorem setStatic_steps (name : String) (wantStatic : Bool) :
    r.Steps (r.attendingNamed name) (r.setStatic w name wantStatic).state := by
  unfold setStatic attendingNamed
  cases r.find? name with
  | none => exact .refl r
  | some handle => exact r.setStaticVia_steps w handle wantStatic

theorem part_steps (actor : Player) (handles : List Handle) :
    r.Steps (attendingPart w actor handles r) (part w actor handles r).state := by
  induction handles generalizing r with
  | nil => exact .refl r
  | cons handle rest ih => exact (r.commandVia_steps w handle actor (.leave false)).trans (ih _)

variable {r}

/-- Whatever is asked of a registry, the rooms that work in it are those it attends to. -/
theorem Sound.move_steps (hs : r.Sound) (m : Move) : r.Steps (r.attending w m) (r.move w m) := by
  cases m with
  | command handle actor command => exact r.commandVia_steps w handle actor command
  | convert handle wantStatic => exact r.setStaticVia_steps w handle wantStatic
  | request request =>
    cases request with
    | join actor name password => exact hs.join_steps w actor name password
    | execute actor name command => exact hs.execute_steps w actor name command
    | setStatic name wantStatic => exact r.setStatic_steps w name wantStatic
    | look name => exact .refl r
    | findOrOpen name => exact r.findOrOpen_steps name
    | partAll actor =>
      have hforget : (part w actor r.handles r).state.Steps [] (r.partAll w actor).state :=
        (Step.budgeted _).steps
      have hsteps := (r.part_steps w actor r.handles).trans hforget
      rwa [List.append_nil] at hsteps

theorem Sound.run_steps (hs : r.Sound) (moves : List (World × Move)) :
    r.Steps (r.attended moves) (r.run moves) := by
  induction moves generalizing r with
  | nil => exact .refl r
  | cons first rest ih =>
    obtain ⟨w, m⟩ := first
    have hstep := hs.move_steps w m
    exact hstep.trans (ih (hstep.sound hs))

end Registry
end ChatChannels
