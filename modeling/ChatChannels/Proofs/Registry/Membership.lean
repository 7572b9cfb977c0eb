import ChatChannels.Proofs.Channel.Passage
import ChatChannels.Proofs.Registry.Channels
import ChatChannels.Proofs.Registry.Request

/-! Membership across a whole run. Every request is recorded by who came to which key and who went
from it, as the answers tell. Who is on the channel at a key, and in which order, is what the record
of that key says, whichever rooms the channel has lived in meanwhile. -/
namespace ChatChannels

/-! ## Records of passages -/

namespace Passage

/-- The last time that a player came or went. -/
def latest? (q : PlayerId) (passages : List Passage) : Option Passage :=
  (passages.filter fun x => x.player = q).getLast?

/-- The players whose last passage is an arrival, in the order of these arrivals. -/
def present : List Passage → List PlayerId
  | [] => []
  | .arrival q :: rest => if latest? q rest = none then q :: present rest else present rest
  | .departure _ :: rest => present rest

variable (q : PlayerId) (passages : List Passage)

theorem latest?_cons (x : Passage) :
    latest? q (x :: passages) =
      if x.player = q then some ((latest? q passages).getD x) else latest? q passages := by
  unfold latest?
  split
  next h => rw [List.filter_cons_of_pos (by simpa using h), List.getLast?_cons]
  next h => rw [List.filter_cons_of_neg (by simpa using h)]

theorem latest?_cons_eq_none_iff (x : Passage) :
    latest? q (x :: passages) = none ↔ q ≠ x.player ∧ latest? q passages = none := by
  rw [latest?_cons]
  by_cases h : x.player = q
  · simp [h]
  · simp [h, Ne.symm h]

theorem mem_present_iff : q ∈ present passages ↔ latest? q passages = some (.arrival q) := by
  induction passages with
  | nil => simp [present, latest?]
  | cons x rest ih =>
    rw [latest?_cons]
    cases x with
    | departure a =>
      rw [present, ih]
      by_cases h : a = q
      · cases latest? q rest <;> simp [player, h]
      · simp [player, h]
    | arrival a =>
      unfold present
      by_cases h : a = q
      · subst h
        cases hlatest : latest? a rest <;> simp_all [player]
      · split <;> simp [player, h, Ne.symm h, ih]

/-- Whoever was there and has not passed since comes first. -/
theorem foldl_follow {start : List PlayerId} (hstart : start.Nodup) :
    passages.foldl follow start =
      (start.filter fun q => latest? q passages = none) ++ present passages := by
  induction passages generalizing start with
  | nil => exact ((List.append_nil _).trans (List.filter_eq_self.mpr fun _ _ => rfl)).symm
  | cons x rest ih =>
    -- whoever passes leaves their place, and comes last again if they arrive
    have hothers : (start.erase x.player).filter (fun q => latest? q rest = none) =
        start.filter fun q => latest? q (x :: rest) = none := by
      rw [hstart.erase_eq_filter, List.filter_filter]
      congr 1
      funext q
      by_cases h : q = x.player <;> simp [latest?_cons_eq_none_iff, h]
    rw [List.foldl_cons, ← hothers]
    cases x with
    | departure a => exact ih (hstart.erase a)
    | arrival a =>
      have hnew : (start.erase a ++ [a]).Nodup := by
        refine List.nodup_append.mpr ⟨hstart.erase a, by simp, ?_⟩
        rintro b hb _ ha rfl
        exact hstart.not_mem_erase (List.mem_singleton.mp ha ▸ hb)
      rw [follow, ih hnew, List.filter_append, List.append_assoc, present]
      congr 1
      by_cases h : latest? a rest = none <;> simp [h]

end Passage

/-- The passages at one key, out of a record of passages at any. -/
def passagesAt (key : String) (record : List (String × Passage)) : List Passage :=
  record.filterMap fun e => if e.1 = key then some e.2 else none

theorem passagesAt_append (key : String) (first second : List (String × Passage)) :
    passagesAt key (first ++ second) = passagesAt key first ++ passagesAt key second :=
  List.filterMap_append

/-- One passage changes who is present at its own key only. -/
theorem foldl_passagesAt (key key' : String) (passage : Option Passage) (start : List PlayerId) :
    (passagesAt key (passage.toList.map (Prod.mk key'))).foldl Passage.follow start =
      if key = key' then passage.elim start (Passage.follow start) else start := by
  cases passage with
  | none => exact (ite_self start).symm
  | some x => by_cases h : key = key' <;> simp [passagesAt, h, Ne.symm]

namespace Registry

/-! ## What is recorded of a run -/

section

variable (w : World) (r : Registry)

/-- A command by name is recorded at the key of the name. -/
def passageNamed (actor : Player) (name : String) (command : Command) : List (String × Passage) :=
  (command.passage? w actor (r.execute w actor name command).answer).toList.map
    (Prod.mk (Text.lowercase name))

/-- A command through a handle is recorded at the key of the channel behind the handle. -/
def passageVia (handle : Handle) (actor : Player) (command : Command) : List (String × Passage) :=
  (r.house.channel? handle).toList.flatMap fun c =>
    (command.passage? w actor (r.commandVia w handle actor command).answer).toList.map
      (Prod.mk (Text.lowercase c.name))

def passagesPart (actor : Player) : List Handle → Registry → List (String × Passage)
  | [], _ => []
  | handle :: rest, r =>
    r.passageVia w handle actor (.leave false) ++
      passagesPart actor rest (r.commandVia w handle actor (.leave false)).state

/-- Who comes and goes by a move, and where, in order. -/
def passages : Move → List (String × Passage)
  | .request (.join actor name password) => r.passageNamed w actor name (.join password)
  | .request (.execute actor name command) => r.passageNamed w actor name command
  | .request (.partAll actor) => passagesPart w actor r.handles r
  | .command handle actor command => r.passageVia w handle actor command
  | _ => []

end

def record (r : Registry) : List (World × Move) → List (String × Passage)
  | [] => []
  | (w, m) :: rest => r.passages w m ++ record (r.move w m) rest

/-- The players on the channel that is registered at a key, in order. -/
def membersAt (r : Registry) (key : String) : List PlayerId :=
  ((r.house.live.find? key).bind r.house.channel?).elim [] fun c => c.roster.players

/-- The members at every key change as a record of passages says. -/
def Follows (r : Registry) (record : List (String × Passage)) (r' : Registry) : Prop :=
  ∀ key, r'.membersAt key = (passagesAt key record).foldl Passage.follow (r.membersAt key)

variable {r r' r'' : Registry} {first second : List (String × Passage)}

theorem Follows.idle (h : ∀ key, r'.membersAt key = r.membersAt key) : r.Follows [] r' := h

theorem Follows.trans (h : r.Follows first r') (h' : r'.Follows second r'') :
    r.Follows (first ++ second) r'' := by
  intro key
  rw [h' key, h key, passagesAt_append, List.foldl_append]

/-! ## One room at work -/

theorem membersAt_eq (key : String) :
    r.membersAt key = (r.house.channels.find? key).elim [] fun c => c.roster.players := by
  rw [membersAt, House.find?_channels]

theorem Sound.membersAt_room (hs : r.Sound) {place : Nat} {room : Room}
    (hroom : r.house.rooms[place]? = some room) (hdraining : room.draining = false) :
    r.membersAt room.key = room.channel.roster.players := by
  rw [membersAt, hs.house.listed place room hroom hdraining, Option.bind_some, House.channel?,
    House.room?, hroom]
  rfl

/-- A channel that is given up has no members left. -/
theorem Sound.membersAt_settle (hs : r.Sound) {place : Nat} {room : Room} {channel : Channel}
    (hroom : r.house.rooms[place]? = some room) (hdraining : room.draining = false)
    (hname : channel.name = room.channel.name) (throttle : Throttle) (key : String) :
    membersAt { r with
        house := ({ r.house with throttle }.settle place { room with channel }).1 } key =
      if key = room.key then channel.roster.players else r.membersAt key := by
  have hchannels := (hs.house.budgeted throttle).channels_settle hroom hdraining hname
  rw [membersAt_eq, membersAt_eq, hchannels]
  split
  next hdisposable =>
    have hempty : channel.roster.players = [] := by
      rw [← Roster.isEmpty_iff]
      exact (Bool.and_eq_true_iff.mp hdisposable).2
    rw [Dict.find?_erase, hempty]
    split <;> rfl
  next =>
    rw [Dict.find?_insert]
    split <;> rfl

/-- A room that works off a command changes the members at its own key as the answer says. One that
is draining changes nothing. -/
theorem Sound.commandVia_follows (hs : r.Sound) (w : World) (handle : Handle) (actor : Player)
    (command : Command) :
    r.Follows (r.passageVia w handle actor command) (r.commandVia w handle actor command).state := by
  intro key
  unfold passageVia
  cases hworker : r.house.worker? handle with
  | none =>
    rw [r.commandVia_idle w hworker]
    cases r.house.channel? handle <;> rfl
  | some room =>
    obtain ⟨hroom, hdraining⟩ := House.worker?_eq_some_iff.mp hworker
    have hnext : room.channel.Next r.house.policy _ := .command w r.house.throttle actor command
    rw [r.commandVia_worker w hworker, House.channel?_of_room? hroom,
      hs.membersAt_settle hroom hdraining hnext.name_eq, Option.toList_some, List.flatMap_singleton,
      foldl_passagesAt, hs.house.keyed handle.place room hroom]
    split
    next h =>
      rw [h, hs.membersAt_room hroom hdraining]
      exact room.channel.execute_players r.house.policy w actor command r.house.throttle
    next => rfl

theorem Sound.setStaticVia_follows (hs : r.Sound) (w : World) (handle : Handle)
    (wantStatic : Bool) : r.Follows [] (r.setStaticVia w handle wantStatic).state := by
  apply Follows.idle
  intro key
  cases hworker : r.house.worker? handle with
  | none => rw [r.setStaticVia_idle w hworker]
  | some room =>
    obtain ⟨hroom, hdraining⟩ := House.worker?_eq_some_iff.mp hworker
    have hnext : room.channel.Next r.house.policy _ := .convert w wantStatic true
    rw [r.setStaticVia_worker w hworker, hs.membersAt_settle hroom hdraining hnext.name_eq]
    split
    next h =>
      rw [h, hs.membersAt_room hroom hdraining]
      exact Channel.convert_players wantStatic true
    next => rfl

/-! ## Requests by name -/

/-- Nobody is on a channel that has just been opened. -/
theorem Sound.findOrOpen_follows (hs : r.Sound) (name : String) :
    r.Follows [] (r.findOrOpen name).state := by
  apply Follows.idle
  intro key
  unfold findOrOpen
  split
  next => rfl
  next hnew =>
    have hnone := hs.house.find?_channels_eq_none.mpr hnew
    rw [membersAt_eq, membersAt_eq, channels_openAt hs.house hnew (hs.key_freshChannel name),
      Dict.find?_insert]
    split
    next h =>
      rw [h, hnone]
      unfold freshChannel
      split <;> rfl
    next => rfl

/-- What is recorded of a command by name is what is recorded at the handle under that name. -/
theorem Sound.passageVia_eq (hs : r.Sound) (w : World) {key : String} {handle : Handle}
    (hlive : r.house.live.find? key = some handle) (actor : Player) (command : Command) :
    r.passageVia w handle actor command =
      (command.passage? w actor (r.commandVia w handle actor command).answer).toList.map
        (Prod.mk key) := by
  obtain ⟨room, hroom, _, hkey, _⟩ := hs.house.exists_room hlive
  rw [passageVia, House.channel?_of_room? hroom, Option.toList_some, List.flatMap_singleton,
    hs.house.keyed handle.place room hroom, hkey]

theorem Sound.join_follows (hs : r.Sound) (w : World) (actor : Player) (name : String)
    (password : Option String) :
    r.Follows
      (((Command.join password).passage? w actor (r.join w actor name password).answer).toList.map
        (Prod.mk (Text.lowercase name)))
      (r.join w actor name password).state := by
  rw [hs.join_eq w]
  split
  next => exact .idle fun _ => rfl
  next =>
    obtain ⟨hs', hlive⟩ := hs.findOrOpen_live name
    have hjoined := hs'.commandVia_follows w (r.findOrOpen name).answer actor (.join password)
    rw [hs'.passageVia_eq w hlive] at hjoined
    exact (hs.findOrOpen_follows name).trans hjoined

theorem Sound.execute_follows (hs : r.Sound) (w : World) (actor : Player) (name : String)
    (command : Command) :
    r.Follows (r.passageNamed w actor name command) (r.execute w actor name command).state := by
  rcases command.join_or_other with ⟨password, rfl⟩ | hjoin
  · exact hs.join_follows w actor name password
  · rw [passageNamed, hs.execute_eq w hjoin]
    split
    next => exact .idle fun _ => rfl
    next handle hlive =>
      rw [← hs.passageVia_eq w hlive]
      exact hs.commandVia_follows w handle actor command

theorem Sound.setStatic_follows (hs : r.Sound) (w : World) (name : String) (wantStatic : Bool) :
    r.Follows [] (r.setStatic w name wantStatic).state := by
  unfold setStatic
  split
  next => exact .idle fun _ => rfl
  next handle _ => exact hs.setStaticVia_follows w handle wantStatic

theorem Sound.part_follows (hs : r.Sound) (w : World) (actor : Player) (handles : List Handle) :
    r.Follows (passagesPart w actor handles r) (part w actor handles r).state := by
  induction handles generalizing r with
  | nil => exact .idle fun _ => rfl
  | cons handle rest ih =>
    have hs' := (r.commandVia_steps w handle actor (.leave false)).sound hs
    exact (hs.commandVia_follows w handle actor (.leave false)).trans (ih hs')

/-! ## Runs -/

theorem Sound.move_follows (hs : r.Sound) (w : World) (m : Move) :
    r.Follows (r.passages w m) (r.move w m) := by
  cases m with
  | command handle actor command => exact hs.commandVia_follows w handle actor command
  | convert handle wantStatic => exact hs.setStaticVia_follows w handle wantStatic
  | request request =>
    cases request with
    | join actor name password => exact hs.join_follows w actor name password
    | execute actor name command => exact hs.execute_follows w actor name command
    | setStatic name wantStatic => exact hs.setStatic_follows w name wantStatic
    | look name => exact .idle fun _ => rfl
    | findOrOpen name => exact hs.findOrOpen_follows name
    | partAll actor => exact hs.part_follows w actor r.handles

theorem Sound.run_follows (hs : r.Sound) (moves : List (World × Move)) :
    r.Follows (r.record moves) (r.run moves) := by
  induction moves generalizing r with
  | nil => exact .idle fun _ => rfl
  | cons first rest ih =>
    obtain ⟨w, m⟩ := first
    exact (hs.move_follows w m).trans (ih ((hs.move_steps w m).sound hs))

theorem membersAt_ofConfig (c : Config) (key : String) : (ofConfig c).membersAt key = [] := by
  obtain ⟨_, _, _, _, _, hchannels⟩ := ofConfig_spec c
  rw [membersAt_eq]
  cases hfind : (ofConfig c).house.channels.find? key with
  | none => rfl
  | some channel =>
    rw [Dict.find?_eq_some_iff, hchannels] at hfind
    obtain ⟨e, _, he⟩ := List.mem_map.mp hfind
    cases he
    rfl

/-- Whatever is asked of a registry, a player is on the channel at a key exactly if their last
passage there is an arrival, and the members are listed in the order of these arrivals. -/
theorem run_members (c : Config) (moves : List (World × Move)) (key : String) :
    (∀ q, q ∈ ((ofConfig c).run moves).membersAt key ↔
      Passage.latest? q (passagesAt key ((ofConfig c).record moves)) = some (.arrival q)) ∧
    ((ofConfig c).run moves).membersAt key =
      Passage.present (passagesAt key ((ofConfig c).record moves)) := by
  have hmembers : ((ofConfig c).run moves).membersAt key =
      Passage.present (passagesAt key ((ofConfig c).record moves)) := by
    rw [(ofConfig_spec c).1.run_follows moves key, membersAt_ofConfig,
      Passage.foldl_follow _ List.nodup_nil]
    rfl
  refine ⟨fun q => ?_, hmembers⟩
  rw [hmembers]
  exact Passage.mem_present_iff q _

/-- Both come back to a channel that has drained, one of them under another spelling. A handle to
the room of before leads nowhere any more. -/
example :
    let ann : Player := { id := ⟨1⟩, name := "Ann" }
    let bob : Player := { id := ⟨2⟩, name := "Bob" }
    let moves : List (World × Move) := [
      (∅, .request (.join ann "Raiders" none)),
      (∅, .request (.partAll ann)),
      (∅, .request (.join bob "RAIDERS" none)),
      (∅, .request (.join ann "raiders" none)),
      (∅, .command ⟨6, "Raiders", 7⟩ bob (.leave true))]
    ((ofConfig {}).run moves).membersAt "raiders" = [bob.id, ann.id] ∧
      passagesAt "raiders" ((ofConfig {}).record moves) =
        [.arrival ann.id, .departure ann.id, .arrival bob.id, .arrival ann.id] :=
  ⟨rfl, rfl⟩

end Registry
end ChatChannels
