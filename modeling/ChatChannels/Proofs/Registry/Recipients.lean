import ChatChannels.Proofs.Channel.Audience
import ChatChannels.Proofs.Registry.Refinement

/-! To whom a registry delivers. What a room lets out goes out under its channel's name, to players
online. What the registry refuses by itself it reports to the actor without asking who is online, so
an actor who is not may be sent a notice. -/
namespace ChatChannels

open Event (deliveries Within)

/-- All that is delivered goes to players online. -/
def World.Reaches (w : World) (events : List Event) : Prop := Within (fun q _ => w.isOnline q) events

/-- All that is delivered goes out under one name, to players online. -/
def World.ReachesUnder (w : World) (name : String) (events : List Event) : Prop :=
  Within (fun q m => w.isOnline q ∧ m.channel = name) events

theorem World.ReachesUnder.reaches {w : World} {name : String} {events : List Event}
    (h : w.ReachesUnder name events) : w.Reaches events := Within.mono h fun _ _ => And.left

namespace Registry

/-- Whether the registry refuses a request by itself, and in words, although the actor is not
online. -/
def refusesUnseen (w : World) (r : Registry) : Request → Bool
  | .join actor name _ | .execute actor name (.join _) =>
    !w.isOnline actor.id && !r.isValidName name
  | .execute actor name command =>
    !w.isOnline actor.id && (r.find? name).isNone && command.report = .notify
  | _ => false

variable {w : World} {r : Registry} {actor : Player} {name : String} {command : Command}

theorem run_orderly (c : Config) (moves : List (World × Move)) : ((ofConfig c).run moves).Orderly :=
  ((ofConfig_spec c).1.run_steps moves).orderly (ofConfig_orderly c)

/-! ## What rooms let out -/

theorem deliveries_commandVia {handle : Handle} {room : Room}
    (hworker : r.house.worker? handle = some room) (w : World) (actor : Player)
    (command : Command) :
    deliveries (r.commandVia w handle actor command).events =
      deliveries (room.channel.perform r.house.policy w r.house.throttle actor command).events := by
  rw [r.commandVia_worker w hworker]
  dsimp only
  rw [Event.deliveries_append, House.deliveries_settle, List.append_nil, Channel.deliveries_execute]

theorem deliveries_setStaticVia {handle : Handle} {room : Room}
    (hworker : r.house.worker? handle = some room) (w : World) (wantStatic : Bool) :
    deliveries (r.setStaticVia w handle wantStatic).events =
      deliveries (room.channel.convert r.house.policy w wantStatic true).events := by
  rw [r.setStaticVia_worker w hworker]
  dsimp only
  rw [Event.deliveries_append, House.deliveries_settle, List.append_nil]

theorem Orderly.commandVia_reachesUnder (hr : r.Orderly) {handle : Handle} {room : Room}
    (hworker : r.house.worker? handle = some room) (w : World) (actor : Player)
    (command : Command) :
    w.ReachesUnder room.channel.name (r.commandVia w handle actor command).events := by
  obtain ⟨hroom, hdraining⟩ := House.worker?_eq_some_iff.mp hworker
  have hdistinct := (hr.room_sound hroom hdraining).distinct
  intro q m hmem
  rw [deliveries_commandVia hworker] at hmem
  obtain ⟨hname, honline, _⟩ := Channel.perform_proper hdistinct r.house.throttle command q m hmem
  exact ⟨honline, hname⟩

theorem Orderly.commandVia_reaches (hr : r.Orderly) (w : World) (handle : Handle) (actor : Player)
    (command : Command) : w.Reaches (r.commandVia w handle actor command).events := by
  cases hworker : r.house.worker? handle with
  | none =>
    rw [r.commandVia_idle w hworker]
    exact .nil
  | some room => exact (hr.commandVia_reachesUnder hworker w actor command).reaches

theorem setStaticVia_reaches (w : World) (r : Registry) (handle : Handle) (wantStatic : Bool) :
    w.Reaches (r.setStaticVia w handle wantStatic).events := by
  cases hworker : r.house.worker? handle with
  | none =>
    rw [r.setStaticVia_idle w hworker]
    exact .nil
  | some room =>
    intro q m hmem
    rw [deliveries_setStaticVia hworker] at hmem
    exact (Channel.internal_convert wantStatic true q m hmem).1

/-! ## Requests -/

/-- A refusal by the registry reaches an actor online, and is silent or has no words for another. -/
theorem reaches_refuse_iff {report : Report} {cause : Refusal} :
    w.Reaches (r.refuse actor name report cause).events ↔
      w.isOnline actor.id ∨ report = .silent ∨ cause.notice? name = none := by
  unfold refuse
  cases report with
  | silent => exact ⟨fun _ => .inr (.inl rfl), fun _ => .nil⟩
  | notify =>
    cases cause.notice? name with
    | none => exact ⟨fun _ => .inr (.inr rfl), fun _ => .nil⟩
    | some notice =>
      constructor
      · exact fun h => .inl (h actor.id (.notice notice) List.mem_cons_self)
      · rintro (honline | hsilent | hnone) q m hmem
        · cases List.mem_singleton.mp hmem
          exact honline
        · cases hsilent
        · cases hnone

theorem findOrOpen_reaches (w : World) (r : Registry) (name : String) :
    w.Reaches (r.findOrOpen name).events := by
  unfold findOrOpen
  split
  next => exact .nil
  next => exact Within.nil

theorem Orderly.join_reaches_iff (hr : r.Orderly) (password : Option String) :
    w.Reaches (r.join w actor name password).events ↔
      (!w.isOnline actor.id && !r.isValidName name) = false := by
  rw [hr.join_eq w]
  split
  next hinvalid =>
    rw [reaches_refuse_iff, hinvalid]
    simp [Refusal.notice?, Refusal.noticeBody?]
  next hvalid =>
    have hr' := (r.findOrOpen_steps name).orderly hr
    rw [Bool.eq_false_iff.mpr hvalid, Bool.and_false]
    exact iff_of_true
      (Within.append (r.findOrOpen_reaches w name) (hr'.commandVia_reaches w _ actor _)) rfl

theorem Orderly.execute_reaches_iff (hr : r.Orderly)
    (hcommand : ∀ password, command ≠ .join password) :
    w.Reaches (r.execute w actor name command).events ↔
      (!w.isOnline actor.id && (r.find? name).isNone && command.report = .notify) = false := by
  rw [hr.execute_eq w hcommand]
  cases r.find? name with
  | none =>
    rw [reaches_refuse_iff]
    cases command.report <;> simp [Refusal.notice?, Refusal.noticeBody?]
  | some handle =>
    rw [Option.isNone_some, Bool.and_false, Bool.false_and]
    exact iff_of_true (hr.commandVia_reaches w handle actor command) rfl

theorem setStatic_reaches (w : World) (r : Registry) (name : String) (wantStatic : Bool) :
    w.Reaches (r.setStatic w name wantStatic).events := by
  unfold setStatic
  split
  next => exact .nil
  next handle _ => exact r.setStaticVia_reaches w handle wantStatic

theorem Orderly.part_reaches (hr : r.Orderly) (w : World) (actor : Player)
    (handles : List Handle) : w.Reaches (part w actor handles r).events := by
  induction handles generalizing r with
  | nil => exact .nil
  | cons handle rest ih =>
    have hr' := (r.commandVia_steps w handle actor (.leave false)).orderly hr
    exact Within.append (hr.commandVia_reaches w handle actor (.leave false)) (ih hr')

theorem Orderly.serve_reaches_iff (hr : r.Orderly) (w : World) (request : Request) :
    w.Reaches (r.serve w request).events ↔ r.refusesUnseen w request = false := by
  cases request with
  | join actor name password => exact hr.join_reaches_iff password
  | execute actor name command =>
    cases command with
    | join password => exact hr.join_reaches_iff password
    | _ => exact hr.execute_reaches_iff fun _ => Command.noConfusion
  | setStatic name wantStatic => exact iff_of_true (r.setStatic_reaches w name wantStatic) rfl
  | look name => exact iff_of_true .nil rfl
  | findOrOpen name => exact iff_of_true (r.findOrOpen_reaches w name) rfl
  | partAll actor => exact iff_of_true (hr.part_reaches w actor r.handles) rfl

/-- Whatever is asked of a registry after any run, all that is delivered goes to players online,
unless the registry itself refuses an actor who is not. -/
theorem recipients_online_iff (c : Config) (moves : List (World × Move)) (w : World)
    (request : Request) :
    let r := (ofConfig c).run moves
    (∀ d ∈ deliveries (r.serve w request).events, w.isOnline d.1) ↔
      r.refusesUnseen w request = false := by
  intro r
  rw [← (run_orderly c moves).serve_reaches_iff w request]
  exact ⟨fun h q m hmem => h (q, m) hmem, fun h d hmem => h d.1 d.2 hmem⟩

/-- A player who is not online is told that a name is invalid, and that they are not on a channel
that does not exist. -/
theorem offline_actor_notified :
    let ghost : Player := { id := ⟨7⟩, name := "Ghost" }
    let r := (ofConfig {}).run []
    (∅ : World).isOnline ghost.id = false ∧
      deliveries (r.serve ∅ (.join ghost "" none)).events =
        [(ghost.id, .notice ⟨"", .invalidName⟩)] ∧
      deliveries (r.serve ∅ (.execute ghost "nowhere" .list)).events =
        [(ghost.id, .notice ⟨"nowhere", .notMember⟩)] :=
  ⟨rfl, rfl, rfl⟩

end Registry
end ChatChannels
