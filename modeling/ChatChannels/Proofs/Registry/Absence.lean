import ChatChannels.Proofs.Channel.Refused
import ChatChannels.Proofs.Registry.Channels
import ChatChannels.Proofs.Registry.Request

/-! Channels that are not there. Whoever gives a command under a name that has no channel is answered
as any channel of that name answers those who are not on it. Only empty text gives the difference
away: a channel ignores it before it looks who is speaking. -/
namespace ChatChannels

/-- Text that is empty and to be ignored. -/
def Command.saysNothing : Command → Bool
  | .say text _ => text.isEmpty
  | _ => false

theorem Command.saysNothing_iff {command : Command} :
    command.saysNothing ↔ ∃ language, command = .say "" language := by
  cases command with
  | say text language => simp [saysNothing]
  | _ => simp [saysNothing]

namespace Channel

variable {p : Policy} {w : World} {t : Throttle} {c : Channel} {actor : Player}

theorem asModerator_outsider (hout : c.contains actor.id = false) (turn : Turn Answer) :
    c.asModerator w actor turn = c.reject w actor.id .notMember := by
  rw [asModerator, (Roster.role?_eq_none_iff _ _).mpr hout]

/-- Whoever is not on a channel gets nothing from it but the refusal. -/
theorem perform_outsider (hout : c.contains actor.id = false) {command : Command}
    (hcommand : ∀ password, command ≠ .join password) :
    c.perform p w t actor command =
      if command.saysNothing then c.unchanged
      else c.refuse w actor.id command.report .notMember := by
  have hrole : c.roster.role? actor.id = none := (Roster.role?_eq_none_iff _ _).mpr hout
  cases command with
  | join password => exact absurd rfl (hcommand password)
  | leave notify =>
    simp only [perform, leave, hrole]
    cases notify <;> rfl
  | expel | unban | setPassword | setMode | toggleAnnounce | toggleModerate =>
    exact asModerator_outsider hout _
  | setOwner name => simp [perform, changeOwner, hout, reject, Command.saysNothing, Command.report]
  | queryOwner => simp [perform, queryOwner, hout, reject, Command.saysNothing, Command.report]
  | list => simp [perform, list, hout, reject, Command.saysNothing, Command.report]
  | say text language =>
    simp only [perform, say, hrole]
    rfl
  | invite name => simp [perform, invite, hout, reject, Command.saysNothing, Command.report]

end Channel

namespace Registry

variable {w : World} {actor : Player}

/-- A registry refuses players online in the words of a channel. -/
theorem deliveries_refuse (r : Registry) (c : Channel) (honline : w.isOnline actor.id)
    (report : Report) (cause : Refusal) :
    Event.deliveries (r.refuse actor c.name report cause).events =
      Event.deliveries (c.refuse w actor.id report cause).events := by
  unfold refuse Channel.refuse Refusal.notice?
  cases report with
  | silent => rfl
  | notify =>
    cases cause.noticeBody? with
    | none => rfl
    | some body =>
      dsimp only [Option.map_some]
      rw [Channel.deliveries_tell, if_pos honline]
      rfl

/-- A command to a name that has no channel is answered as by a channel of that name that the actor
is not on, with the same deliveries, unless it says nothing. -/
theorem execute_missing (config : Config) (moves : List (World × Move)) (p : Policy) (t : Throttle)
    (c : Channel) (command : Command) (honline : w.isOnline actor.id)
    (hcommand : ∀ password, command ≠ .join password)
    (hmissing : ((ofConfig config).run moves).find? c.name = none)
    (hout : c.contains actor.id = false) :
    let reply := ((ofConfig config).run moves).execute w actor c.name command
    let turn := c.execute p w t actor command
    (reply.answer = turn.answer ∧ Event.deliveries reply.events = Event.deliveries turn.events) ↔
      ∀ language, command ≠ .say "" language := by
  intro reply turn
  have hsound := ((ofConfig_spec config).1.run_steps moves).sound (ofConfig_spec config).1
  have hreply : reply =
      ((ofConfig config).run moves).refuse actor c.name command.report .notMember := by
    have he := hsound.execute_eq w hcommand actor c.name
    rwa [hmissing] at he
  have hanswer : turn.answer = (c.perform p w t actor command).answer := c.execute_answer p w t _ _
  have hevents := Channel.deliveries_execute p w t c actor command
  rw [hreply, hanswer, hevents, Channel.perform_outsider hout hcommand,
    deliveries_refuse _ c honline]
  by_cases hnothing : command.saysNothing
  · obtain ⟨language, rfl⟩ := Command.saysNothing_iff.mp hnothing
    rw [if_pos hnothing]
    constructor
    · rintro ⟨hsame, _⟩
      cases hsame
    · exact fun hspeaks => absurd rfl (hspeaks language)
  · rw [if_neg hnothing]
    have hspeaks : ∀ language, command ≠ .say "" language :=
      fun language he => hnothing (Command.saysNothing_iff.mpr ⟨language, he⟩)
    exact ⟨fun _ => hspeaks, fun _ => ⟨rfl, rfl⟩⟩

/-- Ann joins and leaves again, and asks for a list of what is gone by then. -/
theorem execute_missing_given_up :
    let ann : Player := { id := ⟨1⟩, name := "Ann" }
    let w : World := { directory := (∅ : Directory).insert ann }
    let moves : List (World × Move) := [(w, .request (.join ann "Raiders" none)),
      (w, .request (.execute ann "raiders" (.leave true)))]
    let r := (ofConfig {}).run moves
    let c := Channel.custom "Raiders"
    (((ofConfig {}).attended moves).length = 2 ∧ w.isOnline ann.id) ∧
      r.find? c.name = none ∧ c.contains ann.id = false ∧
      (r.execute w ann c.name .list).answer = (c.execute (.ofConfig {}) w {} ann .list).answer ∧
      Event.deliveries (r.execute w ann c.name .list).events =
        Event.deliveries (c.execute (.ofConfig {}) w {} ann .list).events :=
  ⟨by decide, by decide, by decide,
    (execute_missing {} _ _ _ _ .list (by decide) (by simp) (by decide) (by decide)).mpr (by simp)⟩

/-- Empty text to a channel that is not there is refused, and to one that is there it is not. -/
theorem execute_missing_empty_text :
    let ann : Player := { id := ⟨1⟩, name := "Ann" }
    let w : World := { directory := (∅ : Directory).insert ann }
    let r := (ofConfig {}).run []
    let c := Channel.custom "nowhere"
    let command := Command.say "" .universal
    w.isOnline ann.id ∧ r.find? c.name = none ∧ c.contains ann.id = false ∧
      (r.execute w ann c.name command).answer = .error .notMember ∧
      Event.deliveries (r.execute w ann c.name command).events =
        [(ann.id, c.notice .notMember)] ∧
      (c.execute (.ofConfig {}) w {} ann command).answer = .ok .unchanged ∧
      Event.deliveries (c.execute (.ofConfig {}) w {} ann command).events = [] := by
  refine ⟨by decide, by decide, by decide, ?_, ?_, ?_, ?_⟩ <;> rfl

end Registry
end ChatChannels
