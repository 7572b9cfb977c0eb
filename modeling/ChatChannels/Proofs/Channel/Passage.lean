import ChatChannels.Proofs.Channel.Run

/-! Who comes to a channel and who goes. Commands that join, leave or kick change who is there, by
the one player that they are about, and nothing else does: ownership, roles, bans and conversions
leave the players as they are and in their order. -/
namespace ChatChannels

inductive Passage where
  | arrival (player : PlayerId)
  | departure (player : PlayerId)
deriving DecidableEq

namespace Passage

def player : Passage → PlayerId
  | .arrival q | .departure q => q

/-- Whoever comes is last from then on. -/
def follow (present : List PlayerId) : Passage → List PlayerId
  | .arrival q => present.erase q ++ [q]
  | .departure q => present.erase q

end Passage

/-- Who comes or goes by a command, given how it is answered. A kick or ban is about the player who
is found by the name in it. -/
def Command.passage? (command : Command) (w : World) (actor : Player) : Answer → Option Passage
  | .error _ => none
  | .ok _ =>
    match command with
    | .join _ => some (.arrival actor.id)
    | .leave _ => some (.departure actor.id)
    | .expel name _ => (w.directory.findByName name).map fun target => .departure target.id
    | _ => none

namespace Channel

variable {p : Policy} {w : World} {c : Channel} {actor : Player} {command : Command}

/-! ## What leaves the players as they are -/

theorem adopt_players (player : PlayerId) :
    (c.adopt w player).channel.roster.players = c.roster.players := by
  unfold adopt
  split <;> simp

theorem inherit_players (wasOwner : Bool) :
    (c.inherit w wasOwner).channel.roster.players = c.roster.players := by
  unfold Channel.inherit succeed
  split <;> simp

theorem convert_players (wantStatic explicit : Bool) :
    (c.convert p w wantStatic explicit).channel.roster.players = c.roster.players := by
  rcases c.convert_cases p w wantStatic explicit with h | ⟨_, _, h⟩ | ⟨_, _, h⟩ <;> rw [h]
  · rw [becomeStatic_channel]
    simp
  · unfold becomeDynamic
    split <;> simp

/-! ## Commands -/

/-- Whoever joins, leaves or kicks is refused or gets it done. -/
theorem passage?_still (h : command.isUtterance ∨ command.mayIdle) (answer : Answer) :
    command.passage? w actor answer = none := by
  cases answer with
  | error cause => rfl
  | ok outcome =>
    cases command with
    | join | leave | expel => rcases h with h | h <;> cases h
    | _ => rfl

theorem admitted_players (h : c.contains actor.id = false) :
    (c.admitted p w actor).roster.players = c.roster.players ++ [actor.id] := by
  rw [admitted, convert_players, adopt_players, Roster.players_insert]
  exact if_neg (Bool.eq_false_iff.mp h)

theorem without_players (bans : Bans) (player : PlayerId) (wasOwner : Bool) :
    (c.without w bans player wasOwner).roster.players = c.roster.players.erase player := by
  rw [without, inherit_players, Roster.players_remove]

/-- The players on a channel after a command, by who came or went. -/
theorem Effect.players {turn : Turn Answer} (h : c.Effect p w actor command turn) :
    turn.channel.roster.players =
      (command.passage? w actor turn.answer).elim c.roster.players
        (Passage.follow c.roster.players) := by
  cases h with
  | refused cause hcause => rfl
  | idle hkind =>
    rw [passage?_still (.inr hkind)]
    rfl
  | uttered events hkind =>
    rw [passage?_still (.inl hkind)]
    rfl
  | joined password events hjoin =>
    obtain ⟨hnew, _⟩ := not_member_of_joinRefusal hjoin
    have hout : actor.id ∉ c.roster.players :=
      fun hmem => Bool.false_ne_true (hnew.symm.trans ((Roster.contains_iff_mem _ _).mpr hmem))
    dsimp only [Command.passage?, Option.elim, Passage.follow]
    rw [admitted_players hnew, List.erase_of_not_mem hout]
  | left notify role events hrole => exact without_players _ _ _
  | expelled name ban target events hmod htarget hact =>
    obtain ⟨htarget, _⟩ := Option.filter_eq_some_iff.mp htarget
    dsimp only [Command.passage?]
    rw [without_players, htarget]
    rfl
  | modeSet name mode on target events hmod htarget hmember hfaction howner hchange =>
    exact c.roster.players_update _ _
  | ownerSet name target events hmember hclass hright htarget hfaction =>
    exact c.roster.players_transfer _ _
  | _ => rfl

variable (p w c actor command) in
theorem execute_players (t : Throttle) :
    (c.execute p w t actor command).channel.roster.players =
      (command.passage? w actor (c.execute p w t actor command).answer).elim c.roster.players
        (Passage.follow c.roster.players) := by
  rw [execute_channel, execute_answer]
  exact (c.perform_effect p w actor t command).players

end Channel
end ChatChannels
