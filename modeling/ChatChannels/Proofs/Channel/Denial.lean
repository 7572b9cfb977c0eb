import ChatChannels.Proofs.Channel.Handover
import ChatChannels.Proofs.Directory

/-! Players of the other faction. Where factions are kept apart, whoever gives such a player a role
or the channel is answered as if nobody of that name were online. What is checked before that concerns
the actor alone, so the answer does not tell either whether the player is on the channel, in what
role, or banned from it. -/
namespace ChatChannels

/-- Commands that give the player of a name a standing. -/
inductive Command.Appoints (name : String) : Command → Prop
  | setMode (mode on) : Appoints name (.setMode name mode on)
  | setOwner : Appoints name (.setOwner name)

namespace Channel

variable {p : Policy} {w w' : World} {t : Throttle} {c c' : Channel} {actor target : Player}
  {name : String} {command : Command}

/-- Channels that are the same as far as a player's own standing goes. Others may be on one of them
and not on the other, in any role, as its owner or banned. -/
structure SameFor (actor : PlayerId) (c c' : Channel) : Prop where
  name : c'.name = c.name
  role : c'.roster.role? actor = c.roster.role? actor
  isPublic : c'.isPublic = c.isPublic
  owns : c'.owner = some actor ↔ c.owner = some actor

/-! ## What is checked of the actor -/

/-- The refusal of a moderator's command about somebody who is not found. -/
def moderatorRefusal (c : Channel) (actor : Player) (name : String) : Refusal :=
  match c.roster.role? actor.id with
  | none => .notMember
  | some role =>
    if Policy.canModerate role actor.security then .playerNotFound name else .notModerator

/-- The refusal of an owner's command about somebody who is not found. -/
def ownerRefusal (c : Channel) (actor : Player) (name : String) : Refusal :=
  if !c.contains actor.id then .notMember
  else if c.isPublic || (!actor.isGameMaster && c.owner ≠ some actor.id) then .notOwner
  else .playerNotFound name

/-- The refusal of a command that gives a standing to somebody who is not found. -/
def absenceRefusal (c : Channel) (actor : Player) (name : String) : Command → Refusal
  | .setOwner _ => c.ownerRefusal actor name
  | _ => c.moderatorRefusal actor name

theorem SameFor.absenceRefusal (h : c.SameFor actor.id c') (name : String) (command : Command) :
    c'.absenceRefusal actor name command = c.absenceRefusal actor name command := by
  have hmember : c'.contains actor.id = c.contains actor.id := by
    rw [Channel.contains, Channel.contains, ← Roster.isSome_role?, ← Roster.isSome_role?, h.role]
  have hmoderator : c'.moderatorRefusal actor name = c.moderatorRefusal actor name := by
    rw [moderatorRefusal, h.role]
    rfl
  cases command with
  | setOwner _ =>
    change c'.ownerRefusal actor name = c.ownerRefusal actor name
    simp only [ownerRefusal, hmember, h.isPublic, ne_eq, h.owns]
  | _ => exact hmoderator

theorem asModerator_unfound :
    c.asModerator w actor (c.reject w actor.id (.playerNotFound name)) =
      c.reject w actor.id (c.moderatorRefusal actor name) := by
  cases hrole : c.roster.role? actor.id with
  | none => simp only [asModerator, moderatorRefusal, hrole]
  | some role =>
    simp only [asModerator, moderatorRefusal, hrole]
    split <;> rfl

theorem changeOwner_unfound
    (h : (c.findMember w name).filter (p.factionsCompatible actor) = none) :
    c.changeOwner p w actor name = c.reject w actor.id (c.ownerRefusal actor name) := by
  unfold changeOwner ownerRefusal
  rw [h]
  split
  next => rfl
  next => split <;> rfl

/-! ## Nobody, and somebody of the other faction -/

theorem perform_nobody (hcommand : command.Appoints name)
    (hnobody : w.directory.findByName name = none) :
    c.perform p w t actor command =
      c.reject w actor.id (c.absenceRefusal actor name command) := by
  cases hcommand with
  | setMode mode on =>
    change c.setMode p w actor name mode on = _
    rw [setMode, hnobody]
    exact asModerator_unfound
  | setOwner =>
    refine changeOwner_unfound ?_
    rw [findMember, hnobody]
    rfl

theorem perform_other_faction (hcommand : command.Appoints name)
    (hfound : w.directory.findByName name = some target) (hother : target.id ≠ actor.id)
    (hfaction : p.factionsCompatible actor target = false)
    (hmasters : ∀ mode on, command = .setMode name mode on →
      ¬(actor.isGameMaster ∧ target.isGameMaster)) :
    c.perform p w t actor command =
      c.reject w actor.id (c.absenceRefusal actor name command) := by
  cases hcommand with
  | setMode mode on =>
    have hmay : p.mayChangeRole actor target = false := by
      have hmasters := hmasters mode on rfl
      rw [Policy.mayChangeRole, hfaction, Bool.or_false]
      simpa using hmasters
    -- nobody but the actor passes for the owner who sets their own moderator bit
    have hself : (mode = .moderator && c.owner = some actor.id && c.owner = some target.id) = false := by
      by_cases ho : c.owner = some actor.id
      · simp [ho, hother.symm]
      · simp [ho]
    change c.setMode p w actor name mode on = _
    rw [setMode, hfound]
    dsimp only
    rw [hself, hmay]
    simp only [Bool.false_eq_true, if_false, Bool.not_false, Bool.or_true, if_true]
    exact asModerator_unfound
  | setOwner =>
    refine changeOwner_unfound ?_
    rw [Option.filter_eq_none_iff]
    intro found hmember
    cases (findMember_eq_some_iff.mp hmember).1.symm.trans hfound
    simp [hfaction]

/-! ## Refusals alike -/

theorem reject_sameFor (h : c.SameFor actor.id c') (cause : Refusal) :
    (c'.reject w actor.id cause).events = (c.reject w actor.id cause).events := by
  unfold reject refuse
  dsimp only
  simp only [tell, notice, h.name]

theorem reject_online (h : w'.isOnline actor.id = w.isOnline actor.id) (cause : Refusal) :
    c.reject w' actor.id cause = c.reject w actor.id cause := by
  unfold reject refuse tell World.sendTo
  rw [h]

/-- Where factions are kept apart, a player of the other one cannot be told from one who is not
online, nor on a channel from off it. -/
theorem other_faction_denied (hp : p.crossFaction = false) {d : Directory} (hd : d.Keyed)
    (hactor : d.player? actor.id = some actor) (hfound : d.findByName name = some target)
    (hteam : target.team ≠ actor.team) (hcommand : command.Appoints name)
    (hmasters : ∀ mode on, command = .setMode name mode on →
      ¬(actor.isGameMaster ∧ target.isGameMaster)) (ignores : Ignores) (t : Throttle) (c : Channel) :
    let turn := c.execute p ⟨d, ignores⟩ t actor command
    turn.channel = c ∧
    (∀ d' : Directory, (∀ id, d'.player? id = d.player? id) → d'.findByName name = none →
      c.execute p ⟨d', ignores⟩ t actor command = turn) ∧
    ∀ c', c.SameFor actor.id c' →
      let other := c'.execute p ⟨d, ignores⟩ t actor command
      other.channel = c' ∧ other.answer = turn.answer ∧ other.events = turn.events := by
  have hother : target.id ≠ actor.id := by
    intro he
    have htarget := (hd.findByName_eq_some_iff.mp hfound).2
    rw [he, hactor] at htarget
    exact hteam (congrArg Player.team (Option.some.inj htarget).symm)
  have hfaction : p.factionsCompatible actor target = false := by
    rw [← Bool.not_eq_true, factionsCompatible_iff, hp]
    rintro (hmixed | hsame)
    · cases hmixed
    · exact hteam hsame.symm
  have hdenied : ∀ c : Channel, c.perform p ⟨d, ignores⟩ t actor command =
      c.reject ⟨d, ignores⟩ actor.id (c.absenceRefusal actor name command) :=
    fun c => perform_other_faction hcommand hfound hother hfaction hmasters
  intro turn
  refine ⟨?_, fun d' hplayers hnobody => ?_, fun c' hsame => ⟨?_, ?_, ?_⟩⟩
  · rw [execute_channel, hdenied]
    rfl
  · have honline : World.isOnline ⟨d', ignores⟩ actor.id = World.isOnline ⟨d, ignores⟩ actor.id :=
      congrArg Option.isSome (hplayers actor.id)
    have hperform : c.perform p ⟨d', ignores⟩ t actor command =
        c.perform p ⟨d, ignores⟩ t actor command := by
      rw [perform_nobody hcommand hnobody, reject_online honline, hdenied]
    dsimp only [turn]
    rw [execute, execute, hperform]
  · rw [execute_channel, hdenied]
    rfl
  · rw [execute_answer, execute_answer, hdenied, hdenied, hsame.absenceRefusal]
    rfl
  · dsimp only [turn]
    rw [execute, execute, hdenied, hdenied, hsame.absenceRefusal]
    dsimp only [reject_answer]
    rw [reject_sameFor hsame]

/-- An orc founds the channel and owns it. A game master of the other faction finds no such player to
mute or to give the channel to, no more than if nobody of the name were online, or if Ann were the
owner and the orc were banned. -/
theorem other_faction_denied_banned :
    let p := Policy.ofConfig {}
    let orc : Player := { id := ⟨1⟩, name := "Orc", team := .horde }
    let ann : Player := { id := ⟨2⟩, name := "Ann" }
    let gil : Player := { id := ⟨3⟩, name := "Gil", security := .gameMaster }
    let d := Directory.after [.login orc, .login ann, .login gil]
    let nobody := { d with names := d.names.erase "orc" }
    let joins : List Act := [.command orc (.join none), .command ann (.join none),
      .command gil (.join none)]
    let c := (Scene.run p ⟨⟨d, ∅⟩, {}, custom "Raiders"⟩ joins).channel
    let c' := (Scene.run p ⟨⟨d, ∅⟩, {}, custom "Raiders"⟩ (joins ++
      [.command gil (.setOwner "ann"), .command gil (.expel "orc" true)])).channel
    (c.Reachable p ∧ c'.Reachable p ∧ d.findByName "ORC" = some orc ∧
      nobody.findByName "ORC" = none) ∧
    (c.owner = some orc.id ∧ c'.owner = some ann.id ∧ c'.bans.contains orc.id) ∧
    ∀ command, command = .setMode "ORC" .mute true ∨ command = .setOwner "ORC" →
      let turn := c.execute p ⟨d, ∅⟩ {} gil command
      turn.answer = .error (.playerNotFound "ORC") ∧ turn.channel = c ∧
        c.execute p ⟨nobody, ∅⟩ {} gil command = turn ∧
        (c'.execute p ⟨d, ∅⟩ {} gil command).answer = turn.answer ∧
        (c'.execute p ⟨d, ∅⟩ {} gil command).events = turn.events := by
  intro p orc ann gil d nobody joins c c'
  have hc : c.Reachable p := ⟨⟨d, ∅⟩, {}, _, .inl ⟨"Raiders", rfl⟩⟩
  have hc' : c'.Reachable p := ⟨⟨d, ∅⟩, {}, _, .inl ⟨"Raiders", rfl⟩⟩
  have hfound : d.findByName "ORC" = some orc := by decide
  have hnobody : nobody.findByName "ORC" = none := by decide
  have hsame : c.SameFor gil.id c' := ⟨by decide, by decide, by decide, by decide⟩
  refine ⟨⟨hc, hc', hfound, hnobody⟩, ⟨by decide, by decide, by decide⟩, fun command hcommand => ?_⟩
  have happoints : command.Appoints "ORC" := by
    rcases hcommand with rfl | rfl
    · exact .setMode .mute true
    · exact .setOwner
  have hkeyed : d.Keyed := Directory.keyed_after _
  have hactor : d.player? gil.id = some gil := by decide
  have hplayers : ∀ id, nobody.player? id = d.player? id := by
    intro id
    unfold Directory.player?
    rfl
  obtain ⟨hkept, habsent, helse⟩ := other_faction_denied (p := p) rfl hkeyed hactor hfound
    (by decide) happoints (fun _ _ _ h => by cases h.2) ∅ {} c
  obtain ⟨-, hanswer, hevents⟩ := helse c' hsame
  refine ⟨?_, hkept, habsent nobody hplayers hnobody, hanswer, hevents⟩
  rcases hcommand with rfl | rfl <;> decide

end Channel
end ChatChannels
