import ChatChannels.Proofs.Channel.Sound

/-! What standing it takes to act on others. A player who is neither a moderator nor a game master
comes and goes and changes nothing else, and nobody but game masters touches the owner of another's
channel. -/
namespace ChatChannels

/-- The members with nothing left of their roles but whether they are muted. -/
def Roster.levelled (r : Roster) : Roster :=
  ⟨r.members.map fun m => { m with role := { muted := m.role.muted } }⟩

theorem Roster.players_levelled (r : Roster) : r.levelled.players = r.players := by
  simp [levelled, players]

theorem Roster.role?_levelled (r : Roster) (q : PlayerId) :
    r.levelled.role? q = (r.role? q).map fun role => { muted := role.muted } := by
  simp only [levelled, role?, List.find?_map, Option.map_map]
  rfl

namespace Channel

variable {p : Policy} {w : World} {c : Channel} {actor : Player}

/-! ## Channels that fill up -/

/-- The channel with one more member, who owns it if it may be owned and nobody was there. -/
def withNewcomer (c : Channel) (player : PlayerId) : Channel :=
  let first := !c.isPublic && c.roster.isEmpty
  { c with
    roster := ⟨c.roster.members ++ [⟨player, { owner := first, moderator := first }⟩]⟩
    owner := if first then some player else c.owner }

/-- Whether the members of a channel are so many that it becomes static by itself. -/
def isCrowded (p : Policy) (c : Channel) : Bool :=
  !c.isPublic && c.flags.contains .custom && c.password.isNone &&
    p.staticAutoThreshold ≠ 0 && p.staticAutoThreshold ≤ c.roster.size

/-- The channel as static: no owner, no moderators, no moderation and no announcements. -/
def levelled (c : Channel) : Channel :=
  { c with
    roster := c.roster.levelled
    owner := none
    moderate := false
    announce := false
    isStatic := true }

/-- Taking away the owner's bits and then all moderator bits leaves nothing but mutes, since nobody
but the owner has the owner bit. -/
theorem Tidy.becomeStatic_eq (hc : c.Tidy) (explicit : Bool) :
    (c.becomeStatic w explicit).channel = c.levelled := by
  have hroster : (c.roster.transfer c.owner none).1.stripModerators = c.roster.levelled := by
    apply Roster.ext_role?
    · rw [Roster.players_stripModerators, Roster.players_transfer]
      exact hc.distinct
    · rw [Roster.players_stripModerators, Roster.players_transfer, Roster.players_levelled]
    · intro q
      rw [Roster.role?_stripModerators, Roster.role?_transfer, Roster.role?_levelled]
      rw [if_neg (Option.some_ne_none q)]
      split
      next ho => simp [Option.map_map, Function.comp_def]
      next ho =>
        rw [Option.map_congr fun role hrole => ?_]
        simp [hc.owner_bit_eq_false hrole (Ne.symm ho)]
  rw [becomeStatic_channel, hroster]
  rfl

theorem mayConvert_eq_isCrowded : c.mayConvert p true false = c.isCrowded p := by
  unfold mayConvert isCrowded isPublic Policy.allowsAutoStatic
  cases c.isStatic <;> cases c.password <;> simp [Bool.and_assoc]

theorem Tidy.convert_eq (hc : c.Tidy) :
    (c.convert p w true false).channel = if c.isCrowded p then c.levelled else c := by
  unfold convert
  rw [mayConvert_eq_isCrowded]
  split
  next => exact hc.becomeStatic_eq false
  next => rfl

theorem Sound.occupied_of_owner (hc : c.Sound) {q : PlayerId} (ho : c.owner = some q) :
    c.roster.isEmpty = false := by
  obtain ⟨role, hrole, _⟩ := hc.owner_bits q ho
  rw [← Bool.not_eq_true, Roster.isEmpty_iff]
  exact List.ne_nil_of_mem ((Roster.contains_iff_mem _ _).mp (Roster.contains_of_role? hrole))

theorem Sound.isNone_owner (hc : c.Sound) (hp : c.isPublic = false) :
    c.owner.isNone = c.roster.isEmpty := by
  cases ho : c.owner with
  | none =>
    cases he : c.roster.isEmpty with
    | true => rfl
    | false => simpa [ho] using hc.owned hp he
  | some q => exact (hc.occupied_of_owner ho).symm

theorem adopt_unowned (w : World) (c : Channel) (player : PlayerId)
    (h : (!c.isPublic && c.owner.isNone) = true) :
    c.adopt w player = c.setOwner w (some player) (1 < c.roster.size) :=
  if_pos h

theorem adopt_idle (w : World) (c : Channel) (player : PlayerId)
    (h : (!c.isPublic && c.owner.isNone) = false) : c.adopt w player = ⟨c, (), []⟩ :=
  if_neg (Bool.eq_false_iff.mp h)

/-- Of a channel that may be owned only the first to come finds it without an owner. -/
theorem Sound.unowned_first (hc : c.Sound) :
    (!c.isPublic && c.owner.isNone) = (!c.isPublic && c.roster.isEmpty) := by
  cases hp : c.isPublic with
  | true => rfl
  | false => rw [hc.isNone_owner hp]

theorem Sound.adopt_eq (hc : c.Sound) {player : PlayerId} (hnew : c.contains player = false) :
    ({ c with roster := c.roster.insert player }.adopt w player).channel =
      c.withNewcomer player := by
  have hinsert : c.roster.insert player = ⟨c.roster.members ++ [{ player := player }]⟩ :=
    congrArg Prod.fst (if_neg (Bool.eq_false_iff.mp hnew))
  have hfirst := hc.unowned_first
  rw [hinsert]
  cases hfit : !c.isPublic && c.roster.isEmpty with
  | true =>
    have hnone : c.owner = none := by simpa using (Bool.and_eq_true_iff.mp (hfirst.trans hfit)).2
    have hempty : c.roster.members = [] := List.isEmpty_iff.mp (Bool.and_eq_true_iff.mp hfit).2
    rw [adopt_unowned w { c with roster := ⟨c.roster.members ++ [{ player := player }]⟩ } player
      (hfirst.trans hfit), setOwner_channel]
    simp [withNewcomer, hfit, hnone, hempty, Roster.transfer, Roster.update?, Roster.update,
      Roster.role?, Roster.setRole, Roster.writeRole]
  | false =>
    rw [adopt_idle w { c with roster := ⟨c.roster.members ++ [{ player := player }]⟩ } player
      (hfirst.trans hfit)]
    simp [withNewcomer, hfit]

theorem Sound.sound_withNewcomer (hc : c.Sound) {player : PlayerId} (hnew : c.contains player = false)
    (hban : c.bans.contains player = false) : (c.withNewcomer player).Sound := by
  rw [← hc.adopt_eq (w := ∅) hnew]
  exact hc.enter hnew hban

theorem Sound.admitted_eq (hc : c.Sound) {password : Option String}
    (h : c.joinRefusal actor password = none) :
    c.admitted p w actor =
      if (c.withNewcomer actor.id).isCrowded p then (c.withNewcomer actor.id).levelled
      else c.withNewcomer actor.id := by
  obtain ⟨hnew, hban⟩ := not_member_of_joinRefusal h
  rw [Channel.admitted, hc.adopt_eq hnew, (hc.sound_withNewcomer hnew hban).toTidy.convert_eq]

/-! ## Players of no standing -/

/-- A player with no power over others: neither a game master nor a moderator of the channel. -/
def Ordinary (c : Channel) (actor : Player) : Prop :=
  actor.isGameMaster = false ∧
    ∀ role, c.roster.role? actor.id = some role → role.moderator = false

theorem Ordinary.not_moderates (h : c.Ordinary actor) : ¬c.Moderates actor := by
  rintro ⟨role, hrole, hmay⟩
  rw [Policy.canModerate, h.2 role hrole, Bool.false_or] at hmay
  exact Bool.false_ne_true (h.1.symm.trans hmay)

theorem Ordinary.not_owner (h : c.Ordinary actor) (hc : c.Sound) : c.owner ≠ some actor.id := by
  intro ho
  obtain ⟨role, hrole, _, hmoderator⟩ := hc.owner_bits actor.id ho
  exact Bool.false_ne_true ((h.2 role hrole).symm.trans hmoderator)

/-- What a player of no standing makes of a channel: their own row goes or comes, and only who fills
the channel up changes more than that. -/
def afterOrdinary (p : Policy) (c : Channel) (player : PlayerId) : Command → Answer → Channel
  | .leave _, .ok .applied =>
    { c with roster := ⟨c.roster.members.filter fun m => m.player ≠ player⟩ }
  | .join _, .ok .applied =>
    let joined := c.withNewcomer player
    if joined.isCrowded p then joined.levelled else joined
  | _, _ => c

theorem afterOrdinary_unchanged (player : PlayerId) (command : Command) :
    c.afterOrdinary p player command (.ok .unchanged) = c := by
  cases command <;> rfl

theorem afterOrdinary_uttered (player : PlayerId) {command : Command} (h : command.isUtterance) :
    c.afterOrdinary p player command (.ok .applied) = c := by
  cases command with
  | join => cases h
  | leave => cases h
  | _ => rfl

theorem afterOrdinary_refused (player : PlayerId) (command : Command) (cause : Refusal) :
    c.afterOrdinary p player command (.error cause) = c := by
  cases command <;> rfl

theorem Ordinary.effect (h : c.Ordinary actor) (hc : c.Sound) {command : Command}
    {turn : Turn Answer} (heffect : c.Effect p w actor command turn) :
    turn.channel = c.afterOrdinary p actor.id command turn.answer := by
  cases heffect with
  | refused cause hcause => exact (afterOrdinary_refused actor.id command cause).symm
  | idle => exact (afterOrdinary_unchanged actor.id command).symm
  | uttered events hkind => exact (afterOrdinary_uttered actor.id hkind).symm
  | joined password events hjoin => exact hc.admitted_eq hjoin
  | left notify role events hrole =>
    have hmembers := c.roster.members_remove actor.id hc.distinct
    dsimp only [afterOrdinary]
    rw [hc.owner_bit_eq_false hrole (h.not_owner hc), ← hmembers]
    rfl
  | ownerSet name target events hmember hclass hright htarget hfaction =>
    rcases hright with hgm | ho
    · exact absurd (h.1.symm.trans hgm) Bool.false_ne_true
    · exact absurd ho (h.not_owner hc)
  | expelled name ban target events hmod htarget hact => exact absurd hmod h.not_moderates
  | unbanned name target events hmod htarget hban => exact absurd hmod h.not_moderates
  | passwordSet password events hmod hclass => exact absurd hmod h.not_moderates
  | modeSet name mode on target events hmod htarget hmember hfaction howner hchange =>
    exact absurd hmod h.not_moderates
  | announceToggled events hmod => exact absurd hmod h.not_moderates
  | moderateToggled events hmod => exact absurd hmod h.not_moderates

/-- Whatever a player of no standing commands, nothing changes but their own presence, and what it
changes for a channel to be owned first or to fill up. -/
theorem ordinary_harmless (hc : c.Reachable p) (h : c.Ordinary actor) (w : World) (t : Throttle)
    (command : Command) :
    (c.execute p w t actor command).channel =
      c.afterOrdinary p actor.id command (c.execute p w t actor command).answer := by
  rw [execute_channel, execute_answer]
  exact h.effect hc.sound (c.perform_effect p w actor t command)

/-- The second to come is one too many for a channel to stay dynamic, and its owner loses it. -/
theorem ordinary_harmless_crowded :
    let p := Policy.ofConfig { staticAutoThreshold := 2 }
    let ann : Player := { id := ⟨1⟩, name := "Ann" }
    let bob : Player := { id := ⟨2⟩, name := "Bob" }
    let c := (Scene.run p ⟨∅, {}, custom "Raiders"⟩ [.command ann (.join none)]).channel
    let turn := c.execute p ∅ {} bob (.join none)
    c.Reachable p ∧ c.Ordinary bob ∧ c.owner = some ann.id ∧
      turn.channel.isStatic = true ∧ turn.channel.owner = none ∧
      turn.channel = c.afterOrdinary p bob.id (.join none) turn.answer := by
  refine ⟨?hc, ?h, by decide, by decide, by decide, ordinary_harmless ?hc ?h ∅ {} (.join none)⟩
  case hc => exact ⟨∅, {}, _, .inl ⟨"Raiders", rfl⟩⟩
  case h => exact ⟨by decide, fun role hrole => by cases hrole⟩

/-! ## The owner -/

/-- What is the owner's in one channel still is in the other: the channel, the role and the right to
be there. -/
structure KeepsOwner (c : Channel) (o : PlayerId) (c' : Channel) : Prop where
  owner : c'.owner = some o
  role : ∃ role, c.roster.role? o = some role ∧ c'.roster.role? o = some role
  unbanned : c'.bans.contains o = false

variable {o : PlayerId}

theorem Sound.keepsOwner (hc : c.Sound) (ho : c.owner = some o) {c' : Channel}
    (howner : c'.owner = c.owner) (hrole : c'.roster.role? o = c.roster.role? o)
    (hbans : c'.bans.contains o = c.bans.contains o) : c.KeepsOwner o c' := by
  obtain ⟨role, hr, _⟩ := hc.owner_bits o ho
  refine ⟨howner.trans ho, ⟨role, hr, hrole.trans hr⟩, hbans.trans ?_⟩
  rw [← Bool.not_eq_true]
  exact fun hban =>
    Bool.false_ne_true ((hc.banned_out o hban).symm.trans (Roster.contains_of_role? hr))

theorem Sound.keepsOwner_without (w : World) (hc : c.Sound) (ho : c.owner = some o)
    {player : PlayerId} (hne : player ≠ o) {bans : Bans}
    (hbans : bans.contains o = c.bans.contains o) :
    c.KeepsOwner o (c.without w bans player false) := by
  refine hc.keepsOwner ho ?_ ?_ ?_
  · rfl
  · exact (Roster.role?_remove _ _ _ hc.distinct).trans (if_neg hne.symm)
  · exact hbans

/-- A channel that is owned is never empty, so whoever joins it does not own it. -/
theorem Sound.keepsOwner_withNewcomer (hc : c.Sound) (ho : c.owner = some o)
    (player : PlayerId) : c.KeepsOwner o (c.withNewcomer player) := by
  obtain ⟨role, hrole, _⟩ := hc.owner_bits o ho
  apply hc.keepsOwner ho
  · simp [withNewcomer, hc.occupied_of_owner ho]
  · obtain ⟨m, hm, _⟩ := Option.map_eq_some_iff.mp hrole
    simp [withNewcomer, Roster.role?, List.find?_append, hm]
  · rfl

theorem Sound.keepsOwner_effect (hc : c.Sound) (ho : c.owner = some o)
    (hgm : actor.isGameMaster = false) (hother : actor.id ≠ o) {command : Command}
    {turn : Turn Answer} (heffect : c.Effect p w actor command turn) :
    c.KeepsOwner o turn.channel ∨
      (∃ password, command = .join password) ∧ c.isStatic = false ∧ turn.channel.isStatic := by
  have hactor : c.owner ≠ some actor.id := fun ha => hother (Option.some.inj (ha.symm.trans ho))
  cases heffect with
  | joined password events hjoin =>
    dsimp only
    rw [hc.admitted_eq hjoin]
    split
    next =>
      refine .inr ⟨⟨password, rfl⟩, ?_, rfl⟩
      rw [← Bool.not_eq_true]
      intro hstatic
      have hpublic : c.isPublic := by rw [isPublic, hstatic, Bool.or_true]
      cases (hc.public_unowned hpublic).symm.trans ho
    next => exact .inl (hc.keepsOwner_withNewcomer ho actor.id)
  | left notify role events hrole =>
    rw [hc.owner_bit_eq_false hrole hactor]
    exact .inl (hc.keepsOwner_without w ho hother rfl)
  | expelled name ban target events hmod htarget hact =>
    have hne : c.owner ≠ some target.id := by
      simpa [Policy.mayActOn, hgm, hactor] using hact
    have htarget : target.id ≠ o := fun he => hne (he ▸ ho)
    rw [decide_eq_false hne]
    refine .inl (hc.keepsOwner_without w ho htarget ?_)
    cases ban with
    | true => simp [htarget.symm]
    | false => rfl
  | modeSet name mode on target events hmod htarget hmember hfaction howner hchange =>
    -- only the owner sets a mode of the owner
    have hne : o ≠ target.id := fun he => hactor (howner (he ▸ ho)).1
    refine .inl (hc.keepsOwner ho rfl ?_ rfl)
    exact (Roster.role?_update _ _ _ _).trans (if_neg hne)
  | unbanned name target events hmod htarget hban =>
    have hout : c.bans.contains o = false := (hc.keepsOwner ho rfl rfl rfl).unbanned
    refine .inl (hc.keepsOwner ho rfl rfl ?_)
    rw [Bans.contains_remove, hout, Bool.and_false]
  | ownerSet name target events hmember hclass hright htarget hfaction =>
    rcases hright with h | h
    · exact absurd (hgm.symm.trans h) Bool.false_ne_true
    · exact absurd h hactor
  | _ => exact .inl (hc.keepsOwner ho rfl rfl rfl)

/-- Whoever is neither the owner nor a game master leaves the owner in place, with the role as it
was, but that they may be the one who fills the channel up and so makes it static. -/
theorem owner_protected (hc : c.Reachable p) (ho : c.owner = some o)
    (hgm : actor.isGameMaster = false) (hother : actor.id ≠ o) (w : World) (t : Throttle)
    (command : Command) :
    c.KeepsOwner o (c.execute p w t actor command).channel ∨
      (∃ password, command = .join password) ∧ c.isStatic = false ∧
        (c.execute p w t actor command).channel.isStatic := by
  rw [execute_channel]
  exact hc.sound.keepsOwner_effect ho hgm hother (c.perform_effect p w actor t command)

/-- A moderator finds the owner by another spelling and cannot ban them. -/
theorem owner_protected_moderator :
    let p := Policy.ofConfig {}
    let ann : Player := { id := ⟨1⟩, name := "Ann" }
    let bob : Player := { id := ⟨2⟩, name := "Bob" }
    let w : World := { directory := ((∅ : Directory).insert ann).insert bob }
    let c := (Scene.run p ⟨w, {}, custom "Raiders"⟩ [.command ann (.join none),
      .command bob (.join none), .command ann (.setMode "bob" .moderator true)]).channel
    c.Reachable p ∧ c.owner = some ann.id ∧ bob.isGameMaster = false ∧ bob.id ≠ ann.id ∧
      c.Moderates bob ∧ w.directory.findByName "aNN" = some ann ∧
      c.KeepsOwner ann.id (c.execute p w {} bob (.expel "aNN" true)).channel := by
  refine ⟨?hc, ?ho, ?hgm, ?hother, ⟨{ moderator := true }, by decide, by decide⟩, by decide,
    (owner_protected ?hc ?ho ?hgm ?hother _ {} (.expel "aNN" true)).resolve_right ?_⟩
  case hc => exact ⟨_, {}, _, .inl ⟨"Raiders", rfl⟩⟩
  case ho | hgm | hother => decide
  rintro ⟨⟨password, hjoin⟩, _⟩
  cases hjoin

end Channel
end ChatChannels
