import ChatChannels.Proofs.Channel.Mailing

/-! Channels that are handed over by name. The new owner gets both bits and the former one keeps the
moderator bit; whoever gives the channel to its owner changes nothing, although the members hear of
the owner as losing it and getting it back. -/
namespace ChatChannels.Channel

open Event (deliveries)

variable {p : Policy} {w : World} {c : Channel} {actor target : Player} {name : String}

/-- What a transfer makes of a channel and what the members hear of it. -/
structure HandedTo (w : World) (c : Channel) (target : PlayerId) (turn : Turn Answer) : Prop where
  frame : turn.channel = { c with owner := some target, roster := turn.channel.roster }
  players : turn.channel.roster.players = c.roster.players
  roles : ∀ q, turn.channel.roster.role? q =
    if q = target then
      (c.roster.role? q).map fun role => { role with owner := true, moderator := true }
    else if c.owner = some q then
      (c.roster.role? q).map fun role => { role with owner := false, moderator := true }
    else c.roster.role? q
  told : ∃ former, c.owner = some former ∧ deliveries turn.events = c.mailing w (
    let before := c.roster.roleOf former
    let released := { before with owner := false, moderator := true }
    let left := if target = former then released else c.roster.roleOf target
    [.roleChanged former before released,
      .roleChanged target left { left with owner := true, moderator := true },
      .ownerChanged (some target)])

/-! ## Who may hand a channel over -/

theorem changeOwner_eq (hmember : c.contains actor.id) (hclass : c.isPublic = false)
    (hright : c.owner = some actor.id ∨ actor.isGameMaster)
    (htarget : c.findMember w name = some target) (hfaction : p.factionsCompatible actor target) :
    c.changeOwner p w actor name =
      let given := c.setOwner w (some target.id) true
      ⟨given.channel, .ok .applied, given.events⟩ := by
  have hentitled : (c.isPublic || (!actor.isGameMaster && c.owner ≠ some actor.id)) = false := by
    rw [hclass, Bool.false_or]
    rcases hright with ho | hgm
    · simp [ho]
    · simp [hgm]
  unfold changeOwner
  rw [hmember, hentitled, htarget, Option.filter_some, hfaction]
  rfl

theorem factionsCompatible_iff :
    p.factionsCompatible actor target ↔ p.crossFaction ∨ actor.team = target.team := by
  rw [Policy.factionsCompatible, Bool.or_eq_true, decide_eq_true_iff]

theorem changeOwner_applied_iff :
    (∃ outcome, (c.changeOwner p w actor name).answer = .ok outcome) ↔
      c.contains actor.id ∧ c.isPublic = false ∧
        (c.owner = some actor.id ∨ actor.isGameMaster) ∧
        ∃ target, w.directory.findByName name = some target ∧ c.contains target.id ∧
          (p.crossFaction ∨ actor.team = target.team) := by
  constructor
  · rintro ⟨outcome, hok⟩
    generalize hturn : c.changeOwner p w actor name = turn at hok
    have heffect : c.Effect p w actor (.setOwner name) turn :=
      hturn ▸ c.changeOwner_effect p w actor name
    cases heffect with
    | refused => cases hok
    | idle h => cases h
    | uttered events h => cases h
    | ownerSet name target events hmember hclass hright htarget hfaction =>
      obtain ⟨hfound, hpresent⟩ := findMember_eq_some_iff.mp htarget
      exact ⟨hmember, hclass, hright.symm, target, hfound, hpresent,
        factionsCompatible_iff.mp hfaction⟩
  · rintro ⟨hmember, hclass, hright, target, hfound, hpresent, hfaction⟩
    rw [changeOwner_eq hmember hclass hright (findMember_eq_some_iff.mpr ⟨hfound, hpresent⟩)
      (factionsCompatible_iff.mpr hfaction)]
    exact ⟨.applied, rfl⟩

/-! ## What comes of it -/

/-- The owner has both bits already. -/
theorem Sound.transfer_same (hc : c.Sound) {o : PlayerId} (ho : c.owner = some o) :
    (c.roster.transfer c.owner (some o)).1 = c.roster := by
  obtain ⟨⟨owner, moderator, muted⟩, hrole, rfl, rfl⟩ := hc.owner_bits o ho
  apply Roster.ext_role?
  · rw [Roster.players_transfer]
    exact hc.distinct
  · exact c.roster.players_transfer c.owner (some o)
  · intro q
    rw [Roster.role?_transfer, ho]
    split
    next hq =>
      cases hq
      rw [hrole]
      rfl
    next => rfl

theorem Sound.handedTo (hc : c.Sound) (hclass : c.isPublic = false) {q : PlayerId}
    (hpresent : c.contains q) {turn : Turn Answer}
    (hchannel : turn.channel = (c.setOwner w (some q) true).channel)
    (hevents : deliveries turn.events = deliveries (c.setOwner w (some q) true).events) :
    c.HandedTo w q turn where
  frame := by
    rw [hchannel]
    rfl
  players := by
    rw [hchannel]
    exact c.roster.players_transfer c.owner (some q)
  roles s := by
    have hrole := c.roster.role?_transfer s c.owner (some q)
    simp only [Option.some.injEq, Option.isSome_some, eq_comm (a := some s) (b := c.owner)] at hrole
    rw [hchannel]
    exact hrole
  told := by
    -- somebody is on the channel, and so somebody owns it
    have hoccupied : c.roster.isEmpty = false := by
      rw [← Bool.not_eq_true, Roster.isEmpty_iff]
      exact List.ne_nil_of_mem ((Roster.contains_iff_mem _ _).mp hpresent)
    obtain ⟨former, ho⟩ := Option.isSome_iff_exists.mp (hc.owned hclass hoccupied)
    obtain ⟨hformer, hbit, _⟩ := hc.roleOf_owner ho
    have hother : q ≠ former → (c.roster.roleOf q).owner = false := by
      intro hne
      apply hc.roleOf_other hpresent
      rw [ho]
      exact fun he => hne (Option.some.inj he).symm
    refine ⟨former, ho, ?_⟩
    rw [hevents, deliveries_setOwner, ho, Roster.notices_handed hformer hbit hpresent hother]
    rfl

theorem Sound.handed_of_applied (hc : c.Sound) (t : Throttle) {outcome : Outcome}
    (hfound : w.directory.findByName name = some target)
    (hok : (c.execute p w t actor (.setOwner name)).answer = .ok outcome) :
    c.HandedTo w target.id (c.execute p w t actor (.setOwner name)) ∧
      (c.owner = some target.id → (c.execute p w t actor (.setOwner name)).channel = c) := by
  obtain ⟨hmember, hclass, hright, target', hfound', hpresent, hfaction⟩ :=
    changeOwner_applied_iff.mp ⟨outcome, hok⟩
  cases hfound.symm.trans hfound'
  have hgiven := changeOwner_eq hmember hclass hright
    (findMember_eq_some_iff.mpr ⟨hfound, hpresent⟩) (factionsCompatible_iff.mpr hfaction)
  have hchannel : (c.execute p w t actor (.setOwner name)).channel =
      (c.setOwner w (some target.id) true).channel := congrArg Turn.channel hgiven
  have hdelivered := deliveries_execute p w t c actor (.setOwner name)
  rw [show c.perform p w t actor (.setOwner name) = _ from hgiven] at hdelivered
  refine ⟨hc.handedTo hclass hpresent hchannel hdelivered, ?_⟩
  intro ho
  rw [hchannel, setOwner_channel, hc.transfer_same ho, ← ho]

/-- A channel is handed over on the word of its owner or of a game master among its members, to a
member of their faction unless factions mix, and to nobody else. Whoever owns it already is given it
like anybody else. -/
theorem ownership_handed_over (hc : c.Reachable p) (w : World) (t : Throttle) (actor : Player)
    (name : String) :
    let turn := c.execute p w t actor (.setOwner name)
    ((∃ outcome, turn.answer = .ok outcome) ↔
      c.contains actor.id ∧ c.isPublic = false ∧
        (c.owner = some actor.id ∨ actor.isGameMaster) ∧
        ∃ target, w.directory.findByName name = some target ∧ c.contains target.id ∧
          (p.crossFaction ∨ actor.team = target.team)) ∧
    (∀ target outcome, w.directory.findByName name = some target → turn.answer = .ok outcome →
      c.HandedTo w target.id turn ∧ (c.owner = some target.id → turn.channel = c)) ∧
    (∀ target, w.directory.findByName name = some target → c.owner = some target.id →
      (actor.id = target.id ∨ c.contains actor.id ∧ actor.isGameMaster) →
      (p.crossFaction ∨ actor.team = target.team) →
      turn.answer = .ok .applied ∧ turn.channel = c) := by
  have hs := hc.sound
  intro turn
  refine ⟨changeOwner_applied_iff,
    fun target outcome hfound hok => hs.handed_of_applied t hfound hok, ?_⟩
  intro target hfound ho hright hfaction
  have hclass : c.isPublic = false := by
    rw [← Bool.not_eq_true]
    intro hpublic
    cases (hs.public_unowned hpublic).symm.trans ho
  have hpresent := (hs.roleOf_owner ho).1
  have hentitled : c.contains actor.id ∧ (c.owner = some actor.id ∨ actor.isGameMaster) := by
    rcases hright with he | ⟨hmember, hgm⟩
    · rw [he]
      exact ⟨hpresent, .inl ho⟩
    · exact ⟨hmember, .inr hgm⟩
  have hgiven := changeOwner_eq hentitled.1 hclass hentitled.2
    (findMember_eq_some_iff.mpr ⟨hfound, hpresent⟩) (factionsCompatible_iff.mpr hfaction)
  have hok : turn.answer = .ok .applied := congrArg Turn.answer hgiven
  exact ⟨hok, (hs.handed_of_applied t hfound hok).2 ho⟩

/-- A game master hands the channel from Ann to Bob, who is muted and stays so. Bob then gives it to
himself. -/
theorem ownership_handed_over_muted :
    let p := Policy.ofConfig {}
    let ann : Player := { id := ⟨1⟩, name := "Ann" }
    let bob : Player := { id := ⟨2⟩, name := "Bob" }
    let gm : Player := { id := ⟨3⟩, name := "Gil", security := .gameMaster }
    let w : World := { directory := ((∅ : Directory).insert ann).insert bob }
    let c := (Scene.run p ⟨w, {}, custom "Raiders"⟩ [.command ann (.join none),
      .command bob (.join none), .command gm (.join none),
      .command ann (.setMode "bob" .mute true)]).channel
    let turn := c.execute p w {} gm (.setOwner "BOB")
    let again := turn.channel.execute p w {} bob (.setOwner "bob")
    c.Reachable p ∧ turn.channel.Reachable p ∧ w.directory.findByName "BOB" = some bob ∧
      turn.answer = .ok .applied ∧ c.owner = some ann.id ∧ turn.channel.owner = some bob.id ∧
      turn.channel.roster.role? bob.id = some ⟨true, true, true⟩ ∧
      turn.channel.roster.role? ann.id = some { moderator := true } ∧
      c.HandedTo w bob.id turn ∧ again.answer = .ok .applied ∧ again.channel = turn.channel := by
  refine ⟨?hc, .next ?hc (.command _ _ _ _), ?hfound, ?hok, by decide, by decide, by decide, by decide,
    ((ownership_handed_over ?hc _ {} _ "BOB").2.1 _ .applied ?hfound ?hok).1,
    (ownership_handed_over (.next ?hc (.command _ _ _ _)) _ {} _ "bob").2.2 _ ?hself ?howner (.inl rfl)
      (.inr rfl)⟩
  case hc => exact ⟨_, {}, _, .inl ⟨"Raiders", rfl⟩⟩
  case hfound => decide
  case hok => rfl
  case hself | howner => decide

end ChatChannels.Channel
