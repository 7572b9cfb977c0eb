import ChatChannels.Proofs.Channel.Departure
import ChatChannels.Proofs.Channel.Mailing

/-! How a channel goes on without one of its members. Whoever leaves, is kicked or is banned is gone,
and the others stay as they are. Only where the owner has gone somebody else owns the channel: the
first moderator of those who remain or else the first of them. The members hear of the new owner's
role, and of the new owner as such if there is anybody else to hear it. -/
namespace ChatChannels

/-- Who is next in line among members in the order in which they joined. -/
inductive NextInLine (members : List Member) : Option PlayerId → Prop
  | moderator (before m after) (hmembers : members = before ++ m :: after)
      (hmoderator : m.role.moderator) (hfirst : ∀ m' ∈ before, m'.role.moderator = false) :
      NextInLine members (some m.player)
  | first (m rest) (hmembers : members = m :: rest)
      (hnone : ∀ m' ∈ members, m'.role.moderator = false) : NextInLine members (some m.player)
  | nobody (hmembers : members = []) : NextInLine members none

theorem Roster.nextInLine_successor (r : Roster) : NextInLine r.members r.successor := by
  unfold successor
  cases hfound : r.members.find? fun m => m.role.moderator with
  | some m =>
    obtain ⟨hmoderator, before, after, hmembers, hfirst⟩ := List.find?_eq_some_iff_append.mp hfound
    exact .moderator before m after hmembers hmoderator fun m' hm' => by simpa using hfirst m' hm'
  | none =>
    have hnone : ∀ m ∈ r.members, m.role.moderator = false := by
      simpa using List.find?_eq_none.mp hfound
    cases hmembers : r.members with
    | nil => exact .nobody rfl
    | cons m rest => exact .first m rest rfl (hmembers ▸ hnone)

namespace Channel

open Event (deliveries)

variable {p : Policy} {w : World} {c : Channel} {actor target : Player} {name : String}

/-- A channel goes on without a player. -/
structure GoesOn (c : Channel) (q : PlayerId) (c' : Channel) : Prop extends c.Departed q c' where
  heir : c.owner = some q → NextInLine (c.roster.members.filter fun m => m.player ≠ q) c'.owner

/-- What the members who remain hear of a new owner. -/
def succession (c : Channel) (q : PlayerId) (c' : Channel) : List NoticeBody :=
  if c.owner = some q then
    c'.owner.toList.map
        (c.roster.roleNotice fun role => { role with owner := true, moderator := true }) ++
      if 2 ≤ c'.roster.size then [.ownerChanged c'.owner] else []
  else []

/-! ## Without a member -/

theorem Sound.goesOn_without (hc : c.Sound) (bans : Bans) (q : PlayerId) :
    { c with bans }.GoesOn q (c.without w bans q (c.owner = some q)) where
  toDeparted := hc.departed_without bans q
  heir ho := by
    rw [((hc.departed_without (w := w) bans q).inherited ho).2.1,
      ← c.roster.members_remove q hc.distinct]
    exact (c.roster.remove q).nextInLine_successor

theorem inherit_owner (hclass : c.isPublic = false) : c.inherit w true = c.succeed w := by
  rw [inherit, hclass]
  rfl

theorem inherit_other (c : Channel) : c.inherit w false = ⟨c, (), []⟩ := rfl

/-- The owner who has gone is no member any more, so that of a change of owner there is only the
new owner's role to tell. -/
theorem Sound.deliveries_inherit (hc : c.Sound) {bans : Bans} {q : PlayerId}
    (hbans : ∀ s, bans.contains s → s = q ∨ c.bans.contains s) :
    let c' := c.without w bans q (c.owner = some q)
    deliveries ({ c with bans, roster := c.roster.remove q }.inherit w (c.owner = some q)).events =
      c'.mailing w (c.succession q c') := by
  intro c'
  let left : Channel := { c with bans, roster := c.roster.remove q }
  by_cases ho : c.owner = some q
  · obtain ⟨hclass, hwithout⟩ := hc.without_owner (w := w) bans ho
    have hinherits : left.inherit w (c.owner = some q) = left.succeed w := by
      rw [decide_eq_true ho]
      exact inherit_owner hclass
    have htidy : left.Tidy := hc.toTidy.remove q bans hbans
    have hgone : ∀ o, left.owner = some o → left.contains o = false := by
      intro o ho'
      cases ho.symm.trans ho'
      rw [Channel.contains, Roster.contains_remove hc.distinct]
      simp
    have hplayers : c'.roster.players = left.roster.players := inherit_players _
    have hsize : c'.roster.size = left.roster.size := by
      rw [← Roster.length_players, hplayers, Roster.length_players]
    have howner : c'.owner = left.roster.successor := congrArg Channel.owner hwithout
    have hname : c'.name = left.name := congrArg Prod.fst (without_classification w c bans q _)
    have hnotices : left.roster.successor.toList.map (left.roster.roleNotice Role.withOwnership) =
        left.roster.successor.toList.map (c.roster.roleNotice Role.withOwnership) := by
      apply List.map_congr_left
      intro s hs
      have hne : s ≠ q := by
        rintro rfl
        cases (hgone s ho).symm.trans (Roster.contains_of_successor (Option.mem_toList.mp hs))
      rw [Roster.roleNotice, Roster.roleNotice, Roster.roleOf_remove hc.distinct hne]
    rw [hinherits, succeed, htidy.deliveries_setOwner hgone fun _ => Roster.contains_of_successor,
      hnotices, ← mailing_congr hplayers hname, succession, if_pos ho, hsize, howner]
    simp only [decide_eq_true_eq]
    rfl
  · rw [succession, if_neg ho, decide_eq_false ho, inherit_other]
    rfl

/-! ## Leaving -/

theorem announces_iff :
    c.announces p actor ↔ c.announce ∧ (actor.isGameMaster = false ∨ p.gmJoinSilently = false) := by
  simp [announces, Policy.announcesPresence, Player.isGameMaster]

/-- Where players are confirmed that they have left, the members are told of it and of who owns the
channel now. -/
theorem Sound.leave_eq (hc : c.Sound) (hmember : c.contains actor.id) (notify : Bool) :
    let c' := c.without w c.bans actor.id (c.owner = some actor.id)
    (c.leave p w actor notify).channel = c' ∧
      (c.leave p w actor notify).answer = .ok .applied ∧
      deliveries (c.leave p w actor notify).events =
        (if notify ∧ w.isOnline actor.id then [(actor.id, c.notice .youLeft)] else []) ++
          c'.mailing w ((if c.announces p actor then [.left actor.id] else []) ++
            c.succession actor.id c') := by
  intro c'
  let left : Channel := { c with roster := c.roster.remove actor.id }
  obtain ⟨role, hrole⟩ := Roster.exists_role_of_contains hmember
  have hplayers : c'.roster.players = left.roster.players := inherit_players _
  have hname : c'.name = left.name := congrArg Prod.fst (without_classification w c c.bans _ _)
  have hannounced := mailing_congr (w := w) hplayers hname
    (if c.announces p actor then [.left actor.id] else [])
  have hfarewell : deliveries (if notify then c.tell w actor.id .youLeft else []) =
      if notify ∧ w.isOnline actor.id then [(actor.id, c.notice .youLeft)] else [] := by
    cases notify with
    | true => simpa using deliveries_tell w c actor.id .youLeft
    | false => simp
  unfold leave
  rw [hrole]
  dsimp only
  rw [hc.owner_bit hrole]
  refine ⟨rfl, rfl, ?_⟩
  rw [Event.deliveries_append, Event.deliveries_append, deliveries_broadcast_if, hfarewell,
    hc.deliveries_inherit fun _ => .inr, mailing_append, hannounced, List.append_assoc]
  rfl

/-! ## Kicks and bans -/

theorem mayActOn_iff {owner : Option PlayerId} {q : PlayerId} :
    Policy.mayActOn actor owner q ↔ (owner = some q → actor.isGameMaster ∨ actor.id = q) := by
  by_cases ho : owner = some q
  · simp [Policy.mayActOn, ho, eq_comm (a := q)]
  · simp [Policy.mayActOn, ho]

theorem moderates_iff :
    c.Moderates actor ↔
      ∃ role, c.roster.role? actor.id = some role ∧ (role.moderator ∨ actor.isGameMaster) := by
  simp [Moderates, Policy.canModerate, Player.isGameMaster]

/-- Whoever is expelled is a member until then, so a ban is never taken for a mere kick. -/
theorem Sound.expel_eq (hc : c.Sound) (hmod : c.Moderates actor)
    (htarget : c.findMember w name = some target)
    (hact : Policy.mayActOn actor c.owner target.id) (ban : Bool) :
    let c' := c.without w (if ban then c.bans.add target.id else c.bans) target.id
      (c.owner = some target.id)
    (c.expel w actor name ban).channel = c' ∧
      (c.expel w actor name ban).answer = .ok .applied ∧
      deliveries (c.expel w actor name ban).events =
        c.mailing w [if ban then .playerBanned target.id actor.id
          else .playerKicked target.id actor.id] ++
        c'.mailing w (c.succession target.id c') := by
  intro c'
  have hbans : ∀ s, (if ban then c.bans.add target.id else c.bans).contains s →
      s = target.id ∨ c.bans.contains s := by
    intro s hs
    cases ban with
    | true => simpa using hs
    | false => exact .inr hs
  have hfree : c.bans.contains target.id = false := by
    rw [← Bool.not_eq_true]
    intro hbanned
    cases (hc.banned_out _ hbanned).symm.trans (findMember_eq_some_iff.mp htarget).2
  unfold expel
  rw [asModerator_passes hmod, htarget]
  dsimp only
  rw [hact, Bool.not_true, if_neg Bool.false_ne_true]
  refine ⟨rfl, rfl, ?_⟩
  dsimp only
  rw [Event.deliveries_append, deliveries_broadcast, hc.deliveries_inherit hbans, hfree,
    Bool.not_false, Bool.and_true]

theorem leave_applied_iff (notify : Bool) :
    (∃ outcome, (c.leave p w actor notify).answer = .ok outcome) ↔ c.contains actor.id := by
  rw [← isSome_leave (p := p) (w := w) c actor notify]
  cases (c.leave p w actor notify).answer <;> simp [Except.toOption]

theorem Sound.expel_applied_iff (hc : c.Sound) (p : Policy) (ban : Bool) :
    (∃ outcome, (c.expel w actor name ban).answer = .ok outcome) ↔
      c.Moderates actor ∧ ∃ target, c.findMember w name = some target ∧
        Policy.mayActOn actor c.owner target.id := by
  constructor
  · rintro ⟨outcome, hok⟩
    generalize hturn : c.expel w actor name ban = turn at hok
    have heffect : c.Effect p w actor (.expel name ban) turn :=
      hturn ▸ c.expel_effect p w actor name ban
    cases heffect with
    | refused => cases hok
    | idle h => cases h
    | uttered events h => cases h
    | expelled name ban target events hmod htarget hact => exact ⟨hmod, target, htarget, hact⟩
  · rintro ⟨hmod, target, htarget, hact⟩
    exact ⟨.applied, (hc.expel_eq hmod htarget hact ban).2.1⟩

/-- Whoever leaves, is kicked or is banned is gone, and the channel goes on without them. Members
leave as they like. A kick or ban takes a moderator or a game master, and to expel the owner takes a
game master or the owner. -/
theorem departure_succession (hc : c.Reachable p) (w : World) (t : Throttle) (actor : Player) :
    (∀ notify,
      let turn := c.execute p w t actor (.leave notify)
      ((∃ outcome, turn.answer = .ok outcome) ↔ c.contains actor.id) ∧
      ∀ outcome, turn.answer = .ok outcome →
        c.GoesOn actor.id turn.channel ∧
        deliveries turn.events =
          (if notify ∧ w.isOnline actor.id then [(actor.id, c.notice .youLeft)] else []) ++
          turn.channel.mailing w
            ((if c.announce ∧ (actor.isGameMaster = false ∨ p.gmJoinSilently = false)
              then [.left actor.id] else []) ++ c.succession actor.id turn.channel)) ∧
    ∀ name ban,
      let turn := c.execute p w t actor (.expel name ban)
      ((∃ outcome, turn.answer = .ok outcome) ↔
        (∃ role, c.roster.role? actor.id = some role ∧ (role.moderator ∨ actor.isGameMaster)) ∧
        ∃ target, w.directory.findByName name = some target ∧ c.contains target.id ∧
          (c.owner = some target.id → actor.isGameMaster ∨ actor.id = target.id)) ∧
      ∀ target outcome, w.directory.findByName name = some target → turn.answer = .ok outcome →
        { c with bans := if ban then c.bans.add target.id else c.bans }.GoesOn target.id
          turn.channel ∧
        deliveries turn.events =
          c.mailing w [if ban then .playerBanned target.id actor.id
            else .playerKicked target.id actor.id] ++
          turn.channel.mailing w (c.succession target.id turn.channel) := by
  have hs := hc.sound
  constructor
  · intro notify turn
    refine ⟨leave_applied_iff notify, ?_⟩
    intro outcome hok
    have hmember := (leave_applied_iff notify).mp ⟨outcome, hok⟩
    obtain ⟨hchannel, _, hdelivered⟩ := hs.leave_eq (p := p) (w := w) hmember notify
    have hturn : turn.channel = (c.leave p w actor notify).channel := rfl
    have hevents : deliveries turn.events = deliveries (c.leave p w actor notify).events :=
      deliveries_execute p w t c actor (.leave notify)
    simp only [announces_iff] at hdelivered
    rw [hevents, hturn, hdelivered, hchannel]
    exact ⟨hs.goesOn_without c.bans actor.id, rfl⟩
  · intro name ban turn
    have happlied : (∃ outcome, turn.answer = .ok outcome) ↔ _ := hs.expel_applied_iff p ban
    refine ⟨?_, ?_⟩
    · rw [happlied]
      simp only [moderates_iff, findMember_eq_some_iff, mayActOn_iff, and_assoc]
    · intro target outcome hfound hok
      obtain ⟨hmod, target', htarget, hact⟩ := happlied.mp ⟨outcome, hok⟩
      cases hfound.symm.trans (findMember_eq_some_iff.mp htarget).1
      obtain ⟨hchannel, _, hdelivered⟩ := hs.expel_eq hmod htarget hact ban
      have hturn : turn.channel = (c.expel w actor name ban).channel := rfl
      have hevents : deliveries turn.events = deliveries (c.expel w actor name ban).events :=
        deliveries_execute p w t c actor (.expel name ban)
      rw [hevents, hturn, hdelivered, hchannel]
      exact ⟨hs.goesOn_without _ target.id, rfl⟩

/-- Cid is a moderator and muted, and inherits before Bob, who has been there longer, whether Ann
leaves or bans herself. -/
theorem departure_succession_moderator :
    let p := Policy.ofConfig {}
    let ann : Player := { id := ⟨1⟩, name := "Ann" }
    let bob : Player := { id := ⟨2⟩, name := "Bob" }
    let cid : Player := { id := ⟨3⟩, name := "Cid" }
    let w : World := { directory := (((∅ : Directory).insert ann).insert bob).insert cid }
    let c := (Scene.run p ⟨w, {}, custom "Raiders"⟩ [.command ann (.join none),
      .command bob (.join none), .command cid (.join none),
      .command ann (.setMode "cid" .moderator true),
      .command ann (.setMode "cid" .mute true)]).channel
    let left := c.execute p w {} ann (.leave true)
    let banned := c.execute p w {} ann (.expel "ANN" true)
    let heard : List NoticeBody :=
      [.roleChanged cid.id ⟨false, true, true⟩ ⟨true, true, true⟩, .ownerChanged (some cid.id)]
    c.Reachable p ∧ c.owner = some ann.id ∧
      (left.answer = .ok .applied ∧ c.GoesOn ann.id left.channel ∧
        left.channel.owner = some cid.id ∧
        deliveries left.events =
          (ann.id, c.notice .youLeft) :: left.channel.mailing w (.left ann.id :: heard)) ∧
      w.directory.findByName "ANN" = some ann ∧ banned.answer = .ok .applied ∧
      { c with bans := c.bans.add ann.id }.GoesOn ann.id banned.channel ∧
      deliveries banned.events = c.mailing w [.playerBanned ann.id ann.id] ++
        banned.channel.mailing w heard := by
  refine ⟨?hc, by decide,
    ⟨?hleft, (((departure_succession ?hc _ {} _).1 true).2 _ ?hleft).1, by decide,
      (((departure_succession ?hc _ {} _).1 true).2 _ ?hleft).2.trans ?_⟩,
    ?hfound, ?hbanned,
    (((departure_succession ?hc _ {} _).2 "ANN" true).2 _ _ ?hfound ?hbanned).1,
    (((departure_succession ?hc _ {} _).2 "ANN" true).2 _ _ ?hfound ?hbanned).2.trans ?_⟩
  case hc => exact ⟨_, {}, _, .inl ⟨"Raiders", rfl⟩⟩
  case hfound => decide
  case hleft | hbanned => rfl
  · decide
  · decide

end Channel
end ChatChannels
