import ChatChannels.Proofs.Channel.Conversion

/-! Players who are let into a channel. The newcomer comes last and owns the channel if it may be
owned and nobody was there, and then the channel may be full and become static, which takes it from
its owner at once. The members hear of who joined, the newcomer is welcomed, and all hear what comes
of it. -/
namespace ChatChannels

theorem CatalogEntry.flags_userMade (e : CatalogEntry) : e.flags.contains .custom = false := by
  unfold flags
  cases e.trade <;> cases e.city <;> cases e.groupFinding <;> rfl

namespace Channel

open Event (deliveries)

variable {p : Policy} {w : World} {c : Channel} {actor : Player} {password : Option String}

/-- No built-in channel passes for one that a user has made. -/
theorem Reachable.userMade (h : c.Reachable p) (hflag : c.flags.contains .custom) :
    c.isBuiltIn = false := by
  have hnext : ∀ c c' : Channel, c.Next p c' → (c.flags.contains .custom → c.isBuiltIn = false) →
      c'.flags.contains .custom → c'.isBuiltIn = false := by
    intro c c' hnext hc
    obtain ⟨_, hid, hflags, _⟩ : c'.name = c.name ∧ c'.id = c.id ∧ c'.flags = c.flags ∧
        c'.realmRestricted = c.realmRestricted := by
      simpa [classification] using hnext.classification
    rwa [hflags, isBuiltIn, hid]
  obtain ⟨w, t, acts, ⟨name, rfl⟩ | ⟨e, rfl⟩⟩ := h
  · exact Scene.run_invariant hnext _ acts (fun _ => rfl) hflag
  · refine Scene.run_invariant hnext _ acts (fun hcustom => ?_) hflag
    cases e.flags_userMade.symm.trans hcustom

/-- A channel lets a player in. It is converted if a user has made it and there are enough members
and no password. -/
structure Admits (p : Policy) (c : Channel) (q : PlayerId) (c' : Channel) : Prop where
  players : c'.roster.players = c.roster.players ++ [q]
  static_iff : c'.isStatic ↔ c.isStatic ∨ (c.flags.contains .custom ∧ c.password = none ∧
    p.staticAutoThreshold ≠ 0 ∧ p.staticAutoThreshold ≤ c.roster.size + 1)
  kept : c'.isStatic = c.isStatic → c' = c.withNewcomer q
  converted : c'.isStatic ≠ c.isStatic → c' = (c.withNewcomer q).levelled

/-- What the members hear of a channel that has let a player in: the role of its first owner, and
what the conversion makes of it. -/
def settlement (c : Channel) (q : PlayerId) (c' : Channel) : List NoticeBody :=
  (if c.isPublic = false ∧ c.roster.isEmpty then
    [.roleChanged q {} { owner := true, moderator := true }] else []) ++
  if c'.isStatic = c.isStatic then [] else (c.withNewcomer q).closing false

/-! ## Who is let in -/

theorem joinRefusal_eq_none_iff :
    c.joinRefusal actor password = none ↔
      c.contains actor.id = false ∧ c.bans.contains actor.id = false ∧
        (∀ secret, c.password = some secret → password = some secret) ∧
        ¬(actor.guild.isSome ∧ c.flags.bits = 0x38) := by
  have hpassword : (c.password.isSome && password ≠ c.password) = false ↔
      ∀ secret, c.password = some secret → password = some secret := by
    cases c.password with
    | none => simp
    | some secret => simp
  have hflags : c.flags = guildRefusingFlags ↔ c.flags.bits = 0x38 :=
    ⟨congrArg ChannelFlags.bits, congrArg ChannelFlags.mk⟩
  have hguild : (actor.guild.isSome && c.flags = guildRefusingFlags) = false ↔
      ¬(actor.guild.isSome ∧ c.flags.bits = 0x38) := by
    rw [← Bool.not_eq_true, Bool.and_eq_true, decide_eq_true_iff, hflags]
  rw [← hpassword, ← hguild]
  unfold joinRefusal
  cases c.contains actor.id <;> cases c.bans.contains actor.id <;>
    cases c.password.isSome && password ≠ c.password <;>
    cases actor.guild.isSome && c.flags = guildRefusingFlags <;> simp

theorem join_applied_iff :
    (∃ outcome, (c.join p w actor password).answer = .ok outcome) ↔
      c.joinRefusal actor password = none := by
  unfold join
  cases h : c.joinRefusal actor password with
  | none => simp
  | some refusal => simp

/-! ## What comes of it -/

theorem players_withNewcomer (q : PlayerId) :
    (c.withNewcomer q).roster.players = c.roster.players ++ [q] := by
  simp [withNewcomer, Roster.players]

theorem players_insert_newcomer {q : PlayerId} (hnew : c.contains q = false) :
    (c.withNewcomer q).roster.players = (c.roster.insert q).players := by
  rw [players_withNewcomer, Roster.players_insert]
  exact (if_neg (Bool.eq_false_iff.mp hnew)).symm

theorem Reachable.isCrowded_withNewcomer (hc : c.Reachable p) (q : PlayerId) :
    (c.withNewcomer q).isCrowded p ↔ c.isStatic = false ∧ c.flags.contains .custom ∧
      c.password = none ∧ p.staticAutoThreshold ≠ 0 ∧
        p.staticAutoThreshold ≤ c.roster.size + 1 := by
  have hsize : (c.withNewcomer q).roster.size = c.roster.size + 1 := by
    simp [withNewcomer, Roster.size]
  have hclass : (c.withNewcomer q).isPublic = (c.isBuiltIn || c.isStatic) := rfl
  have hflags : (c.withNewcomer q).flags = c.flags := rfl
  have hpassword : (c.withNewcomer q).password = c.password := rfl
  have hmade := hc.userMade
  rw [isCrowded, hsize, hclass, hflags, hpassword]
  simp only [Bool.and_eq_true, Bool.not_eq_true', Bool.or_eq_false_iff, Option.isNone_iff_eq_none,
    decide_eq_true_eq, and_assoc]
  exact ⟨And.right, fun h => ⟨hmade h.2.1, h⟩⟩

theorem Reachable.admits (hc : c.Reachable p) {q : PlayerId} {c' : Channel}
    (h : c' = if (c.withNewcomer q).isCrowded p then (c.withNewcomer q).levelled
      else c.withNewcomer q) : c.Admits p q c' := by
  have hcrowded := hc.isCrowded_withNewcomer q
  split at h <;> subst h
  next hfull =>
    obtain ⟨hdynamic, hmany⟩ := hcrowded.mp hfull
    refine ⟨?_, ?_, ?_, fun _ => rfl⟩
    · rw [levelled, Roster.players_levelled, players_withNewcomer]
    · exact ⟨fun _ => .inr hmany, fun _ => rfl⟩
    · intro hsame
      cases (show true = c.isStatic from hsame).trans hdynamic
  next hfits =>
    refine ⟨players_withNewcomer q, ⟨.inl, ?_⟩, fun _ => rfl, fun hother => absurd rfl hother⟩
    rintro (hstatic | hmany)
    · exact hstatic
    · cases hs : c.isStatic with
      | true => exact hs
      | false => exact absurd (hcrowded.mpr ⟨hs, hmany⟩) hfits

theorem Admits.converted_iff {q : PlayerId} {c' : Channel} (h : c.Admits p q c')
    (hc : c.Reachable p) : c'.isStatic ≠ c.isStatic ↔ (c.withNewcomer q).isCrowded p := by
  rw [hc.isCrowded_withNewcomer q]
  constructor
  · intro hother
    have hdynamic : c.isStatic = false := by
      rw [← Bool.not_eq_true]
      exact fun hs => hother ((h.static_iff.mpr (.inl hs)).trans hs.symm)
    have hstatic : c'.isStatic = true := by simpa [hdynamic] using hother
    exact ⟨hdynamic, (h.static_iff.mp hstatic).resolve_left (by simp [hdynamic])⟩
  · rintro ⟨hdynamic, hmany⟩
    rw [h.static_iff.mpr (.inr hmany), hdynamic]
    exact Bool.noConfusion

theorem Admits.dynamic_of_converted {q : PlayerId} {c' : Channel} (h : c.Admits p q c')
    (hc : c.Reachable p) (hother : c'.isStatic ≠ c.isStatic) : c.isPublic = false := by
  obtain ⟨hdynamic, hmade, _⟩ := (hc.isCrowded_withNewcomer q).mp ((h.converted_iff hc).mp hother)
  rw [isPublic, hc.userMade hmade, hdynamic]
  rfl

/-- Whoever adopts a channel is alone on it, so that this is not proclaimed. -/
theorem Sound.deliveries_adopt (hc : c.Sound) {q : PlayerId} (hnew : c.contains q = false)
    (hban : c.bans.contains q = false) :
    deliveries ({ c with roster := c.roster.insert q }.adopt w q).events =
      (c.withNewcomer q).mailing w (if c.isPublic = false ∧ c.roster.isEmpty then
        [.roleChanged q {} { owner := true, moderator := true }] else []) := by
  let entered : Channel := { c with roster := c.roster.insert q }
  have hplayers : (c.withNewcomer q).roster.players = entered.roster.players :=
    players_insert_newcomer hnew
  have hfirst : (!entered.isPublic && entered.owner.isNone) = true ↔
      c.isPublic = false ∧ c.roster.isEmpty := by
    rw [← Bool.not_eq_true', ← Bool.and_eq_true]
    exact Bool.eq_iff_iff.mp hc.unowned_first
  split
  next h =>
    have howns := hfirst.mpr h
    have hnone : entered.owner = none := by simpa using (Bool.and_eq_true_iff.mp howns).2
    have hgone : ∀ o, entered.owner = some o → entered.contains o = false := by
      intro o ho
      cases hnone.symm.trans ho
    have hmember : ∀ s, some q = some s → entered.contains s := by
      rintro s ⟨rfl⟩
      rw [Channel.contains, Roster.contains_insert]
      simp
    have halone : entered.roster.size = 1 := by
      rw [← Roster.length_players, ← hplayers, players_withNewcomer,
        (Roster.isEmpty_iff c.roster).mp h.2]
      rfl
    rw [adopt_unowned w entered q howns,
      (hc.toTidy.insert hnew hban).deliveries_setOwner hgone hmember,
      halone, mailing_congr hplayers rfl]
    simp only [Option.toList_some, List.map_singleton, Roster.roleNotice,
      Roster.roleOf_insert hnew]
    rfl
  next h =>
    rw [adopt_idle w entered q (Bool.eq_false_iff.mpr (mt hfirst.mp h))]
    rfl

theorem Sound.join_channel (hc : c.Sound) (h : c.joinRefusal actor password = none) :
    (c.join p w actor password).channel =
      if (c.withNewcomer actor.id).isCrowded p then (c.withNewcomer actor.id).levelled
      else c.withNewcomer actor.id := by
  rw [← hc.admitted_eq (w := w) h]
  unfold join
  rw [h]
  rfl

theorem Sound.deliveries_convert (hc : c.Sound) :
    deliveries (c.convert p w true false).events =
      c.mailing w (if c.isCrowded p then c.closing false else []) := by
  unfold Channel.convert
  rw [mayConvert_eq_isCrowded]
  split
  · exact hc.deliveries_becomeStatic false
  · rfl

/-- Everything that follows on the welcome is told to the members, the newcomer among them. -/
theorem Sound.deliveries_join (hc : c.Sound) (h : c.joinRefusal actor password = none) :
    let joined := c.withNewcomer actor.id
    deliveries (c.join p w actor password).events =
      joined.mailing w (if c.announces p actor then [.joined actor.id] else []) ++
        (if w.isOnline actor.id then [(actor.id, c.notice (.youJoined c.flags c.id 0))] else []) ++
        joined.mailing w
          ((if c.isPublic = false ∧ c.roster.isEmpty then
            [.roleChanged actor.id {} { owner := true, moderator := true }] else []) ++
          if joined.isCrowded p then joined.closing false else []) := by
  intro joined
  obtain ⟨hnew, hban⟩ := not_member_of_joinRefusal h
  let entered : Channel := { c with roster := c.roster.insert actor.id }
  have hplayers : joined.roster.players = entered.roster.players := players_insert_newcomer hnew
  unfold join
  rw [h]
  dsimp only
  rw [hc.adopt_eq hnew, Event.deliveries_append, Event.deliveries_append, Event.deliveries_append,
    deliveries_broadcast_if, deliveries_tell, hc.deliveries_adopt hnew hban,
    (hc.sound_withNewcomer hnew hban).deliveries_convert, ← mailing_congr hplayers rfl, mailing_append,
    List.append_assoc _ (mailing _ _ _)]
  rfl

theorem ownerChanged_mem_closing {explicit : Bool} {owner : Option PlayerId} :
    .ownerChanged owner ∈ c.closing explicit ↔
      owner = none ∧ c.owner.isSome ∧ (explicit ∨ 1 < c.roster.size) := by
  simp [closing, Roster.roleNotice, and_comm (b := owner = none)]

/-- Of a new owner the members hear nothing. That there is none any more is news if anybody was
there before, for then somebody owned the channel. -/
theorem Sound.ownerChanged_mem_settlement (hc : c.Sound) {q : PlayerId} {c' : Channel}
    (hclass : c'.isStatic ≠ c.isStatic → c.isPublic = false) {owner : Option PlayerId} :
    .ownerChanged owner ∈ c.settlement q c' ↔
      owner = none ∧ c'.isStatic ≠ c.isStatic ∧ c.roster.isEmpty = false := by
  have hrole : .ownerChanged owner ∉ if c.isPublic = false ∧ c.roster.isEmpty then
      [.roleChanged q {} { owner := true, moderator := true }] else ([] : List NoticeBody) := by
    split <;> simp
  have hothers : (1 < (c.withNewcomer q).roster.size) ↔ c.roster.isEmpty = false := by
    cases hmembers : c.roster.members <;>
      simp [withNewcomer, Roster.size, Roster.isEmpty, hmembers]
  rw [settlement, List.mem_append]
  by_cases hsame : c'.isStatic = c.isStatic
  · simp [hrole, hsame]
  · have howner : c.roster.isEmpty = false → (c.withNewcomer q).owner.isSome := by
      intro hoccupied
      simpa [withNewcomer, hoccupied] using hc.owned (hclass hsame) hoccupied
    simp only [hrole, hsame, if_false, false_or, ownerChanged_mem_closing, hothers]
    constructor
    · rintro ⟨hnone, _, hoccupied⟩
      exact ⟨hnone, hsame, by simpa using hoccupied⟩
    · rintro ⟨hnone, _, hoccupied⟩
      exact ⟨hnone, howner hoccupied, .inr hoccupied⟩

/-- Neither that somebody has joined nor their welcome is about the owner. -/
theorem ownerChanged_mem_welcome {c' : Channel} (hname : c'.name = c.name) {q s : PlayerId}
    {owner : Option PlayerId} {announced : Prop} [Decidable announced] {rest : List NoticeBody} :
    (q, c.notice (.ownerChanged owner)) ∈
        c'.mailing w (if announced then [.joined s] else []) ++
          (if w.isOnline s then [(s, c.notice (.youJoined c.flags c.id 0))] else []) ++
          c'.mailing w rest ↔
      q ∈ w.onlineMembers c'.roster ∧ .ownerChanged owner ∈ rest := by
  have hjoined : .ownerChanged owner ∉ if announced then [NoticeBody.joined s] else [] := by
    split <;> simp
  have hwelcome : (q, c.notice (.ownerChanged owner)) ∉
      if w.isOnline s then [(s, c.notice (.youJoined c.flags c.id 0))] else [] := by
    split <;> simp [notice]
  rw [List.mem_append, List.mem_append, mem_mailing_iff hname, mem_mailing_iff hname]
  simp only [hjoined, hwelcome, and_false, false_or]

/-- Who joins is let in by the password if there is one, unless they are a member or banned, or of a
guild where guilds may not go. The newcomer is welcomed after the members have heard of them and
before the newcomer's role and the conversion are told. -/
theorem join_settled (hc : c.Reachable p) (w : World) (t : Throttle) (actor : Player)
    (password : Option String) :
    let turn := c.execute p w t actor (.join password)
    ((∃ outcome, turn.answer = .ok outcome) ↔
      c.contains actor.id = false ∧ c.bans.contains actor.id = false ∧
        (∀ secret, c.password = some secret → password = some secret) ∧
        ¬(actor.guild.isSome ∧ c.flags.bits = 0x38)) ∧
    ∀ outcome, turn.answer = .ok outcome →
      c.Admits p actor.id turn.channel ∧
      deliveries turn.events =
        turn.channel.mailing w
            (if c.announce ∧ (actor.isGameMaster = false ∨ p.gmJoinSilently = false)
              then [.joined actor.id] else []) ++
          (if w.isOnline actor.id then [(actor.id, c.notice (.youJoined c.flags c.id 0))]
            else []) ++
          turn.channel.mailing w (c.settlement actor.id turn.channel) ∧
      ∀ q owner, (q, c.notice (.ownerChanged owner)) ∈ deliveries turn.events ↔
        q ∈ w.onlineMembers turn.channel.roster ∧
          owner = none ∧ turn.channel.isStatic ≠ c.isStatic ∧ c.roster.isEmpty = false := by
  have hs := hc.sound
  intro turn
  refine ⟨join_applied_iff.trans joinRefusal_eq_none_iff, ?_⟩
  intro outcome hok
  have hrefusal := join_applied_iff.mp ⟨outcome, hok⟩
  have hadmits : c.Admits p actor.id turn.channel := hc.admits (hs.join_channel hrefusal)
  have hplayers : turn.channel.roster.players = (c.withNewcomer actor.id).roster.players :=
    hadmits.players.trans (players_withNewcomer actor.id).symm
  have hname : turn.channel.name = c.name := (Next.command w t actor (.join password)).name_eq
  have hdelivered : deliveries turn.events = _ :=
    (deliveries_execute p w t c actor (.join password)).trans (hs.deliveries_join hrefusal)
  simp only [← mailing_congr hplayers hname, announces_iff, ← hadmits.converted_iff hc,
    ne_eq, ite_not] at hdelivered
  refine ⟨hadmits, hdelivered, ?_⟩
  intro q owner
  rw [← hs.ownerChanged_mem_settlement (hadmits.dynamic_of_converted hc), hdelivered]
  exact ownerChanged_mem_welcome hname

/-- Where one member is enough for a channel to be static, the first to come owns it and loses it
before anybody else has heard of it. -/
theorem join_settled_first :
    let p := Policy.ofConfig { staticAutoThreshold := 1 }
    let ann : Player := { id := ⟨1⟩, name := "Ann" }
    let w : World := { directory := (∅ : Directory).insert ann }
    let c := custom "Raiders"
    let turn := c.execute p w {} ann (.join none)
    c.Reachable p ∧ turn.answer = .ok .applied ∧ c.Admits p ann.id turn.channel ∧
      turn.channel.isStatic = true ∧ turn.channel.owner = none ∧
      deliveries turn.events = [(ann.id, c.notice (.joined ann.id)),
        (ann.id, c.notice (.youJoined .custom 0 0)),
        (ann.id, c.notice (.roleChanged ann.id {} ⟨true, true, false⟩)),
        (ann.id, c.notice (.roleChanged ann.id ⟨true, true, false⟩ {})),
        (ann.id, c.notice (.announcementsOff none))] := by
  refine ⟨?hc, ?hok, ((join_settled ?hc _ {} _ none).2 _ ?hok).1, by decide, by decide,
    ((join_settled ?hc _ {} _ none).2 _ ?hok).2.1.trans (by decide)⟩
  case hc => exact ⟨∅, {}, [], .inl ⟨"Raiders", rfl⟩⟩
  case hok => rfl

end Channel
end ChatChannels
