import ChatChannels.Proofs.Channel.Authority

/-! Where the parts of a role come from. A member becomes a moderator by the word of a moderator or
by coming to own the channel, and is one no longer by the word of a moderator or because the channel
becomes static. Mutes come and go by the word of a moderator alone: whoever comes, goes or owns the
channel, and however it is converted, they stay as they are. -/
namespace ChatChannels

/-- Whether a role has the part that a mode is about. -/
def Role.has (r : Role) : RoleMode → Bool
  | .moderator => r.moderator
  | .mute => r.muted

theorem Role.has_withMode (r : Role) (mode : RoleMode) (on : Bool) (mode' : RoleMode) :
    (r.withMode mode on).has mode' = if mode' = mode then on else r.has mode' := by
  cases mode <;> cases mode' <;> rfl

namespace Roster

/-- Whether a player is a member with a part of a role. -/
def has (r : Roster) (mode : RoleMode) (q : PlayerId) : Bool := (r.role? q).any (·.has mode)

variable (r : Roster) (mode : RoleMode) (p q : PlayerId)

variable {r mode q} in
theorem contains_of_has (h : r.has mode q) : r.contains q := by
  cases hrole : r.role? q with
  | none =>
    rw [has, hrole] at h
    cases h
  | some role => exact contains_of_role? hrole

theorem has_update (on : Bool) (mode' : RoleMode) :
    (r.update p (·.withMode mode on)).1.has mode' q =
      if q = p ∧ mode' = mode then r.contains q && on else r.has mode' q := by
  rw [has, has, role?_update, ← isSome_role?]
  by_cases hq : q = p
  · cases hrole : r.role? q <;> by_cases hmode : mode' = mode <;>
      simp [hq, hmode, Role.has_withMode]
  · simp [hq]

theorem has_remove (hr : r.players.Nodup) :
    (r.remove p).has mode q = (decide (q ≠ p) && r.has mode q) := by
  rw [has, has, role?_remove r p q hr]
  by_cases hq : q = p <;> simp [hq]

theorem has_mute_transfer (current next : Option PlayerId) :
    (r.transfer current next).1.has .mute q = r.has .mute q := by
  rw [has, has, role?_transfer]
  split
  next => cases r.role? q <;> rfl
  next => split <;> cases r.role? q <;> rfl

theorem has_moderator_transfer (current next : Option PlayerId) :
    (r.transfer current next).1.has .moderator q =
      if some q = next then r.contains q
      else if some q = current then r.contains q && next.isSome
      else r.has .moderator q := by
  rw [has, has, role?_transfer, ← isSome_role?]
  split
  next => cases r.role? q <;> rfl
  next => split <;> cases r.role? q <;> simp [Role.has]

theorem has_levelled : r.levelled.has mode q = (decide (mode = .mute) && r.has .mute q) := by
  rw [has, has, role?_levelled]
  cases mode <;> cases r.role? q <;> rfl

end Roster

namespace Channel

variable {p : Policy} {w : World} {c c' : Channel} {actor : Player}

theorem Sound.has_moderator_owner (hc : c.Sound) {q : PlayerId} (ho : c.owner = some q) :
    c.roster.has .moderator q := by
  obtain ⟨role, hrole, _, hmoderator⟩ := hc.owner_bits q ho
  rw [Roster.has, hrole]
  exact hmoderator

/-! ## Warrants -/

/-- Every change of a moderator bit or a mute has its reason. What `sets` says is that somebody who
may do so has set a mode of a player. -/
structure Warranted (c c' : Channel) (sets : RoleMode → Bool → PlayerId → Prop) : Prop where
  promoted : ∀ q, c'.roster.has .moderator q → c.roster.has .moderator q = false →
    sets .moderator true q ∨ (c'.owner = some q ∧ c.owner ≠ some q)
  demoted : ∀ q, c.roster.has .moderator q → c'.contains q → c'.roster.has .moderator q = false →
    sets .moderator false q ∨ (c.isStatic = false ∧ c'.isStatic)
  muted : ∀ q, c.contains q → c'.contains q → c'.roster.has .mute q ≠ c.roster.has .mute q →
    sets .mute (c'.roster.has .mute q) q

variable {sets : RoleMode → Bool → PlayerId → Prop}

theorem Warranted.mono {sets' : RoleMode → Bool → PlayerId → Prop} (h : c.Warranted c' sets)
    (himp : ∀ mode on q, sets mode on q → sets' mode on q) : c.Warranted c' sets' where
  promoted q hafter hbefore := (h.promoted q hafter hbefore).imp_left (himp _ _ q)
  demoted q hbefore hstays hafter := (h.demoted q hbefore hstays hafter).imp_left (himp _ _ q)
  muted q hbefore hstays hne := himp _ _ q (h.muted q hbefore hstays hne)

theorem Warranted.of_kept
    (h : ∀ mode q, c'.contains q → c'.roster.has mode q = c.roster.has mode q) :
    c.Warranted c' sets where
  promoted q hafter hbefore := by
    rw [h .moderator q (Roster.contains_of_has hafter), hbefore] at hafter
    cases hafter
  demoted q hbefore hstays hafter := by
    rw [h .moderator q hstays, hbefore] at hafter
    cases hafter
  muted q _ hstays hne := absurd (h .mute q hstays) hne

/-- Whoever is given the channel becomes a moderator, and the owner before was one already and
remains it where somebody follows. -/
theorem Sound.warranted_transfer (hc : c.Sound) (base : Roster) {next : Option PlayerId}
    (howner : c'.owner = next) (hroster : c'.roster = (base.transfer c.owner next).1)
    (hbase : ∀ mode q, base.contains q → base.has mode q = c.roster.has mode q)
    (hnext : ∀ q, c.owner = some q → base.contains q → next.isSome) : c.Warranted c' sets := by
  have hstay : ∀ q, c'.contains q → base.contains q := by
    intro q hq
    rwa [Channel.contains, hroster, Roster.contains_congr (base.players_transfer c.owner next)] at hq
  have hmoderator := base.has_moderator_transfer
  refine ⟨?_, ?_, ?_⟩
  · intro q hafter hbefore
    have hother : c.owner ≠ some q := by
      intro ho
      cases (hc.has_moderator_owner ho).symm.trans hbefore
    by_cases hq : some q = next
    · exact .inr ⟨howner.trans hq.symm, hother⟩
    · have hcontains := hstay q (Roster.contains_of_has hafter)
      rw [hroster, hmoderator, if_neg hq, if_neg (Ne.symm hother), hbase _ q hcontains,
        hbefore] at hafter
      cases hafter
  · intro q hbefore hstays hafter
    have hcontains := hstay q hstays
    rw [hroster, hmoderator, hcontains] at hafter
    split at hafter
    next => cases hafter
    next =>
      split at hafter
      next ho =>
        rw [hnext q ho.symm hcontains] at hafter
        cases hafter
      next =>
        rw [hbase _ q hcontains, hbefore] at hafter
        cases hafter
  · intro q _ hstays hne
    refine absurd ?_ hne
    rw [hroster, Roster.has_mute_transfer, hbase _ q (hstay q hstays)]

/-- A channel that becomes static keeps its mutes. -/
theorem Warranted.of_levelled {base : Roster} (hroster : c'.roster = base.levelled)
    (hbase : ∀ q, c.contains q → base.has .mute q = c.roster.has .mute q)
    (hstatic : c.isStatic = false) (hstatic' : c'.isStatic) : c.Warranted c' sets where
  promoted q hafter _ := by
    rw [hroster, Roster.has_levelled] at hafter
    cases hafter
  demoted q _ _ _ := .inr ⟨hstatic, hstatic'⟩
  muted q hbefore _ hne := by
    refine absurd ?_ hne
    rw [hroster, Roster.has_levelled, hbase q hbefore]
    rfl

/-! ## Members who come and go -/

theorem role?_withNewcomer {player : PlayerId} (hnew : c.contains player = false) (q : PlayerId) :
    (c.withNewcomer player).roster.role? q =
      if q = player then
        some { owner := !c.isPublic && c.roster.isEmpty, moderator := !c.isPublic && c.roster.isEmpty }
      else c.roster.role? q := by
  have hnone := (Roster.role?_eq_none_iff _ _).mpr hnew
  rw [Roster.role?, Option.map_eq_none_iff] at hnone
  by_cases hq : q = player
  · subst hq
    simp [withNewcomer, Roster.role?, List.find?_append, hnone]
  · simp [withNewcomer, Roster.role?, List.find?_append, hq, Ne.symm hq]

/-- Whoever comes first to a channel that may be owned owns it. -/
theorem Sound.warranted_admitted (hc : c.Sound) {password : Option String}
    (h : c.joinRefusal actor password = none) : c.Warranted (c.admitted p w actor) sets := by
  obtain ⟨hnew, _⟩ := not_member_of_joinRefusal h
  have hrole := role?_withNewcomer hnew
  have hother : ∀ q, c.contains q → q ≠ actor.id := by
    rintro q hq rfl
    cases hnew.symm.trans hq
  have hkept : ∀ mode q, q ≠ actor.id →
      (c.withNewcomer actor.id).roster.has mode q = c.roster.has mode q := by
    intro mode q hq
    rw [Roster.has, hrole, if_neg hq]
    rfl
  rw [hc.admitted_eq h]
  split
  next hcrowded =>
    have hclass : c.isPublic = false := by
      simp only [isCrowded, Bool.and_eq_true, Bool.not_eq_true'] at hcrowded
      exact hcrowded.1.1.1.1
    exact .of_levelled rfl (fun q hq => hkept .mute q (hother q hq))
      (Bool.or_eq_false_iff.mp hclass).2 rfl
  next =>
    refine ⟨?_, ?_, ?_⟩
    · intro q hafter hbefore
      by_cases hq : q = actor.id
      · subst hq
        rw [Roster.has, hrole, if_pos rfl] at hafter
        have hfirst : (!c.isPublic && c.roster.isEmpty) = true := hafter
        refine .inr ⟨by simp only [withNewcomer, hfirst, if_true], ?_⟩
        intro ho
        cases (hc.has_moderator_owner ho).symm.trans hbefore
      · rw [hkept _ q hq, hbefore] at hafter
        cases hafter
    · intro q hbefore _ hafter
      rw [hkept _ q (hother q (Roster.contains_of_has hbefore)), hbefore] at hafter
      cases hafter
    · intro q hbefore _ hne
      exact absurd (hkept .mute q (hother q hbefore)) hne

theorem Sound.warranted_without (hc : c.Sound) (bans : Bans) (player : PlayerId) :
    c.Warranted (c.without w bans player (c.owner = some player)) sets := by
  have hbase : ∀ mode q, (c.roster.remove player).contains q →
      (c.roster.remove player).has mode q = c.roster.has mode q := by
    intro mode q hq
    rw [Roster.contains_remove hc.distinct, Bool.and_eq_true] at hq
    rw [Roster.has_remove _ _ _ _ hc.distinct, hq.1, Bool.true_and]
  unfold Channel.without inherit
  split
  next h =>
    refine hc.warranted_transfer (c.roster.remove player) rfl rfl hbase ?_
    intro q ho hq
    rw [Bool.and_eq_true, decide_eq_true_iff] at h
    obtain rfl : q = player := Option.some.inj (ho.symm.trans h.1)
    rw [Roster.contains_remove hc.distinct] at hq
    simp at hq
  next => exact .of_kept hbase

/-! ## Modes and conversions -/

theorem Warranted.of_update {target : PlayerId} {mode : RoleMode} {on : Bool}
    (hsets : sets mode on target) (hroster : c'.roster =
      (c.roster.update target (·.withMode mode on)).1) : c.Warranted c' sets := by
  have hhas : ∀ mode' q, c.contains q → c'.roster.has mode' q ≠ c.roster.has mode' q →
      sets mode' (c'.roster.has mode' q) q := by
    intro mode' q hq hne
    rw [hroster, Roster.has_update] at hne ⊢
    split at hne
    next h =>
      obtain ⟨rfl, rfl⟩ := h
      rw [if_pos ⟨rfl, rfl⟩, show c.roster.contains q = true from hq, Bool.true_and]
      exact hsets
    next => exact absurd rfl hne
  have hstay : ∀ q, c'.contains q → c.contains q := by
    intro q hq
    rwa [Channel.contains, hroster, Roster.contains_congr (c.roster.players_update _ _)] at hq
  refine ⟨?_, ?_, ?_⟩
  · intro q hafter hbefore
    have hset := hhas .moderator q (hstay q (Roster.contains_of_has hafter))
    rw [hafter, hbefore] at hset
    exact .inl (hset Bool.false_ne_true.symm)
  · intro q hbefore hstays hafter
    have hset := hhas .moderator q (hstay q hstays)
    rw [hafter, hbefore] at hset
    exact .inl (hset Bool.false_ne_true)
  · intro q hbefore _ hne
    exact hhas .mute q hbefore hne

theorem Sound.warranted_convert (hc : c.Sound) (wantStatic explicit : Bool) :
    c.Warranted (c.convert p w wantStatic explicit).channel sets := by
  rcases c.convert_cases p w wantStatic explicit with h | ⟨_, hmay, h⟩ | ⟨_, hmay, h⟩ <;> rw [h]
  · exact .of_kept fun _ _ _ => rfl
  all_goals
    simp only [mayConvert, Bool.and_eq_true, decide_eq_true_eq] at hmay
  · rw [hc.becomeStatic_eq]
    exact .of_levelled rfl (fun _ _ => rfl) (by simpa using hmay.1.1.2) rfl
  · have hstatic : c.isStatic = true := by simpa using hmay.1.1.2
    have ho : c.owner = none := hc.public_unowned (by simp [isPublic, hstatic])
    rw [becomeDynamic_channel w c ho]
    refine hc.warranted_transfer c.roster rfl (by rw [ho]) (fun _ _ _ => rfl) ?_
    intro q hq
    cases ho.symm.trans hq

/-! ## Every step -/

theorem Sound.warranted_effect (hc : c.Sound) {command : Command} {turn : Turn Answer}
    (h : c.Effect p w actor command turn) :
    c.Warranted turn.channel fun mode on q => ∃ name, command = .setMode name mode on ∧
      (∃ outcome, turn.answer = .ok outcome) ∧ w.Finds name q ∧ c.Moderates actor := by
  cases h with
  | joined password events hjoin => exact hc.warranted_admitted hjoin
  | left notify role events hrole =>
    rw [hc.owner_bit hrole]
    exact hc.warranted_without c.bans actor.id
  | expelled name ban target events hmod htarget hact => exact hc.warranted_without _ target.id
  | modeSet name mode on target events hmod htarget hmember hfaction howner hchange =>
    exact .of_update ⟨name, rfl, ⟨_, rfl⟩, congrArg (Option.map Player.id) htarget, hmod⟩ rfl
  | ownerSet name target events hmember hclass hright htarget hfaction =>
    exact hc.warranted_transfer c.roster rfl rfl (fun _ _ _ => rfl) fun _ _ _ => rfl
  | _ => exact .of_kept fun _ _ _ => rfl

end Channel

namespace Scene

variable {p : Policy} {s : Scene}

/-- A moderator or a game master among the members sets a mode of a player, and is not refused. -/
def Sets (p : Policy) (s : Scene) (act : Act) (mode : RoleMode) (on : Bool) (q : PlayerId) : Prop :=
  ∃ actor name, s.Succeeds p act actor (.setMode name mode on) ∧ s.world.Finds name q ∧
    s.channel.Moderates actor

/-- Whatever happens to a channel, moderators are made and unmade and members muted and unmuted for
a reason: a moderator's word or, for moderators, a new owner or a channel that becomes static. -/
theorem roles_warranted (hc : s.channel.Reachable p) (act : Act) :
    s.channel.Warranted (s.step p act).channel (s.Sets p act) := by
  cases act with
  | command actor command =>
    have h := hc.sound.warranted_effect
      (s.channel.perform_effect p s.world actor s.throttle command)
    refine h.mono ?_
    rintro mode on q ⟨name, rfl, hok, hfound, hmod⟩
    exact ⟨actor, name, ⟨rfl, hok⟩, hfound, hmod⟩
  | convert wantStatic explicit => exact hc.sound.warranted_convert wantStatic explicit
  | surround world throttle => exact .of_kept fun _ _ _ => rfl

/-- A muted member inherits the channel, which makes a moderator of them and leaves them muted. -/
theorem roles_warranted_inherited :
    let p := Policy.ofConfig {}
    let ann : Player := { id := ⟨1⟩, name := "Ann" }
    let bob : Player := { id := ⟨2⟩, name := "Bob" }
    let w : World := { directory := ((∅ : Directory).insert ann).insert bob }
    let s := Scene.run p ⟨w, {}, .custom "Raiders"⟩ [.command ann (.join none),
      .command bob (.join none), .command ann (.setMode "bob" .mute true)]
    let left := (s.step p (.command ann (.leave true))).channel
    s.channel.Reachable p ∧ s.channel.roster.role? bob.id = some { muted := true } ∧
      left.owner = some bob.id ∧
      left.roster.role? bob.id = some { owner := true, moderator := true, muted := true } ∧
      s.channel.Warranted left (s.Sets p (.command ann (.leave true))) := by
  refine ⟨?hc, by decide, by decide, by decide, roles_warranted ?hc _⟩
  case hc => exact ⟨_, {}, _, .inl ⟨"Raiders", rfl⟩⟩

end Scene
end ChatChannels
