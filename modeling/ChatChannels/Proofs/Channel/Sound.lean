import ChatChannels.Proofs.Channel.Run

/-! What holds of every channel that can arise: members are listed once, the owner is a member with
both bits and nobody else has the owner bit, bans keep players out, public channels have no owner
and all others that anyone is on have one, and built-in channels are neither static nor protected.
On the way from one request to the next a channel may be without its owner; what holds even then is
`Tidy`. -/
namespace ChatChannels.Channel

/-- What holds of a channel also between the changes that one request makes. -/
structure Tidy (c : Channel) : Prop where
  distinct : c.roster.players.Nodup
  owner_of_bit : ∀ q role, c.roster.role? q = some role → role.owner → c.owner = some q
  banned_out : ∀ q, c.bans.contains q → c.contains q = false
  builtIn_plain : c.isBuiltIn → c.isStatic = false ∧ c.password = none

/-- What holds of a channel between requests. -/
structure Sound (c : Channel) : Prop extends Tidy c where
  owner_bits : ∀ q, c.owner = some q →
    ∃ role, c.roster.role? q = some role ∧ role.owner ∧ role.moderator
  public_unowned : c.isPublic → c.owner = none
  owned : c.isPublic = false → c.roster.isEmpty = false → c.owner.isSome

variable {p : Policy} {w : World} {c : Channel}

theorem custom_sound (name : String) : (custom name).Sound where
  distinct := List.nodup_nil
  owner_of_bit q role h := by cases h
  banned_out q h := rfl
  builtIn_plain h := ⟨rfl, rfl⟩
  owner_bits q h := by cases h
  public_unowned h := rfl
  owned h he := by cases he

theorem builtIn_sound (e : CatalogEntry) : (builtIn e).Sound where
  distinct := List.nodup_nil
  owner_of_bit q role h := by cases h
  banned_out q h := rfl
  builtIn_plain h := ⟨rfl, rfl⟩
  owner_bits q h := by cases h
  public_unowned h := rfl
  owned h he := by cases he

/-- Exactly the owner's role has the owner bit. -/
theorem Sound.owner_bit (hc : c.Sound) {q : PlayerId} {role : Role}
    (h : c.roster.role? q = some role) : role.owner = decide (c.owner = some q) := by
  rw [Bool.eq_iff_iff, decide_eq_true_iff]
  constructor
  · exact hc.owner_of_bit q role h
  · intro ho
    obtain ⟨role', h', hbit, _⟩ := hc.owner_bits q ho
    rw [h] at h'
    cases h'
    exact hbit

theorem Tidy.owner_bit_eq_false (hc : c.Tidy) {q : PlayerId} {role : Role}
    (h : c.roster.role? q = some role) (hother : c.owner ≠ some q) : role.owner = false := by
  rw [← Bool.not_eq_true]
  exact fun hbit => hother (hc.owner_of_bit q role h hbit)

/-! ## Changes of ownership -/

/-- A transfer leaves the owner bit to the new owner alone. -/
theorem Tidy.transfer (hc : c.Tidy) (next : Option PlayerId) :
    { c with roster := (c.roster.transfer c.owner next).1, owner := next }.Tidy where
  distinct := by
    rw [Roster.players_transfer]
    exact hc.distinct
  owner_of_bit q role h hbit := by
    dsimp only at h ⊢
    rw [Roster.role?_transfer] at h
    split at h
    next hq => exact hq.symm
    next =>
      split at h
      next =>
        obtain ⟨old, _, rfl⟩ := Option.map_eq_some_iff.mp h
        cases hbit
      next hne => exact absurd (hc.owner_of_bit q role h hbit).symm hne
  banned_out q h := by
    rw [← hc.banned_out q h]
    exact Roster.contains_congr (c.roster.players_transfer c.owner next)
  builtIn_plain := hc.builtIn_plain

/-- A channel is in order once it has been given to a member, or to nobody where nobody may or can
own it. -/
theorem Tidy.transfer_sound (hc : c.Tidy) (next : Option PlayerId)
    (hmember : ∀ q, next = some q → c.contains q) (hpublic : c.isPublic → next = none)
    (howned : c.isPublic = false → c.roster.isEmpty = false → next.isSome) :
    { c with roster := (c.roster.transfer c.owner next).1, owner := next }.Sound where
  toTidy := hc.transfer next
  owner_bits q h := by
    obtain ⟨role, hrole⟩ := Roster.exists_role_of_contains (hmember q h)
    refine ⟨{ role with moderator := true, owner := true }, ?_, rfl, rfl⟩
    dsimp only at h
    rw [Roster.role?_transfer, if_pos h.symm, hrole]
    rfl
  public_unowned := hpublic
  owned hp he := by
    have hempty := Roster.isEmpty_congr (c.roster.players_transfer c.owner next)
    exact howned hp (hempty.symm.trans he)

theorem Tidy.succeed_sound (hc : c.Tidy) (hp : c.isPublic = false) :
    { c with
      roster := (c.roster.transfer c.owner c.roster.successor).1
      owner := c.roster.successor }.Sound := by
  apply hc.transfer_sound
  · intro q hq
    exact Roster.contains_of_successor hq
  · intro h
    rw [hp] at h
    cases h
  · intro _ he
    rw [Option.isSome_iff_ne_none, ne_eq, Roster.successor_eq_none_iff, ← Roster.isEmpty_iff, he]
    exact Bool.false_ne_true

/-! ## Members who come and go -/

theorem Tidy.remove (hc : c.Tidy) (player : PlayerId) (bans : Bans)
    (hbans : ∀ q, bans.contains q → q = player ∨ c.bans.contains q) :
    { c with bans, roster := c.roster.remove player }.Tidy where
  distinct := Roster.nodup_remove player hc.distinct
  owner_of_bit q role h hbit := by
    dsimp only at h ⊢
    rw [Roster.role?_remove _ _ _ hc.distinct] at h
    split at h
    next => cases h
    next => exact hc.owner_of_bit q role h hbit
  banned_out q h := by
    rw [Channel.contains, Roster.contains_remove hc.distinct]
    rcases hbans q h with rfl | h
    · simp
    · rw [Bool.and_eq_false_iff]
      exact .inr (hc.banned_out q h)
  builtIn_plain := hc.builtIn_plain

/-- Where the owner goes somebody else inherits, and where anybody else goes nothing is to be
done. -/
theorem Sound.without (hc : c.Sound) (player : PlayerId) (bans : Bans)
    (hbans : ∀ q, bans.contains q → q = player ∨ c.bans.contains q) :
    (c.without w bans player (c.owner = some player)).Sound := by
  have htidy := hc.toTidy.remove player bans hbans
  unfold Channel.without inherit
  split
  next h =>
    rw [Bool.and_eq_true, Bool.not_eq_true'] at h
    exact htidy.succeed_sound h.2
  next h =>
    refine { htidy with owner_bits := ?_, public_unowned := hc.public_unowned, owned := ?_ }
    · intro q hq
      obtain ⟨role, hrole, hbits⟩ := hc.owner_bits q hq
      have hne : q ≠ player := by
        rintro rfl
        have h : ¬(decide (c.owner = some q) && !c.isPublic) = true := h
        have hp : c.isPublic = true := by simpa [show c.owner = some q from hq] using h
        cases (hc.public_unowned hp).symm.trans hq
      refine ⟨role, ?_, hbits⟩
      dsimp only
      rw [Roster.role?_remove _ _ _ hc.distinct, if_neg hne]
      exact hrole
    · intro hp he
      apply hc.owned hp
      rw [← Bool.not_eq_true, Roster.isEmpty_iff] at he ⊢
      intro hempty
      apply he
      rw [Roster.players_remove, hempty]
      rfl

theorem Tidy.insert (hc : c.Tidy) {player : PlayerId} (hnew : c.contains player = false)
    (hban : c.bans.contains player = false) :
    { c with roster := c.roster.insert player }.Tidy where
  distinct := Roster.nodup_insert player hc.distinct
  owner_of_bit q role h hbit := by
    dsimp only at h ⊢
    rw [Roster.role?_insert, (Roster.role?_eq_none_iff _ _).mpr hnew] at h
    split at h
    next => cases h; cases hbit
    next => exact hc.owner_of_bit q role h hbit
  banned_out q h := by
    have hne : q ≠ player := by
      rintro rfl
      cases hban.symm.trans h
    rw [Channel.contains, Roster.contains_insert, Bool.or_eq_false_iff]
    exact ⟨by simpa using hne, hc.banned_out q h⟩
  builtIn_plain := hc.builtIn_plain

/-- A player let into a channel that may have an owner and has none becomes the owner. -/
theorem Sound.enter (hc : c.Sound) {player : PlayerId} (hnew : c.contains player = false)
    (hban : c.bans.contains player = false) :
    ({ c with roster := c.roster.insert player }.adopt w player).channel.Sound := by
  have htidy := hc.toTidy.insert hnew hban
  unfold adopt
  split
  next h =>
    rw [Bool.and_eq_true, Bool.not_eq_true'] at h
    apply htidy.transfer_sound
    · intro q hq
      cases hq
      rw [Channel.contains, Roster.contains_insert]
      simp
    · intro hp
      rw [h.1] at hp
      cases hp
    · intro _ _
      rfl
  next h =>
    refine { htidy with owner_bits := ?_, public_unowned := hc.public_unowned, owned := ?_ }
    · intro q hq
      obtain ⟨role, hrole, hbits⟩ := hc.owner_bits q hq
      have hne : q ≠ player := by
        rintro rfl
        cases hnew.symm.trans (Roster.contains_of_role? hrole)
      refine ⟨role, ?_, hbits⟩
      dsimp only
      rw [Roster.role?_insert, if_neg hne]
      exact hrole
    · intro hp _
      rw [Bool.and_eq_true, Bool.not_eq_true'] at h
      rw [← Option.not_isNone, Bool.not_eq_true', ← Bool.not_eq_true]
      exact fun ho => h ⟨hp, ho⟩

/-! ## Conversions -/

theorem Sound.becomeStatic (hc : c.Sound) (hclass : c.isBuiltIn = false) (explicit : Bool) :
    (c.becomeStatic w explicit).channel.Sound := by
  have htidy := hc.toTidy.transfer none
  rw [becomeStatic_channel]
  refine ⟨⟨?_, ?_, ?_, ?_⟩, ?_, fun _ => rfl, ?_⟩
  · rw [Roster.players_stripModerators]
    exact htidy.distinct
  · intro q role h hbit
    dsimp only at h
    rw [Roster.role?_stripModerators] at h
    obtain ⟨old, hold, rfl⟩ := Option.map_eq_some_iff.mp h
    exact htidy.owner_of_bit q old hold hbit
  · intro q hq
    rw [← htidy.banned_out q hq]
    exact Roster.contains_congr (Roster.players_stripModerators _)
  · intro h
    cases hclass.symm.trans h
  · intro q hq
    cases hq
  · intro hp
    simp [isPublic] at hp

theorem Sound.becomeDynamic (hc : c.Sound) (hclass : c.isBuiltIn = false)
    (hstatic : c.isStatic = true) : (c.becomeDynamic w).channel.Sound := by
  have ho : c.owner = none := hc.public_unowned (by simp [isPublic, hstatic])
  rw [becomeDynamic_channel _ _ ho]
  have htidy : { c with isStatic := false }.Tidy :=
    { hc.toTidy with builtIn_plain := fun h => absurd (hclass.symm.trans h) Bool.false_ne_true }
  have hp : { c with isStatic := false }.isPublic = false := by
    rw [isPublic, Bool.or_eq_false_iff]
    exact ⟨hclass, rfl⟩
  have hsound := htidy.succeed_sound hp
  dsimp only at hsound
  rwa [ho] at hsound

theorem Sound.convert (hc : c.Sound) (wantStatic explicit : Bool) :
    (c.convert p w wantStatic explicit).channel.Sound := by
  rcases c.convert_cases p w wantStatic explicit with h | ⟨_, hmay, h⟩ | ⟨_, hmay, h⟩ <;> rw [h]
  · exact hc
  all_goals
    simp only [mayConvert, Bool.and_eq_true, Bool.not_eq_true', decide_eq_true_eq] at hmay
  · exact hc.becomeStatic hmay.1.1.1.1 explicit
  · exact hc.becomeDynamic hmay.1.1.1.1 (by simpa using hmay.1.1.2)

/-! ## Roles that moderators set -/

/-- A moderator may set any role but the moderator bit of the owner. -/
theorem Sound.setMode (hc : c.Sound) {target : PlayerId} {mode : RoleMode} (on : Bool)
    (howner : c.owner = some target → mode = .mute) :
    { c with roster := (c.roster.update target (·.withMode mode on)).1 }.Sound := by
  have hplayers := c.roster.players_update target (·.withMode mode on)
  refine ⟨⟨?_, ?_, ?_, hc.builtIn_plain⟩, ?_, hc.public_unowned, ?_⟩
  · rw [hplayers]
    exact hc.distinct
  · intro q role h hbit
    dsimp only at h ⊢
    rw [Roster.role?_update] at h
    split at h
    next =>
      obtain ⟨old, hold, rfl⟩ := Option.map_eq_some_iff.mp h
      apply hc.owner_of_bit q old hold
      cases mode <;> exact hbit
    next => exact hc.owner_of_bit q role h hbit
  · intro q hq
    rw [← hc.banned_out q hq]
    exact Roster.contains_congr hplayers
  · intro q hq
    obtain ⟨role, hrole, hbits⟩ := hc.owner_bits q hq
    dsimp only at hq ⊢
    rw [Roster.role?_update, hrole]
    split
    next he =>
      subst he
      rw [howner hq]
      exact ⟨_, rfl, hbits⟩
    next => exact ⟨role, rfl, hbits⟩
  · intro hp he
    exact hc.owned hp ((Roster.isEmpty_congr hplayers).symm.trans he)

/-! ## Every step and every run -/

theorem Sound.admitted (hc : c.Sound) {actor : Player} {password : Option String}
    (h : c.joinRefusal actor password = none) : (c.admitted p w actor).Sound := by
  obtain ⟨hnew, hban⟩ := not_member_of_joinRefusal h
  exact (hc.enter hnew hban).convert true false

theorem Sound.effect (hc : c.Sound) {actor : Player} {command : Command} {turn : Turn Answer}
    (h : c.Effect p w actor command turn) : turn.channel.Sound := by
  cases h with
  | refused cause hcause => exact hc
  | idle => exact hc
  | uttered events h => exact hc
  | joined password events hjoin => exact hc.admitted hjoin
  | left notify role events hrole =>
    rw [hc.owner_bit hrole]
    exact hc.without actor.id c.bans fun _ => .inr
  | expelled name ban target events hmod htarget hact =>
    apply hc.without
    intro q hq
    cases ban with
    | true => simpa using hq
    | false => exact .inr hq
  | unbanned name target events hmod htarget hban =>
    refine { hc with banned_out := fun q hq => hc.banned_out q ?_ }
    rw [Bans.contains_remove, Bool.and_eq_true] at hq
    exact hq.2
  | passwordSet password events hmod hclass =>
    exact { hc with builtIn_plain := fun h => absurd (hclass.symm.trans h) Bool.false_ne_true }
  | modeSet name mode on target events hmod htarget hmember hfaction howner hchange =>
    exact hc.setMode on fun h => (howner h).2
  | ownerSet name target events hmember hclass hright htarget hfaction =>
    obtain ⟨_, htarget⟩ := Option.filter_eq_some_iff.mp htarget
    apply hc.toTidy.transfer_sound
    · intro q hq
      cases hq
      exact htarget
    · intro hp
      cases hclass.symm.trans hp
    · intro _ _
      rfl
  | announceToggled events hmod => exact { hc with }
  | moderateToggled events hmod => exact { hc with }

theorem Next.sound {c' : Channel} (h : c.Next p c') (hc : c.Sound) : c'.Sound := by
  cases h with
  | command w t actor command =>
    rw [execute_channel]
    exact hc.effect (c.perform_effect p w actor t command)
  | convert w wantStatic explicit => exact hc.convert wantStatic explicit

theorem Reachable.sound (h : c.Reachable p) : c.Sound := by
  have hnext : ∀ c c', Next p c c' → c.Sound → c'.Sound := fun c c' h => h.sound
  obtain ⟨w, t, acts, ⟨name, rfl⟩ | ⟨e, rfl⟩⟩ := h
  · exact Scene.run_invariant hnext _ acts (custom_sound name)
  · exact Scene.run_invariant hnext _ acts (builtIn_sound e)

/-- Whatever is done on a new channel, by whomever and in whatever surroundings, it stays in
order. -/
theorem run_sound (p : Policy) (w : World) (t : Throttle) (acts : List Act) :
    (∀ name, (Scene.run p ⟨w, t, custom name⟩ acts).channel.Sound) ∧
    ∀ e, (Scene.run p ⟨w, t, builtIn e⟩ acts).channel.Sound := by
  have hnext : ∀ c c', Next p c c' → c.Sound → c'.Sound := fun c c' h => h.sound
  constructor
  · intro name
    exact Scene.run_invariant hnext _ acts (custom_sound name)
  · intro e
    exact Scene.run_invariant hnext _ acts (builtIn_sound e)

end ChatChannels.Channel
