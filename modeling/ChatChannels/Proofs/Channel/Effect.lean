import ChatChannels.Channel.Command
import ChatChannels.Proofs.Roster

/-! What a command can lead to, with what was checked on the way. Every command of every player is
one of the cases of `Effect`, so that proofs about channels split on these and do not open the
commands. -/
namespace ChatChannels

/-- Commands that ask or speak, and change nothing. -/
def Command.isUtterance : Command → Bool
  | .queryOwner | .list | .say .. | .invite _ => true
  | _ => false

/-- Commands that may find nothing to do: a role may be as wished already, and a text empty. -/
def Command.mayIdle : Command → Bool
  | .setMode .. => true
  | .say text _ => text.isEmpty
  | _ => false

namespace Channel

variable (p : Policy) (w : World) (c : Channel) (actor : Player)

/-- A member who may use the commands of moderators. -/
def Moderates : Prop :=
  ∃ role, c.roster.role? actor.id = some role ∧ Policy.canModerate role actor.security

/-- Whether a refusal is kept from the actor. -/
def keepsQuiet : Command → Refusal → Bool
  | _, .guildRestricted => true
  | .join _, .alreadyMember _ => c.isBuiltIn
  | .leave notify, .notMember => !notify
  | _, _ => false

/-- The refusal of a command, reported unless it is kept from the actor. -/
def refusal (command : Command) (cause : Refusal) : Turn Answer :=
  c.refuse w actor.id (if c.keepsQuiet command cause then .silent else .notify) cause

def admitted : Channel :=
  ((({ c with roster := c.roster.insert actor.id }).adopt w actor.id).channel.convert
    p w true false).channel

/-- The channel after a member has gone, under a set of bans. -/
def without (bans : Bans) (player : PlayerId) (wasOwner : Bool) : Channel :=
  ({ c with bans, roster := c.roster.remove player }.inherit w wasOwner).channel

/-- What a command can lead to. The events of a command that is carried out are left open. -/
inductive Effect : Command → Turn Answer → Prop
  | refused {command} (cause : Refusal) (hcause : cause ≠ .draining) :
      Effect command (c.refusal w actor command cause)
  | idle {command} (h : command.mayIdle) : Effect command c.unchanged
  | uttered {command} (events) (h : command.isUtterance) : Effect command ⟨c, .ok .applied, events⟩
  | joined (password events) (hjoin : c.joinRefusal actor password = none) :
      Effect (.join password) ⟨c.admitted p w actor, .ok .applied, events⟩
  | left (notify role events) (hrole : c.roster.role? actor.id = some role) :
      Effect (.leave notify) ⟨c.without w c.bans actor.id role.owner, .ok .applied, events⟩
  | expelled (name ban target events) (hmod : c.Moderates actor)
      (htarget : c.findMember w name = some target)
      (hact : Policy.mayActOn actor c.owner target.id) :
      Effect (.expel name ban)
        ⟨c.without w (if ban then c.bans.add target.id else c.bans) target.id
          (c.owner = some target.id), .ok .applied, events⟩
  | unbanned (name target events) (hmod : c.Moderates actor)
      (htarget : w.directory.findByName name = some target) (hban : c.bans.contains target.id) :
      Effect (.unban name) ⟨{ c with bans := c.bans.remove target.id }, .ok .applied, events⟩
  | passwordSet (password events) (hmod : c.Moderates actor) (hclass : c.isBuiltIn = false) :
      Effect (.setPassword password)
        ⟨{ c with password := if password.isEmpty then none else some password }, .ok .applied,
          events⟩
  | modeSet (name mode on target events) (hmod : c.Moderates actor)
      (htarget : w.directory.findByName name = some target) (hmember : c.contains target.id)
      (hfaction : p.mayChangeRole actor target)
      (howner : c.owner = some target.id → c.owner = some actor.id ∧ mode = .mute)
      (hchange : (c.roster.update target.id (·.withMode mode on)).2 ≠ []) :
      Effect (.setMode name mode on)
        ⟨{ c with roster := (c.roster.update target.id (·.withMode mode on)).1 }, .ok .applied,
          events⟩
  | ownerSet (name target events) (hmember : c.contains actor.id) (hclass : c.isPublic = false)
      (hright : actor.isGameMaster ∨ c.owner = some actor.id)
      (htarget : c.findMember w name = some target)
      (hfaction : p.factionsCompatible actor target) :
      Effect (.setOwner name)
        ⟨(c.setOwner w (some target.id) true).channel, .ok .applied, events⟩
  | announceToggled (events) (hmod : c.Moderates actor) :
      Effect .toggleAnnounce ⟨{ c with announce := !c.announce }, .ok .applied, events⟩
  | moderateToggled (events) (hmod : c.Moderates actor) :
      Effect .toggleModerate ⟨{ c with moderate := !c.moderate }, .ok .applied, events⟩

variable {p w c actor}

/-- The gate before a moderator's command lets a moderator's command pass and refuses others. -/
theorem asModerator_elim {P : Turn Answer → Prop} {turn : Turn Answer}
    (hmember : P (c.reject w actor.id .notMember))
    (hmoderator : P (c.reject w actor.id .notModerator)) (h : c.Moderates actor → P turn) :
    P (c.asModerator w actor turn) := by
  unfold asModerator
  split
  next => exact hmember
  next role hrole =>
    split
    next hmay => exact h ⟨role, hrole, hmay⟩
    next => exact hmoderator

theorem asModerator_passes (hmod : c.Moderates actor) (turn : Turn Answer) :
    c.asModerator w actor turn = turn := by
  obtain ⟨role, hrole, hmay⟩ := hmod
  rw [asModerator, hrole]
  exact if_pos hmay

theorem Effect.asModerator {command : Command} {turn : Turn Answer}
    (hquiet : c.keepsQuiet command .notMember = false)
    (h : c.Moderates actor → c.Effect p w actor command turn) :
    c.Effect p w actor command (c.asModerator w actor turn) := by
  refine asModerator_elim ?_ (.refused .notModerator (by simp)) h
  have he : c.Effect p w actor command (c.refusal w actor command .notMember) :=
    .refused .notMember (by simp)
  rwa [refusal, hquiet] at he

theorem findMember_eq_some_iff {name : String} {target : Player} :
    c.findMember w name = some target ↔
      w.directory.findByName name = some target ∧ c.contains target.id :=
  Option.filter_eq_some_iff

variable (p w c actor)

/-- Who is not let in is told of it as the command says. -/
theorem joinRefusal_report {password : Option String} {report : Report} {cause : Refusal}
    (h : c.joinRefusal actor password = some (report, cause)) :
    cause ≠ .draining ∧
      report = if c.keepsQuiet (.join password) cause then .silent else .notify := by
  unfold joinRefusal at h
  split at h
  next =>
    obtain ⟨rfl, rfl⟩ := Prod.mk.inj (Option.some.inj h)
    exact ⟨by simp, rfl⟩
  next =>
    split at h
    next => obtain ⟨rfl, rfl⟩ := Prod.mk.inj (Option.some.inj h); exact ⟨by simp, rfl⟩
    next =>
      split at h
      next => obtain ⟨rfl, rfl⟩ := Prod.mk.inj (Option.some.inj h); exact ⟨by simp, rfl⟩
      next =>
        split at h
        next => obtain ⟨rfl, rfl⟩ := Prod.mk.inj (Option.some.inj h); exact ⟨by simp, rfl⟩
        next => cases h

variable {c actor} in
theorem not_member_of_joinRefusal {password : Option String}
    (h : c.joinRefusal actor password = none) :
    c.contains actor.id = false ∧ c.bans.contains actor.id = false := by
  unfold joinRefusal at h
  split at h
  next => cases h
  next hnew =>
    split at h
    next => cases h
    next hban => exact ⟨by simpa using hnew, by simpa using hban⟩

theorem join_effect (password : Option String) :
    c.Effect p w actor (.join password) (c.join p w actor password) := by
  unfold join
  split
  next report cause h =>
    obtain ⟨hcause, rfl⟩ := c.joinRefusal_report actor h
    exact .refused cause hcause
  next h => exact .joined password _ h

theorem leave_effect (notify : Bool) :
    c.Effect p w actor (.leave notify) (c.leave p w actor notify) := by
  unfold leave
  split
  next h => cases notify <;> exact .refused .notMember (by simp)
  next role h => exact .left notify role _ h

theorem expel_effect (name : String) (ban : Bool) :
    c.Effect p w actor (.expel name ban) (c.expel w actor name ban) := by
  apply Effect.asModerator rfl
  intro hmod
  split
  next => exact .refused (.playerNotFound name) (by simp)
  next target htarget =>
    split
    next => exact .refused .notOwner (by simp)
    next hact => exact .expelled name ban target _ hmod htarget (by simpa using hact)

theorem unban_effect (name : String) :
    c.Effect p w actor (.unban name) (c.unban w actor name) := by
  apply Effect.asModerator rfl
  intro hmod
  split
  next => exact .refused (.playerNotFound name) (by simp)
  next target htarget =>
    split
    next => exact .refused (.notBanned name) (by simp)
    next hban => exact .unbanned name target _ hmod htarget (by simpa using hban)

theorem setPassword_effect (password : String) :
    c.Effect p w actor (.setPassword password) (c.setPassword w actor password) := by
  apply Effect.asModerator rfl
  intro hmod
  split
  next => exact .refused .notModerator (by simp)
  next hclass => exact .passwordSet password _ hmod (by simpa using hclass)

theorem setMode_effect (name : String) (mode : RoleMode) (on : Bool) :
    c.Effect p w actor (.setMode name mode on) (c.setMode p w actor name mode on) := by
  apply Effect.asModerator rfl
  intro hmod
  split
  next => exact .refused (.playerNotFound name) (by simp)
  next target htarget =>
    split
    next => exact .idle rfl
    next hself =>
      split
      next => exact .refused (.playerNotFound name) (by simp)
      next hfound =>
        split
        next => exact .refused .notOwner (by simp)
        next hother =>
          rw [Bool.or_eq_true, not_or, Bool.not_eq_true, Bool.not_eq_true, Bool.not_eq_false',
            Bool.not_eq_false'] at hfound
          by_cases hsame : (c.roster.update target.id (·.withMode mode on)).2 = []
          · -- Nothing to report means that the role was as wished, and the table stays as it is.
            simp only [hsame, c.roster.update_eq_self target.id hsame]
            exact .idle rfl
          · have howner : c.owner = some target.id → c.owner = some actor.id ∧ mode = .mute := by
              intro ht
              have ha : c.owner = some actor.id := by simpa [ht] using hother
              cases mode with
              | moderator => exact absurd (by simp [ha, ← ht]) hself
              | mute => exact ⟨ha, rfl⟩
            dsimp only
            rw [if_neg (by simpa using hsame)]
            exact .modeSet name mode on target _ hmod htarget hfound.1 hfound.2 howner hsame

theorem changeOwner_effect (name : String) :
    c.Effect p w actor (.setOwner name) (c.changeOwner p w actor name) := by
  unfold changeOwner
  split
  next => exact .refused .notMember (by simp)
  next hmember =>
    split
    next => exact .refused .notOwner (by simp)
    next hright =>
      split
      next => exact .refused (.playerNotFound name) (by simp)
      next target htarget =>
        obtain ⟨htarget, hfaction⟩ := Option.filter_eq_some_iff.mp htarget
        rw [Bool.or_eq_true, not_or] at hright
        have hactor : actor.isGameMaster ∨ c.owner = some actor.id := by
          by_cases hgm : actor.isGameMaster
          · exact .inl hgm
          · exact .inr (by simpa [hgm] using hright.2)
        exact .ownerSet name target _ (by simpa using hmember) (by simpa using hright.1) hactor
          htarget hfaction

theorem speechRefusal_cause {role : Role} {text : String} {admitted : Bool} {cause : Refusal}
    (h : c.speechRefusal p actor role text admitted = some cause) :
    cause = .throttled ∨ cause = .muted ∨ cause = .notModerator := by
  unfold speechRefusal at h
  split at h
  next => exact .inl (Option.some.inj h).symm
  next =>
    split at h
    next => exact .inr (.inl (Option.some.inj h).symm)
    next =>
      split at h
      next => exact .inr (.inr (Option.some.inj h).symm)
      next =>
        split at h
        next => exact .inr (.inl (Option.some.inj h).symm)
        next => cases h

theorem say_effect (text : String) (language : Language) (admitted : Bool) :
    c.Effect p w actor (.say text language) (c.say p w actor text language admitted) := by
  unfold say
  split
  next hempty => exact .idle hempty
  next =>
    split
    next => exact .refused .notMember (by simp)
    next role hrole =>
      split
      next cause hcause =>
        rcases c.speechRefusal_cause p actor hcause with rfl | rfl | rfl
        · exact .refused .throttled (by simp)
        · exact .refused .muted (by simp)
        · exact .refused .notModerator (by simp)
      next => exact .uttered _ rfl

theorem invite_effect (name : String) :
    c.Effect p w actor (.invite name) (c.invite p w actor name) := by
  unfold invite
  split
  next => exact .refused .notMember (by simp)
  next =>
    split
    next => exact .refused (.playerNotFound name) (by simp)
    next target htarget =>
      split
      next => exact .refused (.alreadyMember target.id) (by simp)
      next =>
        split
        next => exact .refused (.inviteBanned name) (by simp)
        next =>
          split
          next => exact .refused .inviteWrongFaction (by simp)
          next => exact .uttered _ rfl

theorem queryOwner_effect : c.Effect p w actor .queryOwner (c.queryOwner p w actor) := by
  unfold queryOwner
  split
  next => exact .refused .notMember (by simp)
  next => exact .uttered _ rfl

theorem list_effect : c.Effect p w actor .list (c.list p w actor) := by
  unfold list
  split
  next => exact .refused .notMember (by simp)
  next => exact .uttered _ rfl

theorem perform_effect (t : Throttle) (command : Command) :
    c.Effect p w actor command (c.perform p w t actor command) := by
  cases command with
  | join password => exact c.join_effect p w actor password
  | leave notify => exact c.leave_effect p w actor notify
  | expel name ban => exact c.expel_effect p w actor name ban
  | unban name => exact c.unban_effect p w actor name
  | setPassword password => exact c.setPassword_effect p w actor password
  | setMode name mode on => exact c.setMode_effect p w actor name mode on
  | setOwner name => exact c.changeOwner_effect p w actor name
  | queryOwner => exact c.queryOwner_effect p w actor
  | list => exact c.list_effect p w actor
  | toggleAnnounce => exact .asModerator rfl (.announceToggled _)
  | toggleModerate => exact .asModerator rfl (.moderateToggled _)
  | say text language => exact c.say_effect p w actor text language _
  | invite name => exact c.invite_effect p w actor name

variable {p w c actor} in
theorem Effect.not_draining {command : Command} {turn : Turn Answer}
    (h : c.Effect p w actor command turn) : turn.answer ≠ .error .draining := by
  intro he
  cases h with
  | refused cause hcause =>
    cases he
    exact hcause rfl
  | _ => cases he

end Channel
end ChatChannels
