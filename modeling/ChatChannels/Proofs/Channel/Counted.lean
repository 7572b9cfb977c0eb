import ChatChannels.Proofs.Channel.Mirror
import ChatChannels.Proofs.Metrics

/-! What is counted of a channel that works. A command or a conversion counts a conversion exactly if
the channel has become static by it, or dynamic, and nothing else that bears on channels. -/
namespace ChatChannels.Channel

open Event (gauged)

variable (p : Policy) (w : World) (c : Channel) (actor : Player)

/-! ## Notices -/

@[simp] theorem gauged_broadcast (body : NoticeBody) : gauged (c.broadcast w body) = [] :=
  Event.gauged_fanOut _ _

@[simp] theorem gauged_tell (player : PlayerId) (body : NoticeBody) :
    gauged (c.tell w player body) = [] :=
  Event.gauged_sendTo _ _ _

@[simp] theorem gauged_refuse (report : Report) (cause : Refusal) :
    gauged (c.refuse w actor.id report cause).events = [] := by
  unfold refuse
  dsimp only
  split <;> simp

@[simp] theorem gauged_reject (cause : Refusal) : gauged (c.reject w actor.id cause).events = [] :=
  c.gauged_refuse w actor .notify cause

theorem gauged_asModerator {turn : Turn Answer} (h : gauged turn.events = []) :
    gauged (c.asModerator w actor turn).events = [] :=
  asModerator_elim (P := fun turn => gauged turn.events = []) (by simp) (by simp) fun _ => h

@[simp] theorem gauged_roleChanges (changes : List RoleChange) :
    gauged (changes.flatMap (c.broadcastRoleChange w)) = [] := by
  induction changes with
  | nil => rfl
  | cons change rest ih => simp [broadcastRoleChange, ih]

@[simp] theorem gauged_setOwner (next : Option PlayerId) (proclaim : Bool) :
    gauged (c.setOwner w next proclaim).events = [] := by
  simp [setOwner]

@[simp] theorem gauged_adopt (player : PlayerId) : gauged (c.adopt w player).events = [] := by
  unfold adopt
  split <;> simp

@[simp] theorem gauged_inherit (wasOwner : Bool) : gauged (c.inherit w wasOwner).events = [] := by
  unfold inherit succeed
  split <;> simp

@[simp] theorem gauged_releaseOwner (explicit : Bool) :
    gauged (c.releaseOwner w explicit).events = [] := by
  unfold releaseOwner
  split <;> simp

@[simp] theorem gauged_endModeration : gauged (c.endModeration w).events = [] := by
  unfold endModeration
  split <;> simp

@[simp] theorem gauged_endAnnouncements : gauged (c.endAnnouncements w).events = [] := by
  unfold endAnnouncements
  split <;> simp

/-! ## Conversions -/

theorem gauged_convert (wantStatic explicit : Bool) :
    gauged (c.convert p w wantStatic explicit).events =
      c.conversion (c.convert p w wantStatic explicit).channel := by
  rcases c.convert_cases p w wantStatic explicit with h | ⟨_, hmay, h⟩ | ⟨_, hmay, h⟩ <;> rw [h]
  · simp [conversion]
  all_goals
    simp only [mayConvert, Bool.and_eq_true] at hmay
    have hchange := hmay.1.1.2
  · have hstatic : c.isStatic = false := by simpa using hchange
    rw [conversion, becomeStatic_channel, hstatic]
    simp [becomeStatic]
  · have hstatic : c.isStatic = true := by simpa using hchange
    have hdynamic : (c.becomeDynamic w).channel.isStatic = false := rfl
    rw [conversion, hdynamic, hstatic]
    unfold becomeDynamic
    dsimp only
    split <;> simp

/-! ## Commands -/

/-- Only who joins can make a channel static by it. -/
theorem gauged_join (password : Option String) :
    gauged (c.join p w actor password).events =
      c.conversion (c.join p w actor password).channel := by
  unfold Channel.join
  split
  next => simp [conversion]
  next =>
    have hadopted : ({ c with roster := c.roster.insert actor.id }.adopt w actor.id).channel.isStatic
        = c.isStatic := adopt_isStatic _
    simp [gauged_convert, conversion, hadopted]

theorem gauged_leave (notify : Bool) : gauged (c.leave p w actor notify).events = [] := by
  unfold leave
  split <;> simp

theorem gauged_expel (name : String) (ban : Bool) :
    gauged (c.expel w actor name ban).events = [] := by
  apply gauged_asModerator
  split
  next => simp
  next => split <;> simp

theorem gauged_unban (name : String) : gauged (c.unban w actor name).events = [] := by
  apply gauged_asModerator
  split
  next => simp
  next => split <;> simp

theorem gauged_setPassword (password : String) :
    gauged (c.setPassword w actor password).events = [] := by
  apply gauged_asModerator
  split <;> simp

theorem gauged_setMode (name : String) (mode : RoleMode) (on : Bool) :
    gauged (c.setMode p w actor name mode on).events = [] := by
  apply gauged_asModerator
  split
  next => simp
  next =>
    split
    next => rfl
    next =>
      split
      next => simp
      next => split <;> simp

theorem gauged_changeOwner (name : String) :
    gauged (c.changeOwner p w actor name).events = [] := by
  unfold changeOwner
  split
  next => simp
  next =>
    split
    next => simp
    next => split <;> simp

theorem gauged_toggleAnnounce : gauged (c.toggleAnnounce w actor).events = [] :=
  c.gauged_asModerator w actor (c.gauged_broadcast w _)

theorem gauged_toggleModerate : gauged (c.toggleModerate w actor).events = [] :=
  c.gauged_asModerator w actor (c.gauged_broadcast w _)

theorem gauged_queryOwner : gauged (c.queryOwner p w actor).events = [] := by
  unfold queryOwner
  split <;> simp

theorem gauged_list : gauged (c.list p w actor).events = [] := by
  unfold list
  split <;> simp

theorem gauged_say (text : String) (language : Language) (admitted : Bool) :
    gauged (c.say p w actor text language admitted).events = [] := by
  unfold say
  split
  next => rfl
  next =>
    split
    next => simp
    next =>
      split
      next => simp
      next => exact Event.gauged_fanOut _ _

theorem gauged_invite (name : String) : gauged (c.invite p w actor name).events = [] := by
  unfold invite
  split
  next => simp
  next =>
    split
    next => simp
    next =>
      split
      next => simp
      next =>
        split
        next => simp
        next => split <;> simp

variable {p w c actor} in
theorem Effect.isStatic {command : Command} {turn : Turn Answer}
    (h : c.Effect p w actor command turn) (hjoin : ∀ password, command ≠ .join password) :
    turn.channel.isStatic = c.isStatic := by
  cases h with
  | joined password events hjoined => exact absurd rfl (hjoin password)
  | left notify role events hrole => exact inherit_isStatic _
  | expelled name ban target events hmod htarget hact => exact inherit_isStatic _
  | _ => rfl

/-- A command counts a conversion if it makes the channel static, and nothing else of channels. -/
theorem gauged_perform (t : Throttle) (command : Command) :
    gauged (c.perform p w t actor command).events =
      c.conversion (c.perform p w t actor command).channel := by
  by_cases hjoin : ∃ password, command = .join password
  · obtain ⟨password, rfl⟩ := hjoin
    exact c.gauged_join p w actor password
  · have hother : ∀ password, command ≠ .join password := fun password h => hjoin ⟨password, h⟩
    have hstatic := (c.perform_effect p w actor t command).isStatic hother
    rw [conversion, if_pos hstatic]
    cases command with
    | join password => exact absurd rfl (hother password)
    | leave notify => exact c.gauged_leave p w actor notify
    | expel target ban => exact c.gauged_expel w actor target ban
    | unban target => exact c.gauged_unban w actor target
    | setPassword password => exact c.gauged_setPassword w actor password
    | setMode target mode on => exact c.gauged_setMode p w actor target mode on
    | setOwner target => exact c.gauged_changeOwner p w actor target
    | queryOwner => exact c.gauged_queryOwner p w actor
    | list => exact c.gauged_list p w actor
    | toggleAnnounce => exact c.gauged_toggleAnnounce w actor
    | toggleModerate => exact c.gauged_toggleModerate w actor
    | say text language => exact c.gauged_say p w actor text language _
    | invite target => exact c.gauged_invite p w actor target

theorem gauged_execute (t : Throttle) (command : Command) :
    gauged (c.execute p w t actor command).events =
      c.conversion (c.execute p w t actor command).channel := by
  rw [execute_channel, ← c.gauged_perform p w actor t command]
  unfold execute
  dsimp only
  split <;> simp

end ChatChannels.Channel
