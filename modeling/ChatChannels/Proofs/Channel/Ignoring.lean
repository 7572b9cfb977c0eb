import ChatChannels.Proofs.Channel.Refused

/-! What it is to be ignored. Lines of chat and invitations carry the words of a player, and whoever
ignores that player does not get them. Nothing else in a channel asks who ignores whom, so a command
leads to the same channel and the same answer whatever is ignored. -/
namespace ChatChannels

/-- The player who invites by a notice. -/
def NoticeBody.inviter? : NoticeBody → Option PlayerId
  | .invite inviter => some inviter
  | _ => none

/-- The player whose words a message carries: the speaker of a line, or the one who invites. -/
def Message.author? : Message → Option PlayerId
  | .chat line => some line.sender
  | .notice n => n.body.inviter?
  | .memberList _ => none

/-- Whether a message does not come through when more is ignored: the author is one whom the
recipient ignores now and did not before. -/
def Ignores.silences (i i' : Ignores) (d : PlayerId × Message) : Bool :=
  d.2.author?.any fun author => i'.has d.1 author && !i.has d.1 author

namespace Event

/-- Nothing that is delivered carries a player's words. -/
def Authorless (events : List Event) : Prop := Within (fun _ m => m.author? = none) events

/-- The second events deliver what the first ones do, in order and less what is silenced. -/
def Thinned (i i' : Ignores) (events events' : List Event) : Prop :=
  deliveries events' = (deliveries events).filter fun d => !i.silences i' d

variable {i i' : Ignores} {events events' thin thin' : List Event}

theorem Authorless.append (h : Authorless events) (h' : Authorless events') :
    Authorless (events ++ events') := Within.append h h'

/-- What no player has said is never silenced. -/
theorem Authorless.thinned (h : Authorless events) : Thinned i i' events events := by
  refine (List.filter_eq_self.mpr fun d hd => ?_).symm
  rw [Ignores.silences, h d.1 d.2 hd]
  rfl

theorem Thinned.append (h : Thinned i i' events thin) (h' : Thinned i i' events' thin') :
    Thinned i i' (events ++ events') (thin ++ thin') := by
  rw [Thinned, deliveries_append, deliveries_append, List.filter_append, h, h']

theorem authorless_of_deliveries (h : deliveries events = []) : Authorless events := by
  intro r m hmem
  rw [h] at hmem
  cases hmem

end Event

/-- Turns that come to the same but for what is silenced. -/
structure Turn.Thinned {α : Type} (i i' : Ignores) (x y : Turn α) : Prop where
  channel : y.channel = x.channel
  answer : y.answer = x.answer
  events : Event.Thinned i i' x.events y.events

theorem Turn.thinned_refl {α : Type} {i i' : Ignores} {turn : Turn α}
    (h : Event.Authorless turn.events) : turn.Thinned i i' turn :=
  ⟨rfl, rfl, h.thinned⟩

namespace Channel

open Event (Authorless Within deliveries)

variable {p : Policy} {w : World} {c : Channel} {actor : Player}

/-! ## Notices -/

theorem authorless_tell {body : NoticeBody} (h : body.inviter? = none) (player : PlayerId) :
    Authorless (c.tell w player body) :=
  Event.within_sendTo fun _ => h

theorem authorless_broadcast {body : NoticeBody} (h : body.inviter? = none) :
    Authorless (c.broadcast w body) :=
  Event.within_fanOut fun _ _ => h

theorem inviter?_of_refusal {cause : Refusal} {body : NoticeBody}
    (h : cause.noticeBody? = some body) : body.inviter? = none := by
  cases cause <;> cases h <;> rfl

theorem authorless_refuse (report : Report) (cause : Refusal) :
    Authorless (c.refuse w actor.id report cause).events := by
  intro r m hmem
  obtain ⟨_, body, hbody, he⟩ := mem_deliveries_refuse w c actor hmem
  cases he
  exact inviter?_of_refusal hbody

theorem authorless_asModerator {turn : Turn Answer} (h : Authorless turn.events) :
    Authorless (c.asModerator w actor turn).events :=
  asModerator_elim (P := fun turn => Authorless turn.events) (authorless_refuse _ _)
    (authorless_refuse _ _) fun _ => h

theorem authorless_roleChanges (changes : List RoleChange) :
    Authorless (changes.flatMap (c.broadcastRoleChange w)) := by
  induction changes with
  | nil => exact .nil
  | cons change rest ih => exact (authorless_broadcast rfl).append ih

theorem authorless_setOwner (next : Option PlayerId) (proclaim : Bool) :
    Authorless (c.setOwner w next proclaim).events :=
  (authorless_roleChanges _).append (Within.ite fun _ => authorless_broadcast rfl)

theorem authorless_adopt (player : PlayerId) : Authorless (c.adopt w player).events := by
  unfold adopt
  split
  · exact authorless_setOwner _ _
  · exact .nil

theorem authorless_inherit (wasOwner : Bool) : Authorless (c.inherit w wasOwner).events := by
  unfold Channel.inherit
  split
  · exact authorless_setOwner _ _
  · exact .nil

theorem authorless_releaseOwner (explicit : Bool) :
    Authorless (c.releaseOwner w explicit).events := by
  unfold releaseOwner
  split
  · exact authorless_setOwner _ _
  · exact .nil

theorem authorless_endModeration : Authorless (c.endModeration w).events := by
  unfold endModeration
  split
  · exact authorless_broadcast rfl
  · exact .nil

theorem authorless_endAnnouncements : Authorless (c.endAnnouncements w).events := by
  unfold endAnnouncements
  split
  · exact authorless_broadcast rfl
  · exact .nil

theorem authorless_convert (wantStatic explicit : Bool) :
    Authorless (c.convert p w wantStatic explicit).events := by
  have hconverted (toStatic : Bool) : Authorless [.converted toStatic] :=
    Event.authorless_of_deliveries rfl
  rcases c.convert_cases p w wantStatic explicit with h | ⟨_, _, h⟩ | ⟨_, _, h⟩ <;> rw [h]
  · exact .nil
  · exact (((authorless_releaseOwner explicit).append authorless_endModeration).append
      authorless_endAnnouncements).append (hconverted true)
  · refine .append ?_ (hconverted false)
    split
    · exact authorless_setOwner _ _
    · exact .nil

/-! ## Commands that carry no words -/

theorem authorless_join (password : Option String) :
    Authorless (c.join p w actor password).events := by
  unfold Channel.join
  split
  next => exact authorless_refuse _ _
  next =>
    refine .append (.append (.append ?_ (authorless_tell rfl _)) (authorless_adopt _))
      (authorless_convert _ _)
    exact Within.ite fun _ => authorless_broadcast rfl

theorem authorless_leave (notify : Bool) : Authorless (c.leave p w actor notify).events := by
  unfold leave
  split
  next => exact authorless_refuse _ _
  next =>
    refine .append (.append ?_ ?_) (authorless_inherit _)
    · exact Within.ite fun _ => authorless_tell rfl _
    · exact Within.ite fun _ => authorless_broadcast rfl

theorem authorless_expel (name : String) (ban : Bool) :
    Authorless (c.expel w actor name ban).events := by
  apply authorless_asModerator
  split
  next => exact authorless_refuse _ _
  next =>
    split
    next => exact authorless_refuse _ _
    next =>
      refine .append (authorless_broadcast ?_) (authorless_inherit _)
      split <;> rfl

theorem authorless_unban (name : String) : Authorless (c.unban w actor name).events := by
  apply authorless_asModerator
  split
  next => exact authorless_refuse _ _
  next =>
    split
    next => exact authorless_refuse _ _
    next => exact authorless_broadcast rfl

theorem authorless_setPassword (password : String) :
    Authorless (c.setPassword w actor password).events := by
  apply authorless_asModerator
  split
  next => exact authorless_refuse _ _
  next => exact authorless_broadcast rfl

theorem authorless_setMode (name : String) (mode : RoleMode) (on : Bool) :
    Authorless (c.setMode p w actor name mode on).events := by
  apply authorless_asModerator
  split
  next => exact authorless_refuse _ _
  next =>
    split
    next => exact .nil
    next =>
      split
      next => exact authorless_refuse _ _
      next =>
        split
        next => exact authorless_refuse _ _
        next => exact authorless_roleChanges _

theorem authorless_changeOwner (name : String) :
    Authorless (c.changeOwner p w actor name).events := by
  unfold changeOwner
  split
  next => exact authorless_refuse _ _
  next =>
    split
    next => exact authorless_refuse _ _
    next =>
      split
      next => exact authorless_refuse _ _
      next => exact authorless_setOwner _ _

theorem authorless_queryOwner : Authorless (c.queryOwner p w actor).events := by
  unfold queryOwner
  split
  next => exact authorless_refuse _ _
  next => exact authorless_tell rfl _

theorem authorless_list : Authorless (c.list p w actor).events := by
  unfold list
  split
  next => exact authorless_refuse _ _
  next => exact Event.within_sendTo fun _ => rfl

theorem authorless_toggleAnnounce : Authorless (c.toggleAnnounce w actor).events := by
  apply authorless_asModerator
  refine authorless_broadcast ?_
  split <;> rfl

theorem authorless_toggleModerate : Authorless (c.toggleModerate w actor).events := by
  apply authorless_asModerator
  refine authorless_broadcast ?_
  split <;> rfl

/-! ## More is ignored -/

variable {d : Directory} {i i' : Ignores}
  (hmore : ∀ who whom, i.has who whom → i'.has who whom)

include hmore

theorem audience_thinned (r : Roster) (sender : PlayerId) (except : Option PlayerId) :
    (World.mk d i').audience r sender except =
      ((World.mk d i).audience r sender except).filter fun q =>
        !(i'.has q sender && !i.has q sender) := by
  unfold World.audience
  rw [List.filter_filter]
  refine List.filter_congr fun q _ => ?_
  have hq := hmore q sender
  change (_ && d.isOnline q && _) = (_ && (_ && d.isOnline q && _))
  dsimp only
  cases hi : i.has q sender with
  | false => simp [Bool.and_comm]
  | true => simp [hq hi]

/-- Whoever is invited hears of it unless they ignore the one who invites. -/
theorem invitation_thinned (guest inviter : PlayerId) :
    Event.Thinned i i'
      (if i.has guest inviter then [] else c.tell ⟨d, i⟩ guest (.invite inviter))
      (if i'.has guest inviter then [] else c.tell ⟨d, i'⟩ guest (.invite inviter)) := by
  have hguest := hmore guest inviter
  have htell (j : Ignores) : deliveries (c.tell ⟨d, j⟩ guest (.invite inviter)) =
      if d.isOnline guest then [(guest, c.notice (.invite inviter))] else [] :=
    deliveries_tell ⟨d, j⟩ c guest _
  have hsilenced : i.silences i' (guest, c.notice (.invite inviter)) =
      (i'.has guest inviter && !i.has guest inviter) := rfl
  cases hi : i.has guest inviter with
  | true =>
    rw [hguest hi]
    rfl
  | false =>
    rw [Event.Thinned, if_neg Bool.false_ne_true, htell]
    cases hi' : i'.has guest inviter with
    | true =>
      rw [hi, hi'] at hsilenced
      rw [if_pos rfl]
      cases d.isOnline guest <;> simp [hsilenced]
    | false =>
      rw [hi, hi'] at hsilenced
      rw [if_neg Bool.false_ne_true, htell]
      cases d.isOnline guest <;> simp [hsilenced]

theorem say_thinned (text : String) (language : Language) (admitted : Bool) :
    (c.say p ⟨d, i⟩ actor text language admitted).Thinned i i'
      (c.say p ⟨d, i'⟩ actor text language admitted) := by
  unfold say
  split
  next => exact Turn.thinned_refl .nil
  next =>
    split
    next => exact Turn.thinned_refl (authorless_refuse _ _)
    next role hrole =>
      split
      next cause hcause => exact Turn.thinned_refl (authorless_refuse _ _)
      next =>
        refine ⟨rfl, rfl, ?_⟩
        dsimp only [World.sendChat]
        rw [Event.Thinned, Event.deliveries_fanOut, Event.deliveries_fanOut, List.filter_map,
          audience_thinned hmore]
        rfl

theorem invite_thinned (name : String) :
    (c.invite p ⟨d, i⟩ actor name).Thinned i i' (c.invite p ⟨d, i'⟩ actor name) := by
  unfold invite
  split
  next => exact Turn.thinned_refl (authorless_refuse _ _)
  next =>
    dsimp only
    split
    next => exact Turn.thinned_refl (authorless_refuse _ _)
    next target htarget =>
      split
      next => exact Turn.thinned_refl (authorless_refuse _ _)
      next =>
        split
        next => exact Turn.thinned_refl (authorless_refuse _ _)
        next =>
          split
          next => exact Turn.thinned_refl (authorless_refuse _ _)
          next =>
            exact ⟨rfl, rfl,
              (invitation_thinned hmore target.id actor.id).append (authorless_tell rfl _).thinned⟩

/-- If more is ignored, a command comes to the same but for what is silenced. -/
theorem perform_thinned (t : Throttle) (command : Command) :
    (c.perform p ⟨d, i⟩ t actor command).Thinned i i' (c.perform p ⟨d, i'⟩ t actor command) := by
  cases command with
  | say text language => exact say_thinned hmore text language _
  | invite name => exact invite_thinned hmore name
  -- No other command asks who ignores whom, so both worlds give one and the same turn.
  | join password => exact Turn.thinned_refl (authorless_join password)
  | leave notify => exact Turn.thinned_refl (authorless_leave notify)
  | expel name ban => exact Turn.thinned_refl (authorless_expel name ban)
  | unban name => exact Turn.thinned_refl (authorless_unban name)
  | setPassword password => exact Turn.thinned_refl (authorless_setPassword password)
  | setMode name mode on => exact Turn.thinned_refl (authorless_setMode name mode on)
  | setOwner name => exact Turn.thinned_refl (authorless_changeOwner name)
  | queryOwner => exact Turn.thinned_refl authorless_queryOwner
  | list => exact Turn.thinned_refl authorless_list
  | toggleAnnounce => exact Turn.thinned_refl authorless_toggleAnnounce
  | toggleModerate => exact Turn.thinned_refl authorless_toggleModerate

end Channel
end ChatChannels
