import ChatChannels.Proofs.Channel.Passage
import ChatChannels.Proofs.Channel.Refused
import ChatChannels.Proofs.Channel.Sound

/-! Who hears of what. Everything that a channel sends goes out under its name and to players online.
Its members hear of what happens to it, the actor is answered, a player who is invited hears of that
and nothing else, and nobody else hears anything. Whoever is kicked hears of the kick and of nothing
that follows from it, and whoever leaves has at most their leave confirmed. -/
namespace ChatChannels.Channel

open Event (deliveries heardBy Within)

variable {p : Policy} {w : World} {c c' : Channel} {actor : Player} {q : PlayerId}
  {events events' : List Event}

/-! ## Notices to the members -/

/-- All that is delivered are notices of a channel to members online. -/
def Internal (w : World) (c : Channel) (events : List Event) : Prop :=
  Within (fun r m => w.isOnline r ∧ c.contains r ∧ ∃ body, m = c.notice body) events

theorem Internal.nil : Internal w c [] := Within.nil

theorem Internal.silent {toStatic : Bool} : Internal w c [.converted toStatic] := Within.nil

theorem Internal.append (h : Internal w c events) (h' : Internal w c events') :
    Internal w c (events ++ events') := Within.append h h'

/-- What goes to some of the members goes to members. -/
theorem Internal.widen (h : Internal w c' events) (hname : c'.name = c.name)
    (hmember : ∀ r, c'.contains r → c.contains r) : Internal w c events := by
  refine Within.mono h ?_
  rintro r m ⟨honline, hcontains, body, rfl⟩
  exact ⟨honline, hmember r hcontains, body, by rw [notice, notice, hname]⟩

theorem Internal.widen_players (h : Internal w c' events) (hname : c'.name = c.name)
    (hplayers : c'.roster.players = c.roster.players) : Internal w c events :=
  h.widen hname fun _ hr => (Roster.contains_congr hplayers).symm.trans hr

theorem internal_broadcast (body : NoticeBody) : Internal w c (c.broadcast w body) := by
  refine Event.within_fanOut ?_
  intro r hr
  obtain ⟨hlisted, honline⟩ := List.mem_filter.mp hr
  exact ⟨honline, (Roster.contains_iff_mem _ _).mpr hlisted, body, rfl⟩

theorem internal_roleChanges (changes : List RoleChange) :
    Internal w c (changes.flatMap (c.broadcastRoleChange w)) := by
  induction changes with
  | nil => exact .nil
  | cons change rest ih => exact (internal_broadcast _).append ih

theorem internal_setOwner (next : Option PlayerId) (proclaim : Bool) :
    Internal w c (c.setOwner w next proclaim).events := by
  have hplayers := c.roster.players_transfer c.owner next
  refine .append ((internal_roleChanges _).widen_players rfl hplayers) (Within.ite fun _ => ?_)
  exact (internal_broadcast _).widen_players rfl hplayers

theorem internal_adopt (player : PlayerId) : Internal w c (c.adopt w player).events := by
  unfold adopt
  split
  · exact internal_setOwner _ _
  · exact .nil

theorem internal_inherit (wasOwner : Bool) : Internal w c (c.inherit w wasOwner).events := by
  unfold Channel.inherit
  split
  · exact internal_setOwner _ _
  · exact .nil

theorem internal_releaseOwner (explicit : Bool) :
    Internal w c (c.releaseOwner w explicit).events := by
  unfold releaseOwner
  split
  · exact internal_setOwner _ _
  · exact .nil

theorem internal_endModeration : Internal w c (c.endModeration w).events := by
  unfold endModeration
  split
  · exact internal_broadcast _
  · exact .nil

theorem internal_endAnnouncements : Internal w c (c.endAnnouncements w).events := by
  unfold endAnnouncements
  split
  · exact internal_broadcast _
  · exact .nil

theorem internal_becomeStatic (explicit : Bool) :
    Internal w c (c.becomeStatic w explicit).events := by
  have hname : (c.releaseOwner w explicit).channel.name = c.name := by rw [releaseOwner_channel]
  have hplayers :
      (c.releaseOwner w explicit).channel.roster.stripModerators.players = c.roster.players := by
    rw [releaseOwner_channel, Roster.players_stripModerators, Roster.players_transfer]
  refine (((internal_releaseOwner explicit).append ?_).append ?_).append .silent
  · exact internal_endModeration.widen_players hname hplayers
  · refine internal_endAnnouncements.widen_players ?_ ?_
    · rw [endModeration_channel, hname]
    · rw [endModeration_channel, hplayers]

theorem internal_becomeDynamic : Internal w c (c.becomeDynamic w).events := by
  unfold becomeDynamic
  split
  · exact (internal_setOwner _ _).append .silent
  · exact .silent

theorem internal_convert (wantStatic explicit : Bool) :
    Internal w c (c.convert p w wantStatic explicit).events := by
  rcases c.convert_cases p w wantStatic explicit with h | ⟨_, _, h⟩ | ⟨_, _, h⟩ <;> rw [h]
  · exact .nil
  · exact internal_becomeStatic explicit
  · exact internal_becomeDynamic

/-! ## Commands -/

/-- Who may be sent what by a command. Members may be sent any notice and the lines of those who
speak, the actor anything but a line of chat, and an invited player the invitation. -/
inductive Entitled (w : World) (c : Channel) (actor : Player) (command : Command)
    (answer : Answer) : PlayerId → Message → Prop
  | member {r} (body) (h : c.contains r) : Entitled w c actor command answer r (c.notice body)
  | answered (m) (h : ∀ line, m ≠ .chat line) : Entitled w c actor command answer actor.id m
  | hearer {r text language} (line) (hsay : command = .say text language) (h : c.contains r) :
      Entitled w c actor command answer r (.chat line)
  | guest {r name} (hinvite : command = .invite name) (hanswer : answer = .ok .applied)
      (hfinds : w.Finds name r) :
      Entitled w c actor command answer r (c.notice (.invite actor.id))

/-- All that is delivered goes out under the channel's name, to players online, and to those who may
be sent it. -/
def Proper (w : World) (c : Channel) (actor : Player) (command : Command) (answer : Answer)
    (events : List Event) : Prop :=
  Within (fun r m => m.channel = c.name ∧ w.isOnline r ∧ c.Entitled w actor command answer r m)
    events

variable {command : Command} {answer : Answer} {turn : Turn Answer}

theorem Proper.append (h : Proper w c actor command answer events)
    (h' : Proper w c actor command answer events') :
    Proper w c actor command answer (events ++ events') := Within.append h h'

theorem Internal.proper (h : Internal w c events) : Proper w c actor command answer events := by
  refine Within.mono h ?_
  rintro r m ⟨honline, hcontains, body, rfl⟩
  exact ⟨rfl, honline, .member body hcontains⟩

theorem proper_answer {m : Message} (hname : m.channel = c.name) (hchat : ∀ line, m ≠ .chat line) :
    Proper w c actor command answer (w.sendTo actor.id m) :=
  Event.within_sendTo fun honline => ⟨hname, honline, .answered m hchat⟩

theorem notice_ne_chat (body : NoticeBody) (line : ChatLine) : c.notice body ≠ .chat line := by
  simp [notice]

theorem proper_tell (body : NoticeBody) : Proper w c actor command answer (c.tell w actor.id body) :=
  proper_answer rfl (notice_ne_chat body)

theorem proper_refuse (report : Report) (cause : Refusal) :
    Proper w c actor command answer (c.refuse w actor.id report cause).events := by
  intro r m hmem
  obtain ⟨honline, body, _, he⟩ := mem_deliveries_refuse w c actor hmem
  cases he
  exact ⟨rfl, honline, .answered _ (notice_ne_chat body)⟩

theorem proper_asModerator (h : Proper w c actor command turn.answer turn.events) :
    Proper w c actor command (c.asModerator w actor turn).answer
      (c.asModerator w actor turn).events :=
  asModerator_elim (P := fun turn => Proper w c actor command turn.answer turn.events)
    (proper_refuse _ _) (proper_refuse _ _) fun _ => h

/-- Notices to the members and to a newcomer. -/
theorem Internal.proper_of_enter (h : Internal w { c with roster := c.roster.insert actor.id } events) :
    Proper w c actor command answer events := by
  refine Within.mono h ?_
  rintro r m ⟨honline, hcontains, body, rfl⟩
  refine ⟨rfl, honline, ?_⟩
  rw [Channel.contains, Roster.contains_insert, Bool.or_eq_true, decide_eq_true_iff] at hcontains
  rcases hcontains with rfl | hcontains
  · exact .answered _ (notice_ne_chat body)
  · exact .member body hcontains

/-- Notices to the members who remain. -/
theorem Internal.of_remove (hdistinct : c.roster.players.Nodup) {bans : Bans} {player : PlayerId}
    (h : Internal w { c with bans, roster := c.roster.remove player } events) :
    Internal w c events := by
  refine h.widen rfl fun r hr => ?_
  rw [Channel.contains, Roster.contains_remove hdistinct, Bool.and_eq_true] at hr
  exact hr.2

theorem join_proper (password : Option String) :
    Proper w c actor command (c.join p w actor password).answer
      (c.join p w actor password).events := by
  unfold Channel.join
  split
  next report cause hrefusal => exact proper_refuse report cause
  next hjoin =>
    -- The newcomer is listed before the channel is adopted or converted, and hears of both.
    have hsettled : Internal w { c with roster := c.roster.insert actor.id }
        ((({ c with roster := c.roster.insert actor.id }).adopt w actor.id).channel.convert
          p w true false).events :=
      (internal_convert true false).widen_players
        (congrArg Prod.fst (adopt_classification w _ actor.id)) (adopt_players actor.id)
    refine .append (.append (.append ?_ (proper_tell _)) ?_) hsettled.proper_of_enter
    · exact Within.ite fun _ => (internal_broadcast _).proper_of_enter
    · exact (internal_adopt actor.id).proper_of_enter

theorem leave_proper (hdistinct : c.roster.players.Nodup) (notify : Bool) :
    Proper w c actor command (c.leave p w actor notify).answer
      (c.leave p w actor notify).events := by
  unfold leave
  split
  next => exact proper_refuse _ _
  next role hrole =>
    refine .append (.append (Within.ite fun _ => proper_tell _) ?_) ?_
    · exact Within.ite fun _ => ((internal_broadcast _).of_remove hdistinct).proper
    · exact ((internal_inherit role.owner).of_remove hdistinct).proper

theorem expel_proper (hdistinct : c.roster.players.Nodup) (name : String) (ban : Bool) :
    Proper w c actor command (c.expel w actor name ban).answer
      (c.expel w actor name ban).events := by
  apply proper_asModerator
  split
  next => exact proper_refuse _ _
  next target htarget =>
    split
    next => exact proper_refuse _ _
    next hact =>
      exact .append (internal_broadcast _).proper
        ((internal_inherit _).of_remove hdistinct).proper

theorem unban_proper (name : String) :
    Proper w c actor command (c.unban w actor name).answer (c.unban w actor name).events := by
  apply proper_asModerator
  split
  next => exact proper_refuse _ _
  next target htarget =>
    split
    next => exact proper_refuse _ _
    next => exact (internal_broadcast _).proper

theorem setPassword_proper (password : String) :
    Proper w c actor command (c.setPassword w actor password).answer
      (c.setPassword w actor password).events := by
  apply proper_asModerator
  split
  next => exact proper_refuse _ _
  next => exact (internal_broadcast _).proper

theorem setMode_proper (name : String) (mode : RoleMode) (on : Bool) :
    Proper w c actor command (c.setMode p w actor name mode on).answer
      (c.setMode p w actor name mode on).events := by
  apply proper_asModerator
  split
  next => exact proper_refuse _ _
  next target htarget =>
    split
    next => exact Within.nil
    next =>
      split
      next => exact proper_refuse _ _
      next =>
        split
        next => exact proper_refuse _ _
        next =>
          refine Internal.proper (Internal.widen_players (internal_roleChanges _) ?_ ?_)
          · rfl
          · exact c.roster.players_update _ _

theorem changeOwner_proper (name : String) :
    Proper w c actor command (c.changeOwner p w actor name).answer
      (c.changeOwner p w actor name).events := by
  unfold changeOwner
  split
  next => exact proper_refuse _ _
  next =>
    split
    next => exact proper_refuse _ _
    next =>
      split
      next => exact proper_refuse _ _
      next target htarget => exact (internal_setOwner _ _).proper

theorem queryOwner_proper :
    Proper w c actor command (c.queryOwner p w actor).answer (c.queryOwner p w actor).events := by
  unfold queryOwner
  split
  next => exact proper_refuse _ _
  next => exact proper_tell _

theorem list_proper :
    Proper w c actor command (c.list p w actor).answer (c.list p w actor).events := by
  unfold list
  split
  next => exact proper_refuse _ _
  next => exact proper_answer rfl (by simp)

theorem say_proper (text : String) (language : Language) (admitted : Bool) :
    Proper w c actor (.say text language) (c.say p w actor text language admitted).answer
      (c.say p w actor text language admitted).events := by
  unfold say
  split
  next => exact Within.nil
  next =>
    split
    next => exact proper_refuse _ _
    next role hrole =>
      split
      next => exact proper_refuse _ _
      next =>
        refine Event.within_fanOut fun r hr => ?_
        obtain ⟨hlisted, hhears⟩ := List.mem_filter.mp hr
        rw [Bool.and_eq_true, Bool.and_eq_true] at hhears
        exact ⟨rfl, hhears.1.2, .hearer _ rfl ((Roster.contains_iff_mem _ _).mpr hlisted)⟩

theorem invite_proper (name : String) :
    Proper w c actor (.invite name) (c.invite p w actor name).answer
      (c.invite p w actor name).events := by
  unfold invite
  split
  next => exact proper_refuse _ _
  next =>
    split
    next => exact proper_refuse _ _
    next target htarget =>
      split
      next => exact proper_refuse _ _
      next =>
        split
        next => exact proper_refuse _ _
        next =>
          split
          next => exact proper_refuse _ _
          next =>
            have hfinds : w.Finds name target.id := congrArg (Option.map Player.id) htarget
            refine .append ?_ (proper_tell _)
            split
            next => exact Within.nil
            next =>
              exact Event.within_sendTo fun honline => ⟨rfl, honline, .guest rfl rfl hfinds⟩

theorem perform_proper (hdistinct : c.roster.players.Nodup) (t : Throttle) (command : Command) :
    Proper w c actor command (c.perform p w t actor command).answer
      (c.perform p w t actor command).events := by
  cases command with
  | join password => exact join_proper password
  | leave notify => exact leave_proper hdistinct notify
  | expel name ban => exact expel_proper hdistinct name ban
  | unban name => exact unban_proper name
  | setPassword password => exact setPassword_proper password
  | setMode name mode on => exact setMode_proper name mode on
  | setOwner name => exact changeOwner_proper name
  | queryOwner => exact queryOwner_proper
  | list => exact list_proper
  | toggleAnnounce => exact proper_asModerator (internal_broadcast _).proper
  | toggleModerate => exact proper_asModerator (internal_broadcast _).proper
  | say text language => exact say_proper text language _
  | invite name => exact invite_proper name

/-! ## What those hear who are not members, and those who go -/

theorem heardBy_broadcast (hdistinct : c.roster.players.Nodup) {r : PlayerId} (hmember : c.contains r)
    (body : NoticeBody) :
    heardBy r (c.broadcast w body) = if w.isOnline r then [c.notice body] else [] := by
  have hlisted := (Roster.contains_iff_mem _ _).mp hmember
  have hdistinct := hdistinct.filter w.isOnline
  rw [broadcast, World.sendToAll, World.onlineMembers, Event.heardBy_fanOut hdistinct]
  simp [hlisted]

theorem heardBy_refuse {r : PlayerId} (hr : r ≠ actor.id) (report : Report) (cause : Refusal) :
    heardBy r (c.refuse w actor.id report cause).events = [] := by
  have hwithin : Within (fun q _ => q = actor.id) (c.refuse w actor.id report cause).events := by
    intro q m hmem
    obtain ⟨_, _, _, he⟩ := mem_deliveries_refuse w c actor hmem
    exact congrArg Prod.fst he
  exact hwithin.heardBy_eq_nil fun _ => hr

theorem Internal.heardBy_eq_nil (h : Internal w c events) {r : PlayerId}
    (hr : c.contains r = false) : heardBy r events = [] :=
  Within.heardBy_eq_nil h fun _ hmay => Bool.false_ne_true (hr.symm.trans hmay.2.1)

theorem invite_heardBy {r : PlayerId} (hr : r ≠ actor.id) (name : String) :
    heardBy r (c.invite p w actor name).events = [] ∨
      heardBy r (c.invite p w actor name).events = [c.notice (.invite actor.id)] := by
  unfold invite
  split
  next => exact .inl (heardBy_refuse hr _ _)
  next =>
    split
    next => exact .inl (heardBy_refuse hr _ _)
    next target htarget =>
      split
      next => exact .inl (heardBy_refuse hr _ _)
      next =>
        split
        next => exact .inl (heardBy_refuse hr _ _)
        next =>
          split
          next => exact .inl (heardBy_refuse hr _ _)
          next =>
            have hanswer : heardBy r (c.tell w actor.id (.playerInvited name)) = [] := by
              rw [tell, Event.heardBy_sendTo, if_neg fun h => hr h.1.symm]
            rw [Event.heardBy_append, hanswer, List.append_nil]
            split
            next => exact .inl rfl
            next =>
              rw [tell, Event.heardBy_sendTo]
              split
              next => exact .inr rfl
              next => exact .inl rfl

theorem perform_heardBy_stranger (hdistinct : c.roster.players.Nodup) (t : Throttle) {r : PlayerId}
    (hout : c.contains r = false) (hr : r ≠ actor.id) (command : Command) :
    heardBy r (c.perform p w t actor command).events = [] ∨
      heardBy r (c.perform p w t actor command).events = [c.notice (.invite actor.id)] := by
  by_cases hinvite : ∃ name, command = .invite name
  · obtain ⟨name, rfl⟩ := hinvite
    exact invite_heardBy hr name
  · refine .inl (Within.heardBy_eq_nil (perform_proper hdistinct t command) ?_)
    rintro m ⟨_, _, hentitled⟩
    cases hentitled with
    | member body hmember => exact Bool.false_ne_true (hout.symm.trans hmember)
    | answered m hchat => exact hr rfl
    | hearer line hsay hmember => exact Bool.false_ne_true (hout.symm.trans hmember)
    | guest hcommand hanswer hfinds => exact hinvite ⟨_, hcommand⟩

/-- What the members are told of a kick or ban. -/
def sanction (actor : Player) (ban : Bool) (target : PlayerId) : NoticeBody :=
  if ban then .playerBanned target actor.id else .playerKicked target actor.id

/-- If a turn removes a player, all that the player hears in it is one notice. -/
def DismissedWith (w : World) (c : Channel) (r : PlayerId) (body : NoticeBody) (turn : Turn Answer) :
    Prop :=
  turn.channel.contains r = false →
    heardBy r turn.events = if w.isOnline r then [c.notice body] else []

theorem dismissedWith_refuse {r : PlayerId} (hmember : c.contains r) (body : NoticeBody)
    (report : Report) (cause : Refusal) :
    c.DismissedWith w r body (c.refuse w actor.id report cause) :=
  fun hgone => absurd (hgone.symm.trans hmember) Bool.false_ne_true

/-- Of what is told to those who remain, the player who went hears nothing. -/
theorem Internal.heardBy_removed (hdistinct : c.roster.players.Nodup) {bans : Bans}
    {player : PlayerId} (h : Internal w { c with bans, roster := c.roster.remove player } events) :
    heardBy player events = [] := by
  refine h.heardBy_eq_nil ?_
  rw [Channel.contains, Roster.contains_remove hdistinct]
  simp

/-- Whoever is removed by a kick or ban hears of it, and is gone when the rest is told. -/
theorem expel_dismissed (hc : c.Tidy) {r : PlayerId} (hmember : c.contains r) (name : String)
    (ban : Bool) :
    c.DismissedWith w r (sanction actor ban r) (c.expel w actor name ban) := by
  refine asModerator_elim (dismissedWith_refuse hmember _ _ _) (dismissedWith_refuse hmember _ _ _)
    fun _ => ?_
  split
  next => exact dismissedWith_refuse hmember _ _ _
  next target htarget =>
    split
    next => exact dismissedWith_refuse hmember _ _ _
    next hact =>
      intro hgone
      have hgone := (Roster.contains_congr (inherit_players _)).symm.trans hgone
      have hr : r = target.id := by
        rw [Roster.contains_remove hc.distinct, show c.roster.contains r = true from hmember] at hgone
        simpa using hgone
      -- Members are not banned, so a ban is never taken for a mere kick here.
      have hfree : c.bans.contains r = false := by
        rw [← Bool.not_eq_true]
        exact fun hbanned => Bool.false_ne_true ((hc.banned_out r hbanned).symm.trans hmember)
      subst hr
      dsimp only
      rw [Event.heardBy_append, heardBy_broadcast hc.distinct hmember, hfree,
        (internal_inherit _).heardBy_removed hc.distinct]
      simp [sanction]

/-- Whoever leaves is gone when the members are told. -/
theorem leave_heardBy (hdistinct : c.roster.players.Nodup) (hmember : c.contains actor.id)
    (notify : Bool) :
    heardBy actor.id (c.leave p w actor notify).events =
      if notify && w.isOnline actor.id then [c.notice .youLeft] else [] := by
  obtain ⟨role, hrole⟩ := Roster.exists_role_of_contains hmember
  unfold leave
  rw [hrole]
  dsimp only
  rw [Event.heardBy_append, Event.heardBy_append, (internal_inherit _).heardBy_removed hdistinct,
    List.append_nil]
  have hannounced : ∀ announced : Bool, heardBy actor.id (if announced then
      { c with roster := c.roster.remove actor.id }.broadcast w (.left actor.id) else []) = [] := by
    intro announced
    split
    · exact (internal_broadcast _).heardBy_removed hdistinct
    · rfl
  rw [hannounced, List.append_nil]
  cases notify with
  | false => rfl
  | true => simp [tell, Event.heardBy_sendTo]

/-! ## Whole requests -/

/-- What a request lets out: to whom its messages go, and what those hear of it who are not members
and those who go. -/
structure Confined (w : World) (c : Channel) (actor : Player) (command : Command)
    (turn : Turn Answer) : Prop where
  addressed : ∀ r m, (r, m) ∈ deliveries turn.events → m.channel = c.name ∧ w.isOnline r ∧
    (c.contains r ∨ r = actor.id ∨
      ∃ name, command = .invite name ∧ turn.answer = .ok .applied ∧ w.Finds name r)
  lines_inside : ∀ r line, (r, .chat line) ∈ deliveries turn.events → c.contains r
  strangers : ∀ r, c.contains r = false → r ≠ actor.id →
    heardBy r turn.events = [] ∨ heardBy r turn.events = [c.notice (.invite actor.id)]
  expelled : ∀ name ban r, command = .expel name ban → c.contains r →
    c.DismissedWith w r (sanction actor ban r) turn
  leaving : ∀ notify, command = .leave notify → c.contains actor.id →
    heardBy actor.id turn.events = if notify && w.isOnline actor.id then [c.notice .youLeft] else []

theorem Tidy.confined_perform (hc : c.Tidy) (t : Throttle) (command : Command) :
    c.Confined w actor command (c.perform p w t actor command) := by
  have hproper : Proper w c actor command (c.perform p w t actor command).answer
      (c.perform p w t actor command).events := perform_proper hc.distinct t command
  refine ⟨?addressed, ?lines_inside, ?strangers, ?expelled, ?leaving⟩
  case addressed =>
    intro r m hmem
    obtain ⟨hname, honline, hentitled⟩ := hproper r m hmem
    refine ⟨hname, honline, ?_⟩
    cases hentitled with
    | member body hmember => exact .inl hmember
    | answered m hchat => exact .inr (.inl rfl)
    | hearer line hsay hmember => exact .inl hmember
    | guest hinvite hanswer hfinds => exact .inr (.inr ⟨_, hinvite, hanswer, hfinds⟩)
  case lines_inside =>
    intro r line hmem
    cases (hproper r _ hmem).2.2 with
    | answered m hchat => exact absurd rfl (hchat line)
    | hearer line hsay hmember => exact hmember
  case strangers => exact fun r hout hr => perform_heardBy_stranger hc.distinct t hout hr command
  case expelled =>
    rintro name ban r rfl hmember
    exact expel_dismissed hc hmember name ban
  case leaving =>
    rintro notify rfl hmember
    exact leave_heardBy hc.distinct hmember notify

/-- Every message carries the channel's name and goes to a player online who is a member, or is the
actor, or is invited. Lines go to members, strangers hear of nothing but an invitation to them, and
those who are removed or leave only of that. -/
theorem messages_confined (hc : c.Reachable p) :
    (∀ w t actor command, c.Confined w actor command (c.execute p w t actor command)) ∧
      ∀ w wantStatic explicit, c.Internal w (c.convert p w wantStatic explicit).events := by
  refine ⟨?_, fun w wantStatic explicit => internal_convert wantStatic explicit⟩
  intro w t actor command
  have h : c.Confined w actor command (c.perform p w t actor command) :=
    hc.sound.toTidy.confined_perform t command
  have hdeliveries := deliveries_execute p w t c actor command
  have hheard : ∀ r, heardBy r (c.execute p w t actor command).events =
      heardBy r (c.perform p w t actor command).events := by
    intro r
    rw [heardBy, hdeliveries]
    rfl
  exact {
    addressed := hdeliveries ▸ h.addressed
    lines_inside := hdeliveries ▸ h.lines_inside
    strangers := fun r => hheard r ▸ h.strangers r
    expelled := fun name ban r hcommand hmember hgone =>
      (hheard r).trans (h.expelled name ban r hcommand hmember hgone)
    leaving := fun notify hcommand hmember =>
      (hheard actor.id).trans (h.leaving notify hcommand hmember) }

/-- A game master bans Bob, who owned the channel and hears of the ban alone, not of who owns it
next. -/
theorem messages_confined_banned :
    let p := Policy.ofConfig {}
    let ann : Player := { id := ⟨1⟩, name := "Ann" }
    let bob : Player := { id := ⟨2⟩, name := "Bob" }
    let gm : Player := { id := ⟨3⟩, name := "Gil", security := .gameMaster }
    let w : World := { directory := (((∅ : Directory).insert ann).insert bob).insert gm }
    let c := (Scene.run p ⟨w, {}, .custom "Raiders"⟩ [.command bob (.join none),
      .command ann (.join none), .command gm (.join none)]).channel
    let turn := c.execute p w {} gm (.expel "BOB" true)
    c.Reachable p ∧ c.owner = some bob.id ∧ turn.channel.owner = some ann.id ∧
      c.Confined w gm (.expel "BOB" true) turn ∧
      heardBy bob.id turn.events = [c.notice (.playerBanned bob.id gm.id)] := by
  refine ⟨?hc, by decide, by decide, (messages_confined ?hc).1 _ _ _ _,
    (((messages_confined ?hc).1 _ _ _ _).expelled "BOB" true _ rfl ?hmember ?hgone).trans
      (if_pos (by decide))⟩
  case hc => exact ⟨_, {}, _, .inl ⟨"Raiders", rfl⟩⟩
  case hmember => decide
  case hgone => decide

end ChatChannels.Channel
