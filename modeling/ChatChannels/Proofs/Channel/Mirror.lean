import ChatChannels.Proofs.Channel.Passage
import ChatChannels.Proofs.Channel.Sound
import ChatChannels.Proofs.Delivery

/-! Role notices as a member sees them. Whoever keeps a table of the members, follows who comes and
goes and writes every role notice into it in order has the table of the channel after each request.
Every notice fits the table it is written into. Only the moderators of a channel that becomes static
go without notice. -/
namespace ChatChannels

/-! ## Tables kept by notices -/

namespace Roster

/-- The members after someone has come, with no role, or gone. -/
def pass (r : Roster) : Option Passage → Roster
  | none => r
  | some (.arrival q) => r.insert q
  | some (.departure q) => r.remove q

/-- Writes role changes into a table in order. A change fits if its player is listed with the old
byte and the new byte is another. -/
def replay (r : Roster) : List RoleChange → Option Roster
  | [] => some r
  | change :: rest =>
    if (r.role? change.player).map Role.bits = some change.old.bits ∧
        change.old.bits ≠ change.new.bits then
      (r.setRole change.player change.new).replay rest
    else none

variable (r : Roster)

theorem replay_append (first second : List RoleChange) :
    r.replay (first ++ second) = (r.replay first).bind fun s => s.replay second := by
  induction first generalizing r with
  | nil => rfl
  | cons change rest ih =>
    rw [List.cons_append, replay, replay]
    split
    next => exact ih _
    next => rfl

theorem replay_update (player : PlayerId) (f : Role → Role) :
    r.replay (r.update player f).2 = some (r.update player f).1 := by
  unfold update
  split
  next => rfl
  next old hold =>
    by_cases hsame : old = f old
    · rw [if_pos hsame, ← hsame, r.setRole_self player hold]
      rfl
    · have hbytes : old.bits ≠ (f old).bits := fun he => hsame (Role.bits_inj.mp he)
      rw [if_neg hsame, replay, hold, if_pos ⟨rfl, hbytes⟩]
      rfl

theorem replay_update? (player : Option PlayerId) (f : Role → Role) :
    r.replay (r.update? player f).2 = some (r.update? player f).1 := by
  cases player with
  | none => rfl
  | some player => exact r.replay_update player f

/-- The second change of a transfer starts from what the first one leaves, also where the owner
gives the channel to themselves. -/
theorem replay_transfer (current next : Option PlayerId) :
    r.replay (r.transfer current next).2 = some (r.transfer current next).1 := by
  rw [transfer, replay_append, replay_update?, Option.bind_some, replay_update?]

end Roster

/-! ## Notices delivered -/

def NoticeBody.roleChange? : NoticeBody → Option RoleChange
  | .roleChanged player old new => some ⟨player, old, new⟩
  | _ => none

def Message.roleChange? (m : Message) : Option RoleChange :=
  m.notice?.bind fun n => n.body.roleChange?

namespace Event

def roleChangeTo? (q : PlayerId) : Event → Option RoleChange
  | .delivered recipient m => if recipient = q then m.roleChange? else none
  | _ => none

/-- The role changes that a player is told of, in order. -/
def roleChangesTo (q : PlayerId) (events : List Event) : List RoleChange :=
  events.filterMap (roleChangeTo? q)

variable (q : PlayerId)

@[simp] theorem roleChangesTo_append (a b : List Event) :
    roleChangesTo q (a ++ b) = roleChangesTo q a ++ roleChangesTo q b :=
  List.filterMap_append

theorem roleChangesTo_eq (events : List Event) :
    roleChangesTo q events = (heardBy q events).filterMap Message.roleChange? := by
  unfold roleChangesTo heardBy deliveries
  rw [List.filterMap_filterMap, List.filterMap_filterMap]
  congr 1
  funext e
  cases e with
  | delivered recipient m => by_cases h : recipient = q <;> simp [roleChangeTo?, delivery?, h]
  | _ => rfl

variable {q} in
theorem Within.roleChangesTo_eq_nil {events : List Event}
    (h : Within (fun _ m => m.roleChange? = none) events) : roleChangesTo q events = [] := by
  rw [roleChangesTo_eq, List.filterMap_eq_nil_iff]
  exact fun m hm => h.of_heard hm

variable {q} in
theorem roleChangesTo_fanOut {m : Message} {change : RoleChange} (h : m.roleChange? = some change)
    {recipients : List PlayerId} (hdistinct : recipients.Nodup) :
    roleChangesTo q (fanOut recipients m) = if q ∈ recipients then [change] else [] := by
  rw [roleChangesTo_eq, heardBy_fanOut hdistinct]
  split
  next => rw [List.filterMap_cons_some h, List.filterMap_nil]
  next => rfl

theorem roleChangesTo_ite {events : List Event} (h : roleChangesTo q events = []) (b : Bool) :
    roleChangesTo q (if b then events else []) = [] := by
  split
  · exact h
  · rfl

end Event

namespace Channel

open Event (roleChangesTo)

variable {p : Policy} {w : World} {c c' : Channel} {actor : Player} {q : PlayerId}

theorem roleChangesTo_broadcast_other {body : NoticeBody} (h : body.roleChange? = none) :
    roleChangesTo q (c.broadcast w body) = [] :=
  (Event.within_fanOut fun _ _ => h).roleChangesTo_eq_nil

theorem roleChangesTo_tell {body : NoticeBody} (h : body.roleChange? = none)
    (recipient : PlayerId) : roleChangesTo q (c.tell w recipient body) = [] :=
  (Event.within_sendTo fun _ => h).roleChangesTo_eq_nil

theorem roleChangesTo_refuse (report : Report) (cause : Refusal) :
    roleChangesTo q (c.refuse w actor.id report cause).events = [] := by
  have hbody : ∀ body, cause.noticeBody? = some body → body.roleChange? = none := by
    intro body h
    cases cause <;> cases h <;> rfl
  unfold refuse
  dsimp only
  split
  next body hbody' => exact roleChangesTo_tell (hbody body hbody') actor.id
  next => rfl

/-! ## A member who is online -/

/-- A member who hears every notice to the members, each once. -/
structure Hears (w : World) (q : PlayerId) (c : Channel) : Prop where
  online : w.isOnline q
  listed : q ∈ c.roster.players
  distinct : c.roster.players.Nodup

theorem Hears.congr (h : Hears w q c) (hplayers : c'.roster.players = c.roster.players) :
    Hears w q c' :=
  ⟨h.online, hplayers ▸ h.listed, hplayers ▸ h.distinct⟩

theorem Hears.insert (h : Hears w q c) (player : PlayerId) :
    Hears w q { c with roster := c.roster.insert player } := by
  refine ⟨h.online, ?_, Roster.nodup_insert player h.distinct⟩
  rw [← Roster.contains_iff_mem, Roster.contains_insert, (Roster.contains_iff_mem _ _).mpr h.listed,
    Bool.or_true]

theorem Hears.roleChangesTo_broadcast (h : Hears w q c) (changes : List RoleChange) :
    roleChangesTo q (changes.flatMap (c.broadcastRoleChange w)) = changes := by
  induction changes with
  | nil => rfl
  | cons change rest ih =>
    have hheard : q ∈ w.onlineMembers c.roster := List.mem_filter.mpr ⟨h.listed, h.online⟩
    have hfirst : roleChangesTo q (c.broadcastRoleChange w change) = [change] :=
      (Event.roleChangesTo_fanOut rfl (h.distinct.sublist List.filter_sublist)).trans
        (if_pos hheard)
    rw [List.flatMap_cons, Event.roleChangesTo_append, hfirst, ih]
    rfl

/-- One table becomes another by the role changes that a player is told of. -/
def Tracks (q : PlayerId) (before : Roster) (events : List Event) (after : Roster) : Prop :=
  before.replay (roleChangesTo q events) = some after

variable {r s u : Roster} {events events' : List Event}

theorem Tracks.quiet (h : roleChangesTo q events = []) : Tracks q r events r := by
  rw [Tracks, h]
  rfl

theorem Tracks.append (h : Tracks q r events s) (h' : Tracks q s events' u) :
    Tracks q r (events ++ events') u := by
  rw [Tracks, Event.roleChangesTo_append, Roster.replay_append, h, Option.bind_some, h']

theorem Tracks.append_quiet (h : Tracks q r events s) (h' : roleChangesTo q events' = []) :
    Tracks q r (events ++ events') s :=
  h.append (.quiet h')

theorem Tracks.quiet_append (h : roleChangesTo q events = []) (h' : Tracks q r events' s) :
    Tracks q r (events ++ events') s :=
  (Tracks.quiet h).append h'

theorem Hears.tracks_broadcast (h : Hears w q c) {changes : List RoleChange}
    (hreplay : r.replay changes = some c.roster) :
    Tracks q r (changes.flatMap (c.broadcastRoleChange w)) c.roster := by
  rw [Tracks, h.roleChangesTo_broadcast, hreplay]

/-! ## Changes of ownership -/

theorem Hears.setOwner (h : Hears w q c) (next : Option PlayerId) (proclaim : Bool) :
    Tracks q c.roster (c.setOwner w next proclaim).events
      (c.setOwner w next proclaim).channel.roster := by
  have howned : Hears w q (c.setOwner w next proclaim).channel :=
    h.congr (c.roster.players_transfer c.owner next)
  exact (howned.tracks_broadcast (c.roster.replay_transfer c.owner next)).append_quiet
    (Event.roleChangesTo_ite q (roleChangesTo_broadcast_other rfl) proclaim)

theorem Hears.adopt (h : Hears w q c) (player : PlayerId) :
    Tracks q c.roster (c.adopt w player).events (c.adopt w player).channel.roster := by
  unfold Channel.adopt
  split
  · exact h.setOwner _ _
  · exact .quiet rfl

theorem Hears.inherit (h : Hears w q c) (wasOwner : Bool) :
    Tracks q c.roster (c.inherit w wasOwner).events (c.inherit w wasOwner).channel.roster := by
  unfold Channel.inherit
  split
  · exact h.setOwner _ _
  · exact .quiet rfl

theorem Hears.releaseOwner (h : Hears w q c) (explicit : Bool) :
    Tracks q c.roster (c.releaseOwner w explicit).events
      (c.releaseOwner w explicit).channel.roster := by
  unfold Channel.releaseOwner
  split
  · exact h.setOwner _ _
  · exact .quiet rfl

theorem roleChangesTo_endModeration : roleChangesTo q (c.endModeration w).events = [] := by
  unfold endModeration
  split
  · exact roleChangesTo_broadcast_other rfl
  · rfl

theorem roleChangesTo_endAnnouncements : roleChangesTo q (c.endAnnouncements w).events = [] := by
  unfold endAnnouncements
  split
  · exact roleChangesTo_broadcast_other rfl
  · rfl

/-- What comes after the owner has lost the channel is told in no role notice. -/
theorem Hears.becomeStatic (h : Hears w q c) (explicit : Bool) :
    Tracks q c.roster (c.becomeStatic w explicit).events
      (c.releaseOwner w explicit).channel.roster :=
  (((h.releaseOwner explicit).append_quiet roleChangesTo_endModeration).append_quiet
    roleChangesTo_endAnnouncements).append_quiet rfl

theorem Hears.becomeDynamic (h : Hears w q c) :
    Tracks q c.roster (c.becomeDynamic w).events (c.becomeDynamic w).channel.roster := by
  unfold Channel.becomeDynamic
  split
  · exact (h.setOwner _ _).append_quiet rfl
  · exact .quiet rfl

/-! ## Whole requests -/

/-- A table that is kept by the role changes told to a player is that of the channel, but for the
moderators of a channel that has become static. -/
def Mirrors (q : PlayerId) (start : Roster) (before after : Channel) (events : List Event) : Prop :=
  ∃ table, Tracks q start events table ∧
    after.roster = if !before.isStatic && after.isStatic then table.stripModerators else table

theorem Tracks.mirrors {after : Channel} (h : Tracks q r events after.roster)
    (hstatic : after.isStatic = c.isStatic) : Mirrors q r c after events := by
  refine ⟨after.roster, h, ?_⟩
  rw [hstatic, Bool.not_and_self]
  rfl

theorem Tracks.then_mirrors {before after : Channel} (h : Tracks q r events s)
    (h' : Mirrors q s before after events') : Mirrors q r before after (events ++ events') := by
  obtain ⟨table, htable, hroster⟩ := h'
  exact ⟨table, h.append htable, hroster⟩

theorem Hears.convert (h : Hears w q c) (wantStatic explicit : Bool) :
    Mirrors q c.roster c (c.convert p w wantStatic explicit).channel
      (c.convert p w wantStatic explicit).events := by
  rcases c.convert_cases p w wantStatic explicit with he | ⟨_, hmay, he⟩ | ⟨_, _, he⟩ <;> rw [he]
  · exact (Tracks.quiet rfl).mirrors rfl
  · simp only [mayConvert, Bool.and_eq_true, decide_eq_true_eq] at hmay
    have hstatic : c.isStatic = false := by simpa using hmay.1.1.2
    refine ⟨_, h.becomeStatic explicit, ?_⟩
    dsimp only
    rw [hstatic, becomeStatic_channel, releaseOwner_channel]
    rfl
  · refine ⟨_, h.becomeDynamic, ?_⟩
    have hstatic : (c.becomeDynamic w).channel.isStatic = false := rfl
    rw [hstatic, Bool.and_false]
    rfl

/-- A table is kept through a command once who comes or goes by it is written into it. -/
def Mirrored (w : World) (q : PlayerId) (c : Channel) (actor : Player) (command : Command)
    (turn : Turn Answer) : Prop :=
  Mirrors q (c.roster.pass (command.passage? w actor turn.answer)) c turn.channel turn.events

theorem mirrored_refuse (command : Command) (report : Report) (cause : Refusal) :
    Mirrored w q c actor command (c.refuse w actor.id report cause) :=
  (Tracks.quiet (roleChangesTo_refuse report cause)).mirrors rfl

theorem mirrored_asModerator {command : Command} {turn : Turn Answer}
    (h : Mirrored w q c actor command turn) :
    Mirrored w q c actor command (c.asModerator w actor turn) :=
  asModerator_elim (mirrored_refuse command _ _) (mirrored_refuse command _ _) fun _ => h

theorem adopt_isStatic (player : PlayerId) :
    (c.adopt w player).channel.isStatic = c.isStatic := by
  unfold adopt
  split <;> rfl

theorem inherit_isStatic (wasOwner : Bool) :
    (c.inherit w wasOwner).channel.isStatic = c.isStatic := by
  unfold Channel.inherit
  split <;> rfl

theorem Hears.join_mirrored (h : Hears w q c) (password : Option String) :
    Mirrored w q c actor (.join password) (c.join p w actor password) := by
  unfold Channel.join
  split
  next report cause hrefusal => exact mirrored_refuse _ report cause
  next hjoin =>
    have hentered : Hears w q { c with roster := c.roster.insert actor.id } := h.insert actor.id
    have howned :
        Hears w q ({ c with roster := c.roster.insert actor.id }.adopt w actor.id).channel :=
      hentered.congr (adopt_players actor.id)
    obtain ⟨table, htable, hroster⟩ := howned.convert (p := p) true false
    refine ⟨table, (Tracks.quiet_append ?_ (hentered.adopt actor.id)).append htable, ?_⟩
    · -- what goes out before there is an owner says nothing of roles
      rw [Event.roleChangesTo_append, Event.roleChangesTo_ite q (roleChangesTo_broadcast_other rfl)]
      exact roleChangesTo_tell rfl actor.id
    · rwa [adopt_isStatic] at hroster

/-- Nobody is told of the role that goes with a member, and all who remain of those that change. -/
theorem mirrors_without (honline : w.isOnline q) (hdistinct : c.roster.players.Nodup) (bans : Bans)
    (player : PlayerId) (wasOwner : Bool) (hstays : (c.without w bans player wasOwner).contains q) :
    Mirrors q (c.roster.remove player) c (c.without w bans player wasOwner)
      ({ c with bans, roster := c.roster.remove player }.inherit w wasOwner).events := by
  have hremains : Hears w q { c with bans, roster := c.roster.remove player } := by
    refine ⟨honline, ?_, Roster.nodup_remove player hdistinct⟩
    rw [← inherit_players wasOwner]
    exact (Roster.contains_iff_mem _ _).mp hstays
  exact (hremains.inherit wasOwner).mirrors (inherit_isStatic wasOwner)

theorem leave_mirrored (honline : w.isOnline q) (hdistinct : c.roster.players.Nodup) (notify : Bool)
    (hstays : (c.leave p w actor notify).channel.contains q) :
    Mirrored w q c actor (.leave notify) (c.leave p w actor notify) := by
  unfold leave at hstays ⊢
  split at hstays
  next hrole => exact mirrored_refuse _ _ _
  next role hrole =>
    refine Tracks.then_mirrors (.quiet ?_)
      (mirrors_without honline hdistinct c.bans actor.id role.owner hstays)
    rw [Event.roleChangesTo_append, Event.roleChangesTo_ite q (roleChangesTo_tell rfl actor.id)]
    exact Event.roleChangesTo_ite q (roleChangesTo_broadcast_other rfl) _

theorem expel_mirrored (honline : w.isOnline q) (hdistinct : c.roster.players.Nodup) (name : String)
    (ban : Bool) (hstays : (c.expel w actor name ban).channel.contains q) :
    Mirrored w q c actor (.expel name ban) (c.expel w actor name ban) := by
  revert hstays
  refine asModerator_elim (P := fun turn => turn.channel.contains q →
      Mirrored w q c actor (.expel name ban) turn)
    (fun _ => mirrored_refuse _ _ _) (fun _ => mirrored_refuse _ _ _) fun _ => ?_
  split
  next => exact fun _ => mirrored_refuse _ _ _
  next target htarget =>
    split
    next => exact fun _ => mirrored_refuse _ _ _
    next =>
      intro hstays
      obtain ⟨hfound, _⟩ := Option.filter_eq_some_iff.mp htarget
      have hmirrors := mirrors_without honline hdistinct _ target.id _ hstays
      unfold Mirrored Command.passage?
      dsimp only
      rw [hfound]
      refine Tracks.then_mirrors (.quiet (roleChangesTo_broadcast_other ?_)) hmirrors
      split <;> rfl

theorem Hears.setMode_mirrored (h : Hears w q c) (name : String) (mode : RoleMode) (on : Bool) :
    Mirrored w q c actor (.setMode name mode on) (c.setMode p w actor name mode on) := by
  apply mirrored_asModerator
  split
  next => exact mirrored_refuse _ _ _
  next target htarget =>
    split
    next => exact (Tracks.quiet rfl).mirrors rfl
    next =>
      split
      next => exact mirrored_refuse _ _ _
      next =>
        split
        next => exact mirrored_refuse _ _ _
        next =>
          have hchanged : Hears w q
              { c with roster := (c.roster.update target.id (·.withMode mode on)).1 } :=
            h.congr (c.roster.players_update target.id _)
          exact (hchanged.tracks_broadcast (c.roster.replay_update target.id _)).mirrors rfl

theorem Hears.changeOwner_mirrored (h : Hears w q c) (name : String) :
    Mirrored w q c actor (.setOwner name) (c.changeOwner p w actor name) := by
  unfold changeOwner
  split
  next => exact mirrored_refuse _ _ _
  next =>
    split
    next => exact mirrored_refuse _ _ _
    next =>
      split
      next => exact mirrored_refuse _ _ _
      next target htarget => exact (h.setOwner (some target.id) true).mirrors rfl

/-! ## Commands that leave roles alone -/

theorem unban_mirrored (name : String) :
    Mirrored w q c actor (.unban name) (c.unban w actor name) := by
  apply mirrored_asModerator
  split
  next => exact mirrored_refuse _ _ _
  next =>
    split
    next => exact mirrored_refuse _ _ _
    next => exact (Tracks.quiet (roleChangesTo_broadcast_other rfl)).mirrors rfl

theorem setPassword_mirrored (password : String) :
    Mirrored w q c actor (.setPassword password) (c.setPassword w actor password) := by
  apply mirrored_asModerator
  split
  next => exact mirrored_refuse _ _ _
  next => exact (Tracks.quiet (roleChangesTo_broadcast_other rfl)).mirrors rfl

theorem toggleAnnounce_mirrored :
    Mirrored w q c actor .toggleAnnounce (c.toggleAnnounce w actor) := by
  apply mirrored_asModerator
  refine (Tracks.quiet (roleChangesTo_broadcast_other ?_)).mirrors rfl
  split <;> rfl

theorem toggleModerate_mirrored :
    Mirrored w q c actor .toggleModerate (c.toggleModerate w actor) := by
  apply mirrored_asModerator
  refine (Tracks.quiet (roleChangesTo_broadcast_other ?_)).mirrors rfl
  split <;> rfl

theorem queryOwner_mirrored : Mirrored w q c actor .queryOwner (c.queryOwner p w actor) := by
  unfold queryOwner
  split
  next => exact mirrored_refuse _ _ _
  next => exact (Tracks.quiet (roleChangesTo_tell rfl actor.id)).mirrors rfl

theorem list_mirrored : Mirrored w q c actor .list (c.list p w actor) := by
  unfold list
  split
  next => exact mirrored_refuse _ _ _
  next => exact (Tracks.quiet (Event.within_sendTo fun _ => rfl).roleChangesTo_eq_nil).mirrors rfl

theorem say_mirrored (text : String) (language : Language) (admitted : Bool) :
    Mirrored w q c actor (.say text language) (c.say p w actor text language admitted) := by
  unfold say
  split
  next => exact (Tracks.quiet rfl).mirrors rfl
  next =>
    split
    next => exact mirrored_refuse _ _ _
    next =>
      split
      next => exact mirrored_refuse _ _ _
      next =>
        refine (Tracks.quiet (Event.Within.roleChangesTo_eq_nil ?_)).mirrors rfl
        exact Event.within_fanOut fun _ _ => rfl

theorem invite_mirrored (name : String) :
    Mirrored w q c actor (.invite name) (c.invite p w actor name) := by
  unfold invite
  split
  next => exact mirrored_refuse _ _ _
  next =>
    split
    next => exact mirrored_refuse _ _ _
    next target htarget =>
      split
      next => exact mirrored_refuse _ _ _
      next =>
        split
        next => exact mirrored_refuse _ _ _
        next =>
          split
          next => exact mirrored_refuse _ _ _
          next =>
            refine (Tracks.quiet_append ?_ (.quiet (roleChangesTo_tell rfl actor.id))).mirrors rfl
            split
            · rfl
            · exact roleChangesTo_tell rfl target.id

/-! ## Every request -/

theorem Hears.perform_mirrored (h : Hears w q c) (t : Throttle) (command : Command)
    (hstays : (c.perform p w t actor command).channel.contains q) :
    Mirrored w q c actor command (c.perform p w t actor command) := by
  cases command with
  | join password => exact h.join_mirrored password
  | leave notify => exact leave_mirrored h.online h.distinct notify hstays
  | expel name ban => exact expel_mirrored h.online h.distinct name ban hstays
  | unban name => exact unban_mirrored name
  | setPassword password => exact setPassword_mirrored password
  | setMode name mode on => exact h.setMode_mirrored name mode on
  | setOwner name => exact h.changeOwner_mirrored name
  | queryOwner => exact queryOwner_mirrored
  | list => exact list_mirrored
  | toggleAnnounce => exact toggleAnnounce_mirrored
  | toggleModerate => exact toggleModerate_mirrored
  | say text language => exact say_mirrored text language _
  | invite name => exact invite_mirrored name

variable (p w c actor q) in
theorem roleChangesTo_execute (t : Throttle) (command : Command) :
    roleChangesTo q (c.execute p w t actor command).events =
      roleChangesTo q (c.perform p w t actor command).events := by
  unfold execute
  dsimp only
  split <;> simp [roleChangesTo, Event.roleChangeTo?]

/-- A member who stays keeps a true table: with who comes or goes by the request and the role
changes they are told of, each of which fits, it becomes the table of the channel, but for the
moderators that a channel loses as it becomes static. -/
theorem role_notices_mirror (hc : c.Reachable p) (honline : w.isOnline q) (hlisted : c.contains q) :
    (∀ t actor command, (c.execute p w t actor command).channel.contains q →
      Mirrors q (c.roster.pass (command.passage? w actor (c.execute p w t actor command).answer)) c
        (c.execute p w t actor command).channel (c.execute p w t actor command).events) ∧
    ∀ wantStatic explicit,
      Mirrors q c.roster c (c.convert p w wantStatic explicit).channel
        (c.convert p w wantStatic explicit).events := by
  have h : Hears w q c :=
    ⟨honline, (Roster.contains_iff_mem _ _).mp hlisted, hc.sound.distinct⟩
  constructor
  · intro t actor command hstays
    unfold Mirrors Tracks
    rw [roleChangesTo_execute]
    exact h.perform_mirrored t command hstays
  · intro wantStatic explicit
    exact h.convert wantStatic explicit

/-- The owner learns that the channel is theirs no more as it fills up, and nobody learns that a
moderator is none any longer. -/
theorem role_notices_mirror_filled :
    let p := Policy.ofConfig { staticAutoThreshold := 3 }
    let ann : Player := { id := ⟨1⟩, name := "Ann" }
    let bob : Player := { id := ⟨2⟩, name := "Bob" }
    let cid : Player := { id := ⟨3⟩, name := "Cid" }
    let w : World := { directory := ((∅ : Directory).insert ann).insert bob }
    let c := (Scene.run p ⟨w, {}, custom "Raiders"⟩ [.command ann (.join none),
      .command bob (.join none), .command ann (.setMode "bob" .moderator true)]).channel
    let turn := c.execute p w {} cid (.join none)
    c.Reachable p ∧ w.isOnline bob.id ∧ c.contains bob.id ∧ turn.channel.contains bob.id ∧
      roleChangesTo bob.id turn.events = [⟨ann.id, { owner := true, moderator := true }, {}⟩] ∧
      c.roster.role? bob.id = some { moderator := true } ∧
      turn.channel.roster.role? bob.id = some {} ∧
      Mirrors bob.id (c.roster.insert cid.id) c turn.channel turn.events := by
  refine ⟨?hc, ?honline, ?hlisted, ?hstays, by decide, by decide, by decide,
    (role_notices_mirror ?hc ?honline ?hlisted).1 {} _ (.join none) ?hstays⟩
  case hc => exact ⟨_, {}, _, .inl ⟨"Raiders", rfl⟩⟩
  case honline | hlisted | hstays => decide

end Channel
end ChatChannels
