import ChatChannels.Console.Input
import ChatChannels.Proofs.Console.Line
import ChatChannels.Proofs.Directory
import ChatChannels.Proofs.Registry.Actor
import ChatChannels.Proofs.Registry.Parting

/-! Console sessions. Whoever is on a channel, or has a speech budget of their own, is logged in at
any time: only players who are logged in can act, and a logout takes the player out of every channel
and gives the budget up. -/
namespace ChatChannels

open Event (deliveries)

namespace Registry

variable {w : World} {r : Registry}

/-- Whoever asks for the owner is told one, or that they are not on the channel. -/
theorem Sound.deliveries_queryOwner (hs : r.Sound) {actor : Player} (honline : w.isOnline actor.id)
    (name : String) :
    deliveries (r.execute w actor name .queryOwner).events =
      match r.channel? name with
      | none => [(actor.id, .notice ⟨name, .notMember⟩)]
      | some c => [(actor.id, c.notice (if c.contains actor.id
          then .ownerReply (c.ownerName r.house.policy w actor) else .notMember))] := by
  have hfind : r.plain.channels.find? (Text.lowercase name) = r.channel? name :=
    (r.channel?_eq name).symm
  rw [(hs.execute_agrees w actor name .queryOwner).deliveries,
    r.plain.execute_named w (fun _ => Command.noConfusion), hfind]
  cases r.channel? name with
  | none => rfl
  | some c =>
    change deliveries (c.execute _ w _ actor .queryOwner).events = _
    rw [Channel.deliveries_execute, Channel.perform, Channel.queryOwner]
    have htold : ∀ body, deliveries (c.tell w actor.id body) = [(actor.id, c.notice body)] :=
      fun body => (Channel.deliveries_tell w c actor.id body).trans (if_pos honline)
    dsimp only
    cases c.contains actor.id with
    | true => exact htold _
    | false => exact htold .notMember

end Registry

namespace Console

/-- The console after lines entered one after the other, read or not. -/
def enterLines (c : Console) : List String → Console
  | [] => c
  | line :: rest => enterLines (c.enter line).state rest

/-- The registry is in order, every player has a name and their own record, and whoever is on a
channel or has a budget is logged in. -/
structure Orderly (c : Console) : Prop where
  registry : c.registry.Orderly
  keyed : c.world.directory.Keyed
  named : ∀ id p, c.world.directory.player? id = some p → p.name ≠ ""
  members : ∀ key q, q ∈ c.registry.membersAt key → c.world.isOnline q
  tracked : ∀ q, c.registry.house.throttle.granted.contains q → c.world.isOnline q

variable {c : Console}

/-- What has been entered of an input, up to a line that is not UTF-8. -/
def entered : List (List UInt8) → List String
  | [] => []
  | line :: rest =>
    match Text.decodeUtf8 line with
    | none => []
    | some text => text :: entered rest

theorem enterAll_state (c : Console) (lines : List (List UInt8)) :
    (c.enterAll lines).state = c.enterLines (entered lines) := by
  induction lines generalizing c with
  | nil => rfl
  | cons line rest ih =>
    rw [enterAll, entered]
    cases Text.decodeUtf8 line with
    | none => rfl
    | some text =>
      rw [enterLines]
      exact ih (c.enter text).state

/-! ## Lines one by one -/

theorem Orderly.login (hc : c.Orderly) {p : Player} (hname : p.name ≠ "") :
    (c.apply (.login p)).state.Orderly := by
  have honline : ∀ q, c.world.isOnline q → (c.world.directory.insert p).isOnline q := by
    intro q hq
    rw [Directory.isOnline_insert, Bool.or_eq_true]
    exact .inr hq
  refine ⟨hc.registry, hc.keyed.insert p, fun id q hq => ?_,
    fun key q hq => honline q (hc.members key q hq), fun q hq => honline q (hc.tracked q hq)⟩
  have hq : (c.world.directory.insert p).player? id = some q := hq
  rw [Directory.player?_insert] at hq
  split at hq
  next =>
    cases hq
    exact hname
  next => exact hc.named id q hq

theorem withPlayer_some {id : PlayerId} {player : Player}
    (hplayer : c.world.directory.player? id = some player)
    (run : Player → Reply Console (Except LineError String)) :
    c.withPlayer id run = run player := by
  rw [withPlayer, hplayer]

theorem withPlayer_none {id : PlayerId} (hplayer : c.world.directory.player? id = none)
    (run : Player → Reply Console (Except LineError String)) :
    c.withPlayer id run = ⟨c, .error (.unknownPlayer id), []⟩ := by
  rw [withPlayer, hplayer]

theorem Orderly.withPlayer (hc : c.Orderly) {id : PlayerId}
    {run : Player → Reply Console (Except LineError String)}
    (hrun : ∀ player, c.world.directory.player? player.id = some player → player.id = id →
      (run player).state.Orderly) : (c.withPlayer id run).state.Orderly := by
  cases hplayer : c.world.directory.player? id with
  | none =>
    rw [withPlayer_none hplayer]
    exact hc
  | some player =>
    obtain rfl := hc.keyed id player hplayer
    rw [withPlayer_some hplayer]
    exact hrun player hplayer rfl

/-- A request that brings only players online, and gives only such a budget, keeps the console in
order. -/
theorem Orderly.serve (hc : c.Orderly) (request : Request)
    (hmembers : ∀ key q, q ∈ (c.registry.serve c.world request).state.membersAt key →
      c.world.isOnline q ∨ q ∈ c.registry.membersAt key)
    (htracked : ∀ q, (c.registry.serve c.world request).state.house.throttle.granted.contains q →
      c.world.isOnline q ∨ c.registry.house.throttle.granted.contains q) :
    { c with registry := (c.registry.serve c.world request).state }.Orderly where
  registry := (hc.registry.move_steps c.world (.request request)).orderly hc.registry
  keyed := hc.keyed
  named := hc.named
  members key q hq := (hmembers key q hq).elim id (hc.members key q)
  tracked q hq := (htracked q hq).elim id (hc.tracked q)

theorem Orderly.setStatic (hc : c.Orderly) (channel : String) (want : Bool) :
    (c.apply (.setStatic channel want)).state.Orderly := by
  have hfollows : ∀ key, (c.registry.setStatic c.world channel want).state.membersAt key =
      c.registry.membersAt key := hc.registry.setStatic_follows c.world channel want
  have hthrottle := hc.registry.setStatic_throttle (w := c.world) channel want
  exact hc.serve (.setStatic channel want) (fun key _ hq => .inr (hfollows key ▸ hq))
    fun _ hq => .inr (hthrottle ▸ hq)

theorem Orderly.command (hc : c.Orderly) (id : PlayerId) (channel : String) (command : Command) :
    (c.apply (.player id channel command)).state.Orderly := by
  refine hc.withPlayer fun player hplayer _ => ?_
  have honline : c.world.isOnline player.id := Option.isSome_of_eq_some hplayer
  refine hc.serve (.execute player channel command) (fun key q hq => ?_) fun q hq => ?_
  · rcases hc.registry.mem_execute hq with rfl | hq
    · exact .inl honline
    · exact .inr hq
  · rcases hc.registry.tracked_execute hq with rfl | hq
    · exact .inl honline
    · exact .inr hq

/-- Whoever logs out is gone from every channel they were on, and from no other. -/
structure LoggedOut (c : Console) (id : PlayerId) (reply : Reply Console (Except LineError String)) :
    Prop where
  parted : ∃ left : Reply Registry Nat, c.registry.Parted id left ∧
    reply.state.registry = left.state ∧
    reply.answer = .ok s!"logged out {id}, left {left.answer} channel(s)"
  world : reply.state.world = { c.world with directory := c.world.directory.remove id }

theorem Orderly.loggedOut (hc : c.Orderly) {id : PlayerId} {player : Player}
    (hplayer : c.world.directory.player? id = some player) :
    c.LoggedOut id (c.apply (.logout id)) := by
  obtain rfl := hc.keyed id player hplayer
  change c.LoggedOut player.id (c.withPlayer player.id _)
  rw [withPlayer_some hplayer]
  exact ⟨⟨_, hc.registry.partAll_parted c.world player, rfl, rfl⟩, rfl⟩

theorem Orderly.logout (hc : c.Orderly) (id : PlayerId) :
    (c.apply (.logout id)).state.Orderly := by
  refine hc.withPlayer ?_
  rintro player hplayer rfl
  have hparted := hc.registry.partAll_parted c.world player
  have hremains : ∀ q, q ≠ player.id → c.world.isOnline q →
      (c.world.directory.remove player.id).isOnline q := by
    intro q hne hq
    rw [Directory.isOnline_remove, Bool.and_eq_true, decide_eq_true_iff]
    exact ⟨hne, hq⟩
  refine ⟨(hc.registry.move_steps c.world (.request (.partAll player))).orderly hc.registry,
    hc.keyed.remove player.id, fun id q hq => ?_, fun key q hq => ?_, fun q hq => ?_⟩
  · have hq : (c.world.directory.remove player.id).player? id = some q := hq
    rw [Directory.player?_remove] at hq
    split at hq
    next => cases hq
    next => exact hc.named id q hq
  · have hq : q ∈ (c.registry.partAll c.world player).state.membersAt key := hq
    rw [hparted.membersAt_eq, (hc.registry.nodup_membersAt key).mem_erase_iff] at hq
    exact hremains q hq.1 (hc.members key q hq.2)
  · have hq : (c.registry.partAll c.world player).state.house.throttle.granted.contains q := hq
    rw [hparted.budgets] at hq
    obtain ⟨hne, hq⟩ := Throttle.contains_forget hq
    exact hremains q hne (hc.tracked q hq)

theorem Orderly.enter (hc : c.Orderly) (line : String) : (c.enter line).state.Orderly := by
  unfold Console.enter
  split
  next parsed hparsed =>
    cases parsed with
    | login player => exact hc.login (ConsoleLine.parse_login hparsed)
    | logout id => exact hc.logout id
    | ignore who whom => exact { hc with }
    | setStatic channel want => exact hc.setStatic channel want
    | channels => exact hc
    | player id channel command => exact hc.command id channel command
  next => exact hc

theorem Orderly.enterLines (hc : c.Orderly) (lines : List String) :
    (c.enterLines lines).Orderly := by
  induction lines generalizing c with
  | nil => exact hc
  | cons line rest ih =>
    rw [Console.enterLines]
    exact ih (hc.enter line)

theorem ofConfig_orderly (config : Config) :
    ({ registry := .ofConfig config } : Console).Orderly where
  registry := Registry.ofConfig_orderly config
  keyed := Directory.keyed_after []
  named _ _ h := by cases h
  members key q hq := by
    rw [Registry.membersAt_ofConfig] at hq
    cases hq
  tracked q hq := by
    rw [(Registry.ofConfig_spec config).2.2.1] at hq
    cases hq

/-! ## Nobody without a login -/

/-- Nobody is on a channel, owns one or has a budget without being logged in. -/
structure NoGhosts (c : Console) : Prop where
  members : ∀ key channel, c.registry.house.channels.find? key = some channel →
    ∀ q, channel.contains q → c.world.isOnline q
  owners : ∀ key channel, c.registry.house.channels.find? key = some channel →
    ∀ q, channel.owner = some q → c.world.isOnline q
  tracked : ∀ q, c.registry.house.throttle.granted.contains q → c.world.isOnline q

theorem Orderly.noGhosts (hc : c.Orderly) : c.NoGhosts := by
  have hmembers : ∀ key channel, c.registry.house.channels.find? key = some channel →
      ∀ q, channel.contains q → c.world.isOnline q := by
    intro key channel hfind q hq
    apply hc.members key q
    rw [Registry.membersAt_eq, hfind]
    exact (Roster.contains_iff_mem _ _).mp hq
  refine ⟨hmembers, fun key channel hfind q ho => hmembers key channel hfind q ?_, hc.tracked⟩
  obtain ⟨role, hrole, _⟩ := (hc.registry.channels_sound key channel hfind).owner_bits q ho
  exact Roster.contains_of_role? hrole

/-- Whoever is on a channel and asks who owns it gets an answer. Every answer names nobody, or the
owner by the name under which they are logged in. -/
structure TellsOwner (c : Console) (id : PlayerId) (name : String) (events : List Event) :
    Prop where
  answered : ∀ channel, c.registry.channel? name = some channel → channel.contains id →
    ∃ text, deliveries events = [(id, channel.notice (.ownerReply text))]
  truthful : ∀ q heading text, (q, .notice ⟨heading, .ownerReply text⟩) ∈ deliveries events →
    ∃ channel, c.registry.channel? name = some channel ∧
      (text = Notice.nobody ∨ channel.owner.bind c.world.directory.nameOf = some text)

theorem Orderly.ownerName (hc : c.Orderly) {name : String} {channel : Channel}
    (hchannel : c.registry.channel? name = some channel) (p : Policy) (observer : Player) :
    channel.ownerName p c.world observer = Notice.nobody ∨
      channel.owner.bind c.world.directory.nameOf = some (channel.ownerName p c.world observer) := by
  unfold Channel.ownerName
  split
  next => exact .inl rfl
  next id ho =>
    rw [Registry.channel?_eq] at hchannel
    have honline := hc.noGhosts.owners _ channel hchannel id ho
    split
    next hoffline =>
      rw [World.isOnline, Directory.isOnline, hoffline] at honline
      cases honline
    next owner howner =>
      split
      next => exact .inl rfl
      next =>
        split
        next hunnamed => exact absurd (String.isEmpty_iff.mp hunnamed) (hc.named id owner howner)
        next =>
          rw [ho]
          exact .inr (congrArg (Option.map Player.name) howner)

theorem Orderly.tellsOwner (hc : c.Orderly) (id : PlayerId) (name : String) :
    c.TellsOwner id name (c.apply (.player id name .queryOwner)).events := by
  change c.TellsOwner id name (c.withPlayer id _).events
  cases hplayer : c.world.directory.player? id with
  | none =>
    rw [withPlayer_none hplayer]
    refine ⟨fun channel hchannel hmember => ?_, fun _ _ _ h => absurd h List.not_mem_nil⟩
    rw [Registry.channel?_eq] at hchannel
    have honline := hc.noGhosts.members _ channel hchannel id hmember
    rw [World.isOnline, Directory.isOnline, hplayer] at honline
    cases honline
  | some player =>
    obtain rfl := hc.keyed id player hplayer
    have honline : c.world.isOnline player.id := Option.isSome_of_eq_some hplayer
    have hdeliveries := hc.registry.deliveries_queryOwner honline name
    rw [withPlayer_some hplayer]
    dsimp only
    cases hchannel : c.registry.channel? name with
    | none =>
      rw [hchannel] at hdeliveries
      refine ⟨fun channel h => ?_, fun q heading text h => ?_⟩
      · cases hchannel.symm.trans h
      · rw [hdeliveries] at h
        cases List.mem_singleton.mp h
    | some channel =>
      rw [hchannel] at hdeliveries
      refine ⟨fun channel' h hmember => ?_, fun q heading text h => ⟨channel, hchannel, ?_⟩⟩
      · obtain rfl : channel = channel' := Option.some.inj (hchannel.symm.trans h)
        rw [hdeliveries]
        dsimp only
        rw [if_pos hmember]
        exact ⟨_, rfl⟩
      · rw [hdeliveries] at h
        have hbody := List.mem_singleton.mp h
        split at hbody
        next =>
          cases hbody
          exact hc.ownerName hchannel c.registry.house.policy player
        next => cases hbody

/-- Whatever lines are entered, nobody is on a channel or owns one without being logged in. So who
asks for an owner is told a name under which somebody is logged in, or nobody, and a logout takes
the player out of the channels it counts and no others. -/
theorem enterLines_noGhosts (config : Config) (lines : List String) :
    let c := ({ registry := .ofConfig config } : Console).enterLines lines
    c.NoGhosts ∧
      (∀ line id name, ConsoleLine.parse line = .ok (.player id name .queryOwner) →
        c.TellsOwner id name (c.enter line).events) ∧
      ∀ line id, ConsoleLine.parse line = .ok (.logout id) → c.world.isOnline id →
        c.LoggedOut id (c.enter line) := by
  intro c
  have hc : c.Orderly := (ofConfig_orderly config).enterLines lines
  refine ⟨hc.noGhosts, fun line id name hline => ?_, fun line id hline honline => ?_⟩
  · rw [Console.enter, hline]
    exact hc.tellsOwner id name
  · obtain ⟨player, hplayer⟩ := Option.isSome_iff_exists.mp honline
    rw [Console.enter, hline]
    exact hc.loggedOut hplayer

/-- Bob inherits from Ann, who logs out, is told so, and is the last to go. -/
theorem enterLines_noGhosts_inherited :
    let lines := ["login 1 Ann", "login 2 Bob", "1 join Raiders", "2 join raiders",
      "1 say Raiders farewell", "logout 1"]
    let c := ({ registry := .ofConfig {} } : Console).enterLines lines
    let asked := (c.enter "2 whoowner RAIDERS").events
    let left := c.enter "logout 2"
    (ConsoleLine.parse "2 whoowner RAIDERS" = .ok (.player ⟨2⟩ "RAIDERS" .queryOwner) ∧
      ConsoleLine.parse "logout 2" = .ok (.logout ⟨2⟩) ∧ c.world.isOnline ⟨2⟩) ∧
    (c.NoGhosts ∧ c.TellsOwner ⟨2⟩ "RAIDERS" asked ∧ c.LoggedOut ⟨2⟩ left) ∧
    deliveries asked = [(⟨2⟩, .notice ⟨"Raiders", .ownerReply "Bob"⟩)] ∧
      left.answer = .ok "logged out 2, left 1 channel(s)" := by
  intro lines c asked left
  have hask : ConsoleLine.parse "2 whoowner RAIDERS" = .ok (.player ⟨2⟩ "RAIDERS" .queryOwner) := by
    decide +kernel
  have hlogout : ConsoleLine.parse "logout 2" = .ok (.logout ⟨2⟩) := by decide +kernel
  have honline : c.world.isOnline ⟨2⟩ := by decide +kernel
  obtain ⟨hghosts, howner, hleft⟩ := enterLines_noGhosts {} lines
  refine ⟨⟨hask, hlogout, honline⟩, ⟨hghosts, howner _ _ _ hask, hleft _ _ hlogout honline⟩, ?_⟩
  decide +kernel

/-- The same holds at the end of any input. -/
theorem run_noGhosts (config : Config) (input : List UInt8) :
    (({ registry := .ofConfig config } : Console).run input).state.NoGhosts := by
  rw [Console.run, enterAll_state]
  exact ((ofConfig_orderly config).enterLines _).noGhosts

end Console
end ChatChannels
