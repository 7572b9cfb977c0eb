import ChatChannels.Proofs.Channel.Refused
import ChatChannels.Proofs.Channel.Sound

/-! Bans last until they are lifted. A ban comes from a player being banned by name and goes with an
unban by name, and nothing else makes or unmakes one. While it lasts the player is not on the
channel, cannot join and cannot be invited, whatever is done on the channel or around it. -/
namespace ChatChannels

open Event (deliveries)

/-- The bans after a command, given how it is answered. -/
def Command.bansAfter (command : Command) (w : World) (bans : Bans) : Answer → Bans
  | .error _ => bans
  | .ok _ =>
    match command with
    | .expel name true => (w.directory.findByName name).elim bans fun target => bans.add target.id
    | .unban name => (w.directory.findByName name).elim bans fun target => bans.remove target.id
    | _ => bans

namespace Channel

variable {p : Policy} {w : World} {c : Channel} {actor : Player} {command : Command}

/-! ## What leaves the bans as they are -/

theorem adopt_bans (player : PlayerId) : (c.adopt w player).channel.bans = c.bans := by
  unfold adopt
  split <;> rfl

theorem convert_bans (wantStatic explicit : Bool) :
    (c.convert p w wantStatic explicit).channel.bans = c.bans := by
  rcases c.convert_cases p w wantStatic explicit with h | ⟨_, _, h⟩ | ⟨_, _, h⟩ <;> rw [h]
  · rw [becomeStatic_channel]
  · unfold becomeDynamic
    split <;> rfl

theorem admitted_bans : (c.admitted p w actor).bans = c.bans := by
  rw [admitted, convert_bans, adopt_bans]

theorem without_bans (bans : Bans) (player : PlayerId) (wasOwner : Bool) :
    (c.without w bans player wasOwner).bans = bans := by
  unfold without Channel.inherit
  split <;> rfl

theorem bansAfter_still (h : command.isUtterance ∨ command.mayIdle) (bans : Bans)
    (answer : Answer) : command.bansAfter w bans answer = bans := by
  cases answer with
  | error cause => rfl
  | ok outcome =>
    cases command with
    | expel | unban => rcases h with h | h <;> cases h
    | _ => rfl

theorem Effect.bans {turn : Turn Answer} (h : c.Effect p w actor command turn) :
    turn.channel.bans = command.bansAfter w c.bans turn.answer := by
  cases h with
  | refused cause hcause => rfl
  | idle hkind => exact (bansAfter_still (.inr hkind) _ _).symm
  | uttered events hkind => exact (bansAfter_still (.inl hkind) _ _).symm
  | joined password events hjoin => exact admitted_bans
  | left notify role events hrole => exact without_bans _ _ _
  | expelled name ban target events hmod htarget hact =>
    obtain ⟨htarget, _⟩ := Option.filter_eq_some_iff.mp htarget
    dsimp only
    rw [without_bans]
    cases ban with
    | true => simp [Command.bansAfter, htarget]
    | false => rfl
  | unbanned name target events hmod htarget hban => simp [Command.bansAfter, htarget]
  | _ => rfl

theorem contains_bansAfter (bans : Bans) (outcome : Outcome) (q : PlayerId) :
    (command.bansAfter w bans (.ok outcome)).contains q ↔
      (∃ name, command = .expel name true ∧ w.Finds name q) ∨
        (bans.contains q ∧ ¬∃ name, command = .unban name ∧ w.Finds name q) := by
  cases command with
  | expel name ban =>
    cases ban with
    | false => simp [Command.bansAfter]
    | true =>
      cases hfound : w.directory.findByName name with
      | none => simp [Command.bansAfter, World.Finds, hfound]
      | some target => simp [Command.bansAfter, World.Finds, hfound, @eq_comm _ q]
  | unban name =>
    cases hfound : w.directory.findByName name with
    | none => simp [Command.bansAfter, World.Finds, hfound]
    | some target => simp [Command.bansAfter, World.Finds, hfound, @eq_comm _ q, and_comm]
  | _ => simp [Command.bansAfter]

end Channel

namespace Scene

variable (p : Policy) (s : Scene)

/-- A player is banned by name. -/
def Bans (q : PlayerId) (act : Act) : Prop :=
  ∃ name, (∃ actor, s.Succeeds p act actor (.expel name true)) ∧ s.world.Finds name q

/-- A player's ban is lifted by name. -/
def Lifts (q : PlayerId) (act : Act) : Prop :=
  ∃ name, (∃ actor, s.Succeeds p act actor (.unban name)) ∧ s.world.Finds name q

/-- Nobody lifts a player's ban in a run. -/
def Unlifted (p : Policy) (q : PlayerId) (s : Scene) : List Act → Prop
  | [] => True
  | act :: rest => ¬s.Lifts p q act ∧ Unlifted p q (s.step p act) rest

variable {p s}

/-- A step bans a player, or lifts a ban, or leaves it as it is. -/
theorem banned_step_iff (act : Act) (q : PlayerId) :
    (s.step p act).channel.bans.contains q ↔
      s.Bans p q act ∨ (s.channel.bans.contains q ∧ ¬s.Lifts p q act) := by
  cases act with
  | surround world throttle => simp [step, Bans, Lifts, Succeeds]
  | convert wantStatic explicit => simp [step, Bans, Lifts, Succeeds, Channel.convert_bans]
  | command actor command =>
    have hbans := (s.channel.perform_effect p s.world actor s.throttle command).bans
    simp only [step, Bans, Lifts, exists_succeeds_iff, Channel.execute_channel,
      Channel.execute_answer, hbans]
    cases (s.channel.perform p s.world s.throttle actor command).answer with
    | error cause => simp [Command.bansAfter]
    | ok outcome => simpa using Channel.contains_bansAfter s.channel.bans outcome q

theorem banned_run {q : PlayerId} (acts : List Act) (hbanned : s.channel.bans.contains q)
    (hkept : s.Unlifted p q acts) : (s.run p acts).channel.bans.contains q := by
  induction acts generalizing s with
  | nil => exact hbanned
  | cons act rest ih => exact ih ((banned_step_iff act q).mpr (.inr ⟨hbanned, hkept.1⟩)) hkept.2

end Scene

namespace Channel

/-- What it is to be banned: not to be there, not to be let in, and not to be invited, whoever asks
and whatever surrounds the channel. -/
structure KeptOut (p : Policy) (c : Channel) (q : PlayerId) : Prop where
  banned : c.bans.contains q
  absent : c.contains q = false
  join_refused : ∀ w t actor password, actor.id = q →
    (c.execute p w t actor (.join password)).answer = .error .banned ∧
      (c.execute p w t actor (.join password)).channel = c
  invite_refused : ∀ w t actor name, w.Finds name q →
    (c.execute p w t actor (.invite name)).answer =
        .error (if c.contains actor.id then .inviteBanned name else .notMember) ∧
      ∀ channel inviter, (q, .notice ⟨channel, .invite inviter⟩) ∉
        deliveries (c.execute p w t actor (.invite name)).events

variable {p : Policy} {w : World} {c : Channel} {q : PlayerId}

theorem join_banned {actor : Player} (hout : c.contains actor.id = false)
    (hbanned : c.bans.contains actor.id) (password : Option String) :
    c.join p w actor password = c.reject w actor.id .banned := by
  have hrefusal : c.joinRefusal actor password = some (.notify, .banned) := by
    simp [joinRefusal, hout, hbanned]
  rw [join, hrefusal]
  rfl

theorem invite_banned {name : String} (hfinds : w.Finds name q) (hout : c.contains q = false)
    (hbanned : c.bans.contains q) (actor : Player) :
    c.invite p w actor name =
      c.reject w actor.id (if c.contains actor.id then .inviteBanned name else .notMember) := by
  obtain ⟨target, htarget, rfl⟩ := Option.map_eq_some_iff.mp hfinds
  unfold invite
  cases c.contains actor.id <;> simp [htarget, hout, hbanned]

theorem Tidy.keptOut (hc : c.Tidy) (hbanned : c.bans.contains q) : c.KeptOut p q := by
  have hout := hc.banned_out q hbanned
  refine ⟨hbanned, hout, ?_, ?_⟩
  · rintro w t actor password rfl
    rw [execute_answer, execute_channel, perform, join_banned hout hbanned]
    exact ⟨rfl, rfl⟩
  · intro w t actor name hfinds
    rw [execute_answer, deliveries_execute, perform, invite_banned hfinds hout hbanned]
    refine ⟨rfl, ?_⟩
    intro channel inviter hmem
    obtain ⟨_, body, hbody, hd⟩ := mem_deliveries_refuse w c actor hmem
    cases hd
    split at hbody <;> cases hbody

end Channel

namespace Scene

variable {p : Policy} {s : Scene}

/-- A player who is banned is kept out until somebody lifts the ban, and nothing else that happens
bans a player or lifts a ban. -/
theorem bans_last (hc : s.channel.Reachable p) (q : PlayerId) :
    (∀ act acts, s.Bans p q act → (s.step p act).Unlifted p q acts →
      (s.run p (act :: acts)).channel.KeptOut p q) ∧
    ∀ act, (s.step p act).channel.bans.contains q ↔
      s.Bans p q act ∨ (s.channel.bans.contains q ∧ ¬s.Lifts p q act) := by
  refine ⟨?_, fun act => banned_step_iff act q⟩
  intro act acts hban hkept
  have hbanned := banned_run acts ((banned_step_iff act q).mpr (.inl hban)) hkept
  have hsound := run_invariant (p := p) (fun c c' h => h.sound) s (act :: acts) hc.sound
  exact hsound.toTidy.keptOut hbanned

/-- Bob stays banned as the channel becomes static, as Bob goes offline and comes back under another
name, and as Bob asks to be let in. -/
theorem bans_last_renamed :
    let p := Policy.ofConfig {}
    let ann : Player := { id := ⟨1⟩, name := "Ann" }
    let bob : Player := { id := ⟨2⟩, name := "Bob" }
    let rob : Player := { bob with name := "Rob" }
    let w : World := { directory := ((∅ : Directory).insert ann).insert bob }
    let w' : World := { directory := (w.directory.remove bob.id).insert rob }
    let s := Scene.run p ⟨w, {}, .custom "Raiders"⟩ [.command ann (.join none),
      .command bob (.join none)]
    let ban := Act.command ann (.expel "BOB" true)
    let acts := [Act.convert true true, .surround w' {}, .command rob (.join none)]
    s.channel.Reachable p ∧ s.Bans p bob.id ban ∧ (s.step p ban).Unlifted p bob.id acts ∧
      w'.directory.findByName "bob" = none ∧ (s.run p (ban :: acts)).channel.isStatic ∧
      (s.run p (ban :: acts)).channel.KeptOut p bob.id := by
  refine ⟨?hc, ?hban, ?hkept, by decide, by decide, (bans_last ?hc _).1 _ _ ?hban ?hkept⟩
  case hc => exact ⟨_, {}, _, .inl ⟨"Raiders", rfl⟩⟩
  case hban => exact ⟨"BOB", ⟨_, rfl, .applied, rfl⟩, rfl⟩
  case hkept =>
    refine ⟨?_, ?_, ?_, trivial⟩ <;>
    · rintro ⟨name, ⟨actor, hact, _⟩, _⟩
      cases hact

end Scene
end ChatChannels
