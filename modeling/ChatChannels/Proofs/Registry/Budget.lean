import ChatChannels.Proofs.Registry.Actor
import ChatChannels.Proofs.Registry.Parting
import ChatChannels.Proofs.Throttle

/-! The speech budget of each player over a run. It is asked for by lines of text, in whichever
channel their speaker is on, and by nothing else, and it is full again only when the player has left
all channels. So the lines that are put off are those beyond the burst. -/
namespace ChatChannels

/-- Who says something by a command: a member who gives a line of text. -/
def Channel.speaker? (c : Channel) (actor : Player) : Command → Option PlayerId
  | .say text _ => if text ≠ "" ∧ c.contains actor.id then some actor.id else none
  | _ => none

/-- Who leaves all channels by a move. -/
def Move.leaver? : Move → Option PlayerId
  | .request (.partAll actor) => some actor.id
  | _ => none

theorem Channel.throttleAfter_eq (c : Channel) (t : Throttle) (actor : Player) (command : Command) :
    c.throttleAfter t actor command = (c.speaker? actor command).elim t t.ask := by
  cases command with
  | say text language =>
    by_cases h : text ≠ "" ∧ c.contains actor.id <;> simp [throttleAfter, asksToSpeak, speaker?, h]
  | _ => rfl

/-- A member who says something is put off until later exactly if their budget is spent. -/
theorem Channel.throttled_iff {p : Policy} {w : World} {t : Throttle} {c : Channel}
    {actor : Player} {command : Command} {q : PlayerId}
    (hspeaker : c.speaker? actor command = some q) :
    (c.execute p w t actor command).answer = .error .throttled ↔ t.admits q = false := by
  cases command with
  | say text language =>
    obtain ⟨⟨htext, hmember⟩, hid⟩ := Option.ite_none_right_eq_some.mp hspeaker
    cases hid
    exact say_throttled_iff htext hmember
  | _ => cases hspeaker

theorem House.throttle_settle (h : House) (place : Nat) (room : Room) :
    (h.settle place room).1.throttle = h.throttle := by
  unfold House.settle
  dsimp only
  split
  · rfl
  · split <;> rfl

namespace Registry

/-- Who says something by a move, on a live channel that they are on. -/
def speaker? (r : Registry) : Move → Option PlayerId
  | .request (.execute actor name command) =>
    (r.channel? name).bind fun c => c.speaker? actor command
  | .command handle actor command =>
    (r.house.worker? handle).bind fun room => room.channel.speaker? actor command
  | _ => none

/-- What a player is answered by a move that is a command. -/
def answer? (w : World) (r : Registry) : Move → Option Answer
  | .request (.join actor name password) => some (r.join w actor name password).answer
  | .request (.execute actor name command) => some (r.execute w actor name command).answer
  | .command handle actor command => some (r.commandVia w handle actor command).answer
  | _ => none

/-- How many lines a player has spoken by the end of a run, since last leaving all channels, if it
had been so many at the start. -/
def spoken (q : PlayerId) (n : Nat) (r : Registry) : List (World × Move) → Nat
  | [] => n
  | (w, m) :: rest =>
    spoken q (if m.leaver? = some q then 0 else if r.speaker? m = some q then n + 1 else n)
      (r.move w m) rest

/-- The speech budgets after a move. -/
def budgetsAfter (r : Registry) (m : Move) : Throttle :=
  match m.leaver? with
  | some q => r.house.throttle.forget q
  | none => (r.speaker? m).elim r.house.throttle r.house.throttle.ask

/-! ## What a move does to the budgets -/

variable {r : Registry} (w : World)

theorem throttle_commandVia (handle : Handle) (actor : Player) (command : Command) :
    (r.commandVia w handle actor command).state.house.throttle =
      r.budgetsAfter (.command handle actor command) := by
  change _ = ((r.house.worker? handle).bind fun room => room.channel.speaker? actor command).elim _ _
  cases hworker : r.house.worker? handle with
  | none =>
    rw [r.commandVia_idle w hworker]
    rfl
  | some room =>
    rw [r.commandVia_worker w hworker]
    exact (House.throttle_settle _ _ _).trans (room.channel.throttleAfter_eq _ actor command)

theorem throttle_setStaticVia (handle : Handle) (wantStatic : Bool) :
    (r.setStaticVia w handle wantStatic).state.house.throttle = r.house.throttle := by
  cases hworker : r.house.worker? handle with
  | none => rw [r.setStaticVia_idle w hworker]
  | some room =>
    rw [r.setStaticVia_worker w hworker]
    exact House.throttle_settle _ _ _

theorem Sound.throttle_findOrOpen (hs : r.Sound) (name : String) :
    (r.findOrOpen name).state.house.throttle = r.house.throttle := by
  unfold findOrOpen
  split
  next => rfl
  next => rw [openAt_house hs.house.standing]

theorem Sound.throttle_join (hs : r.Sound) (actor : Player) (name : String)
    (password : Option String) :
    (r.join w actor name password).state.house.throttle = r.house.throttle := by
  rw [hs.join_eq w]
  split
  next => rfl
  next =>
    refine (throttle_commandVia w _ actor _).trans ?_
    refine Eq.trans ?_ (hs.throttle_findOrOpen name)
    change ((House.worker? _ _).bind fun room => room.channel.speaker? actor (.join password)).elim _ _
      = _
    cases House.worker? _ _ <;> rfl

/-- A command by name is spoken where the command to the handle under that name is. -/
theorem Sound.speaker?_execute (hs : r.Sound) {name : String} {handle : Handle}
    (hfind : r.find? name = some handle) (actor : Player) (command : Command) :
    r.speaker? (.request (.execute actor name command)) =
      r.speaker? (.command handle actor command) := by
  obtain ⟨room, hworker, _⟩ := hs.exists_worker hfind
  have hroom := (House.worker?_eq_some_iff.mp hworker).1
  rw [speaker?, speaker?, channel?, hfind, Option.bind_some, House.channel?_of_room? hroom, hworker]
  rfl

theorem Sound.throttle_execute (hs : r.Sound) (actor : Player) (name : String) (command : Command) :
    (r.execute w actor name command).state.house.throttle =
      r.budgetsAfter (.request (.execute actor name command)) := by
  rcases command.join_or_other with ⟨password, rfl⟩ | hjoin
  · refine (hs.throttle_join w actor name password).trans ?_
    change _ = ((r.channel? name).bind fun c => c.speaker? actor (.join password)).elim _ _
    cases r.channel? name <;> rfl
  · rw [hs.execute_eq w hjoin]
    cases hfind : r.find? name with
    | none =>
      change _ = ((r.channel? name).bind fun c => c.speaker? actor command).elim _ _
      rw [channel?, hfind]
      rfl
    | some handle =>
      refine (throttle_commandVia w handle actor command).trans ?_
      change (r.speaker? _).elim _ _ = (r.speaker? _).elim _ _
      rw [hs.speaker?_execute hfind]

/-- Only lines of text and leaving all channels touch the budgets. -/
theorem Sound.throttle_move (hs : r.Sound) (m : Move) :
    (r.move w m).house.throttle = r.budgetsAfter m := by
  cases m with
  | command handle actor command => exact throttle_commandVia w handle actor command
  | convert handle wantStatic => exact throttle_setStaticVia w handle wantStatic
  | request request =>
    cases request with
    | join actor name password => exact hs.throttle_join w actor name password
    | execute actor name command => exact hs.throttle_execute w actor name command
    | setStatic name wantStatic => exact hs.setStatic_throttle name wantStatic
    | look name => rfl
    | findOrOpen name => exact hs.throttle_findOrOpen name
    | partAll actor => exact (hs.partAll_spec w actor).2.1

/-! ## Runs -/

theorem limits_budgetsAfter (m : Move) : (r.budgetsAfter m).limits = r.house.throttle.limits := by
  unfold budgetsAfter
  split
  next => rfl
  next =>
    cases r.speaker? m with
    | none => rfl
    | some id => exact r.house.throttle.limits_ask id

theorem run_limits (c : Config) (moves : List (World × Move)) :
    ((ofConfig c).run moves).house.throttle.limits = c.rateLimits := by
  have hrun : ∀ (moves : List (World × Move)) (r : Registry), r.Sound →
      (r.run moves).house.throttle.limits = r.house.throttle.limits := by
    intro moves
    induction moves with
    | nil => exact fun _ _ => rfl
    | cons first rest ih =>
      intro r hs
      obtain ⟨w, m⟩ := first
      refine (ih _ ((hs.move_steps w m).sound hs)).trans ?_
      rw [hs.throttle_move w m, limits_budgetsAfter]
  obtain ⟨hsound, _, hthrottle, _⟩ := ofConfig_spec c
  rw [hrun moves _ hsound, hthrottle]

/-- One more line counts against the budget of its speaker, up to the burst, and those who leave all
channels have theirs back. -/
theorem grantedTo_budgetsAfter (henabled : r.house.throttle.isEnabled)
    (hinterval : r.house.throttle.limits.tokenInterval ≠ 0) {q : PlayerId} {n : Nat}
    (hn : r.house.throttle.grantedTo q = min n r.house.throttle.limits.burst) (m : Move) :
    (r.budgetsAfter m).grantedTo q =
      min (if m.leaver? = some q then 0 else if r.speaker? m = some q then n + 1 else n)
        r.house.throttle.limits.burst := by
  unfold budgetsAfter
  cases hleaver : m.leaver? with
  | some id =>
    by_cases hq : q = id
    · subst hq
      rw [if_pos rfl, Nat.zero_min]
      exact Throttle.grantedTo_forget_self
    · have hstays : r.speaker? m = none := by
        cases m with
        | request request => cases request with
          | partAll actor => rfl
          | _ => cases hleaver
        | _ => cases hleaver
      have hother : some id ≠ some q := fun he => hq (Option.some.inj he).symm
      rw [if_neg hother, if_neg (by simp [hstays]), ← hn]
      exact Throttle.grantedTo_forget_other hq
  | none =>
    rw [if_neg (by simp)]
    cases hspeaker : r.speaker? m with
    | none =>
      rw [if_neg (by simp)]
      exact hn
    | some id =>
      by_cases hq : q = id
      · subst hq
        rw [if_pos rfl]
        exact Throttle.grantedTo_ask_min henabled hinterval hn
      · have hother : some id ≠ some q := fun he => hq (Option.some.inj he).symm
        rw [if_neg hother, ← hn]
        exact Throttle.grantedTo_ask_other hq

theorem Sound.grantedTo_run (hs : r.Sound) (henabled : r.house.throttle.isEnabled)
    (hinterval : r.house.throttle.limits.tokenInterval ≠ 0) {q : PlayerId} {n : Nat}
    (hn : r.house.throttle.grantedTo q = min n r.house.throttle.limits.burst)
    (moves : List (World × Move)) :
    (r.run moves).house.throttle.grantedTo q =
      min (r.spoken q n moves) r.house.throttle.limits.burst := by
  induction moves generalizing r n with
  | nil => exact hn
  | cons first rest ih =>
    obtain ⟨w, m⟩ := first
    have hthrottle := hs.throttle_move w m
    have hlimits : (r.move w m).house.throttle.limits = r.house.throttle.limits := by
      rw [hthrottle, limits_budgetsAfter]
    have hmoved := grantedTo_budgetsAfter henabled hinterval hn m
    rw [← hthrottle, ← hlimits] at hmoved
    have hrest := ih ((hs.move_steps w m).sound hs)
      (by rwa [Throttle.isEnabled, hlimits]) (by rwa [hlimits]) hmoved
    rwa [hlimits] at hrest

/-! ## Answers -/

theorem throttled_commandVia_iff {handle : Handle} {actor : Player} {command : Command}
    {q : PlayerId} (hspeaks : r.speaker? (.command handle actor command) = some q) :
    (r.commandVia w handle actor command).answer = .error .throttled ↔
      r.house.throttle.admits q = false := by
  obtain ⟨room, hworker, hspeaker⟩ := Option.bind_eq_some_iff.mp hspeaks
  rw [r.commandVia_worker w hworker]
  exact Channel.throttled_iff hspeaker

/-- Whoever says something is put off until later exactly if their budget is spent. -/
theorem Sound.throttled_iff (hs : r.Sound) {m : Move} {q : PlayerId}
    (hspeaks : r.speaker? m = some q) :
    r.answer? w m = some (.error .throttled) ↔ r.house.throttle.admits q = false := by
  cases m with
  | command handle actor command =>
    rw [answer?, Option.some.injEq]
    exact throttled_commandVia_iff w hspeaks
  | convert handle wantStatic => cases hspeaks
  | request request =>
    cases request with
    | execute actor name command =>
      obtain ⟨c, hchannel, hspeaker⟩ := Option.bind_eq_some_iff.mp hspeaks
      obtain ⟨handle, hfind, _⟩ := Option.bind_eq_some_iff.mp hchannel
      have hcommand : ∀ password, command ≠ .join password := by
        rintro password rfl
        cases hspeaker
      rw [hs.speaker?_execute hfind] at hspeaks
      rw [answer?, Option.some.injEq, hs.execute_eq w hcommand, hfind]
      exact throttled_commandVia_iff w hspeaks
    | _ => cases hspeaks

/-- At a rate at which a token can be missing, a player who says something on any channel is put off
until later exactly if they have spoken the burst, or more, since last leaving all channels. -/
theorem run_speech_budget (c : Config) (hrate : 1 ≤ c.rateLimits.sayRatePerSecond.toNat)
    (hrate' : c.rateLimits.sayRatePerSecond.toNat ≤ 1000000000) (moves : List (World × Move))
    (q : PlayerId) :
    let r := (ofConfig c).run moves
    let lines := (ofConfig c).spoken q 0 moves
    let burst := max c.rateLimits.sayBurst.toNat 1
    r.house.throttle.grantedTo q = min lines burst ∧
      ∀ w m, r.speaker? m = some q →
        (r.answer? w m = some (.error .throttled) ↔ burst ≤ lines) := by
  intro r lines burst
  obtain ⟨hsound, _, hthrottle, _⟩ := ofConfig_spec c
  have hr : r.Sound := (run_orderly c moves).toSound
  have hinterval := RateLimits.tokenInterval_ne_zero hrate hrate'
  have henabled := RateLimits.isEnabled_iff.mpr hrate
  have hlimits₀ : (ofConfig c).house.throttle.limits = c.rateLimits := by rw [hthrottle]
  have hlimits : r.house.throttle.limits = c.rateLimits := run_limits c moves
  have hgranted : r.house.throttle.grantedTo q = min lines burst := by
    have hstart : (ofConfig c).house.throttle.grantedTo q = 0 := by
      rw [hthrottle]
      rfl
    have hrun := hsound.grantedTo_run (by rwa [Throttle.isEnabled, hlimits₀]) (by rwa [hlimits₀])
      (hstart.trans (Nat.zero_min _).symm) moves
    rwa [hlimits₀] at hrun
  refine ⟨hgranted, fun w m hspeaks => ?_⟩
  have hadmits : r.house.throttle.admits q ↔ r.house.throttle.grantedTo q < burst := by
    have henabled' : r.house.throttle.isEnabled := by rwa [Throttle.isEnabled, hlimits]
    rw [Throttle.admits_iff henabled' (by rwa [hlimits]), hlimits]
    rfl
  rw [hr.throttled_iff w hspeaks, ← Bool.not_eq_true, hadmits, hgranted]
  omega

/-- Bob is muted, which his first line tells him. He speaks elsewhere, says nothing, calls into a
channel that is not there and comes back to one, and then his two lines are spent. -/
theorem run_speech_budget_spent :
    let c : Config := { rateLimits := { sayRatePerSecond := 1, sayBurst := 2 } }
    let ann : Player := { id := ⟨1⟩, name := "Ann" }
    let bob : Player := { id := ⟨2⟩, name := "Bob" }
    let w : World := { directory := ((∅ : Directory).insert ann).insert bob }
    let moves : List (World × Move) := [
      (w, .request (.join ann "Raiders" none)),
      (w, .request (.join bob "Raiders" none)),
      (w, .request (.execute ann "Raiders" (.setMode "Bob" .mute true))),
      (w, .request (.execute bob "Raiders" (.say "hi" .universal))),
      (w, .request (.execute bob "Raiders" (.say "" .universal))),
      (w, .request (.execute bob "Den" (.say "hi" .universal))),
      (w, .request (.join bob "Den" none)),
      (w, .request (.execute bob "Den" (.say "hi" .universal))),
      (w, .request (.execute bob "Den" (.leave true))),
      (w, .request (.join bob "Den" none))]
    let line := Move.request (.execute bob "den" (.say "hi" .universal))
    let r := (ofConfig c).run moves
    (1 ≤ c.rateLimits.sayRatePerSecond.toNat ∧ c.rateLimits.sayRatePerSecond.toNat ≤ 1000000000) ∧
      (r.speaker? line = some bob.id ∧ (ofConfig c).spoken bob.id 0 moves = 2) ∧
      r.house.throttle.grantedTo bob.id = 2 ∧ r.answer? w line = some (.error .throttled) := by
  intro c ann bob w moves line r
  obtain ⟨hgranted, hanswers⟩ := run_speech_budget c (by decide) (by decide) moves bob.id
  have hlines : (ofConfig c).spoken bob.id 0 moves = 2 := by decide +kernel
  have hspeaks : r.speaker? line = some bob.id := by decide +kernel
  refine ⟨by decide, ⟨hspeaks, hlines⟩, ?_, ?_⟩
  · rw [hgranted, hlines]
    rfl
  · rw [hanswers w line hspeaks, hlines]
    decide

end Registry
end ChatChannels
