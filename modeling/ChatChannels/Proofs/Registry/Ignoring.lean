import ChatChannels.Proofs.Channel.Ignoring
import ChatChannels.Proofs.Registry.Recipients

/-! Ignoring through a run. Whoever ignores whom, each move finds the registry in the same state and is
answered the same. If more is ignored, some of what is delivered does not come through. -/
namespace ChatChannels

open Event (deliveries Authorless)

/-- What a move is answered: a request by name has a response, a room that is held by a handle answers
a command or tells whether it was converted. -/
inductive Reaction where
  | responded (response : Response)
  | answered (answer : Answer)
  | converted (changed : Except Refusal Bool)

/-- Moves in a world in which the same is ignored throughout. -/
def Ignores.amid (i : Ignores) (steps : List (Directory × Move)) : List (World × Move) :=
  steps.map fun step => (⟨step.1, i⟩, step.2)

/-- Replies that are the same but for what is silenced. -/
structure Reply.Thinned {σ α : Type} (i i' : Ignores) (x y : Reply σ α) : Prop where
  state : y.state = x.state
  answer : y.answer = x.answer
  events : Event.Thinned i i' x.events y.events

theorem Reply.thinned_refl {σ α : Type} {i i' : Ignores} {reply : Reply σ α}
    (h : Authorless reply.events) : reply.Thinned i i' reply :=
  ⟨rfl, rfl, h.thinned⟩

theorem Reply.Thinned.map {σ α β : Type} {i i' : Ignores} {x y : Reply σ α} (h : x.Thinned i i' y)
    (f : α → β) : (x.map f).Thinned i i' (y.map f) :=
  ⟨h.state, congrArg f h.answer, h.events⟩

namespace Registry

/-- A move with what comes of it. -/
def reply (w : World) (r : Registry) : Move → Reply Registry Reaction
  | .request request => (r.serve w request).map .responded
  | .command handle actor command => (r.commandVia w handle actor command).map .answered
  | .convert handle wantStatic => (r.setStaticVia w handle wantStatic).map .converted

theorem reply_state (w : World) (r : Registry) (m : Move) : (r.reply w m).state = r.move w m := by
  cases m <;> rfl

/-- What the moves of a run are answered, each with what is delivered on the way. -/
def reactions (r : Registry) : List (World × Move) → List (Reaction × List (PlayerId × Message))
  | [] => []
  | (w, m) :: rest =>
    ((r.reply w m).answer, deliveries (r.reply w m).events) :: reactions (r.move w m) rest

variable {d : Directory} {i i' : Ignores}

/-! ## What the registry says by itself -/

theorem authorless_refuse (r : Registry) (actor : Player) (name : String) (report : Report)
    (cause : Refusal) : Authorless (r.refuse actor name report cause).events := by
  unfold refuse Refusal.notice?
  cases report with
  | silent => exact .nil
  | notify =>
    cases hbody : cause.noticeBody? with
    | none => exact .nil
    | some body =>
      intro q m hmem
      cases List.mem_singleton.mp hmem
      exact Channel.inviter?_of_refusal hbody

theorem authorless_findOrOpen (r : Registry) (name : String) :
    Authorless (r.findOrOpen name).events := by
  unfold findOrOpen
  split
  next => exact .nil
  next => exact Event.authorless_of_deliveries rfl

theorem setStaticVia_thinned (r : Registry) (handle : Handle) (wantStatic : Bool) :
    (r.setStaticVia ⟨d, i⟩ handle wantStatic).Thinned i i'
      (r.setStaticVia ⟨d, i'⟩ handle wantStatic) := by
  have hauthorless : Authorless (r.setStaticVia ⟨d, i⟩ handle wantStatic).events := by
    cases hworker : r.house.worker? handle with
    | none =>
      rw [r.setStaticVia_idle _ hworker]
      exact .nil
    | some room =>
      intro q m hmem
      rw [deliveries_setStaticVia hworker] at hmem
      exact Channel.authorless_convert wantStatic true q m hmem
  exact Reply.thinned_refl hauthorless

theorem setStatic_thinned (r : Registry) (name : String) (wantStatic : Bool) :
    (r.setStatic ⟨d, i⟩ name wantStatic).Thinned i i' (r.setStatic ⟨d, i'⟩ name wantStatic) := by
  unfold setStatic
  split
  next => exact Reply.thinned_refl .nil
  next handle hfind =>
    have h : (r.setStaticVia ⟨d, i⟩ handle wantStatic).Thinned i i'
        (r.setStaticVia ⟨d, i'⟩ handle wantStatic) := setStaticVia_thinned r handle wantStatic
    exact ⟨h.state, congrArg (·.toOption.getD false) h.answer, h.events⟩

/-! ## More is ignored -/

section More

variable (hmore : ∀ who whom, i.has who whom → i'.has who whom)

include hmore

theorem commandVia_thinned (r : Registry) (handle : Handle) (actor : Player) (command : Command) :
    (r.commandVia ⟨d, i⟩ handle actor command).Thinned i i'
      (r.commandVia ⟨d, i'⟩ handle actor command) := by
  cases hworker : r.house.worker? handle with
  | none =>
    rw [r.commandVia_idle _ hworker, r.commandVia_idle _ hworker]
    exact Reply.thinned_refl .nil
  | some room =>
    have hturn : (room.channel.perform r.house.policy ⟨d, i⟩ r.house.throttle actor command).Thinned
        i i' (room.channel.perform r.house.policy ⟨d, i'⟩ r.house.throttle actor command) :=
      Channel.perform_thinned hmore r.house.throttle command
    refine ⟨?_, ?_, ?_⟩
    · rw [r.commandVia_worker _ hworker, r.commandVia_worker _ hworker]
      dsimp only
      rw [Channel.execute_channel, Channel.execute_channel, hturn.channel]
    · rw [r.commandVia_worker _ hworker, r.commandVia_worker _ hworker]
      dsimp only
      rw [Channel.execute_answer, Channel.execute_answer, hturn.answer]
    · rw [Event.Thinned, deliveries_commandVia hworker, deliveries_commandVia hworker]
      exact hturn.events

theorem tryJoin_thinned (actor : Player) (name : String) (password : Option String)
    (attempts : Nat) (r : Registry) :
    (tryJoin ⟨d, i⟩ actor name password attempts r).Thinned i i'
      (tryJoin ⟨d, i'⟩ actor name password attempts r) := by
  induction attempts generalizing r with
  | zero => exact Reply.thinned_refl (r.authorless_refuse _ _ _ _)
  | succ attempts ih =>
    have hopened : Event.Thinned i i' (r.findOrOpen name).events (r.findOrOpen name).events :=
      (r.authorless_findOrOpen name).thinned
    have hjoined := commandVia_thinned (d := d) hmore (r.findOrOpen name).state
      (r.findOrOpen name).answer actor (.join password)
    unfold tryJoin
    dsimp only
    -- The answers are the same, so both joins are tried again or neither is.
    rw [hjoined.answer]
    split
    next =>
      have hagain := ih ((r.findOrOpen name).state.commandVia ⟨d, i⟩
        (r.findOrOpen name).answer actor (.join password)).state
      rw [hjoined.state]
      exact ⟨hagain.state, hagain.answer, (hopened.append hjoined.events).append hagain.events⟩
    next => exact ⟨hjoined.state, hjoined.answer, hopened.append hjoined.events⟩

theorem join_thinned (r : Registry) (actor : Player) (name : String) (password : Option String) :
    (r.join ⟨d, i⟩ actor name password).Thinned i i' (r.join ⟨d, i'⟩ actor name password) := by
  unfold join
  split
  next => exact Reply.thinned_refl (r.authorless_refuse _ _ _ _)
  next => exact tryJoin_thinned hmore actor name password joinAttempts r

theorem execute_thinned (r : Registry) (actor : Player) (name : String) (command : Command) :
    (r.execute ⟨d, i⟩ actor name command).Thinned i i'
      (r.execute ⟨d, i'⟩ actor name command) := by
  unfold execute
  split
  next password => exact join_thinned hmore r actor name password
  next =>
    cases r.find? name with
    | none => exact Reply.thinned_refl (.append .nil (r.authorless_refuse _ _ _ _))
    | some handle =>
      have hreply := commandVia_thinned (d := d) hmore r handle actor command
      dsimp only
      rw [hreply.answer]
      split
      next =>
        rw [hreply.state]
        exact ⟨rfl, rfl, hreply.events.append (authorless_refuse _ _ _ _ _).thinned⟩
      next => exact hreply

theorem part_thinned (actor : Player) (handles : List Handle) (r : Registry) :
    (part ⟨d, i⟩ actor handles r).Thinned i i' (part ⟨d, i'⟩ actor handles r) := by
  induction handles generalizing r with
  | nil => exact Reply.thinned_refl .nil
  | cons handle rest ih =>
    have hleft := commandVia_thinned (d := d) hmore r handle actor (.leave false)
    have hrest := ih (r.commandVia ⟨d, i⟩ handle actor (.leave false)).state
    unfold part
    dsimp only
    rw [hleft.answer, hleft.state]
    refine ⟨hrest.state, ?_, hleft.events.append hrest.events⟩
    dsimp only
    rw [hrest.answer]

theorem serve_thinned (r : Registry) (request : Request) :
    (r.serve ⟨d, i⟩ request).Thinned i i' (r.serve ⟨d, i'⟩ request) := by
  cases request with
  | join actor name password => exact (join_thinned hmore r actor name password).map _
  | execute actor name command => exact (execute_thinned hmore r actor name command).map _
  | setStatic name wantStatic => exact (setStatic_thinned r name wantStatic).map _
  | look name => exact Reply.thinned_refl .nil
  | findOrOpen name => exact Reply.thinned_refl (r.authorless_findOrOpen name)
  | partAll actor =>
    have hparted := part_thinned (d := d) hmore actor r.handles r
    have hleft : (r.partAll ⟨d, i⟩ actor).Thinned i i' (r.partAll ⟨d, i'⟩ actor) := by
      refine ⟨?_, hparted.answer, hparted.events⟩
      unfold partAll
      dsimp only
      rw [hparted.state]
    exact hleft.map _

theorem reply_thinned (r : Registry) (m : Move) :
    (r.reply ⟨d, i⟩ m).Thinned i i' (r.reply ⟨d, i'⟩ m) := by
  cases m with
  | request request => exact (serve_thinned hmore r request).map _
  | command handle actor command => exact (commandVia_thinned hmore r handle actor command).map _
  | convert handle wantStatic => exact (setStaticVia_thinned r handle wantStatic).map _

theorem move_ignores (r : Registry) (m : Move) : r.move ⟨d, i'⟩ m = r.move ⟨d, i⟩ m := by
  rw [← reply_state, ← reply_state, (reply_thinned hmore r m).state]

theorem run_amid (r : Registry) (steps : List (Directory × Move)) :
    r.run (i'.amid steps) = r.run (i.amid steps) := by
  induction steps generalizing r with
  | nil => rfl
  | cons step rest ih =>
    change (r.move ⟨step.1, i'⟩ step.2).run (i'.amid rest) = _
    rw [move_ignores hmore]
    exact ih _

theorem reactions_amid (r : Registry) (steps : List (Directory × Move)) :
    r.reactions (i'.amid steps) = (r.reactions (i.amid steps)).map fun reaction =>
      (reaction.1, reaction.2.filter fun d => !i.silences i' d) := by
  induction steps generalizing r with
  | nil => rfl
  | cons step rest ih =>
    have hreply := reply_thinned (d := step.1) hmore r step.2
    change (_, _) :: (r.move ⟨step.1, i'⟩ step.2).reactions (i'.amid rest) = _
    rw [move_ignores hmore, ih, hreply.answer, hreply.events]
    rfl

end More

/-- If more is ignored, a run takes the registry through the same states with the same reactions. What
is delivered is the same, in order, less the lines and invitations whose author the recipient ignores
now and did not before. -/
theorem run_ignoring_more (r : Registry) (steps : List (Directory × Move)) (i i' : Ignores)
    (hmore : ∀ who whom, i.has who whom → i'.has who whom) :
    (∀ n, r.run (i'.amid (steps.take n)) = r.run (i.amid (steps.take n))) ∧
      r.reactions (i'.amid steps) = (r.reactions (i.amid steps)).map fun reaction =>
        (reaction.1, reaction.2.filter fun d => !i.silences i' d) :=
  ⟨fun n => run_amid hmore r (steps.take n), reactions_amid hmore r steps⟩

/-- Ann comes to ignore Bob, and neither hears him speak nor, once she has left, hears that he asks her
back. -/
theorem run_ignoring_more_author :
    let ann : Player := { id := ⟨1⟩, name := "Ann" }
    let bob : Player := { id := ⟨2⟩, name := "Bob" }
    let d := ((∅ : Directory).insert ann).insert bob
    let i : Ignores := ∅
    let i' := i.add ann.id bob.id
    let steps : List (Directory × Move) := [(d, .request (.join bob "Den" none)),
      (d, .request (.join ann "Den" none)), (d, .request (.execute bob "den" (.say "hi" .universal))),
      (d, .request (.execute ann "den" (.leave false))),
      (d, .request (.execute bob "den" (.invite "Ann")))]
    let r := ofConfig {}
    (∀ who whom, i.has who whom → i'.has who whom) ∧
      r.run (i'.amid steps) = r.run (i.amid steps) ∧
      (r.reactions (i.amid steps)).map (·.2.length) = [3, 3, 1, 1, 2] ∧
      (r.reactions (i'.amid steps)).map (·.2.length) = [3, 3, 0, 1, 1] := by
  intro ann bob d i i' steps r
  have hmore : ∀ who whom, i.has who whom → i'.has who whom := by
    intro who whom h
    rw [Ignores.has_add, h, Bool.or_true]
  have hrun := run_ignoring_more r steps i i' hmore
  refine ⟨hmore, hrun.1 5, by decide +kernel, ?_⟩
  rw [hrun.2]
  decide +kernel

end Registry
end ChatChannels
