import ChatChannels.Proofs.Channel.Effect

/-! Runs of one channel: commands and conversions in any order, while everything around the channel
may change at will. What each step keeps, every run keeps. -/
namespace ChatChannels

/-- What can happen to a channel or around it. -/
inductive Act where
  | command (actor : Player) (command : Command)
  | convert (wantStatic explicit : Bool)
  /-- Players come and go, change their ignore lists and spend speech elsewhere. -/
  | surround (world : World) (throttle : Throttle)

structure Scene where
  world : World
  throttle : Throttle
  channel : Channel

namespace Scene

def step (p : Policy) (s : Scene) : Act → Scene
  | .command actor command =>
    { s with
      throttle := s.channel.throttleAfter s.throttle actor command
      channel := (s.channel.execute p s.world s.throttle actor command).channel }
  | .convert wantStatic explicit =>
    { s with channel := (s.channel.convert p s.world wantStatic explicit).channel }
  | .surround world throttle => { s with world, throttle }

def run (p : Policy) (s : Scene) (acts : List Act) : Scene := acts.foldl (step p) s

/-- The act is this command of this player, and it is not refused. -/
def Succeeds (p : Policy) (s : Scene) (act : Act) (actor : Player) (command : Command) : Prop :=
  act = .command actor command ∧
    ∃ outcome, (s.channel.execute p s.world s.throttle actor command).answer = .ok outcome

end Scene

/-- Who is found by a name is this player. -/
def World.Finds (w : World) (name : String) (q : PlayerId) : Prop :=
  (w.directory.findByName name).map Player.id = some q

namespace Channel

inductive Next (p : Policy) (c : Channel) : Channel → Prop
  | command (w t actor command) : Next p c (c.execute p w t actor command).channel
  | convert (w wantStatic explicit) : Next p c (c.convert p w wantStatic explicit).channel

end Channel

namespace Scene

theorem exists_succeeds_iff {p : Policy} {s : Scene} {actor : Player} {command command' : Command} :
    (∃ actor', s.Succeeds p (.command actor command) actor' command') ↔
      command = command' ∧
        ∃ outcome, (s.channel.execute p s.world s.throttle actor command).answer = .ok outcome := by
  constructor
  · rintro ⟨actor', hact, hok⟩
    cases hact
    exact ⟨rfl, hok⟩
  · rintro ⟨rfl, hok⟩
    exact ⟨actor, rfl, hok⟩

theorem step_next (p : Policy) (s : Scene) (act : Act) :
    (s.step p act).channel = s.channel ∨ s.channel.Next p (s.step p act).channel := by
  cases act with
  | command actor command => exact .inr (.command s.world s.throttle actor command)
  | convert wantStatic explicit => exact .inr (.convert s.world wantStatic explicit)
  | surround world throttle => exact .inl rfl

/-- What every command and every conversion keeps holds throughout a run. -/
theorem run_invariant {p : Policy} {P : Channel → Prop} (hP : ∀ c c', c.Next p c' → P c → P c')
    (s : Scene) (acts : List Act) (h : P s.channel) : P (s.run p acts).channel := by
  induction acts generalizing s with
  | nil => exact h
  | cons act rest ih =>
    apply ih
    rcases s.step_next p act with he | hn
    · rwa [he]
    · exact hP _ _ hn h

end Scene

namespace Channel

/-- A channel that some run leads to from a new one. -/
def Reachable (p : Policy) (c : Channel) : Prop :=
  ∃ w t acts, (∃ name, c = (Scene.run p ⟨w, t, custom name⟩ acts).channel) ∨
    ∃ e, c = (Scene.run p ⟨w, t, builtIn e⟩ acts).channel

/-- Whatever surrounds a channel, what becomes of it in the next step is reached by some run. -/
theorem Reachable.next {p : Policy} {c c' : Channel} (h : c.Reachable p) (hnext : c.Next p c') :
    c'.Reachable p := by
  obtain ⟨w, t, acts, h⟩ := h
  have hlater : ∃ later, ∀ s : Scene, s.channel = c → (s.run p later).channel = c' := by
    cases hnext with
    | command w' t' actor command =>
      refine ⟨[.surround w' t', .command actor command], ?_⟩
      rintro s rfl
      rfl
    | convert w' wantStatic explicit =>
      refine ⟨[.surround w' {}, .convert wantStatic explicit], ?_⟩
      rintro s rfl
      rfl
  obtain ⟨later, hlater⟩ := hlater
  refine ⟨w, t, acts ++ later, ?_⟩
  unfold Scene.run
  simp only [List.foldl_append]
  exact h.imp (.imp fun name hname => (hlater _ hname.symm).symm)
    (.imp fun e he => (hlater _ he.symm).symm)

variable (p : Policy) (w : World) (c : Channel)

@[simp] theorem setOwner_channel (next : Option PlayerId) (proclaim : Bool) :
    (c.setOwner w next proclaim).channel =
      { c with roster := (c.roster.transfer c.owner next).1, owner := next } := rfl

@[simp] theorem execute_channel (t : Throttle) (actor : Player) (command : Command) :
    (c.execute p w t actor command).channel = (c.perform p w t actor command).channel := rfl

@[simp] theorem execute_answer (t : Throttle) (actor : Player) (command : Command) :
    (c.execute p w t actor command).answer = (c.perform p w t actor command).answer := rfl

/-! ## Conversions -/

@[simp] theorem releaseOwner_channel (explicit : Bool) :
    (c.releaseOwner w explicit).channel =
      { c with roster := (c.roster.transfer c.owner none).1, owner := none } := by
  unfold releaseOwner
  split
  next => rfl
  next h =>
    have ho : c.owner = none := by simpa using h
    obtain ⟨⟩ := c
    dsimp only at ho
    subst ho
    rfl

@[simp] theorem endModeration_channel :
    (c.endModeration w).channel = { c with moderate := false } := by
  unfold endModeration
  split
  next => rfl
  next h =>
    obtain ⟨⟩ := c
    simpa using h

@[simp] theorem endAnnouncements_channel :
    (c.endAnnouncements w).channel = { c with announce := false } := by
  unfold endAnnouncements
  split
  next => rfl
  next h =>
    obtain ⟨⟩ := c
    simpa using h

theorem becomeStatic_channel (explicit : Bool) :
    (c.becomeStatic w explicit).channel =
      { c with
        roster := (c.roster.transfer c.owner none).1.stripModerators
        owner := none
        moderate := false
        announce := false
        isStatic := true } := by
  simp only [becomeStatic, releaseOwner_channel, endModeration_channel, endAnnouncements_channel]

theorem becomeDynamic_channel (h : c.owner = none) :
    (c.becomeDynamic w).channel =
      { c with
        roster := (c.roster.transfer none c.roster.successor).1
        owner := c.roster.successor
        isStatic := false } := by
  simp [becomeDynamic, h]

variable {p w c} in
theorem convert_idle {wantStatic explicit : Bool} (h : c.mayConvert p wantStatic explicit = false) :
    c.convert p w wantStatic explicit = ⟨c, false, []⟩ := by
  rw [convert, h]
  rfl

/-- A conversion is refused without a trace, or it makes the channel static, or dynamic. -/
theorem convert_cases (wantStatic explicit : Bool) :
    c.convert p w wantStatic explicit = ⟨c, false, []⟩ ∨
    (wantStatic = true ∧ c.mayConvert p true explicit ∧
      c.convert p w wantStatic explicit =
        ⟨(c.becomeStatic w explicit).channel, true, (c.becomeStatic w explicit).events⟩) ∨
    (wantStatic = false ∧ c.mayConvert p false explicit ∧
      c.convert p w wantStatic explicit =
        ⟨(c.becomeDynamic w).channel, true, (c.becomeDynamic w).events⟩) := by
  unfold convert
  split
  next h =>
    cases wantStatic with
    | true => exact .inr (.inl ⟨rfl, h, rfl⟩)
    | false => exact .inr (.inr ⟨rfl, h, rfl⟩)
  next => exact .inl rfl

/-! ## What never changes -/

/-- The part of a channel that no request changes: its name and its class. -/
def classification : String × UInt32 × ChannelFlags × Bool :=
  (c.name, c.id, c.flags, c.realmRestricted)

theorem adopt_classification (player : PlayerId) :
    (c.adopt w player).channel.classification = c.classification := by
  unfold adopt
  split <;> rfl

theorem without_classification (bans : Bans) (player : PlayerId) (wasOwner : Bool) :
    (c.without w bans player wasOwner).classification = c.classification := by
  unfold without inherit
  split <;> rfl

theorem convert_classification (wantStatic explicit : Bool) :
    (c.convert p w wantStatic explicit).channel.classification = c.classification := by
  rcases c.convert_cases p w wantStatic explicit with h | ⟨_, _, h⟩ | ⟨_, _, h⟩
  · rw [h]
  · rw [h, becomeStatic_channel]
    rfl
  · rw [h]
    unfold becomeDynamic
    split <;> rfl

variable {p w c}

theorem Effect.classification {actor : Player} {command : Command} {turn : Turn Answer}
    (h : c.Effect p w actor command turn) : turn.channel.classification = c.classification := by
  cases h with
  | joined password events hjoin =>
    rw [admitted, convert_classification, adopt_classification]
    rfl
  | left notify role events hrole => exact without_classification w c _ _ _
  | expelled name ban target events hmod htarget hact => exact without_classification w c _ _ _
  | _ => rfl

theorem Next.classification {c' : Channel} (h : c.Next p c') :
    c'.classification = c.classification := by
  cases h with
  | command w t actor command => exact (c.perform_effect p w actor t command).classification
  | convert w wantStatic explicit => exact c.convert_classification p w wantStatic explicit

theorem Next.name_eq {c' : Channel} (h : c.Next p c') : c'.name = c.name :=
  congrArg Prod.fst h.classification

end Channel
end ChatChannels
