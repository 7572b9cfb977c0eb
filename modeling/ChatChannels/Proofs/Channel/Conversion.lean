import ChatChannels.Proofs.Channel.Authority
import ChatChannels.Proofs.Channel.Succession

/-! Channels that are converted. A channel that becomes static loses its owner and all its moderators,
and of that the members hear no more than the owner's part. One that becomes dynamic again is owned
by whoever is next in line, which is not proclaimed; what game masters have changed in the meantime,
moderators and a password, stays. -/
namespace ChatChannels.Channel

open Event (deliveries)

variable {p : Policy} {w : World} {c : Channel}

/-- What the members hear as their channel becomes static. -/
def closing (c : Channel) (explicit : Bool) : List NoticeBody :=
  c.owner.toList.map
      (c.roster.roleNotice fun role => { role with owner := false, moderator := false }) ++
    (if c.owner.isSome ∧ (explicit ∨ 1 < c.roster.size) then [.ownerChanged none] else []) ++
    (if c.moderate then [.moderationOff none] else []) ++
    if c.announce then [.announcementsOff none] else []

/-- A static channel is dynamic again. -/
structure Reopened (c c' : Channel) : Prop where
  frame : c' = { c with owner := c'.owner, roster := c'.roster, isStatic := false }
  heir : NextInLine c.roster.members c'.owner
  players : c'.roster.players = c.roster.players
  roles : ∀ q, c'.roster.role? q =
    if c'.owner = some q then
      (c.roster.role? q).map fun role => { role with owner := true, moderator := true }
    else c.roster.role? q

/-! ## To static -/

theorem deliveries_endModeration :
    deliveries (c.endModeration w).events =
      c.mailing w (if c.moderate then [.moderationOff none] else []) := by
  unfold endModeration
  split
  · exact deliveries_broadcast _
  · rfl

theorem deliveries_endAnnouncements :
    deliveries (c.endAnnouncements w).events =
      c.mailing w (if c.announce then [.announcementsOff none] else []) := by
  unfold endAnnouncements
  split
  · exact deliveries_broadcast _
  · rfl

theorem Sound.deliveries_releaseOwner (hc : c.Sound) (explicit : Bool) :
    deliveries (c.releaseOwner w explicit).events =
      c.mailing w (c.owner.toList.map (c.roster.roleNotice (·.withoutOwnership false)) ++
        if c.owner.isSome ∧ (explicit ∨ 1 < c.roster.size) then [.ownerChanged none] else []) := by
  unfold releaseOwner
  cases ho : c.owner with
  | none => rfl
  | some o =>
    obtain ⟨hmember, hbit, _⟩ := hc.roleOf_owner ho
    rw [Option.isSome_some, if_pos rfl, deliveries_setOwner, ho,
      Roster.notices_released hmember hbit]
    simp

/-- The members are the same throughout, so that everyone hears all of it. -/
theorem Sound.deliveries_becomeStatic (hc : c.Sound) (explicit : Bool) :
    deliveries (c.becomeStatic w explicit).events = c.mailing w (c.closing explicit) := by
  have hmembers : ∀ (moderate : Bool) bodies,
      { c with
        roster := (c.roster.transfer c.owner none).1.stripModerators
        owner := none
        moderate }.mailing w bodies = c.mailing w bodies := by
    intro moderate bodies
    refine mailing_congr ?_ ?_ bodies
    · rw [Roster.players_stripModerators, Roster.players_transfer]
    · rfl
  unfold Channel.becomeStatic
  simp only [Event.deliveries_append, hc.deliveries_releaseOwner, releaseOwner_channel,
    deliveries_endModeration, deliveries_endAnnouncements, endModeration_channel, hmembers]
  rw [← mailing_append, ← mailing_append]
  exact List.append_nil _

/-! ## To dynamic -/

theorem Sound.unowned_of_static (hc : c.Sound) (hstatic : c.isStatic) : c.owner = none :=
  hc.public_unowned (by simp [isPublic, hstatic])

/-- The channel has no owner, and so of its new one there is no more to tell than the role. -/
theorem Sound.deliveries_becomeDynamic (hc : c.Sound) (hstatic : c.isStatic) :
    deliveries (c.becomeDynamic w).events =
      c.mailing w ((c.becomeDynamic w).channel.owner.toList.map
        (c.roster.roleNotice Role.withOwnership)) := by
  have ho : c.owner = none := hc.unowned_of_static hstatic
  have hgone : ∀ o, c.owner = some o → c.contains o = false := by
    intro o h
    cases ho.symm.trans h
  have hcrowned := hc.toTidy.deliveries_setOwner (w := w) hgone
    (fun _ => Roster.contains_of_successor) false
  rw [becomeDynamic_channel w c ho]
  unfold Channel.becomeDynamic
  dsimp only
  rw [ho, Option.isNone_none, if_pos rfl, Event.deliveries_append, hcrowned]
  simp [deliveries, Event.delivery?]

theorem Sound.reopened (hc : c.Sound) (hstatic : c.isStatic) :
    c.Reopened (c.becomeDynamic w).channel := by
  rw [becomeDynamic_channel w c (hc.unowned_of_static hstatic)]
  refine ⟨rfl, c.roster.nextInLine_successor, c.roster.players_transfer _ _, ?_⟩
  intro q
  have hrole := c.roster.role?_transfer q none c.roster.successor
  rw [if_neg (Option.some_ne_none q)] at hrole
  simp only [eq_comm (a := some q)] at hrole
  exact hrole

/-! ## Which conversions there are -/

theorem mayConvert_iff {wantStatic explicit : Bool} :
    c.mayConvert p wantStatic explicit = true ↔
      c.isBuiltIn = false ∧ c.flags.contains .custom ∧ c.isStatic ≠ wantStatic ∧
        (wantStatic → c.password = none) ∧
        (explicit = false → p.staticAutoThreshold ≠ 0 ∧
          (wantStatic ↔ p.staticAutoThreshold ≤ c.roster.size)) := by
  cases wantStatic <;> cases explicit <;>
    simp [mayConvert, Policy.allowsAutoStatic, and_assoc]

theorem convert_answer {wantStatic explicit : Bool} :
    (c.convert p w wantStatic explicit).answer = c.mayConvert p wantStatic explicit := by
  unfold convert
  split
  next h => exact h.symm
  next h => exact (Bool.eq_false_iff.mpr h).symm

/-- A conversion either is not to be had, and leaves no trace, or it is done, and then this is what
it makes of the channel and all that the members hear. -/
theorem conversion_settled (hc : c.Reachable p) (w : World) (wantStatic explicit : Bool) :
    let turn := c.convert p w wantStatic explicit
    (turn.answer = true ↔
      c.isBuiltIn = false ∧ c.flags.contains .custom ∧ c.isStatic ≠ wantStatic ∧
        (wantStatic → c.password = none) ∧
        (explicit = false → p.staticAutoThreshold ≠ 0 ∧
          (wantStatic ↔ p.staticAutoThreshold ≤ c.roster.size))) ∧
    (turn.answer = false → turn.channel = c ∧ deliveries turn.events = []) ∧
    (turn.answer = true → wantStatic = true →
      turn.channel = c.levelled ∧ deliveries turn.events = c.mailing w (c.closing explicit)) ∧
    (turn.answer = true → wantStatic = false →
      c.Reopened turn.channel ∧
      deliveries turn.events = c.mailing w (turn.channel.owner.toList.map
        (c.roster.roleNotice fun role => { role with owner := true, moderator := true }))) := by
  have hs := hc.sound
  intro turn
  have hanswer : turn.answer = c.mayConvert p wantStatic explicit := convert_answer
  rw [hanswer]
  refine ⟨mayConvert_iff, ?_, ?_, ?_⟩
  · intro hnot
    have hturn : turn = ⟨c, false, []⟩ := convert_idle hnot
    rw [hturn]
    exact ⟨rfl, rfl⟩
  · rintro hmay rfl
    have hturn : turn = ⟨_, true, (c.becomeStatic w explicit).events⟩ := if_pos hmay
    rw [hturn]
    exact ⟨hs.toTidy.becomeStatic_eq explicit, hs.deliveries_becomeStatic explicit⟩
  · rintro hmay rfl
    have hstatic : c.isStatic := by simpa using (mayConvert_iff.mp hmay).2.2.1
    have hturn : turn = ⟨_, true, (c.becomeDynamic w).events⟩ := if_pos hmay
    rw [hturn]
    exact ⟨hs.reopened hstatic, hs.deliveries_becomeDynamic hstatic⟩

/-- Ann owns a moderated channel and loses it. On the static channel a game master makes Bob a
moderator and sets a password, which stands in no conversion's way but the one to static, and then
Bob owns it. -/
theorem conversion_settled_reopened :
    let p := Policy.ofConfig {}
    let ann : Player := { id := ⟨1⟩, name := "Ann" }
    let bob : Player := { id := ⟨2⟩, name := "Bob" }
    let gm : Player := { id := ⟨3⟩, name := "Gil", security := .gameMaster }
    let w : World := { directory := ((∅ : Directory).insert ann).insert bob }
    let c := (Scene.run p ⟨w, {}, custom "Raiders"⟩ [.command ann (.join none),
      .command bob (.join none), .command gm (.join none), .command ann .toggleModerate]).channel
    let closed := c.convert p w true true
    let helped := closed.channel.execute p w {} gm (.setMode "bob" .moderator true)
    let c' := (helped.channel.execute p w {} gm (.setPassword "key")).channel
    let opened := c'.convert p w false true
    c.Reachable p ∧ closed.answer = true ∧ closed.channel = c.levelled ∧
      deliveries closed.events = c.mailing w [.roleChanged ann.id ⟨true, true, false⟩ {},
        .ownerChanged none, .moderationOff none, .announcementsOff none] ∧
      c'.Reachable p ∧ c'.password = some "key" ∧ opened.answer = true ∧
      c'.Reopened opened.channel ∧ opened.channel.owner = some bob.id ∧
      opened.channel.password = some "key" ∧
      deliveries opened.events = c'.mailing w
        [.roleChanged bob.id ⟨false, true, false⟩ ⟨true, true, false⟩] := by
  refine ⟨?hc, ?hclosed, ((conversion_settled ?hc _ true true).2.2.1 ?hclosed rfl).1,
    ((conversion_settled ?hc _ true true).2.2.1 ?hclosed rfl).2.trans ?_,
    ?hc', by decide, ?hopened, ((conversion_settled ?hc' _ false true).2.2.2 ?hopened rfl).1,
    by decide, by decide,
    ((conversion_settled ?hc' _ false true).2.2.2 ?hopened rfl).2.trans ?_⟩
  case hc => exact ⟨_, {}, _, .inl ⟨"Raiders", rfl⟩⟩
  case hc' =>
    refine .next (.next (.next ?_ (.convert _ _ _)) (.command _ _ _ _)) (.command _ _ _ _)
    exact ⟨_, {}, _, .inl ⟨"Raiders", rfl⟩⟩
  case hclosed | hopened => rfl
  · decide
  · decide

end ChatChannels.Channel
