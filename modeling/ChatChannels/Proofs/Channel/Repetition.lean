import ChatChannels.Proofs.Channel.Passage
import ChatChannels.Proofs.Channel.Sound

/-! Commands given twice in a row. The first time a command brings about what it is for, so that the
second time there is nothing left to do, or the actor has lost the standing to do it. Only the
toggles do something again, and undo what they did. -/
namespace ChatChannels

namespace Roster

variable {r : Roster} {q : PlayerId}

/-- A change of role that is the same done twice leaves no more to change. -/
theorem update_update {f : Role → Role} (hf : ∀ role, f (f role) = f role) :
    ((r.update q f).1.update q f).1 = (r.update q f).1 := by
  cases h : r.role? q with
  | none => simp only [update, h]
  | some role =>
    have hrole : (r.setRole q (f role)).role? q = some (f role) := by simp [role?_setRole, h]
    simp only [update, h, hrole]
    rw [hf]
    exact setRole_self _ _ hrole

/-- Giving a channel to who owns it changes no roles. -/
theorem transfer_again (hr : r.players.Nodup) (current : Option PlayerId) :
    ((r.transfer current (some q)).1.transfer (some q) (some q)).1 =
      (r.transfer current (some q)).1 := by
  apply ext_role?
  · simpa using hr
  · simp
  · intro s
    rw [role?_transfer]
    split
    next hs =>
      rw [role?_transfer, if_pos hs, Option.map_map]
      rfl
    next => rfl

end Roster

theorem Role.withMode_withMode (role : Role) (mode : RoleMode) (on : Bool) :
    (role.withMode mode on).withMode mode on = role.withMode mode on := by
  cases mode <;> rfl

/-- Commands that turn a setting over. -/
def Command.isToggle : Command → Bool
  | .toggleAnnounce | .toggleModerate => true
  | _ => false

theorem Command.toggle_acts {command : Command} (h : command.isToggle) :
    command.isUtterance = false ∧ command.mayIdle = false := by
  cases command with
  | toggleAnnounce | toggleModerate => exact ⟨rfl, rfl⟩
  | _ => cases h

namespace Channel

variable {p : Policy} {w : World} {t : Throttle} {c : Channel} {actor : Player} {command : Command}

/-! ## What a command depends on -/

theorem Effect.channel_of_utterance {turn : Turn Answer} (h : c.Effect p w actor command turn)
    (hutterance : command.isUtterance) : turn.channel = c := by
  cases h with
  | refused | idle | uttered => rfl
  | _ => cases hutterance

/-- What a command makes of a channel depends neither on budgets nor on who ignores whom. -/
theorem perform_channel_congr {w' : World} (h : w'.directory = w.directory) (t' : Throttle) :
    (c.perform p w' t' actor command).channel = (c.perform p w t actor command).channel := by
  obtain ⟨directory, ignores⟩ := w
  obtain ⟨directory', ignores'⟩ := w'
  obtain rfl : directory' = directory := h
  cases command with
  | say text language =>
    exact ((c.say_effect p _ actor text language _).channel_of_utterance rfl).trans
      ((c.say_effect p _ actor text language _).channel_of_utterance rfl).symm
  | invite name =>
    exact ((c.invite_effect p _ actor name).channel_of_utterance rfl).trans
      ((c.invite_effect p _ actor name).channel_of_utterance rfl).symm
  | _ => rfl

/-! ## Commands with nothing left to do -/

/-- A moderator's command leaves the channel alone if it does so for moderators. -/
theorem asModerator_still {turn : Turn Answer} (h : turn.channel = c) :
    (c.asModerator w actor turn).channel = c :=
  asModerator_elim (P := fun turn => turn.channel = c) rfl rfl fun _ => h

theorem join_member (hmember : c.contains actor.id) (password : Option String) :
    (c.join p w actor password).channel = c := by
  unfold join joinRefusal
  rw [if_pos hmember]
  rfl

theorem leave_outsider (hout : c.contains actor.id = false) (notify : Bool) :
    (c.leave p w actor notify).channel = c := by
  unfold leave
  rw [(Roster.role?_eq_none_iff _ _).mpr hout]
  rfl

theorem expel_outsider {name : String} {target : Player}
    (htarget : w.directory.findByName name = some target) (hout : c.contains target.id = false)
    (ban : Bool) : (c.expel w actor name ban).channel = c := by
  apply asModerator_still
  rw [findMember, htarget, Option.filter_some, hout]
  rfl

theorem unban_admissible {name : String} {target : Player}
    (htarget : w.directory.findByName name = some target) (hban : c.bans.contains target.id = false) :
    (c.unban w actor name).channel = c := by
  apply asModerator_still
  rw [htarget]
  dsimp only
  rw [hban]
  rfl

theorem setPassword_same {password : String}
    (hpassword : c.password = if password.isEmpty then none else some password) :
    (c.setPassword w actor password).channel = c := by
  apply asModerator_still
  split
  next => rfl
  next => rw [← hpassword]

theorem setMode_same {name : String} {target : Player}
    (htarget : w.directory.findByName name = some target) {mode : RoleMode} {on : Bool}
    (hrole : (c.roster.update target.id (·.withMode mode on)).1 = c.roster) :
    (c.setMode p w actor name mode on).channel = c := by
  apply asModerator_still
  rw [htarget]
  dsimp only
  split
  next => rfl
  next =>
    split
    next => rfl
    next =>
      split
      next => rfl
      next => rw [hrole]

theorem changeOwner_same {name : String} {target : Player}
    (htarget : w.directory.findByName name = some target)
    (howner : c.owner = some target.id)
    (hroles : (c.roster.transfer (some target.id) (some target.id)).1 = c.roster) :
    (c.changeOwner p w actor name).channel = c := by
  unfold changeOwner
  split
  next => rfl
  next =>
    split
    next => rfl
    next =>
      split
      next => rfl
      next found hfound =>
        obtain ⟨hmember, _⟩ := Option.filter_eq_some_iff.mp hfound
        obtain ⟨hnamed, _⟩ := Option.filter_eq_some_iff.mp hmember
        obtain rfl : found = target := Option.some.inj (hnamed.symm.trans htarget)
        dsimp only
        rw [setOwner_channel, howner, hroles, ← howner]

/-! ## The second time -/

theorem Sound.without_outsider (hc : c.Sound) (bans : Bans) (player : PlayerId) (wasOwner : Bool) :
    (c.without w bans player wasOwner).contains player = false := by
  rw [← Bool.not_eq_true, Channel.contains, Roster.contains_iff_mem, without_players]
  exact hc.distinct.not_mem_erase

/-- A command that is carried out leaves nothing to do for the same command right after it. -/
theorem Sound.perform_again (hc : c.Sound) {turn : Turn Answer}
    (h : c.Effect p w actor command turn) (htoggle : command.isToggle = false) (t : Throttle) :
    turn.channel = c ∨ (turn.channel.perform p w t actor command).channel = turn.channel := by
  cases h with
  | refused cause hcause => exact .inl rfl
  | idle => exact .inl rfl
  | uttered => exact .inl rfl
  | joined password events hjoin =>
    obtain ⟨hnew, _⟩ := not_member_of_joinRefusal hjoin
    refine .inr (join_member ?_ password)
    rw [Channel.contains, Roster.contains_iff_mem, admitted_players hnew]
    exact List.mem_append_right _ List.mem_cons_self
  | left notify role events hrole =>
    exact .inr (leave_outsider (hc.without_outsider _ _ _) notify)
  | expelled name ban target events hmod htarget hact =>
    -- Whoever has expelled herself is stopped at the gate, before the target is looked for.
    obtain ⟨htarget, _⟩ := Option.filter_eq_some_iff.mp htarget
    exact .inr (expel_outsider htarget (hc.without_outsider _ _ _) ban)
  | unbanned name target events hmod htarget hban =>
    refine .inr (unban_admissible htarget ?_)
    simp
  | passwordSet password events hmod hclass => exact .inr (setPassword_same rfl)
  | modeSet name mode on target events hmod htarget hmember hfaction howner hchange =>
    exact .inr (setMode_same htarget (Roster.update_update (·.withMode_withMode mode on)))
  | ownerSet name target events hmember hclass hright htarget hfaction =>
    obtain ⟨htarget, _⟩ := Option.filter_eq_some_iff.mp htarget
    exact .inr (changeOwner_same htarget rfl (Roster.transfer_again hc.distinct _))
  | announceToggled | moderateToggled => cases htoggle

/-- A toggle that is carried out changes something, and carried out again takes it back. -/
theorem Effect.toggle_back {turn : Turn Answer} (h : c.Effect p w actor command turn)
    (htoggle : command.isToggle) {outcome : Outcome} (hok : turn.answer = .ok outcome) (w' : World)
    (t : Throttle) :
    turn.channel ≠ c ∧ (turn.channel.perform p w' t actor command).answer = turn.answer ∧
      (turn.channel.perform p w' t actor command).channel = c := by
  obtain ⟨hspeaks, hidles⟩ := Command.toggle_acts htoggle
  cases h with
  | refused => cases hok
  | idle hidle => cases hidles.symm.trans hidle
  | uttered events hutterance => cases hspeaks.symm.trans hutterance
  | announceToggled events hmod =>
    have hmod' : { c with announce := !c.announce }.Moderates actor := hmod
    have hchange : { c with announce := !c.announce } ≠ c :=
      fun h => (Bool.not_eq_self c.announce).mp (congrArg Channel.announce h)
    rw [perform, toggleAnnounce, asModerator_passes hmod', Bool.not_not]
    exact ⟨hchange, rfl, rfl⟩
  | moderateToggled events hmod =>
    have hmod' : { c with moderate := !c.moderate }.Moderates actor := hmod
    have hchange : { c with moderate := !c.moderate } ≠ c :=
      fun h => (Bool.not_eq_self c.moderate).mp (congrArg Channel.moderate h)
    rw [perform, toggleModerate, asModerator_passes hmod', Bool.not_not]
    exact ⟨hchange, rfl, rfl⟩
  | _ => cases htoggle

/-! ## Conversions -/

theorem mayConvert_same {wantStatic : Bool} (h : c.isStatic = wantStatic) (explicit : Bool) :
    c.mayConvert p wantStatic explicit = false := by
  simp [mayConvert, h]

/-- A channel is not converted to what it has just become. -/
theorem convert_again (w w' : World) (wantStatic explicit : Bool) :
    (c.convert p w wantStatic explicit).channel.convert p w' wantStatic explicit =
      ⟨(c.convert p w wantStatic explicit).channel, false, []⟩ := by
  rcases hmay : c.mayConvert p wantStatic explicit with - | -
  · rw [convert_idle hmay]
    exact convert_idle hmay
  · have hbecomes : (c.convert p w wantStatic explicit).channel.isStatic = wantStatic := by
      rw [convert, if_pos hmay]
      cases wantStatic <;> rfl
    exact convert_idle (mayConvert_same hbecomes explicit)

/-- A command given twice in a row leaves a channel as it was after the first time, and a toggle
that is carried out leaves it as it was before. Budgets may have run out in between, and ignore
lists may have changed. A second conversion does nothing. -/
theorem repeated_command (hc : c.Reachable p) (w w' : World)
    (hdirectory : w'.directory = w.directory) (t t' : Throttle) (actor : Player)
    (command : Command) :
    let first := c.execute p w t actor command
    let second := first.channel.execute p w' t' actor command
    (command.isToggle = false → second.channel = first.channel) ∧
      (command.isToggle → ∀ outcome, first.answer = .ok outcome →
        first.channel ≠ c ∧ second.answer = first.answer ∧ second.channel = c) ∧
      ∀ wantStatic explicit,
        let converted := (c.convert p w wantStatic explicit).channel
        (converted.convert p w' wantStatic explicit).channel = converted ∧
          (converted.convert p w' wantStatic explicit).answer = false := by
  intro first second
  have heffect := c.perform_effect p w actor t command
  refine ⟨?_, ?_, ?_⟩
  · intro htoggle
    have hsecond : second.channel = (first.channel.perform p w t actor command).channel :=
      perform_channel_congr hdirectory t'
    rw [hsecond]
    rcases hc.sound.perform_again heffect htoggle t with hsame | hagain
    · exact congrArg (fun c => (perform p w t c actor command).channel) hsame
    · exact hagain
  · intro htoggle outcome hok
    exact heffect.toggle_back htoggle hok w' t'
  · intro wantStatic explicit converted
    have hagain : converted.convert p w' wantStatic explicit = ⟨converted, false, []⟩ :=
      convert_again w w' wantStatic explicit
    rw [hagain]
    exact ⟨rfl, rfl⟩

/-- An owner who bans herself hands the channel on, and has no standing to do so again. -/
theorem repeated_command_self_ban :
    let ann : Player := { id := ⟨1⟩, name := "Ann" }
    let bob : Player := { id := ⟨2⟩, name := "Bob" }
    let w : World := { directory := ((∅ : Directory).insert ann).insert bob }
    let p := Policy.ofConfig {}
    let c := (Scene.run p ⟨w, {}, custom "Raiders"⟩
      [.command ann (.join none), .command bob (.join none)]).channel
    let banned := c.execute p w {} ann (.expel "ann" true)
    let again := banned.channel.execute p w {} ann (.expel "ann" true)
    let moderated := c.execute p w {} ann .toggleModerate
    let opened := moderated.channel.execute p w {} ann .toggleModerate
    c.Reachable p ∧
      (banned.answer = .ok .applied ∧ banned.channel.owner = some bob.id ∧
        again.answer = .error .notMember ∧ again.channel = banned.channel) ∧
      moderated.answer = .ok .applied ∧ opened.channel = c := by
  refine ⟨?hc, ⟨rfl, by decide, rfl,
    (repeated_command ?hc _ _ rfl {} {} _ (.expel "ann" true)).1 rfl⟩,
    ?hok, ((repeated_command ?hc _ _ rfl {} {} _ .toggleModerate).2.1 rfl .applied ?hok).2.2⟩
  case hc => exact ⟨_, {}, _, .inl ⟨"Raiders", rfl⟩⟩
  case hok => rfl

end Channel
end ChatChannels
