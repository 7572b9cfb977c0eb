import ChatChannels.Proofs.Channel.Passage
import ChatChannels.Proofs.Channel.Sound

/-! What a channel is like once a player has gone. The other members stay in their order, and nothing
else changes but the owner and the roles. Those change only if the owner has gone: the successor
gets both bits, and nobody else's role changes. -/
namespace ChatChannels.Channel

/-- A channel as it is once a player has gone from it, if they were there. -/
structure Departed (c : Channel) (q : PlayerId) (c' : Channel) : Prop where
  players : c'.roster.players = c.roster.players.erase q
  frame : c' = { c with roster := c'.roster, owner := c'.owner }
  kept : c.owner ≠ some q →
    c'.owner = c.owner ∧ ∀ s, s ≠ q → c'.roster.role? s = c.roster.role? s
  inherited : c.owner = some q →
    c.isPublic = false ∧ c'.owner = (c.roster.remove q).successor ∧
      ∀ s, s ≠ q → c'.roster.role? s =
        if some s = c'.owner then
          (c.roster.role? s).map fun role => { role with moderator := true, owner := true }
        else c.roster.role? s

variable {p : Policy} {w : World} {c c' : Channel} {q : PlayerId}

theorem Departed.contains (h : c.Departed q c') (hc : c.roster.players.Nodup) (s : PlayerId) :
    c'.contains s = (decide (s ≠ q) && c.contains s) := by
  rw [Bool.eq_iff_iff, Channel.contains, Channel.contains, Roster.contains_iff_mem, h.players,
    hc.mem_erase_iff, Bool.and_eq_true, decide_eq_true_iff, Roster.contains_iff_mem]

/-- Nothing changes where the player has not been. -/
theorem Sound.departed_outsider (hc : c.Sound) (hout : c.contains q = false) : c.Departed q c where
  players := by
    rw [Channel.contains, ← Bool.not_eq_true, Roster.contains_iff_mem] at hout
    exact (List.erase_of_not_mem hout).symm
  frame := rfl
  kept _ := ⟨rfl, fun _ _ => rfl⟩
  inherited ho := by
    obtain ⟨role, hrole, _⟩ := hc.owner_bits q ho
    cases hout.symm.trans (Roster.contains_of_role? hrole)

theorem without_other (bans : Bans) (ho : c.owner ≠ some q) :
    c.without w bans q (c.owner = some q) = { c with bans, roster := c.roster.remove q } := by
  unfold Channel.without inherit
  simp [ho]

theorem Sound.without_owner (hc : c.Sound) (bans : Bans) (ho : c.owner = some q) :
    c.isPublic = false ∧ c.without w bans q (c.owner = some q) =
      { c with
        bans
        roster := ((c.roster.remove q).transfer c.owner (c.roster.remove q).successor).1
        owner := (c.roster.remove q).successor } := by
  have hclass : c.isPublic = false := by
    rw [← Bool.not_eq_true]
    intro hpublic
    cases (hc.public_unowned hpublic).symm.trans ho
  refine ⟨hclass, ?_⟩
  have hinherits : (decide (c.owner = some q) && !c.isPublic) = true := by simp [ho, hclass]
  unfold Channel.without inherit
  exact congrArg Turn.channel (if_pos hinherits)

/-- A channel that a player has gone from, whom a ban may keep out from then on. -/
theorem Sound.departed_without (hc : c.Sound) (bans : Bans) (q : PlayerId) :
    { c with bans }.Departed q (c.without w bans q (c.owner = some q)) := by
  have hremaining : ∀ s, s ≠ q → (c.roster.remove q).role? s = c.roster.role? s := by
    intro s hs
    rw [Roster.role?_remove _ _ _ hc.distinct, if_neg hs]
  have hplayers := c.without_players (w := w) bans q (decide (c.owner = some q))
  by_cases ho : c.owner = some q
  · obtain ⟨hclass, hwithout⟩ := hc.without_owner (w := w) bans ho
    rw [hwithout] at hplayers ⊢
    refine ⟨hplayers, rfl, fun hother => absurd ho hother, fun _ => ⟨hclass, rfl, ?_⟩⟩
    intro s hs
    have hother : some s ≠ c.owner := fun he => hs (Option.some.inj (he.trans ho))
    rw [Roster.role?_transfer, hremaining s hs, if_neg hother]
  · rw [without_other bans ho] at hplayers ⊢
    exact ⟨hplayers, rfl, fun _ => ⟨rfl, hremaining⟩, fun howner => absurd howner ho⟩

theorem Sound.departed_leave (hc : c.Sound) (actor : Player) (notify : Bool) :
    c.Departed actor.id (c.leave p w actor notify).channel := by
  unfold leave
  split
  next hrole => exact hc.departed_outsider ((Roster.role?_eq_none_iff _ _).mp hrole)
  next role hrole =>
    rw [hc.owner_bit hrole]
    exact hc.departed_without c.bans actor.id

/-- Only members can leave. -/
theorem isSome_leave (c : Channel) (actor : Player) (notify : Bool) :
    (c.leave p w actor notify).answer.toOption.isSome = c.contains actor.id := by
  rw [Channel.contains, ← Roster.isSome_role?]
  unfold leave
  cases c.roster.role? actor.id <;> rfl

end ChatChannels.Channel
