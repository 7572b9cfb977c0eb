import ChatChannels.Proofs.Channel.Mailing
import ChatChannels.Proofs.Channel.Mirror

/-! Ownership that moves on a table of members, row by row. The table before and the changes that are
reported give the table after, also where a player who is to give the ownership up or to take it is not
listed, or where both are one. -/
namespace ChatChannels

/-- The row of a member once ownership has gone from one player, or none, to another, or to none. -/
def Member.handed (current next : Option PlayerId) (m : Member) : Member :=
  if some m.player = next then { m with role := m.role.withOwnership }
  else if some m.player = current then { m with role := m.role.withoutOwnership next.isSome }
  else m

namespace Member

variable {current next : Option PlayerId} (m : Member)

@[simp] theorem handed_player : (m.handed current next).player = m.player := by
  unfold handed
  split
  next => rfl
  next => split <;> rfl

@[simp] theorem handed_muted : (m.handed current next).role.muted = m.role.muted := by
  unfold handed
  split
  next => rfl
  next => split <;> rfl

variable {m}

theorem handed_next (hnext : some m.player = next) :
    (m.handed current next).role = m.role.withOwnership := by
  rw [handed, if_pos hnext]

theorem handed_current (hcurrent : some m.player = current) (hnext : some m.player ≠ next) :
    (m.handed current next).role = m.role.withoutOwnership next.isSome := by
  rw [handed, if_neg hnext, if_pos hcurrent]

theorem handed_other (hcurrent : some m.player ≠ current) (hnext : some m.player ≠ next) :
    m.handed current next = m := by
  rw [handed, if_neg hnext, if_neg hcurrent]

end Member

namespace Roster

/-- Changes that fit the tables they are written into change something, one by one. -/
theorem bits_ne_of_replay {r s : Roster} {changes : List RoleChange}
    (h : r.replay changes = some s) : ∀ change ∈ changes, change.old.bits ≠ change.new.bits := by
  induction changes generalizing r with
  | nil => simp
  | cons first rest ih =>
    rw [replay] at h
    split at h
    next hfits =>
      rw [List.forall_mem_cons]
      exact ⟨hfits.2, ih h⟩
    next => cases h

variable {r : Roster}

theorem members_transfer (hr : r.players.Nodup) (current next : Option PlayerId) :
    (r.transfer current next).1.members = r.members.map (Member.handed current next) := by
  have hplayers : (mk (r.members.map (Member.handed current next))).players = r.players := by
    simp [players, Function.comp_def]
  have hrole : ∀ q, (mk (r.members.map (Member.handed current next))).role? q =
      (r.transfer current next).1.role? q := by
    intro q
    rw [role?_transfer, role?, role?, List.find?_map, Option.map_map]
    have hrow : ((fun m : Member => decide (m.player = q)) ∘ Member.handed current next) =
        fun m => decide (m.player = q) := by
      funext m
      rw [Function.comp_apply, Member.handed_player]
    rw [hrow]
    cases hfound : r.members.find? fun m => decide (m.player = q) with
    | none => simp
    | some m =>
      obtain rfl : m.player = q := by simpa using List.find?_some hfound
      simp only [Option.map_some, Function.comp_apply]
      split
      next hnext => rw [Member.handed_next hnext]; rfl
      next hnext =>
        split
        next hcurrent => rw [Member.handed_current hcurrent hnext]; rfl
        next hcurrent => rw [Member.handed_other hcurrent hnext]
  have hsame := ext_role? (hplayers ▸ hr) (hplayers.trans (r.players_transfer current next).symm) hrole
  exact congrArg members hsame.symm

/-- Ownership that moves leaves the players, their order, every mute and all other rows alone. The
reported changes are real, fit one after the other and give the table after. The player who gives the
ownership up is a moderator exactly if someone is to follow, the player who takes it has both bits, and
if nobody else had the owner bit before, nobody else has it then. -/
theorem transfer_settled (hr : r.players.Nodup) (current next : Option PlayerId) :
    let done := r.transfer current next
    done.1.players = r.players ∧
      (∀ (i : Nat) (m : Member), r.members[i]? = some m → some m.player ≠ current →
        some m.player ≠ next → done.1.members[i]? = some m) ∧
      done.1.members.map (fun m => (m.player, m.role.muted)) =
        r.members.map (fun m => (m.player, m.role.muted)) ∧
      (∀ change ∈ done.2, change.old.bits ≠ change.new.bits) ∧
      r.replay done.2 = some done.1 ∧
      (∀ m ∈ done.1.members, some m.player = current → current ≠ next →
        m.role.owner = false ∧ m.role.moderator = next.isSome) ∧
      (∀ m ∈ done.1.members, some m.player = next → m.role.owner ∧ m.role.moderator) ∧
      ((∀ m ∈ r.members, m.role.owner → some m.player = current) →
        ∀ m ∈ done.1.members, m.role.owner → some m.player = next) := by
  intro done
  have hmembers : done.1.members = r.members.map (Member.handed current next) :=
    members_transfer hr current next
  have hreplay : r.replay done.2 = some done.1 := r.replay_transfer current next
  refine ⟨r.players_transfer current next, ?_, ?_, bits_ne_of_replay hreplay, hreplay, ?_⟩
  · intro i m hm hcurrent hnext
    rw [hmembers, List.getElem?_map, hm, Option.map_some, Member.handed_other hcurrent hnext]
  · simp [hmembers, Function.comp_def]
  · simp only [hmembers, List.forall_mem_map, Member.handed_player]
    refine ⟨fun m _ hcurrent hne => ?_, fun m _ hnext => ?_, fun hsole m hm howner => ?_⟩
    · rw [Member.handed_current hcurrent (hcurrent ▸ hne)]
      exact ⟨rfl, rfl⟩
    · rw [Member.handed_next hnext]
      exact ⟨rfl, rfl⟩
    · by_cases hnext : some m.player = next
      · exact hnext
      · by_cases hcurrent : some m.player = current
        · rw [Member.handed_current hcurrent hnext] at howner
          cases howner
        · rw [Member.handed_other hcurrent hnext] at howner
          exact absurd (hsole m hm howner) hcurrent

/-- An owner who is muted gives the channel to themselves: one row changes twice and is as it was. -/
theorem transfer_settled_same :
    let r : Roster := ⟨[⟨⟨1⟩, ⟨true, true, true⟩⟩, ⟨⟨2⟩, ⟨false, true, false⟩⟩]⟩
    let done := r.transfer (some ⟨1⟩) (some ⟨1⟩)
    r.players.Nodup ∧
      done.2 = [⟨⟨1⟩, ⟨true, true, true⟩, ⟨false, true, true⟩⟩,
        ⟨⟨1⟩, ⟨false, true, true⟩, ⟨true, true, true⟩⟩] ∧
      r.replay done.2 = some r ∧ ∀ m ∈ done.1.members, m.role.owner → m.player = ⟨1⟩ := by
  intro r done
  have hr : r.players.Nodup := by decide
  have hsettled := transfer_settled hr (some ⟨1⟩) (some ⟨1⟩)
  obtain ⟨_, _, _, _, hreplay, _, _, howners⟩ := hsettled
  have hsame : (r.transfer (some ⟨1⟩) (some ⟨1⟩)).1 = r := by decide
  refine ⟨hr, by decide, hsame ▸ hreplay, fun m hm howner => ?_⟩
  exact Option.some.inj (howners (by decide) m hm howner)

end Roster
end ChatChannels
