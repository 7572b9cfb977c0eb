import ChatChannels.Proofs.Roster
import Mathlib.Data.List.Dedup
import Mathlib.Data.List.Induction
import Mathlib.Data.Set.Card

/-! The table of members after any edits, as a map that keeps the order of insertion. What it holds is
told from the edits alone: by a map without order, from players to the roles written last, and by the
list of the players whose inserts took effect. The members are the players who have a role, and they
stand in the order of the last of these inserts. -/
namespace ChatChannels.Roster

inductive Edit where
  | insert (p : PlayerId)
  | remove (p : PlayerId)
  | update (p : PlayerId) (f : Role → Role)
  | stripModerators
  | transfer (current next : Option PlayerId)

def edit (r : Roster) : Edit → Roster
  | .insert p => r.insert p
  | .remove p => r.remove p
  | .update p f => (r.update p f).1
  | .stripModerators => r.stripModerators
  | .transfer current next => (r.transfer current next).1

/-- The table that edits make of an empty one. -/
def after (edits : List Edit) : Roster := edits.foldl edit ∅

/-! ## The map beside the table -/

/-- The roles of some players, in no order. -/
abbrev RoleMap := PlayerId → Option Role

namespace RoleMap

variable (m : RoleMap)

/-- Writes over the role of a player who has one. -/
def rewrite (p : PlayerId) (f : Role → Role) : RoleMap := Function.update m p ((m p).map f)

def rewrite? : Option PlayerId → (Role → Role) → RoleMap
  | some p, f => m.rewrite p f
  | none, _ => m

/-- An insert writes the empty role for a player who has none. -/
def write : Edit → RoleMap
  | .insert p => if (m p).isSome then m else Function.update m p (some {})
  | .remove p => Function.update m p none
  | .update p f => m.rewrite p f
  | .stripModerators => fun q => (m q).map fun role => { role with moderator := false }
  | .transfer current next =>
    RoleMap.rewrite?
      (m.rewrite? current fun role => { role with moderator := next.isSome, owner := false })
      next fun role => { role with moderator := true, owner := true }

/-- The player whom an edit brings in: that of an insert, if they have no role. -/
def entrant? : Edit → Option PlayerId
  | .insert p => if (m p).isSome then none else some p
  | .remove _ | .update _ _ | .stripModerators | .transfer _ _ => none

/-- The players whom edits bring in, in order and as often as they are brought in. -/
def entrances (m : RoleMap) : List Edit → List PlayerId
  | [] => []
  | e :: rest => (m.entrant? e).toList ++ entrances (m.write e) rest

variable {m} {p q : PlayerId}

@[simp] theorem isSome_rewrite {f : Role → Role} : (m.rewrite p f q).isSome = (m q).isSome := by
  rw [rewrite, Function.update_apply]
  by_cases hq : q = p <;> simp [hq]

@[simp] theorem isSome_rewrite? {o : Option PlayerId} {f : Role → Role} :
    (m.rewrite? o f q).isSome = (m q).isSome := by
  cases o with
  | none => rfl
  | some p => exact isSome_rewrite

/-- Whoever has a role after an edit either had one before or is brought in by it. -/
theorem isSome_iff_of_write {e : Edit} (h : (m.write e q).isSome) :
    (m q).isSome ↔ m.entrant? e ≠ some q := by
  cases e with
  | insert p =>
    by_cases hp : (m p).isSome
    · rw [write, if_pos hp] at h
      simp [entrant?, hp, h]
    · rw [write, if_neg hp, Function.update_apply] at h
      by_cases hq : q = p
      · simp [entrant?, hq, hp]
      · rw [if_neg hq] at h
        simp [entrant?, hp, h, Ne.symm hq]
  | remove p =>
    rw [write, Function.update_apply] at h
    by_cases hq : q = p
    · rw [if_pos hq] at h
      cases h
    · rw [if_neg hq] at h
      simp [entrant?, h]
  | update p f => simpa [write, entrant?] using h
  | stripModerators => simpa [write, entrant?] using h
  | transfer current next => simpa [write, entrant?] using h

end RoleMap

/-- What has been written last for each player, of whom none has a role in the beginning. -/
def written (edits : List Edit) : RoleMap := edits.foldl RoleMap.write fun _ => none

/-- The players of the inserts that take effect. -/
def entrances (edits : List Edit) : List PlayerId := RoleMap.entrances (fun _ => none) edits

variable {r : Roster} {p q : PlayerId}

theorem after_concat (edits : List Edit) (e : Edit) :
    after (edits ++ [e]) = (after edits).edit e := by
  simp [after]

theorem written_concat (edits : List Edit) (e : Edit) :
    written (edits ++ [e]) = (written edits).write e := by
  simp [written]

theorem entrances_concat (edits : List Edit) (e : Edit) :
    entrances (edits ++ [e]) = entrances edits ++ ((written edits).entrant? e).toList := by
  unfold entrances written
  -- By induction on the edits before, from any map: each of them goes on from what the last one left.
  generalize (fun _ => none : RoleMap) = m
  induction edits generalizing m with
  | nil => simp [RoleMap.entrances]
  | cons first rest ih => simp [RoleMap.entrances, ih]

/-! ## One edit -/

theorem nodup_edit (hr : r.players.Nodup) (e : Edit) : (r.edit e).players.Nodup := by
  cases e with
  | insert p => exact nodup_insert p hr
  | remove p => exact nodup_remove p hr
  | update p f => rwa [edit, players_update]
  | stripModerators => rwa [edit, players_stripModerators]
  | transfer current next => rwa [edit, players_transfer]

theorem role?_update_eq (r : Roster) (p : PlayerId) (f : Role → Role) :
    (r.update p f).1.role? = RoleMap.rewrite r.role? p f := by
  funext q
  rw [role?_update, RoleMap.rewrite, Function.update_apply]
  by_cases hq : q = p <;> simp [hq]

theorem role?_update?_eq (r : Roster) (o : Option PlayerId) (f : Role → Role) :
    (r.update? o f).1.role? = RoleMap.rewrite? r.role? o f := by
  cases o with
  | none => rfl
  | some p => exact r.role?_update_eq p f

/-- An edit of the table is the edit of its map. -/
theorem role?_edit (hr : r.players.Nodup) (e : Edit) :
    (r.edit e).role? = RoleMap.write r.role? e := by
  cases e with
  | insert p =>
    funext q
    rw [edit, role?_insert, RoleMap.write]
    cases hp : r.role? p with
    | none => simp [Function.update_apply]
    | some role => by_cases hq : q = p <;> simp [hq, hp]
  | remove p =>
    funext q
    rw [edit, role?_remove r p q hr, RoleMap.write, Function.update_apply]
  | update p f => exact r.role?_update_eq p f
  | stripModerators =>
    funext q
    exact r.role?_stripModerators q
  | transfer current next =>
    rw [RoleMap.write, ← role?_update?_eq, ← role?_update?_eq]
    rfl

/-- Whoever is listed has a role, so that nothing is left to show where nobody is dropped. -/
theorem players_eq_filter {l : List PlayerId} (h : r.players = l) :
    r.players = l.filter fun q => (r.role? q).isSome := by
  subst h
  symm
  rw [List.filter_eq_self]
  intro q hq
  rwa [isSome_role?, contains_iff_mem]

/-- An edit appends whom it brings in and drops who has no role any more. -/
theorem players_edit (hr : r.players.Nodup) (e : Edit) :
    (r.edit e).players = (r.players ++ (RoleMap.entrant? r.role? e).toList).filter
      fun q => ((r.edit e).role? q).isSome := by
  cases e with
  | insert p =>
    apply players_eq_filter
    rw [edit, players_insert, RoleMap.entrant?, isSome_role?]
    split <;> simp
  | remove p =>
    -- The one edit that drops anybody, and nobody but the player it names.
    rw [edit, players_remove, hr.erase_eq_filter, RoleMap.entrant?, Option.toList_none,
      List.append_nil]
    apply List.filter_congr
    intro q hq
    rw [isSome_role?, contains_remove hr, (contains_iff_mem r q).mpr hq, Bool.and_true, decide_not]
    rfl
  | update p f =>
    apply players_eq_filter
    simp [edit, RoleMap.entrant?]
  | stripModerators =>
    apply players_eq_filter
    simp [edit, RoleMap.entrant?]
  | transfer current next =>
    apply players_eq_filter
    simp [edit, RoleMap.entrant?]

/-! ## Any edits -/

theorem nodup_after (edits : List Edit) : (after edits).players.Nodup := by
  induction edits using List.reverseRecOn with
  | nil => exact List.nodup_nil
  | append_singleton edits e ih =>
    rw [after_concat]
    exact nodup_edit ih e

theorem role?_after (edits : List Edit) : (after edits).role? = written edits := by
  induction edits using List.reverseRecOn with
  | nil => rfl
  | append_singleton edits e ih =>
    rw [after_concat, role?_edit (nodup_after edits), ih, written_concat]

theorem mem_players_after {edits : List Edit} :
    p ∈ (after edits).players ↔ (written edits p).isSome := by
  rw [← role?_after, isSome_role?, contains_iff_mem]

/-- Without repetitions, whoever is appended stands in the last place only. -/
private theorem dedup_append_toList (l : List PlayerId) (o : Option PlayerId) :
    (l ++ o.toList).dedup = (l.dedup.filter fun q => o ≠ some q) ++ o.toList := by
  cases o with
  | none => simp
  | some p =>
    induction l with
    | nil => rfl
    | cons first rest ih =>
      rw [List.cons_append, List.dedup_cons, List.dedup_cons, ih]
      by_cases hp : p = first
      · subst hp
        rw [if_pos (by simp)]
        split <;> simp
      · by_cases hrest : first ∈ rest <;> simp [hp, Ne.symm hp, hrest]

/-- Of the inserts of one player that take effect, the last one gives the place. -/
theorem players_after (edits : List Edit) :
    (after edits).players = (entrances edits).dedup.filter fun q => (written edits q).isSome := by
  induction edits using List.reverseRecOn with
  | nil => rfl
  | append_singleton edits e ih =>
    rw [after_concat, players_edit (nodup_after edits), role?_edit (nodup_after edits), role?_after,
      ih, written_concat, entrances_concat, dedup_append_toList, List.filter_append,
      List.filter_append, List.filter_filter, List.filter_filter]
    congr 1
    apply List.filter_congr
    intro q _
    cases hq : ((written edits).write e q).isSome with
    | false => rfl
    | true =>
      rw [Bool.true_and, Bool.true_and, Bool.eq_iff_iff, decide_eq_true_iff]
      exact RoleMap.isSome_iff_of_write hq

theorem size_after (edits : List Edit) :
    (after edits).size = {q | (written edits q).isSome}.encard := by
  have hkeys : {q | (written edits q).isSome} = ((after edits).players.toFinset : Set PlayerId) := by
    ext q
    simp [mem_players_after]
  rw [hkeys, Set.encard_coe_eq_coe_finsetCard, List.toFinset_card_of_nodup (nodup_after edits),
    players, List.length_map, size]

/-- The table is an insertion-ordered map. Nobody is listed twice, and the members are in the order of
the last insert that took effect for each of them. An insert says whether its player was absent, and
then appends a row without a role; otherwise nothing changes. A removal gives the role of a member and
leaves all other rows. Roles and membership are what the map says in which the last write counts, and
there are as many rows as it has players. Updates, the stripping of moderators and transfers of
ownership change neither who is listed nor in which order. -/
theorem after_insertionOrdered (edits : List Edit) :
    let r := after edits
    r.players.Nodup ∧
      r.players = ((entrances edits).dedup.filter fun p => (written edits p).isSome) ∧
      (∀ p, r.enlist p =
        if p ∈ r.players then (r, false) else (⟨r.members ++ [{ player := p, role := {} }]⟩, true)) ∧
      (∀ p, (r.delist p).2 = written edits p ∧ ((r.delist p).2.isSome ↔ p ∈ r.players) ∧
        (r.delist p).1.members = r.members.filter fun m => m.player ≠ p) ∧
      (∀ p, r.role? p = written edits p ∧ r.contains p = (written edits p).isSome) ∧
      r.size = {p | (written edits p).isSome}.encard ∧
      (∀ p f, (r.update p f).1.players = r.players) ∧
      r.stripModerators.players = r.players ∧
      ∀ current next, (r.transfer current next).1.players = r.players := by
  intro r
  have hr : r.players.Nodup := nodup_after edits
  have hrole : r.role? = written edits := role?_after edits
  refine ⟨hr, players_after edits, fun p => ?_, fun p => ?_, fun p => ?_, size_after edits,
    r.players_update, r.players_stripModerators, r.players_transfer⟩
  · rw [enlist]
    simp only [contains_iff_mem]
  · refine ⟨?_, ?_, r.members_remove p hr⟩
    · rw [delist_eq, hrole]
    · rw [delist_eq, isSome_role?, contains_iff_mem]
  · rw [← isSome_role?, hrole]
    exact ⟨rfl, rfl⟩

/-- An owner who leaves and comes back stands last and has no role left. -/
example :
    after [.insert ⟨3⟩, .insert ⟨1⟩, .transfer none (some ⟨1⟩), .insert ⟨2⟩, .remove ⟨1⟩,
      .insert ⟨1⟩, .insert ⟨3⟩] = ⟨[⟨⟨3⟩, {}⟩, ⟨⟨2⟩, {}⟩, ⟨⟨1⟩, {}⟩]⟩ := by
  decide

end ChatChannels.Roster
