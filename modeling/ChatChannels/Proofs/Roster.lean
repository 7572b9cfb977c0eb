import ChatChannels.Roster

/-! The table of members through two views: the players in order, and the role of each player.
Every operation is described by what it does to the two, so that proofs about channels need not
open it. -/
namespace ChatChannels.Roster

variable (r : Roster) (p q : PlayerId)

theorem contains_iff_mem : r.contains p ↔ p ∈ r.players := by
  simp [contains, players]

@[simp] theorem isSome_role? : (r.role? p).isSome = r.contains p := by
  rw [role?, Option.isSome_map, List.isSome_find?, contains]

theorem role?_eq_none_iff : r.role? p = none ↔ r.contains p = false := by
  rw [← isSome_role?, Option.isSome_eq_false_iff, Option.isNone_iff_eq_none]

variable {r p} in
theorem contains_of_role? {role : Role} (h : r.role? p = some role) : r.contains p := by
  rw [← isSome_role?, h]
  rfl

variable {r p} in
theorem exists_role_of_contains (h : r.contains p) : ∃ role, r.role? p = some role := by
  rwa [← isSome_role?, Option.isSome_iff_exists] at h

theorem isEmpty_iff : r.isEmpty ↔ r.players = [] := by
  simp [isEmpty, players]

/-! ## Members who come and go -/

theorem delist_eq : r.delist p = (⟨r.members.eraseP fun m => m.player = p⟩, r.role? p) := by
  rw [delist, role?, List.find?_eq_bind_findIdx?_getElem?, List.eraseP_eq_eraseIdx]
  cases r.members.findIdx? fun m => decide (m.player = p) <;> rfl

theorem remove_eq : r.remove p = ⟨r.members.eraseP fun m => m.player = p⟩ :=
  congrArg Prod.fst (r.delist_eq p)

theorem players_insert :
    (r.insert p).players = if r.contains p then r.players else r.players ++ [p] := by
  unfold insert enlist
  split <;> simp [players]

theorem players_remove : (r.remove p).players = r.players.erase p := by
  have h : (fun x => p == x) ∘ Member.player = fun m => decide (m.player = p) := by
    funext m
    rw [Function.comp_apply, Bool.eq_iff_iff, beq_iff_eq, decide_eq_true_iff]
    exact eq_comm
  rw [remove_eq, players, players, List.erase_eq_eraseP, List.eraseP_map, h]

variable {r} in
theorem nodup_insert (hr : r.players.Nodup) : (r.insert p).players.Nodup := by
  rw [players_insert]
  split
  next => exact hr
  next hnew =>
    rw [contains_iff_mem] at hnew
    refine List.nodup_append.mpr ⟨hr, by simp, ?_⟩
    rintro a ha b hb rfl
    exact hnew (List.mem_singleton.mp hb ▸ ha)

variable {r} in
theorem nodup_remove (hr : r.players.Nodup) : (r.remove p).players.Nodup := by
  rw [players_remove]
  exact hr.erase p

theorem role?_insert :
    (r.insert p).role? q = if q = p then some ((r.role? p).getD {}) else r.role? q := by
  unfold insert enlist
  split
  next h =>
    obtain ⟨role, h⟩ := exists_role_of_contains h
    by_cases hq : q = p <;> simp [hq, h]
  next h =>
    have hp : r.role? p = none := (r.role?_eq_none_iff p).mpr (by simpa using h)
    by_cases hq : q = p
    · subst hq
      rw [role?, Option.map_eq_none_iff] at hp
      simp [role?, List.find?_append, hp]
    · simp [role?, List.find?_append, hq, Ne.symm hq]

theorem role?_remove (hr : r.players.Nodup) :
    (r.remove p).role? q = if q = p then none else r.role? q := by
  split
  next h =>
    subst h
    rw [role?_eq_none_iff, ← Bool.not_eq_true, contains_iff_mem, players_remove]
    exact hr.not_mem_erase
  next h =>
    obtain ⟨l⟩ := r
    simp only [role?, remove_eq]
    clear hr
    induction l with
    | nil => rfl
    | cons m rest ih =>
      by_cases hm : m.player = p
      · have hq : m.player ≠ q := fun he => h (he.symm.trans hm)
        simp [hm, hm ▸ hq]
      · rw [List.eraseP_cons_of_neg (by simpa using hm), List.find?_cons, List.find?_cons]
        split
        · rfl
        · exact ih

/-! ## Roles that change -/

private theorem players_writeRole (role : Role) (l : List Member) :
    (writeRole p role l).map Member.player = l.map Member.player := by
  induction l with
  | nil => rfl
  | cons m rest ih =>
    unfold writeRole
    split <;> simp [ih]

@[simp] theorem players_setRole (role : Role) : (r.setRole p role).players = r.players :=
  players_writeRole p role r.members

theorem role?_setRole (role : Role) :
    (r.setRole p role).role? q = if q = p then (r.role? q).map fun _ => role else r.role? q := by
  obtain ⟨l⟩ := r
  simp only [role?, setRole]
  induction l with
  | nil => simp [writeRole]
  | cons m rest ih =>
    unfold writeRole
    by_cases hm : m.player = p
    · by_cases hq : q = p
      · simp [hm, hq]
      · have hmq : m.player ≠ q := fun he => hq (he.symm.trans hm)
        simp [hm, hq, Ne.symm hq]
    · rw [if_neg hm, List.find?_cons, List.find?_cons]
      by_cases hmq : m.player = q
      · have hq : q ≠ p := fun he => hm (hmq.trans he)
        simp [hmq, hq]
      · simpa [hmq] using ih

theorem setRole_self {role : Role} (h : r.role? p = some role) : r.setRole p role = r := by
  obtain ⟨l⟩ := r
  simp only [role?] at h
  simp only [setRole, mk.injEq]
  induction l with
  | nil => rfl
  | cons m rest ih =>
    unfold writeRole
    by_cases hm : m.player = p
    · have hrole : m.role = role := by simpa [hm] using h
      rw [if_pos hm, ← hrole]
    · rw [if_neg hm, ih (by simpa [List.find?_cons, hm] using h)]

@[simp] theorem players_update (f : Role → Role) : (r.update p f).1.players = r.players := by
  unfold update
  split <;> simp

theorem role?_update (f : Role → Role) :
    (r.update p f).1.role? q = if q = p then (r.role? q).map f else r.role? q := by
  unfold update
  split
  next h => by_cases hq : q = p <;> simp [hq, h]
  next old h =>
    rw [role?_setRole]
    by_cases hq : q = p <;> simp [hq, h]

theorem update_eq_self {f : Role → Role} (h : (r.update p f).2 = []) : (r.update p f).1 = r := by
  unfold update at h ⊢
  split
  next => rfl
  next old ho =>
    rw [ho] at h
    by_cases hf : old = f old
    · exact hf ▸ setRole_self r p ho
    · simp [hf] at h

@[simp] theorem players_update? (o : Option PlayerId) (f : Role → Role) :
    (r.update? o f).1.players = r.players := by
  cases o <;> simp [update?]

theorem role?_update? (o : Option PlayerId) (f : Role → Role) :
    (r.update? o f).1.role? q = if some q = o then (r.role? q).map f else r.role? q := by
  cases o with
  | none => simp [update?]
  | some p => simp [update?, role?_update]

@[simp] theorem players_transfer (current next : Option PlayerId) :
    (r.transfer current next).1.players = r.players := by
  simp [transfer]

/-- The new owner has both bits whoever they were, the former owner keeps the moderator bit if
somebody follows, and nobody else changes. -/
theorem role?_transfer (current next : Option PlayerId) :
    (r.transfer current next).1.role? q =
      if some q = next then (r.role? q).map fun role => { role with moderator := true, owner := true }
      else if some q = current then
        (r.role? q).map fun role => { role with moderator := next.isSome, owner := false }
      else r.role? q := by
  rw [transfer, role?_update?, role?_update?]
  split
  next =>
    split
    · rw [Option.map_map]
      rfl
    · rfl
  next => rfl

@[simp] theorem players_stripModerators : r.stripModerators.players = r.players := by
  simp [stripModerators, players]

theorem role?_stripModerators :
    r.stripModerators.role? q = (r.role? q).map fun role => { role with moderator := false } := by
  simp only [stripModerators, role?, List.find?_map, Option.map_map]
  rfl

/-! ## Rows -/

theorem members_remove (hr : r.players.Nodup) :
    (r.remove p).members = r.members.filter fun m => m.player ≠ p := by
  obtain ⟨l⟩ := r
  rw [remove_eq]
  change l.eraseP (fun m => m.player = p) = l.filter fun m => m.player ≠ p
  change (l.map Member.player).Nodup at hr
  induction l with
  | nil => rfl
  | cons m rest ih =>
    rw [List.map_cons, List.nodup_cons] at hr
    by_cases hm : m.player = p
    · have hrest : ∀ m' ∈ rest, decide (m'.player ≠ p) = true := by
        intro m' hm'
        apply decide_eq_true
        intro he
        exact hr.1 (List.mem_map.mpr ⟨m', hm', he.trans hm.symm⟩)
      rw [List.eraseP_cons_of_pos (by simpa using hm), List.filter_cons_of_neg (by simpa using hm),
        List.filter_eq_self.mpr hrest]
    · rw [List.eraseP_cons_of_neg (by simpa using hm), List.filter_cons_of_pos (by simpa using hm),
        ih hr.2]

/-- Where nobody is listed twice, the rows are the players in order, each with their role. -/
theorem members_eq_map (hr : r.players.Nodup) :
    r.members = r.players.map fun q => ⟨q, (r.role? q).getD {}⟩ := by
  obtain ⟨l⟩ := r
  change (l.map Member.player).Nodup at hr
  change l = (l.map Member.player).map fun q => ⟨q, ((mk l).role? q).getD {}⟩
  induction l with
  | nil => rfl
  | cons m rest ih =>
    rw [List.map_cons, List.nodup_cons] at hr
    have hrest : ∀ q ∈ rest.map Member.player, (mk (m :: rest)).role? q = (mk rest).role? q := by
      intro q hq
      have hne : m.player ≠ q := fun he => hr.1 (he ▸ hq)
      simp [role?, hne]
    rw [List.map_cons, List.map_cons, List.map_congr_left fun q hq => by rw [hrest q hq], ← ih hr.2]
    simp [role?]

variable {r} in
theorem mem_members_iff (hr : r.players.Nodup) {m : Member} :
    m ∈ r.members ↔ r.role? m.player = some m.role := by
  constructor
  · intro hm
    rw [members_eq_map r hr] at hm
    obtain ⟨q, hq, rfl⟩ := List.mem_map.mp hm
    obtain ⟨role, hrole⟩ := exists_role_of_contains ((contains_iff_mem r q).mpr hq)
    rw [hrole]
    rfl
  · intro hrole
    obtain ⟨m', hfound, hsame⟩ := Option.map_eq_some_iff.mp hrole
    have hplayer : m'.player = m.player := by simpa using List.find?_some hfound
    obtain rfl : m' = m := by
      obtain ⟨⟩ := m
      obtain ⟨⟩ := m'
      simp_all
    exact List.mem_of_find?_eq_some hfound

variable {r} in
theorem ext_role? {s : Roster} (hr : r.players.Nodup) (hplayers : r.players = s.players)
    (hrole : ∀ q, r.role? q = s.role? q) : r = s := by
  have hmembers : r.members = s.members := by
    rw [members_eq_map r hr, members_eq_map s (hplayers ▸ hr), hplayers]
    simp only [hrole]
  exact congrArg mk hmembers

variable {r p q}

@[simp] theorem contains_insert : (r.insert p).contains q = (decide (q = p) || r.contains q) := by
  rw [← isSome_role?, role?_insert]
  by_cases h : q = p <;> simp [h]

theorem contains_remove (hr : r.players.Nodup) :
    (r.remove p).contains q = (decide (q ≠ p) && r.contains q) := by
  rw [← isSome_role?, role?_remove r p q hr]
  by_cases h : q = p <;> simp [h]

theorem isEmpty_congr {s : Roster} (h : s.players = r.players) : s.isEmpty = r.isEmpty := by
  rw [Bool.eq_iff_iff, isEmpty_iff, isEmpty_iff, h]

theorem contains_congr {s : Roster} (h : s.players = r.players) : s.contains p = r.contains p := by
  rw [Bool.eq_iff_iff, contains_iff_mem, contains_iff_mem, h]

/-! ## The successor -/

theorem successor_eq_none_iff : r.successor = none ↔ r.players = [] := by
  obtain ⟨l⟩ := r
  cases l <;> simp [successor, players]

theorem contains_of_successor (h : r.successor = some p) : r.contains p := by
  obtain ⟨m, hm, rfl⟩ := Option.map_eq_some_iff.mp h
  have hmem : m ∈ r.members := by
    rcases Option.or_eq_some_iff.mp hm with hm | ⟨_, hm⟩
    · exact List.mem_of_find?_eq_some hm
    · exact List.mem_of_head? hm
  rw [contains_iff_mem]
  exact List.mem_map_of_mem hmem

end ChatChannels.Roster
