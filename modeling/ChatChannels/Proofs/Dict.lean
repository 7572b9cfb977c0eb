import ChatChannels.Dict

/-! Finite maps by their entries: what is found is what is listed, and a new key comes last. Maps are
equal when they have the same keys in one order and the same is found in them. Maps made from a list
hold what the list says, and maps made from another map what that one leads to. -/
namespace ChatChannels.Dict

variable {κ α : Type} [DecidableEq κ] (d : Dict κ α) (k : κ) (v : α)

private theorem find?_entries_iff {l : List (κ × α)} (hl : (l.map Prod.fst).Nodup) {k : κ} {v : α} :
    (l.find? fun e => e.1 = k).map Prod.snd = some v ↔ (k, v) ∈ l := by
  induction l with
  | nil => simp
  | cons e rest ih =>
    obtain ⟨k', v'⟩ := e
    rw [List.map_cons, List.nodup_cons] at hl
    by_cases h : k' = k
    · subst h
      have hrest : (k', v) ∉ rest := fun hm => hl.1 (List.mem_map.mpr ⟨_, hm, rfl⟩)
      simp [hrest, eq_comm]
    · have hne : (k, v) ≠ (k', v') := fun he => h (Prod.mk.inj he).1.symm
      rw [List.mem_cons, ← ih hl.2]
      simp [h, hne]

theorem find?_eq_some_iff : d.find? k = some v ↔ (k, v) ∈ d.entries :=
  find?_entries_iff d.nodup

theorem find?_eq_none_iff : d.find? k = none ↔ k ∉ d.keys := by
  rw [find?, Option.map_eq_none_iff, List.find?_eq_none, keys, List.mem_map]
  constructor
  · rintro h ⟨e, he, hk⟩
    exact h e he (decide_eq_true hk)
  · intro h e he hk
    exact h ⟨e, he, of_decide_eq_true hk⟩

theorem mem_keys_iff : k ∈ d.keys ↔ ∃ v, d.find? k = some v := by
  rw [← Option.isSome_iff_exists, Option.isSome_iff_ne_none, ne_eq, find?_eq_none_iff,
    Classical.not_not]

private theorem putEntry_new {l : List (κ × α)} (h : k ∉ l.map Prod.fst) :
    putEntry k v l = l ++ [(k, v)] := by
  induction l with
  | nil => rfl
  | cons e rest ih =>
    rw [List.map_cons, List.mem_cons, not_or] at h
    rw [putEntry, if_neg (Ne.symm h.1), ih h.2]
    rfl

variable {k} in
theorem entries_insert_new (h : d.find? k = none) :
    (d.insert k v).entries = d.entries ++ [(k, v)] :=
  putEntry_new k v ((d.find?_eq_none_iff k).mp h)

@[simp] theorem insert_insert (u : α) : (d.insert k u).insert k v = d.insert k v := by
  apply Dict.ext
  change putEntry k v (putEntry k u d.entries) = putEntry k v d.entries
  induction d.entries with
  | nil => simp [putEntry]
  | cons e rest ih => by_cases h : e.1 = k <;> simp [putEntry, h, ih]

@[simp] theorem erase_insert : (d.insert k v).erase k = d.erase k := by
  apply Dict.ext
  change (putEntry k v d.entries).filter (fun e => e.1 ≠ k) = d.entries.filter fun e => e.1 ≠ k
  induction d.entries with
  | nil => simp [putEntry]
  | cons e rest ih => by_cases h : e.1 = k <;> simp_all [putEntry]

theorem erase_comm (l : κ) : (d.erase k).erase l = (d.erase l).erase k := by
  apply Dict.ext
  change (d.entries.filter _).filter _ = (d.entries.filter _).filter _
  rw [List.filter_filter, List.filter_filter]
  exact congrArg (fun f => d.entries.filter f) (funext fun _ => Bool.and_comm _ _)

theorem keys_insert_of_mem (h : k ∈ d.keys) : (d.insert k v).keys = d.keys := by
  change (putEntry k v d.entries).map Prod.fst = d.entries.map Prod.fst
  change k ∈ d.entries.map Prod.fst at h
  revert h
  induction d.entries with
  | nil => exact fun h => absurd h List.not_mem_nil
  | cons e rest ih =>
    intro h
    by_cases hk : e.1 = k
    · rw [putEntry, if_pos hk, List.map_cons, List.map_cons, hk]
    · have hrest : k ∈ rest.map Prod.fst := by
        rcases List.mem_cons.mp h with h | h
        · exact absurd h.symm hk
        · exact h
      rw [putEntry, if_neg hk, List.map_cons, List.map_cons, ih hrest]

theorem keys_insert_new (h : d.find? k = none) : (d.insert k v).keys = d.keys ++ [k] := by
  rw [keys, d.entries_insert_new v h, List.map_append]
  rfl

theorem keys_erase : (d.erase k).keys = d.keys.filter fun x => x ≠ k := by
  change (d.entries.filter fun e => e.1 ≠ k).map Prod.fst = (d.entries.map Prod.fst).filter _
  rw [List.filter_map]
  rfl

theorem entries_foldl_erase (keys : List κ) :
    (keys.foldl erase d).entries = d.entries.filter fun e => e.1 ∉ keys := by
  induction keys generalizing d with
  | nil => exact (List.filter_eq_self.mpr fun _ _ => by simp).symm
  | cons k keys ih =>
    rw [List.foldl_cons, ih, erase, List.filter_filter]
    apply List.filter_congr
    intro e _
    simp [Bool.and_comm]

/-- Nothing is left of a map without its keys. -/
theorem foldl_erase_keys : d.keys.foldl erase d = ∅ := by
  apply Dict.ext
  rw [entries_foldl_erase]
  change _ = []
  rw [List.filter_eq_nil_iff]
  intro e he
  simp [keys, List.mem_map_of_mem he]

theorem countP_values (P : α → Bool) :
    (d.keys.countP fun k => (d.find? k).any P) = d.values.countP P := by
  rw [keys, values, List.countP_map, List.countP_map]
  apply List.countP_congr
  intro e he
  rw [Function.comp_apply, Function.comp_apply, (d.find?_eq_some_iff e.1 e.2).mpr he]
  rfl

/-- A value that is written counts in place of the one that it replaces. -/
theorem countP_values_insert (P : α → Bool) :
    (d.insert k v).values.countP P + ((d.find? k).any P).toNat =
      d.values.countP P + (P v).toNat := by
  change ((putEntry k v d.entries).map Prod.snd).countP P +
    (((d.entries.find? fun e => e.1 = k).map Prod.snd).any P).toNat =
      (d.entries.map Prod.snd).countP P + (P v).toNat
  induction d.entries with
  | nil => cases hv : P v <;> simp [putEntry, hv]
  | cons e rest ih =>
    by_cases hk : e.1 = k
    · cases hv : P v <;> cases he : P e.2 <;> simp [putEntry, hk, hv, he]
    · rw [putEntry, if_neg hk, List.find?_cons_of_neg (by simpa using hk)]
      simp only [List.map_cons, List.countP_cons]
      omega

theorem countP_values_erase (P : α → Bool) :
    (d.erase k).values.countP P + ((d.find? k).any P).toNat = d.values.countP P := by
  obtain ⟨l, hl⟩ := d
  change ((l.filter fun e => e.1 ≠ k).map Prod.snd).countP P +
    (((l.find? fun e => e.1 = k).map Prod.snd).any P).toNat = (l.map Prod.snd).countP P
  induction l with
  | nil => rfl
  | cons e rest ih =>
    rw [List.map_cons, List.nodup_cons] at hl
    by_cases hk : e.1 = k
    · have hrest : rest.filter (fun f => f.1 ≠ k) = rest := by
        rw [List.filter_eq_self]
        intro f hf
        have hne : f.1 ≠ e.1 := fun he => hl.1 (he ▸ List.mem_map_of_mem hf)
        exact decide_eq_true (hk ▸ hne)
      rw [List.filter_cons_of_neg (by simpa using hk), hrest,
        List.find?_cons_of_pos (by simpa using hk), List.map_cons, List.countP_cons]
      cases he : P e.2 <;> simp [he]
    · have hrest := ih hl.2
      rw [List.filter_cons_of_pos (by simpa using hk),
        List.find?_cons_of_neg (by simpa using hk)]
      simp only [List.map_cons, List.countP_cons]
      omega

omit [DecidableEq κ] in
private theorem size_eq_countP : d.size = d.values.countP fun _ => true := by
  rw [List.countP_true, values, List.length_map, size]

theorem size_insert : (d.insert k v).size + (d.contains k).toNat = d.size + 1 := by
  have h := d.countP_values_insert k v fun _ => true
  rw [size_eq_countP, size_eq_countP, contains]
  cases hk : d.find? k <;> rw [hk] at h <;> exact h

theorem size_erase : (d.erase k).size + (d.contains k).toNat = d.size := by
  have h := d.countP_values_erase k fun _ => true
  rw [size_eq_countP, size_eq_countP, contains]
  cases hk : d.find? k <;> rw [hk] at h <;> exact h

private theorem map_eq_of_find? {l l' : List (κ × α)} (hl : (l.map Prod.fst).Nodup)
    (hkeys : l.map Prod.fst = l'.map Prod.fst)
    (hfind : ∀ k, (l.find? fun e => e.1 = k).map Prod.snd = (l'.find? fun e => e.1 = k).map Prod.snd) :
    l = l' := by
  induction l generalizing l' with
  | nil => exact (List.map_eq_nil_iff.mp hkeys.symm).symm
  | cons e rest ih =>
    match l' with
    | [] => cases hkeys
    | e' :: rest' =>
      rw [List.map_cons, List.map_cons, List.cons.injEq] at hkeys
      rw [List.map_cons, List.nodup_cons] at hl
      have hhead : e = e' := by
        have h := hfind e.1
        rw [List.find?_cons_of_pos (by simp), List.find?_cons_of_pos (by simp [hkeys.1])] at h
        exact Prod.ext hkeys.1 (Option.some.inj h)
      subst hhead
      congr 1
      refine ih hl.2 hkeys.2 fun k => ?_
      by_cases hk : e.1 = k
      · -- the key of the first entry comes in neither tail
        have hnone : ∀ t : List (κ × α), e.1 ∉ t.map Prod.fst → (t.find? fun x => x.1 = k) = none := by
          intro t ht
          rw [List.find?_eq_none]
          exact fun x hx hxk =>
            ht (List.mem_map.mpr ⟨x, hx, (of_decide_eq_true hxk).trans hk.symm⟩)
        rw [hnone rest hl.1, hnone rest' (hkeys.2 ▸ hl.1)]
      · have h := hfind k
        rwa [List.find?_cons_of_neg (by simp [hk]), List.find?_cons_of_neg (by simp [hk])] at h

theorem ext_find? {d e : Dict κ α} (hkeys : d.keys = e.keys) (hfind : ∀ k, d.find? k = e.find? k) :
    d = e :=
  Dict.ext (map_eq_of_find? d.nodup hkeys hfind)

/-! ## Maps made from another map -/

/-- The values that a partial function leads to, at the keys of the values they come from. -/
def filterMap {β : Type} (f : α → Option β) (d : Dict κ α) : Dict κ β where
  entries := d.entries.filterMap fun e => (f e.2).map (Prod.mk e.1)
  nodup := by
    have hsub : List.Sublist ((d.entries.filterMap fun e => (f e.2).map (Prod.mk e.1)).map Prod.fst)
        (d.entries.map Prod.fst) := by
      induction d.entries with
      | nil => exact .slnil
      | cons e rest ih =>
        cases hf : f e.2 with
        | none => simpa [hf] using List.Sublist.cons e.1 ih
        | some b => simpa [hf] using List.Sublist.cons_cons e.1 ih
    exact hsub.nodup d.nodup

theorem find?_filterMap {β : Type} (f : α → Option β) (d : Dict κ α) (k : κ) :
    (d.filterMap f).find? k = (d.find? k).bind f := by
  apply Option.ext
  intro b
  rw [find?_eq_some_iff, Option.bind_eq_some_iff]
  constructor
  · intro h
    obtain ⟨⟨k', a⟩, ha, hb⟩ := List.mem_filterMap.mp h
    obtain ⟨b', hb', he⟩ := Option.map_eq_some_iff.mp hb
    obtain ⟨rfl, rfl⟩ := Prod.mk.inj he
    exact ⟨a, (find?_eq_some_iff d _ a).mpr ha, hb'⟩
  · rintro ⟨a, ha, hb⟩
    exact List.mem_filterMap.mpr ⟨(k, a), (find?_eq_some_iff d k a).mp ha, by simp [hb]⟩

theorem keys_filterMap {β : Type} {f : α → Option β} {d : Dict κ α}
    (hf : ∀ k a, d.find? k = some a → (f a).isSome) : (d.filterMap f).keys = d.keys := by
  have hall : ∀ e ∈ d.entries, (f e.2).isSome :=
    fun e he => hf e.1 e.2 ((find?_eq_some_iff d e.1 e.2).mpr he)
  change (d.entries.filterMap fun e => (f e.2).map (Prod.mk e.1)).map Prod.fst =
    d.entries.map Prod.fst
  revert hall
  induction d.entries with
  | nil => exact fun _ => rfl
  | cons e rest ih =>
    intro hall
    obtain ⟨b, hb⟩ := Option.isSome_iff_exists.mp (hall e List.mem_cons_self)
    have hrest := ih fun e' he' => hall e' (List.mem_cons_of_mem _ he')
    simpa [hb] using hrest

/-! ## Maps made from a list -/

theorem mem_of_find?_ofList {l : List (κ × α)} {k : κ} {v : α} (h : (ofList l).find? k = some v) :
    (k, v) ∈ l := by
  have hfold : ∀ (l : List (κ × α)) (d : Dict κ α),
      (l.foldl (fun d e => d.insert e.1 e.2) d).find? k = some v → d.find? k = some v ∨ (k, v) ∈ l := by
    intro l
    induction l with
    | nil => exact fun d hd => .inl hd
    | cons e rest ih =>
      intro d hd
      rcases ih (d.insert e.1 e.2) hd with h | h
      · rw [find?_insert] at h
        split at h
        next he =>
          cases h
          exact .inr (he ▸ List.mem_cons_self)
        next => exact .inl h
      · exact .inr (List.mem_cons_of_mem _ h)
  rcases hfold l ∅ h with h | h
  · cases h
  · exact h

theorem entries_ofList {l : List (κ × α)} (hl : (l.map Prod.fst).Nodup) : (ofList l).entries = l := by
  have hfold : ∀ (l : List (κ × α)) (d : Dict κ α), (l.map Prod.fst).Nodup →
      (∀ e ∈ l, e.1 ∉ d.keys) →
      (l.foldl (fun d e => d.insert e.1 e.2) d).entries = d.entries ++ l := by
    intro l
    induction l with
    | nil => exact fun d _ _ => (List.append_nil _).symm
    | cons e rest ih =>
      intro d hl hd
      rw [List.map_cons, List.nodup_cons] at hl
      have hnew := (d.find?_eq_none_iff e.1).mpr (hd e List.mem_cons_self)
      rw [List.foldl_cons, ih (d.insert e.1 e.2) hl.2, d.entries_insert_new _ hnew]
      · simp
      · intro f hf
        rw [keys, d.entries_insert_new _ hnew, List.map_append, List.mem_append, not_or]
        refine ⟨hd f (List.mem_cons_of_mem _ hf), ?_⟩
        rw [List.map_singleton, List.mem_singleton]
        exact fun he => hl.1 (he ▸ List.mem_map_of_mem hf)
  exact hfold l ∅ hl fun _ _ => List.not_mem_nil

end ChatChannels.Dict
