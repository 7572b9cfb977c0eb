import ChatChannels.Config.Validation

/-! What a check finds: each entry of a catalog is held against those before it. Without faults the
identities and the keys are all different and none is missing. The standard catalog passes its own
check, so the built-in channels always do. -/
namespace ChatChannels

namespace CatalogEntry

/-- A catalog has no faults exactly where every entry has a new identity, a name and a new key. -/
theorem faults_eq_nil_iff {ids : List UInt32} {keys : List String} {l : List CatalogEntry} :
    faults ids keys l = [] ↔
      (∀ e ∈ l, e.id ≠ 0 ∧ e.id ∉ ids ∧ e.hasBlankName = false ∧ e.key ∉ keys) ∧
        (l.map id).Nodup ∧ (l.map key).Nodup := by
  induction l generalizing ids keys with
  | nil => simp [faults]
  | cons e rest ih =>
    have hhead : (faults ids keys (e :: rest) = []) ↔
        (e.id ≠ 0 ∧ e.id ∉ ids ∧ e.hasBlankName = false ∧ e.key ∉ keys) ∧
          faults (e.id :: ids) (e.key :: keys) rest = [] := by
      rw [faults]
      by_cases hid : e.id = 0
      · simp [hid]
      · by_cases hblank : e.hasBlankName
        · simp [hblank]
        · by_cases hused : e.id ∈ ids <;> by_cases htaken : e.key ∈ keys <;>
            simp [hid, hblank, hused, htaken]
    rw [hhead, ih, List.map_cons, List.map_cons, List.nodup_cons, List.nodup_cons]
    constructor
    · rintro ⟨hfirst, hrest, hids, hkeys⟩
      refine ⟨?_, ⟨?_, hids⟩, ?_, hkeys⟩
      · intro f hf
        rcases List.mem_cons.mp hf with rfl | hf
        · exact hfirst
        · obtain ⟨hid, hused, hblank, htaken⟩ := hrest f hf
          exact ⟨hid, fun h => hused (List.mem_cons_of_mem _ h), hblank,
            fun h => htaken (List.mem_cons_of_mem _ h)⟩
      · intro hmem
        obtain ⟨f, hf, he⟩ := List.mem_map.mp hmem
        exact (hrest f hf).2.1 (he ▸ List.mem_cons_self)
      · intro hmem
        obtain ⟨f, hf, he⟩ := List.mem_map.mp hmem
        exact (hrest f hf).2.2.2 (he ▸ List.mem_cons_self)
    · rintro ⟨hall, ⟨hnewId, hids⟩, hnewKey, hkeys⟩
      refine ⟨hall e List.mem_cons_self, ?_, hids, hkeys⟩
      intro f hf
      obtain ⟨hid, hused, hblank, htaken⟩ := hall f (List.mem_cons_of_mem _ hf)
      have hidne : f.id ≠ e.id := fun he => hnewId (he ▸ List.mem_map_of_mem hf)
      have hkeyne : f.key ≠ e.key := fun he => hnewKey (he ▸ List.mem_map_of_mem hf)
      exact ⟨hid, List.not_mem_cons_of_ne_of_not_mem hidne hused, hblank,
        List.not_mem_cons_of_ne_of_not_mem hkeyne htaken⟩

/-- What is wrong with an entry that comes after others, first with its identity and then with its
name. -/
def faultsAfter (before : List CatalogEntry) (e : CatalogEntry) : List ConfigFault :=
  (if e.id = 0 then [.zeroCatalogId e.name]
    else if ∃ f ∈ before, f.id = e.id then [.duplicateCatalogId e.id] else []) ++
  (if e.hasBlankName then [.emptyCatalogName e.id]
    else if ∃ f ∈ before, f.hasBlankName = false ∧ f.key = e.key then [.duplicateCatalogName e.name]
    else [])

/-- The identities and the keys that entries use up. -/
structure UsedUp (before : List CatalogEntry) (ids : List UInt32) (keys : List String) : Prop where
  ids : ∀ id, id ≠ 0 → (id ∈ ids ↔ ∃ f ∈ before, f.id = id)
  keys : ∀ key, key ∈ keys ↔ ∃ f ∈ before, f.hasBlankName = false ∧ f.key = key

theorem UsedUp.concat {before : List CatalogEntry} {ids : List UInt32} {keys : List String}
    (h : UsedUp before ids keys) (e : CatalogEntry) :
    UsedUp (before ++ [e]) (if e.id = 0 then ids else e.id :: ids)
      (if e.hasBlankName then keys else e.key :: keys) := by
  have hexists : ∀ P : CatalogEntry → Prop,
      (∃ f ∈ before ++ [e], P f) ↔ (∃ f ∈ before, P f) ∨ P e := by
    simp [or_and_right, exists_or]
  constructor
  · intro id hid
    rw [hexists, ← h.ids id hid]
    split
    next hzero => simp [hzero, Ne.symm hid]
    next => rw [List.mem_cons, or_comm, eq_comm]
  · intro key
    rw [hexists, ← h.keys key]
    split
    next hblank => simp [hblank]
    next hblank => simp [hblank, or_comm, eq_comm (a := key)]

theorem UsedUp.faults_cons {before : List CatalogEntry} {ids : List UInt32} {keys : List String}
    (h : UsedUp before ids keys) (e : CatalogEntry) (rest : List CatalogEntry) :
    faults ids keys (e :: rest) =
      e.faultsAfter before ++ faults (if e.id = 0 then ids else e.id :: ids)
        (if e.hasBlankName then keys else e.key :: keys) rest := by
  rw [faults, faultsAfter]
  congr 2
  · by_cases hid : e.id = 0
    · rw [if_pos hid, if_pos hid]
    · simp only [hid, if_false, h.ids e.id hid]
  · simp only [h.keys e.key]

/-- Each entry is held against all entries before it. -/
theorem UsedUp.faults_eq {before : List CatalogEntry} {ids : List UInt32} {keys : List String}
    (h : UsedUp before ids keys) (l : List CatalogEntry) :
    faults ids keys l = l.zipIdx.flatMap fun p => p.1.faultsAfter (before ++ l.take p.2) := by
  induction l generalizing before ids keys with
  | nil => rfl
  | cons e rest ih =>
    rw [h.faults_cons, ih (h.concat e), List.zipIdx_cons, List.flatMap_cons, List.zipIdx_succ,
      List.flatMap_map]
    simp

theorem standard_faults : faults [] [] standard = [] := by
  rw [faults_eq_nil_iff]
  exact ⟨by decide, by decide, by decide⟩

end CatalogEntry

namespace Config

/-- The checks of single settings, in their order, and the fault that each of them finds. -/
def scalarChecks (c : Config) : List (Bool × ConfigFault) := [
  (3 < c.channels.restrictedLanguageMode, .languageMode c.channels.restrictedLanguageMode),
  (3 < c.channels.gmLevelInWhoList, .whoListLevel c.channels.gmLevelInWhoList),
  (c.limits.mailboxCapacity = 0, .zeroMailboxCapacity),
  (c.limits.maxNameLength = 0, .zeroNameLength)]

/-- All settings are in range, and every catalog entry has an identity and a name of its own. -/
structure Valid (c : Config) : Prop where
  languageMode : c.channels.restrictedLanguageMode ≤ 3
  whoListLevel : c.channels.gmLevelInWhoList ≤ 3
  mailboxCapacity : c.limits.mailboxCapacity ≠ 0
  maxNameLength : c.limits.maxNameLength ≠ 0
  ids : ∀ e ∈ c.catalog, e.id ≠ 0
  distinctIds : (c.catalog.map CatalogEntry.id).Nodup
  names : ∀ e ∈ c.catalog, Text.trim e.name.toList ≠ []
  distinctNames : (c.catalog.map fun e => Text.lowercase e.name).Nodup

theorem scalarFaults_eq (c : Config) :
    c.scalarFaults = (c.scalarChecks.filter Prod.fst).map Prod.snd := by
  rw [scalarFaults, scalarChecks]
  by_cases hmode : 3 < c.channels.restrictedLanguageMode <;>
    by_cases hlevel : 3 < c.channels.gmLevelInWhoList <;>
    by_cases hcapacity : c.limits.mailboxCapacity = 0 <;>
    by_cases hlength : c.limits.maxNameLength = 0 <;>
    simp [hmode, hlevel, hcapacity, hlength]

theorem faults_eq (c : Config) :
    c.faults = (c.scalarChecks.filter Prod.fst).map Prod.snd ++
      c.catalog.zipIdx.flatMap fun p => p.1.faultsAfter (c.catalog.take p.2) := by
  have hnone : CatalogEntry.UsedUp [] [] [] := ⟨by simp, by simp⟩
  rw [faults, scalarFaults_eq, hnone.faults_eq]
  rfl

theorem faults_eq_nil_iff (c : Config) : c.faults = [] ↔ c.Valid := by
  have hscalar : c.scalarFaults = [] ↔
      c.channels.restrictedLanguageMode ≤ 3 ∧ c.channels.gmLevelInWhoList ≤ 3 ∧
        c.limits.mailboxCapacity ≠ 0 ∧ c.limits.maxNameLength ≠ 0 := by
    rw [scalarFaults_eq, List.map_eq_nil_iff, List.filter_eq_nil_iff]
    simp [scalarChecks, UInt8.not_lt]
  rw [faults, List.append_eq_nil_iff, CatalogEntry.faults_eq_nil_iff, hscalar]
  constructor
  · rintro ⟨⟨hmode, hlevel, hcapacity, hlength⟩, hentries, hids, hkeys⟩
    refine ⟨hmode, hlevel, hcapacity, hlength, fun e he => (hentries e he).1, hids, ?_, hkeys⟩
    intro e he hblank
    simpa [CatalogEntry.hasBlankName, hblank] using (hentries e he).2.2.1
  · intro h
    refine ⟨⟨h.languageMode, h.whoListLevel, h.mailboxCapacity, h.maxNameLength⟩, ?_, h.distinctIds,
      h.distinctNames⟩
    intro e he
    simpa [CatalogEntry.hasBlankName] using ⟨h.ids e he, h.names e he⟩

end Config

variable {c : Config}

theorem Config.builtIns_faults (h : c.faults = []) : CatalogEntry.faults [] [] c.builtIns = [] := by
  rw [faults, List.append_eq_nil_iff] at h
  unfold builtIns
  split
  next => exact CatalogEntry.standard_faults
  next => exact h.2

end ChatChannels
