import ChatChannels.Proofs.Registry.Live
import ChatChannels.Proofs.Registry.Metering

/-! New registries of checked configurations. What the check finds is what is wrong with the settings
and with the catalog, entry by entry. A registry opens one channel for each entry of a catalog without
faults, but no mailbox holds as many requests as a configuration may ask for, and the check does not
look at that. -/
namespace ChatChannels.Registry

variable {c : Config}

/-- One channel is live for each built-in one of the configuration, and no other. -/
structure OpensWith (r : Registry) (c : Config) : Prop where
  keys : r.house.live.keys = c.builtIns.map fun e => Text.lowercase e.name
  channels : r.house.channels.values = c.builtIns.map .builtIn
  size : r.size = if c.catalog = [] then 6 else c.catalog.length

theorem ofConfig_opensWith (hc : c.faults = []) : (ofConfig c).OpensWith c := by
  obtain ⟨hsound, _, _, _, _, hchannels⟩ := ofConfig_spec c
  rw [entries_catalogOf hc, List.map_map] at hchannels
  refine ⟨?_, ?_, ?_⟩
  · rw [← hsound.house.keys_channels, Dict.keys, hchannels, List.map_map]
    rfl
  · rw [Dict.values, hchannels, List.map_map]
    rfl
  · rw [← hsound.size_channels, Dict.size, hchannels, List.length_map, Config.builtIns]
    by_cases hcatalog : c.catalog = []
    · rw [if_pos (by simp [hcatalog]), if_pos hcatalog]
      rfl
    · rw [if_neg (by simp [hcatalog]), if_neg hcatalog]

/-- The check finds no fault exactly in valid configurations, and otherwise lists the faults of single
settings and then those of each catalog entry in turn. The registry of a valid configuration opens with
one channel for each entry, provided that a mailbox can be as large as the configuration says. -/
theorem validation_exact (c : Config) :
    (c.faults = [] ↔ c.Valid) ∧
      (c.faults = (c.scalarChecks.filter Prod.fst).map Prod.snd ++
        c.catalog.zipIdx.flatMap fun p => p.1.faultsAfter (c.catalog.take p.2)) ∧
      (c.faults = [] →
        if c.limits.mailboxCapacity ≤ 2305843009213693951 then
          ∃ r, ofConfig? c = some r ∧ r.OpensWith c
        else ofConfig? c = none) := by
  refine ⟨c.faults_eq_nil_iff, c.faults_eq, fun hc => ?_⟩
  split
  next hfits => exact ⟨ofConfig c, if_pos (decide_eq_true hfits), ofConfig_opensWith hc⟩
  next hlarge => exact if_neg fun hfits => hlarge (of_decide_eq_true hfits)

/-- Two entries, whose names end in different forms of one letter, and the largest mailboxes. -/
theorem validation_exact_largest :
    let c : Config := {
      limits := { mailboxCapacity := 2305843009213693951 }
      catalog := [{ name := "ΟΔΟΣ", id := 1 }, { name := "οδοσ", id := 2 }] }
    c.faults = [] ∧ ∃ r, ofConfig? c = some r ∧ r.OpensWith c ∧ r.size = 2 := by
  intro c
  have hc : c.faults = [] := by decide +kernel
  obtain ⟨-, -, hopens⟩ := validation_exact c
  have hr := hopens hc
  rw [if_pos (by decide)] at hr
  obtain ⟨r, hr, hopens⟩ := hr
  exact ⟨hc, r, hr, hopens, hopens.size⟩

/-- A valid configuration that no registry can be made of. -/
theorem valid_mailbox_too_large :
    let c : Config := { limits := { mailboxCapacity := 2305843009213693952 } }
    c.faults = [] ∧ c.Valid ∧ ofConfig? c = none := by
  intro c
  have hc : c.faults = [] := by decide
  exact ⟨hc, c.faults_eq_nil_iff.mp hc, by decide⟩

end ChatChannels.Registry
