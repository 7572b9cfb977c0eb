import ChatChannels.Config.Decode
import Mathlib.Data.List.Forall2

/-! Configurations as overlays on the defaults. Every known setting that a document gives has the value
given, every other one its default, and nothing else in the document matters. -/
namespace ChatChannels

namespace Data

/-- The value at the end of a path of keys. -/
def at? (d : Data) (path : List String) : Option Data := path.foldlM get? d

def isBool : Data → Bool
  | .bool _ => true
  | _ => false

def isNatBelow (bound : Nat) : Data → Bool
  | .int (.ofNat n) => n < bound
  | _ => false

end Data

/-- A known setting of an `α`: the path to it, what values it takes, and how an `α` has it. -/
inductive Setting (α : Type) where
  | flag (path : List String) (get : α → Bool)
  | number (path : List String) (bound : Nat) (get : α → Nat)

namespace Setting

variable {α β : Type}

def path : Setting α → List String
  | .flag path _ | .number path _ _ => path

/-- How a document gives the value that a setting has. -/
def value (a : α) : Setting α → Data
  | .flag _ get => .bool (get a)
  | .number _ _ get => .nat (get a)

/-- Values of its type and in its range. -/
def admits : Setting α → Data → Bool
  | .flag _ _ => Data.isBool
  | .number _ bound _ => Data.isNatBelow bound

/-- Whether tables lead along a path to a value that passes a check, or the path breaks off. -/
def leadsTo (check : Data → Bool) : List String → Data → Bool
  | [], d => check d
  | key :: path, .table entries =>
    match (Data.table entries).get? key with
    | none => true
    | some v => leadsTo check path v
  | _, _ => false

/-- Whether the sections on the way to a setting are tables and its value is admitted, as far as they
are present. -/
def fits (d : Data) (s : Setting α) : Bool := leadsTo s.admits s.path d

/-- A setting of a part, which a document gives in a section. -/
def within (key : String) (part : α → β) : Setting β → Setting α
  | .flag path get => .flag (key :: path) (get ∘ part)
  | .number path bound get => .number (key :: path) bound (get ∘ part)

/-- Each setting has the value that a document gives, and else the same as in `default`. -/
def Overlaid (settings : List (Setting α)) (d : Data) (default a : α) : Prop :=
  ∀ s ∈ settings, s.value a = (d.at? s.path).getD (s.value default)

/-- Reads every document that fits the settings, as an overlay on `default`. -/
def Decodes (settings : List (Setting α)) (default : α) (read : Data → Option α) : Prop :=
  ∀ d, (∀ s ∈ settings, s.fits d) → ∃ a, read d = some a ∧ Overlaid settings d default a

end Setting

open Setting (fits within Overlaid)

def ServerConfig.settings : List (Setting ServerConfig) :=
  [.number ["metrics_port"] UInt16.size (·.metricsPort.toNat)]

def ChannelsConfig.settings : List (Setting ChannelsConfig) := [
  .flag ["gm_join_silently"] (·.gmJoinSilently),
  .flag ["cross_faction"] (·.crossFaction),
  .number ["restricted_language_mode"] UInt8.size (·.restrictedLanguageMode.toNat),
  .number ["static_auto_threshold"] UInt64.size (·.staticAutoThreshold),
  .number ["gm_level_in_who_list"] UInt8.size (·.gmLevelInWhoList.toNat),
  .number ["local_defense_min_rank"] UInt8.size (·.localDefenseMinRank.toNat),
  .number ["world_defense_min_rank"] UInt8.size (·.worldDefenseMinRank.toNat)]

def RateLimits.settings : List (Setting RateLimits) := [
  .number ["say_rate_per_second"] UInt32.size (·.sayRatePerSecond.toNat),
  .number ["say_burst"] UInt32.size (·.sayBurst.toNat)]

def Limits.settings : List (Setting Limits) := [
  .number ["mailbox_capacity"] UInt64.size (·.mailboxCapacity),
  .number ["max_channel_name_length"] UInt64.size (·.maxNameLength)]

def Config.settings : List (Setting Config) :=
  ServerConfig.settings.map (within "server" server) ++
    ChannelsConfig.settings.map (within "channels" channels) ++
    (RateLimits.settings.map (within "rate_limits" id)).map (within "security" rateLimits) ++
    Limits.settings.map (within "limits" limits)

/-- What an entry of a catalog may say besides its name and its identity. -/
def CatalogEntry.settings : List (Setting CatalogEntry) :=
  [.flag ["trade"] trade, .flag ["city"] city, .flag ["lfg"] groupFinding]

namespace Data

structure IsEntry (d : Data) : Prop where
  name : ∃ name, d.get? "name" = some (.text name)
  id : ∃ id < UInt32.size, d.get? "id" = some (.nat id)
  settings : ∀ s ∈ CatalogEntry.settings, s.fits d

structure IsConfig (d : Data) : Prop where
  settings : ∀ s ∈ Config.settings, s.fits d
  catalog : ∀ v, d.get? "catalog" = some v → ∃ items, v = .list items ∧ ∀ item ∈ items, IsEntry item

end Data

/-- The entry that a document gives, with flags that are off unless they are given. -/
structure CatalogEntry.IsGiven (item : Data) (e : CatalogEntry) : Prop where
  name : item.get? "name" = some (.text e.name)
  id : item.get? "id" = some (.nat e.id.toNat)
  settings : ∀ s ∈ settings, s.value e = (item.at? s.path).getD (.bool false)

/-- The default configuration with the settings that a document gives, and its catalog. -/
structure Config.Overlays (d : Data) (c : Config) : Prop where
  settings : Overlaid settings d {} c
  catalog : (d.get? "catalog" = none ∧ c.catalog = []) ∨
    ∃ items, d.get? "catalog" = some (.list items) ∧ List.Forall₂ CatalogEntry.IsGiven items c.catalog

namespace Data

/-- What a document says in a section is what holds without it. -/
def KeepsDefaults (d : Data) (part : List String) : Prop :=
  ∀ s ∈ Config.settings, part <+: s.path → ∀ v, d.at? s.path = some v → v = s.value {}

structure AgreesOutside (d d' : Data) (part : List String) : Prop where
  settings : ∀ s ∈ Config.settings, ¬part <+: s.path → d.at? s.path = d'.at? s.path
  catalog : d.get? "catalog" = d'.get? "catalog"

end Data

def Config.sections : List (List String) :=
  [["server"], ["channels"], ["security"], ["security", "rate_limits"], ["limits"]]

/-! ## Single settings -/

theorem Data.setting?_table (entries : List (String × Data)) (place : Nat) (key : String) :
    (table entries).setting? place key = (table entries).get? key := rfl

theorem Data.nat_inj {m n : Nat} : nat m = nat n ↔ m = n := by
  simp only [nat, int.injEq, Int.natCast_inj]

namespace Setting

variable {α β : Type} {d : Data} {key : String} {path : List String} {check : Data → Bool}

theorem value_flag (path : List String) (get : α → Bool) (a : α) :
    (flag path get).value a = .bool (get a) := rfl

theorem value_number (path : List String) (bound : Nat) (get : α → Nat) (a : α) :
    (number path bound get).value a = .nat (get a) := rfl

@[simp] theorem path_within (part : α → β) (s : Setting β) :
    (s.within key part).path = key :: s.path := by
  cases s <;> rfl

@[simp] theorem value_within (part : α → β) (s : Setting β) (a : α) :
    (s.within key part).value a = s.value (part a) := by
  cases s <;> rfl

@[simp] theorem admits_within (part : α → β) (s : Setting β) :
    (s.within key part).admits = s.admits := by
  cases s <;> rfl

theorem leadsTo_cons : leadsTo check (key :: path) d = true ↔
    (∃ entries, d = .table entries) ∧ ∀ v, d.get? key = some v → leadsTo check path v = true := by
  cases d with
  | table entries =>
    rw [leadsTo]
    cases (Data.table entries).get? key <;> simp
  | _ => simp [leadsTo]

theorem fits_within (part : α → β) (s : Setting β) : (s.within key part).fits d = true ↔
    (∃ entries, d = .table entries) ∧ ∀ v, d.get? key = some v → s.fits v = true := by
  rw [fits, path_within, admits_within, leadsTo_cons]
  rfl

theorem overlaid_within {settings : List (Setting β)} {part : α → β} {default a : α} :
    Overlaid (settings.map (within key part)) d default a ↔
      ∀ s ∈ settings, s.value (part a) = (d.at? (key :: s.path)).getD (s.value (part default)) := by
  simp only [Overlaid, List.forall_mem_map, value_within, path_within]

theorem at?_cons (d : Data) (key : String) (path : List String) :
    d.at? (key :: path) = (d.get? key).bind (·.at? path) := by
  rw [Data.at?, List.foldlM_cons]
  rfl

/-- A reader that takes all the values that are admitted and loses nothing of them. -/
def Reads (admits : Data → Bool) (value : β → Data) (read : Data → Option β) : Prop :=
  ∀ v, admits v → ∃ b, read v = some b ∧ value b = v

theorem reads_bool : Reads Data.isBool .bool Data.bool? := by
  intro v hv
  cases v with
  | bool b => exact ⟨b, rfl, rfl⟩
  | _ => cases hv

theorem reads_count : Reads (Data.isNatBelow UInt64.size) .nat Data.count? := by
  intro v hv
  match v with
  | .int (.ofNat n) => exact ⟨n, if_pos (of_decide_eq_true hv), rfl⟩

theorem reads_word {bound : Nat} {ofNat : Nat → β} {toNat : β → Nat}
    (h : ∀ n < bound, toNat (ofNat n) = n) :
    Reads (Data.isNatBelow bound) (fun b => .nat (toNat b))
      fun v => (v.natBelow? bound).map ofNat := by
  intro v hv
  match v with
  | .int (.ofNat n) =>
    have hn : n < bound := of_decide_eq_true hv
    refine ⟨ofNat n, ?_, ?_⟩
    · simp only [Data.natBelow?, hn, if_true, Option.map_some]
    · dsimp only
      rw [h n hn]
      rfl

theorem reads_byte : Reads (Data.isNatBelow UInt8.size) (fun b => .nat b.toNat) Data.byte? :=
  reads_word fun _ => UInt8.toNat_ofNat_of_lt'

theorem reads_word16 : Reads (Data.isNatBelow UInt16.size) (fun b => .nat b.toNat) Data.word16? :=
  reads_word fun _ => UInt16.toNat_ofNat_of_lt'

theorem reads_word32 : Reads (Data.isNatBelow UInt32.size) (fun b => .nat b.toNat) Data.word32? :=
  reads_word fun _ => UInt32.toNat_ofNat_of_lt'

theorem Reads.settingOr {value : β → Data} {read : Data → Option β} (hread : Reads check value read)
    (hd : leadsTo check [key] d = true) (place : Nat) (default : β) :
    ∃ b, d.settingOr place key read default = some b ∧
      value b = (d.at? [key]).getD (value default) := by
  obtain ⟨⟨entries, rfl⟩, hv⟩ := leadsTo_cons.mp hd
  rw [at?_cons, Data.settingOr, Data.setting?_table]
  cases hkey : (Data.table entries).get? key with
  | none => exact ⟨default, rfl, rfl⟩
  | some v => exact hread v (hv v hkey)

/-- A section that is read as an overlay is one also where it is absent. -/
theorem Decodes.settingOr {settings : List (Setting β)} {default : β} {read : Data → Option β}
    (hread : Decodes settings default read) {part : α → β}
    (hd : ∀ s ∈ settings.map (within key part), s.fits d) (htable : ∃ entries, d = .table entries)
    (place : Nat) :
    ∃ b, d.settingOr place key read default = some b ∧
      ∀ s ∈ settings, s.value b = (d.at? (key :: s.path)).getD (s.value default) := by
  obtain ⟨entries, rfl⟩ := htable
  simp only [Data.settingOr, Data.setting?_table, at?_cons]
  cases hkey : (Data.table entries).get? key with
  | none => exact ⟨default, rfl, fun _ _ => rfl⟩
  | some v =>
    refine hread v fun s hs => ?_
    exact ((fits_within part s).mp (hd _ (List.mem_map_of_mem hs))).2 v hkey

end Setting

/-! ## Sections -/

open Setting

variable (surplus : Surplus)

/-- A table is a section of any size. -/
theorem Data.guard_isSection {α : Type} (entries : List (String × Data)) (size : Nat)
    (f : Unit → Option α) : (guard ((Data.table entries).isSection surplus size) >>= f) = f () := rfl

theorem ServerConfig.decodes :
    Decodes ServerConfig.settings {} (ServerConfig.ofData? surplus) := by
  intro d h
  simp only [settings, List.forall_mem_cons] at h
  obtain ⟨⟨entries, rfl⟩, -⟩ := leadsTo_cons.mp h.1
  obtain ⟨port, hport, eport⟩ := reads_word16.settingOr h.1 0 0
  refine ⟨{ metricsPort := port }, ?_, ?_⟩
  · rw [ofData?, Data.guard_isSection, hport]
    rfl
  · simp only [Overlaid, settings, List.forall_mem_cons]
    exact ⟨eport, by simp⟩

theorem ChannelsConfig.decodes :
    Decodes ChannelsConfig.settings {} (ChannelsConfig.ofData? surplus) := by
  intro d h
  simp only [settings, List.forall_mem_cons] at h
  obtain ⟨hsilent, hcross, hmode, hthreshold, hlevel, hlocal, hworld, -⟩ := h
  obtain ⟨⟨entries, rfl⟩, -⟩ := leadsTo_cons.mp hsilent
  obtain ⟨silent, rsilent, esilent⟩ := reads_bool.settingOr hsilent 0 false
  obtain ⟨cross, rcross, ecross⟩ := reads_bool.settingOr hcross 1 false
  obtain ⟨mode, rmode, emode⟩ := reads_byte.settingOr hmode 2 0
  obtain ⟨threshold, rthreshold, ethreshold⟩ := reads_count.settingOr hthreshold 3 0
  obtain ⟨level, rlevel, elevel⟩ := reads_byte.settingOr hlevel 4 0
  obtain ⟨localRank, rlocal, elocal⟩ := reads_byte.settingOr hlocal 5 0
  obtain ⟨worldRank, rworld, eworld⟩ := reads_byte.settingOr hworld 6 6
  refine ⟨⟨silent, cross, mode, threshold, level, localRank, worldRank⟩, ?_, ?_⟩
  · rw [ofData?, Data.guard_isSection, rsilent, rcross, rmode, rthreshold, rlevel, rlocal, rworld]
    rfl
  · simp only [Overlaid, settings, List.forall_mem_cons]
    exact ⟨esilent, ecross, emode, ethreshold, elevel, elocal, eworld, by simp⟩

theorem RateLimits.decodes : Decodes RateLimits.settings {} (RateLimits.ofData? surplus) := by
  intro d h
  simp only [settings, List.forall_mem_cons] at h
  obtain ⟨hrate, hburst, -⟩ := h
  obtain ⟨⟨entries, rfl⟩, -⟩ := leadsTo_cons.mp hrate
  obtain ⟨rate, rrate, erate⟩ := reads_word32.settingOr hrate 0 0
  obtain ⟨burst, rburst, eburst⟩ := reads_word32.settingOr hburst 1 5
  refine ⟨⟨rate, burst⟩, ?_, ?_⟩
  · rw [ofData?, Data.guard_isSection, rrate, rburst]
    rfl
  · simp only [Overlaid, settings, List.forall_mem_cons]
    exact ⟨erate, eburst, by simp⟩

theorem RateLimits.decodes_security :
    Decodes (RateLimits.settings.map (within "rate_limits" id)) {}
      (RateLimits.ofSecurity? surplus) := by
  intro d h
  obtain ⟨⟨entries, rfl⟩, -⟩ := (fits_within id _).mp (h _ (List.mem_map_of_mem List.mem_cons_self))
  obtain ⟨limits, rlimits, elimits⟩ := (decodes surplus).settingOr h ⟨entries, rfl⟩ 0
  refine ⟨limits, ?_, overlaid_within.mpr elimits⟩
  rw [ofSecurity?, Data.guard_isSection, rlimits]

theorem Limits.decodes : Decodes Limits.settings {} (Limits.ofData? surplus) := by
  intro d h
  simp only [settings, List.forall_mem_cons] at h
  obtain ⟨hcapacity, hlength, -⟩ := h
  obtain ⟨⟨entries, rfl⟩, -⟩ := leadsTo_cons.mp hcapacity
  obtain ⟨capacity, rcapacity, ecapacity⟩ := reads_count.settingOr hcapacity 0 100
  obtain ⟨length, rlength, elength⟩ := reads_count.settingOr hlength 1 64
  refine ⟨⟨capacity, length⟩, ?_, ?_⟩
  · rw [ofData?, Data.guard_isSection, rcapacity, rlength]
    rfl
  · simp only [Overlaid, settings, List.forall_mem_cons]
    exact ⟨ecapacity, elength, by simp⟩

/-! ## Catalogs -/

theorem CatalogEntry.ofData?_isGiven {item : Data} (h : item.IsEntry) :
    ∃ e, CatalogEntry.ofData? surplus item = some e ∧ IsGiven item e := by
  obtain ⟨⟨name, hname⟩, ⟨id, hlt, hid⟩, hflags⟩ := h
  simp only [settings, List.forall_mem_cons] at hflags
  obtain ⟨htrade, hcity, hlfg, -⟩ := hflags
  obtain ⟨⟨entries, rfl⟩, -⟩ := leadsTo_cons.mp htrade
  obtain ⟨trade, rtrade, etrade⟩ := reads_bool.settingOr htrade 2 false
  obtain ⟨city, rcity, ecity⟩ := reads_bool.settingOr hcity 3 false
  obtain ⟨lfg, rlfg, elfg⟩ := reads_bool.settingOr hlfg 4 false
  obtain ⟨word, rword, eword⟩ := reads_word32 (.nat id) (decide_eq_true hlt)
  have rname : ((Data.table entries).setting? 0 "name").bind Data.text? = some name := by
    rw [Data.setting?_table, hname]
    rfl
  have rid : ((Data.table entries).setting? 1 "id").bind Data.word32? = some word := by
    rw [Data.setting?_table, hid]
    exact rword
  refine ⟨⟨name, word, trade, city, lfg⟩, ?_, hname, ?_, ?_⟩
  · rw [ofData?, Data.guard_isSection, rname, rid, rtrade, rcity, rlfg]
    rfl
  · exact hid.trans (congrArg some eword.symm)
  · simp only [settings, List.forall_mem_cons]
    exact ⟨etrade, ecity, elfg, by simp⟩

theorem catalogOfData?_isGiven {items : List Data} (h : ∀ item ∈ items, item.IsEntry) :
    ∃ catalog, catalogOfData? surplus (.list items) = some catalog ∧
      List.Forall₂ CatalogEntry.IsGiven items catalog := by
  rw [catalogOfData?]
  induction items with
  | nil => exact ⟨[], rfl, .nil⟩
  | cons item items ih =>
    obtain ⟨hitem, hitems⟩ := List.forall_mem_cons.mp h
    obtain ⟨e, he, egiven⟩ := CatalogEntry.ofData?_isGiven surplus hitem
    obtain ⟨rest, hrest, hgiven⟩ := ih hitems
    refine ⟨e :: rest, ?_, .cons egiven hgiven⟩
    rw [List.mapM_cons, he, hrest]
    rfl

theorem CatalogEntry.IsGiven.unique {item : Data} {e e' : CatalogEntry} (h : IsGiven item e)
    (h' : IsGiven item e') : e = e' := by
  have hname := h.name.symm.trans h'.name
  have hid := h.id.symm.trans h'.id
  have hflags : ∀ s ∈ CatalogEntry.settings, s.value e = s.value e' := fun s hs =>
    (h.settings s hs).trans (h'.settings s hs).symm
  simp only [CatalogEntry.settings, List.forall_mem_cons, value_flag, Data.bool.injEq] at hflags
  simp only [Option.some.injEq, Data.text.injEq, Data.nat_inj, UInt32.toNat_inj] at hname hid
  cases e
  cases e'
  simp_all only

/-! ## Configurations -/

namespace Config

variable {d d' : Data} {c c' : Config}

theorem ofData?_overlays (h : d.IsConfig) : ∃ c, ofData? surplus d = some c ∧ c.Overlays d := by
  obtain ⟨hsettings, hcatalog⟩ := h
  obtain ⟨⟨entries, rfl⟩, -⟩ := leadsTo_cons.mp (hsettings _ List.mem_cons_self)
  simp only [settings, List.forall_mem_append] at hsettings
  obtain ⟨⟨⟨hserver, hchannels⟩, hsecurity⟩, hlimits⟩ := hsettings
  obtain ⟨server, rserver, eserver⟩ :=
    (ServerConfig.decodes surplus).settingOr hserver ⟨entries, rfl⟩ 0
  obtain ⟨channels, rchannels, echannels⟩ :=
    (ChannelsConfig.decodes surplus).settingOr hchannels ⟨entries, rfl⟩ 1
  obtain ⟨rates, rrates, erates⟩ :=
    (RateLimits.decodes_security surplus).settingOr hsecurity ⟨entries, rfl⟩ 2
  obtain ⟨limits, rlimits, elimits⟩ :=
    (Limits.decodes surplus).settingOr hlimits ⟨entries, rfl⟩ 3
  obtain ⟨catalog, rcatalog, ecatalog⟩ : ∃ catalog,
      (Data.table entries).settingOr 4 "catalog" (catalogOfData? surplus) [] = some catalog ∧
        (((Data.table entries).get? "catalog" = none ∧ catalog = []) ∨
          ∃ items, (Data.table entries).get? "catalog" = some (.list items) ∧
            List.Forall₂ CatalogEntry.IsGiven items catalog) := by
    rw [Data.settingOr, Data.setting?_table]
    cases hkey : (Data.table entries).get? "catalog" with
    | none => exact ⟨[], rfl, .inl ⟨rfl, rfl⟩⟩
    | some v =>
      obtain ⟨items, rfl, hitems⟩ := hcatalog v hkey
      obtain ⟨catalog, hcatalog, hgiven⟩ := catalogOfData?_isGiven surplus hitems
      exact ⟨catalog, hcatalog, .inr ⟨items, rfl, hgiven⟩⟩
  refine ⟨⟨server, channels, rates, limits, catalog⟩, ?_, ?_, ecatalog⟩
  · rw [ofData?, Data.guard_isSection, rserver, rchannels, rrates, rlimits, rcatalog]
    rfl
  · simp only [Overlaid, settings, List.forall_mem_append]
    exact ⟨⟨⟨overlaid_within.mpr eserver, overlaid_within.mpr echannels⟩, overlaid_within.mpr erates⟩,
      overlaid_within.mpr elimits⟩

/-- The settings and the catalog are all there is to a configuration. -/
theorem ext_settings (hsettings : ∀ s ∈ settings, s.value c = s.value c')
    (hcatalog : c.catalog = c'.catalog) : c = c' := by
  rcases c with ⟨⟨_⟩, ⟨_, _, _, _, _, _, _⟩, ⟨_, _⟩, ⟨_, _⟩, _⟩
  rcases c' with ⟨⟨_⟩, ⟨_, _, _, _, _, _, _⟩, ⟨_, _⟩, ⟨_, _⟩, _⟩
  simp only [settings, List.forall_mem_append, List.forall_mem_map, value_within, id_eq] at hsettings
  simp only [ServerConfig.settings, ChannelsConfig.settings, RateLimits.settings, Limits.settings,
    List.forall_mem_cons, value_flag, value_number, Data.bool.injEq, Data.nat_inj, UInt8.toNat_inj,
    UInt16.toNat_inj, UInt32.toNat_inj] at hsettings
  simp_all only

theorem Overlays.unique (h : c.Overlays d) (h' : c'.Overlays d) : c = c' := by
  apply ext_settings
  · intro s hs
    rw [h.settings s hs, h'.settings s hs]
  · rcases h.catalog with ⟨hnone, hc⟩ | ⟨items, hsome, hgiven⟩ <;>
      rcases h'.catalog with ⟨hnone', hc'⟩ | ⟨items', hsome', hgiven'⟩
    · rw [hc, hc']
    · simp [hnone] at hsome'
    · simp [hsome] at hnone'
    · obtain rfl : items = items' := by simpa [hsome] using hsome'
      have hright : Relator.RightUnique CatalogEntry.IsGiven := fun _ _ _ h h' => h.unique h'
      exact hright.forall₂ hgiven hgiven'

theorem Overlays.of_agreesOutside {part : List String} (h : c.Overlays d)
    (hd : d.KeepsDefaults part) (hd' : d'.KeepsDefaults part) (hagrees : d.AgreesOutside d' part) :
    c.Overlays d' := by
  refine ⟨fun s hs => ?_, hagrees.catalog ▸ h.catalog⟩
  rw [h.settings s hs]
  by_cases hpart : part <+: s.path
  · have hdefault : ∀ {d : Data}, d.KeepsDefaults part →
        (d.at? s.path).getD (s.value {}) = s.value {} := by
      intro d hd
      cases hv : d.at? s.path with
      | none => rfl
      | some v => exact hd s hs hpart v hv
    rw [hdefault hd, hdefault hd']
  · rw [hagrees.settings s hs hpart]

theorem keepsDefaults_of_empty {part : List String} (hpart : part ∈ sections)
    (h : d.at? part = none ∨ d.at? part = some (.table [])) : d.KeepsDefaults part := by
  rintro s hs ⟨rest, hrest⟩ v hv
  have hne : rest ≠ [] := by
    rintro rfl
    rw [List.append_nil] at hrest
    have hsections : ∀ part ∈ sections, part ∉ settings.map path := by decide +kernel
    exact hsections part hpart (hrest ▸ List.mem_map_of_mem hs)
  rw [← hrest, Data.at?, List.foldlM_append] at hv
  rcases h with hnone | hempty
  · rw [Data.at?] at hnone
    rw [hnone] at hv
    cases hv
  · obtain ⟨key, keys, rfl⟩ := List.exists_cons_of_ne_nil hne
    rw [Data.at?] at hempty
    rw [hempty] at hv
    cases hv

/-- A document whose known settings have values that they admit is read as the one configuration that
overlays it on the defaults, whatever else it says. A section that is left out, empty or only gives
some of its defaults makes no difference. -/
theorem decoding_overlays (surplus : Surplus) :
    (∀ d : Data, d.IsConfig →
      ∃ c, ofData? surplus d = some c ∧ ∀ c' : Config, c'.Overlays d ↔ c' = c) ∧
    (∀ (d d' : Data) (part : List String), d.IsConfig → d'.IsConfig → d.KeepsDefaults part →
      d'.KeepsDefaults part → d.AgreesOutside d' part → ofData? surplus d = ofData? surplus d') ∧
    ∀ (d : Data), ∀ part ∈ sections, d.at? part = none ∨ d.at? part = some (.table []) →
      d.KeepsDefaults part := by
  refine ⟨?_, ?_, fun d part => keepsDefaults_of_empty⟩
  · intro d h
    obtain ⟨c, hc, hoverlays⟩ := ofData?_overlays surplus h
    refine ⟨c, hc, fun c' => ⟨fun h' => h'.unique hoverlays, ?_⟩⟩
    rintro rfl
    exact hoverlays
  · intro d d' part h h' hd hd' hagrees
    obtain ⟨c, hc, hoverlays⟩ := ofData?_overlays surplus h
    obtain ⟨c', hc', hoverlays'⟩ := ofData?_overlays surplus h'
    rw [hc, hc', (hoverlays.of_agreesOutside hd hd' hagrees).unique hoverlays']

/-- Limits that are left out, empty or partly given at their defaults, beside a burst that is not the
default, an entry without flags and some unknown keys. -/
theorem decoding_overlays_limits :
    let document (limits : List (String × Data)) : Data := .table (limits ++ [
      ("security", .table [("rate_limits", .table [("say_burst", .nat 9)]), ("audit", .null)]),
      ("catalog", .list [.table [("name", .text "Trade"), ("id", .nat 2), ("hue", .nat 7)]])])
    let omitted := document []
    let empty := document [("limits", .table [])]
    let partly := document [("limits", .table [("max_channel_name_length", .nat 64)])]
    let expected : Config := {
      rateLimits := { sayBurst := 9 }, catalog := [{ name := "Trade", id := 2 }] }
    omitted.IsConfig ∧ empty.IsConfig ∧ partly.IsConfig ∧
      ofData? .refused omitted = some expected ∧ (∀ c : Config, c.Overlays omitted ↔ c = expected) ∧
      ofData? .refused empty = some expected ∧ ofData? .refused partly = some expected := by
  intro document omitted empty partly expected
  obtain ⟨hdecode, hsame, hempty⟩ := decoding_overlays .refused
  have hread : ofData? .refused omitted = some expected := rfl
  have hcatalog : ∀ d : Data, d.get? "catalog" = omitted.get? "catalog" →
      ∀ v, d.get? "catalog" = some v →
        ∃ items, v = .list items ∧ ∀ item ∈ items, item.IsEntry := by
    intro d hd v hv
    obtain rfl : _ = v := Option.some.inj (hd.symm.trans hv)
    refine ⟨_, rfl, ?_⟩
    simp only [List.mem_singleton, forall_eq]
    exact ⟨⟨"Trade", rfl⟩, ⟨2, by decide, rfl⟩, by decide +kernel⟩
  have homitted : omitted.IsConfig := ⟨by decide +kernel, hcatalog _ rfl⟩
  have hempty' : empty.IsConfig := ⟨by decide +kernel, hcatalog _ rfl⟩
  have hpartly : partly.IsConfig := ⟨by decide +kernel, hcatalog _ rfl⟩
  have hdefaults : partly.KeepsDefaults ["limits"] := by
    simp only [Data.KeepsDefaults, settings, Limits.settings, List.forall_mem_append,
      List.forall_mem_map, List.forall_mem_cons, path_within, List.cons_prefix_cons]
    refine ⟨⟨⟨by simp, by simp⟩, by simp⟩, fun _ v hv => ?_, fun _ v hv => ?_, by simp⟩
    · cases hv
    · exact (Option.some.inj hv).symm
  have hagrees : ∀ limits : Data, omitted.AgreesOutside (document [("limits", limits)]) ["limits"] := by
    intro limits
    refine ⟨?_, rfl⟩
    simp only [settings, List.forall_mem_append, List.forall_mem_map, path_within,
      List.cons_prefix_cons]
    refine ⟨⟨⟨fun _ _ _ => rfl, fun _ _ _ => rfl⟩, fun _ _ _ => rfl⟩, ?_⟩
    simp
  obtain ⟨c, hc, hoverlays⟩ := hdecode omitted homitted
  obtain rfl : expected = c := Option.some.inj (hread.symm.trans hc)
  have hlimits : ["limits"] ∈ sections := by decide
  have homitted' := hempty omitted _ hlimits (.inl rfl)
  refine ⟨homitted, hempty', hpartly, hread, hoverlays, ?_, ?_⟩
  · rw [← hread]
    exact (hsame omitted empty _ homitted hempty' homitted' (hempty empty _ hlimits (.inr rfl))
      (hagrees _)).symm
  · rw [← hread]
    exact (hsame omitted partly _ homitted hpartly homitted' hdefaults (hagrees _)).symm

end Config
end ChatChannels
