import ChatChannels.Config

/-! Configurations read from plain data. A known key overwrites the default of its setting, an
unknown key is ignored, and a value of the wrong type or out of range is refused. A section may
also be a list that gives its settings in order. -/
namespace ChatChannels

/-- Whether a list may hold more values than its section has settings. -/
inductive Surplus where
  | allowed
  | refused
deriving DecidableEq

namespace Data

def isSection (surplus : Surplus) (size : Nat) : Data → Bool
  | .table _ => true
  | .list items => surplus = .allowed || items.length ≤ size
  | _ => false

/-- A setting of a section, by its key in a table and by its place in a list. -/
def setting? (d : Data) (place : Nat) (key : String) : Option Data :=
  match d with
  | .list items => items[place]?
  | _ => d.get? key

/-- An absent setting has its default. -/
def settingOr {α : Type} (d : Data) (place : Nat) (key : String) (read : Data → Option α)
    (default : α) : Option α :=
  match d.setting? place key with
  | none => some default
  | some v => read v

/-- A count of things held in memory has 64 bits. -/
def count? : Data → Option Nat := natBelow? UInt64.size

end Data

variable (surplus : Surplus)

def CatalogEntry.ofData? (d : Data) : Option CatalogEntry := do
  guard (d.isSection surplus 5)
  return {
    name := ← (d.setting? 0 "name").bind Data.text?
    id := ← (d.setting? 1 "id").bind Data.word32?
    trade := ← d.settingOr 2 "trade" Data.bool? false
    city := ← d.settingOr 3 "city" Data.bool? false
    groupFinding := ← d.settingOr 4 "lfg" Data.bool? false }

def ServerConfig.ofData? (d : Data) : Option ServerConfig := do
  guard (d.isSection surplus 1)
  return { metricsPort := ← d.settingOr 0 "metrics_port" Data.word16? 0 }

def ChannelsConfig.ofData? (d : Data) : Option ChannelsConfig := do
  guard (d.isSection surplus 7)
  return {
    gmJoinSilently := ← d.settingOr 0 "gm_join_silently" Data.bool? false
    crossFaction := ← d.settingOr 1 "cross_faction" Data.bool? false
    restrictedLanguageMode := ← d.settingOr 2 "restricted_language_mode" Data.byte? 0
    staticAutoThreshold := ← d.settingOr 3 "static_auto_threshold" Data.count? 0
    gmLevelInWhoList := ← d.settingOr 4 "gm_level_in_who_list" Data.byte? 0
    localDefenseMinRank := ← d.settingOr 5 "local_defense_min_rank" Data.byte? 0
    worldDefenseMinRank := ← d.settingOr 6 "world_defense_min_rank" Data.byte? 6 }

def RateLimits.ofData? (d : Data) : Option RateLimits := do
  guard (d.isSection surplus 2)
  return {
    sayRatePerSecond := ← d.settingOr 0 "say_rate_per_second" Data.word32? 0
    sayBurst := ← d.settingOr 1 "say_burst" Data.word32? 5 }

def RateLimits.ofSecurity? (d : Data) : Option RateLimits := do
  guard (d.isSection surplus 1)
  d.settingOr 0 "rate_limits" (RateLimits.ofData? surplus) {}

def Limits.ofData? (d : Data) : Option Limits := do
  guard (d.isSection surplus 2)
  return {
    mailboxCapacity := ← d.settingOr 0 "mailbox_capacity" Data.count? 100
    maxNameLength := ← d.settingOr 1 "max_channel_name_length" Data.count? 64 }

def catalogOfData? : Data → Option (List CatalogEntry)
  | .list items => items.mapM (CatalogEntry.ofData? surplus)
  | _ => none

def Config.ofData? (d : Data) : Option Config := do
  guard (d.isSection surplus 5)
  return {
    server := ← d.settingOr 0 "server" (ServerConfig.ofData? surplus) {}
    channels := ← d.settingOr 1 "channels" (ChannelsConfig.ofData? surplus) {}
    rateLimits := ← d.settingOr 2 "security" (RateLimits.ofSecurity? surplus) {}
    limits := ← d.settingOr 3 "limits" (Limits.ofData? surplus) {}
    catalog := ← d.settingOr 4 "catalog" (catalogOfData? surplus) [] }

end ChatChannels
