import ChatChannels.Config
import ChatChannels.Text.Lowercase
import ChatChannels.Text.Token

/-! Checks of a configuration that its types do not make. All faults are found, the scalar ones
first and then those of each catalog entry in turn. -/
namespace ChatChannels

inductive ConfigFault where
  | languageMode (mode : UInt8)
  | whoListLevel (level : UInt8)
  | zeroMailboxCapacity
  | zeroNameLength
  | zeroCatalogId (name : String)
  | duplicateCatalogId (id : UInt32)
  | emptyCatalogName (id : UInt32)
  | duplicateCatalogName (name : String)
deriving DecidableEq

def ConfigFault.message : ConfigFault → String
  | .languageMode mode => s!"channels.restricted_language_mode must be 0..=3, got {mode}"
  | .whoListLevel level => s!"channels.gm_level_in_who_list must be 0..=3, got {level}"
  | .zeroMailboxCapacity => "limits.mailbox_capacity must be non-zero"
  | .zeroNameLength => "limits.max_channel_name_length must be non-zero"
  | .zeroCatalogId name => s!"catalog entry '{name}' has id 0; built-in ids must be non-zero"
  | .duplicateCatalogId id => s!"catalog id {id} is used more than once"
  | .emptyCatalogName id => s!"catalog entry with id {id} has an empty name"
  | .duplicateCatalogName name => s!"catalog name '{name}' is used more than once"

namespace CatalogEntry

def hasBlankName (e : CatalogEntry) : Bool := (Text.trim e.name.toList).isEmpty

def key (e : CatalogEntry) : String := Text.lowercase e.name

/-- The faults of entries in order, given the identities and the keys seen before them. An entry
without an identity or a name uses up none. -/
def faults (ids : List UInt32) (keys : List String) : List CatalogEntry → List ConfigFault
  | [] => []
  | e :: rest =>
    let idFaults :=
      if e.id = 0 then [.zeroCatalogId e.name]
      else if e.id ∈ ids then [.duplicateCatalogId e.id] else []
    let nameFaults :=
      if e.hasBlankName then [.emptyCatalogName e.id]
      else if e.key ∈ keys then [.duplicateCatalogName e.name] else []
    let ids := if e.id = 0 then ids else e.id :: ids
    let keys := if e.hasBlankName then keys else e.key :: keys
    idFaults ++ nameFaults ++ faults ids keys rest

end CatalogEntry

namespace Config

def scalarFaults (c : Config) : List ConfigFault :=
  (if 3 < c.channels.restrictedLanguageMode then
    [.languageMode c.channels.restrictedLanguageMode] else []) ++
  (if 3 < c.channels.gmLevelInWhoList then [.whoListLevel c.channels.gmLevelInWhoList] else []) ++
  (if c.limits.mailboxCapacity = 0 then [.zeroMailboxCapacity] else []) ++
  (if c.limits.maxNameLength = 0 then [.zeroNameLength] else [])

/-- All faults of a configuration; a valid one has none. -/
def faults (c : Config) : List ConfigFault :=
  c.scalarFaults ++ CatalogEntry.faults [] [] c.catalog

end Config
end ChatChannels
