import ChatChannels.Toml.Statement

/-! Documents in TOML, version 1.0, read as plain data. -/
namespace ChatChannels.Toml

/-- A document so far, and the path to the table that the last header opened. -/
structure Draft where
  entries : Entries := []
  opened : List String := []

def Draft.add (draft : Draft) : Statement → Option Draft
  | .pair path key d => do
    return { draft with entries := ← draft.entries.insertBelow draft.opened path key d }
  | .table path key => do
    return { entries := ← draft.entries.openTable path key, opened := path ++ [key] }
  | .item path key => do
    return { entries := ← draft.entries.openItem path key, opened := path ++ [key] }

def parse? (text : String) : Option Data := do
  let (found, _) ← statements.run text.toList
  let draft ← found.foldlM Draft.add {}
  return .table (Node.entriesData draft.entries)

end ChatChannels.Toml
