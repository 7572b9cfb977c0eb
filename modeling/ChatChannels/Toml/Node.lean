import ChatChannels.Data

/-! A document under construction. Tables remember how they came about, because that decides who may
still add to them: a table may be opened once, and dotted keys only add to tables that dotted keys
or headers of subtables have made. -/
namespace ChatChannels.Toml

inductive Origin where
  /-- By a header of its own, or as a written value. -/
  | header
  /-- By the header of a subtable. -/
  | implied
  /-- By a dotted key. -/
  | dotted
deriving DecidableEq

inductive Node where
  | value (d : Data)
  | table (origin : Origin) (entries : List (String × Node))
  /-- The tables of repeated headers, in order. -/
  | tables (items : List (List (String × Node)))
deriving Inhabited

abbrev Entries := List (String × Node)

namespace Node

mutual

def data : Node → Data
  | .value d => d
  | .table _ entries => .table (entriesData entries)
  | .tables items => .list (itemsData items)

def entriesData : List (String × Node) → List (String × Data)
  | [] => []
  | (key, node) :: rest => (key, node.data) :: entriesData rest

def itemsData : List (List (String × Node)) → List Data
  | [] => []
  | entries :: rest => .table (entriesData entries) :: itemsData rest

end

end Node

namespace Entries

def find? (es : Entries) (key : String) : Option Node :=
  (List.find? (fun e => e.1 = key) es).map Prod.snd

def put (key : String) (node : Node) : Entries → Entries
  | [] => [(key, node)]
  | e :: rest => if e.1 = key then (key, node) :: rest else e :: put key node rest

/-- Changes the table that a path leads to, making missing tables on the way. Of repeated tables a
path enters the last one, and a dotted key enters no table that has a header. -/
def changeAt (dotted : Bool) (change : Origin → Entries → Option Entries) :
    List String → Origin → Entries → Option Entries
  | [], origin, es => change origin es
  | key :: path, _, es =>
    match find? es key with
    | none => do
      let origin := if dotted then .dotted else .implied
      return put key (.table origin (← changeAt dotted change path origin [])) es
    | some (.value _) => none
    | some (.table origin sub) =>
      if dotted && origin = .header then none
      else do return put key (.table origin (← changeAt dotted change path origin sub)) es
    | some (.tables items) =>
      match items.getLast? with
      | none => none
      | some last => do
        let last ← changeAt dotted change path .header last
        return put key (.tables (items.dropLast ++ [last])) es

/-- Adds a value under a new key. A dotted key adds to a table of dotted keys only, and a plain key
to none of those. -/
def addValue (isDotted : Bool) (key : String) (d : Data) (origin : Origin) (es : Entries) :
    Option Entries :=
  if (origin = .dotted) = isDotted && (find? es key).isNone then
    some (put key (.value d) es)
  else none

def insert (path : List String) (key : String) (d : Data) (origin : Origin) (es : Entries) :
    Option Entries :=
  changeAt true (addValue (!path.isEmpty) key d) path origin es

/-- Opens a table by its header; one that only its subtables have implied may still be opened. -/
def openTable (path : List String) (key : String) (es : Entries) : Option Entries :=
  changeAt false (fun _ es =>
    match find? es key with
    | none => some (put key (.table .header []) es)
    | some (.table .implied sub) => some (put key (.table .header sub) es)
    | _ => none) path .header es

def openItem (path : List String) (key : String) (es : Entries) : Option Entries :=
  changeAt false (fun _ es =>
    match find? es key with
    | none => some (put key (.tables [[]]) es)
    | some (.tables items) => some (put key (.tables (items ++ [[]])) es)
    | _ => none) path .header es

def insertBelow (opened path : List String) (key : String) (d : Data) (es : Entries) :
    Option Entries :=
  changeAt false (insert path key d) opened .header es

end Entries
end ChatChannels.Toml
