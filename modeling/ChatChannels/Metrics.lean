import ChatChannels.Dict
import ChatChannels.Event

/-! Metrics of a service, counted from its events, and their text in the Prometheus format. -/
namespace ChatChannels

/-- How many recipients broadcasts had: their number, their sum, and how many had at most each
bound. -/
structure Histogram where
  count : Nat := 0
  sum : Nat := 0
  buckets : List (Nat × Nat) :=
    [1, 5, 10, 25, 50, 100, 250, 500, 1000].map fun bound => (bound, 0)

def Histogram.observe (h : Histogram) (n : Nat) : Histogram where
  count := h.count + 1
  sum := h.sum + n
  buckets := h.buckets.map fun (bound, k) => (bound, if n ≤ bound then k + 1 else k)

structure Metrics where
  activeChannels : Int := 0
  channelMembers : Dict String Nat := ∅
  commands : Dict String Nat := ∅
  refusals : Dict (String × String) Nat := ∅
  throttledSpeech : Nat := 0
  conversions : Dict String Nat := ∅
  fanOut : Histogram := {}

def Dict.increment {κ : Type} [DecidableEq κ] (d : Dict κ Nat) (k : κ) : Dict κ Nat :=
  d.insert k ((d.find? k).getD 0 + 1)

namespace Metrics

def record (m : Metrics) : Event → Metrics
  | .delivered .. => m
  | .fannedOut n => { m with fanOut := m.fanOut.observe n }
  | .converted toStatic =>
    { m with conversions := m.conversions.increment (if toStatic then "static" else "dynamic") }
  | .commanded command => { m with commands := m.commands.increment command }
  | .refused command cause =>
    { m with
      refusals := m.refusals.increment (command, cause.code)
      throttledSpeech := m.throttledSpeech + if cause = .throttled then 1 else 0 }
  | .opened => { m with activeChannels := m.activeChannels + 1 }
  | .closed => { m with activeChannels := m.activeChannels - 1 }
  | .counted channel members =>
    { m with channelMembers := m.channelMembers.insert channel members }
  | .uncounted channel => { m with channelMembers := m.channelMembers.erase channel }

def ofEvents (events : List Event) : Metrics := events.foldl record {}

/-- A label value between quotes, with backslash, quote and line break escaped. -/
private def labelValue (s : String) : String :=
  let escape : Char → List Char
    | '\\' => ['\\', '\\']
    | '"' => ['\\', '"']
    | '\n' => ['\\', 'n']
    | c => [c]
  "\"" ++ String.ofList (s.toList.flatMap escape) ++ "\""

private def line (family : String) (labels : List (String × String)) (value : String) : String :=
  let shown := labels.map fun (name, v) => name ++ "=" ++ labelValue v
  family ++ (if labels.isEmpty then "" else "\x7b" ++ ",".intercalate shown ++ "\x7d") ++ " " ++
    value

private def labelled (family label : String) (d : Dict String Nat) : List String :=
  (d.entries.mergeSort fun a b => a.1 ≤ b.1).map fun (v, n) =>
    line family [(label, v)] (toString n)

/-- All counts but those that depend on the clock and the fan-out, families and labels sorted. -/
def lines (m : Metrics) : List String :=
  let byPair (a b : (String × String) × Nat) : Bool :=
    a.1.1 < b.1.1 || (a.1.1 = b.1.1 && a.1.2 ≤ b.1.2)
  [line "channeld_active_channels" [] (toString m.activeChannels)] ++
  labelled "channeld_channel_members" "channel" m.channelMembers ++
  labelled "channeld_command_duration_seconds_count" "command" m.commands ++
  ((m.refusals.entries.mergeSort byPair).map fun ((command, error), n) =>
    line "channeld_command_errors_total" [("command", command), ("error", error)] (toString n)) ++
  labelled "channeld_command_total" "command" m.commands ++
  [line "channeld_speech_throttled_total" [] (toString m.throttledSpeech)] ++
  labelled "channeld_static_conversions_total" "direction" m.conversions

end Metrics
end ChatChannels
