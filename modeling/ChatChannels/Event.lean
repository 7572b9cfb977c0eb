import ChatChannels.Message
import ChatChannels.Refusal

/-! What happens while requests are handled: messages handed over for delivery, and the facts that
metrics count. -/
namespace ChatChannels

inductive Event where
  | delivered (recipient : PlayerId) (m : Message)
  /-- A broadcast or a line of chat has gone to so many players. -/
  | fannedOut (recipients : Nat)
  | converted (toStatic : Bool)
  | commanded (command : String)
  | refused (command : String) (cause : Refusal)
  | opened
  | closed
  /-- A channel has so many members now. -/
  | counted (channel : String) (members : Nat)
  /-- The members of a channel are no longer counted. -/
  | uncounted (channel : String)
deriving DecidableEq

namespace Event

def delivery? : Event → Option (PlayerId × Message)
  | .delivered recipient m => some (recipient, m)
  | _ => none

def deliveries (events : List Event) : List (PlayerId × Message) := events.filterMap delivery?

@[simp] theorem deliveries_nil : deliveries [] = [] := rfl

@[simp] theorem deliveries_append (a b : List Event) :
    deliveries (a ++ b) = deliveries a ++ deliveries b := List.filterMap_append

end Event
end ChatChannels
