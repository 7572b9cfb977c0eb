import ChatChannels.Directory
import ChatChannels.Ignores

/-! What surrounds the channels: the players online and their ignore lists. -/
namespace ChatChannels

structure World where
  directory : Directory := ∅
  ignores : Ignores := ∅

instance : EmptyCollection World := ⟨{}⟩

def World.isOnline (w : World) (id : PlayerId) : Bool := w.directory.isOnline id

end ChatChannels
