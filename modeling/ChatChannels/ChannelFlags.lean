import ChatChannels.Data
import ChatChannels.Text.Numeral

/-! The classification byte of a channel. -/
namespace ChatChannels

structure ChannelFlags where
  bits : UInt8
deriving DecidableEq, Inhabited

namespace ChannelFlags

/-- Made by a user. -/
def custom : ChannelFlags := ⟨0x01⟩
def trade : ChannelFlags := ⟨0x04⟩
/-- Built in, and not the channel for finding groups. -/
def notGroupFinding : ChannelFlags := ⟨0x08⟩
def general : ChannelFlags := ⟨0x10⟩
def city : ChannelFlags := ⟨0x20⟩
def groupFinding : ChannelFlags := ⟨0x40⟩

def union (a b : ChannelFlags) : ChannelFlags := ⟨a.bits ||| b.bits⟩

instance : OrOp ChannelFlags := ⟨union⟩

def contains (a b : ChannelFlags) : Bool := a.bits &&& b.bits == b.bits

def text (f : ChannelFlags) : String := Text.hexByte f.bits
def data (f : ChannelFlags) : Data := .nat f.bits.toNat
def ofData? (d : Data) : Option ChannelFlags := d.byte?.map mk

end ChannelFlags
end ChatChannels
