import ChatChannels.Player

/-! The standing of a member in a channel, and the byte in which clients see it. -/
namespace ChatChannels

structure Role where
  owner : Bool := false
  moderator : Bool := false
  muted : Bool := false
deriving DecidableEq, Inhabited

namespace Role

/-- Owner is bit 0, moderator bit 1 and muted bit 3. -/
def bits (r : Role) : UInt8 :=
  (if r.owner then 0x01 else 0) ||| (if r.moderator then 0x02 else 0) |||
    (if r.muted then 0x08 else 0)

def ofBits? (b : UInt8) : Option Role :=
  let r : Role := ⟨b &&& 0x01 != 0, b &&& 0x02 != 0, b &&& 0x08 != 0⟩
  if r.bits = b then some r else none

theorem ofBits?_bits (r : Role) : ofBits? r.bits = some r := by
  obtain ⟨owner, moderator, muted⟩ := r
  cases owner <;> cases moderator <;> cases muted <;> decide

theorem bits_inj {r s : Role} : r.bits = s.bits ↔ r = s :=
  ⟨fun h => Option.some.inj (by rw [← ofBits?_bits r, ← ofBits?_bits s, h]), congrArg bits⟩

def decode (raw : UInt8) : Except UnknownValue Role :=
  match ofBits? raw with
  | some r => .ok r
  | none => .error (.roleBits raw)

def union (r s : Role) : Role :=
  ⟨r.owner || s.owner, r.moderator || s.moderator, r.muted || s.muted⟩

def text (r : Role) : String := Text.hexByte r.bits
def data (r : Role) : Data := .nat r.bits.toNat
def ofData? (d : Data) : Option Role := d.byte?.bind ofBits?

end Role

structure RoleChange where
  player : PlayerId
  old : Role
  new : Role
deriving DecidableEq

end ChatChannels
