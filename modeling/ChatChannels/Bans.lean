import ChatChannels.Player

/-! The players banned from a channel, in ascending order of identity. -/
namespace ChatChannels

structure Bans where
  ids : List PlayerId := []
deriving DecidableEq

namespace Bans

instance : EmptyCollection Bans := ⟨{}⟩

def contains (b : Bans) (p : PlayerId) : Bool := p ∈ b.ids

/-- Puts an identity before the first that is not smaller, unless it is there already. -/
def place (p : PlayerId) : List PlayerId → List PlayerId
  | [] => [p]
  | q :: rest =>
    if p.toNat < q.toNat then p :: q :: rest
    else if p = q then q :: rest
    else q :: place p rest

def add (b : Bans) (p : PlayerId) : Bans := ⟨place p b.ids⟩

def remove (b : Bans) (p : PlayerId) : Bans := ⟨b.ids.filter (· ≠ p)⟩

theorem mem_place {p q : PlayerId} {l : List PlayerId} : q ∈ place p l ↔ q = p ∨ q ∈ l := by
  induction l with
  | nil => simp [place]
  | cons r rest ih =>
    unfold place
    split
    · rw [List.mem_cons]
    · split
      next he => simp [he]
      next =>
        rw [List.mem_cons, ih, List.mem_cons]
        exact or_left_comm

@[simp] theorem contains_add (b : Bans) (p q : PlayerId) :
    (b.add p).contains q = (decide (q = p) || b.contains q) := by
  simp [contains, add, mem_place, Bool.decide_or]

@[simp] theorem contains_remove (b : Bans) (p q : PlayerId) :
    (b.remove p).contains q = (decide (q ≠ p) && b.contains q) := by
  by_cases h : q = p <;> simp [contains, remove, h]

end Bans
end ChatChannels
