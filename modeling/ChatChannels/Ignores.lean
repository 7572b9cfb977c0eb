import ChatChannels.Player

/-! Who ignores whom. -/
namespace ChatChannels

structure Ignores where
  pairs : List (PlayerId × PlayerId) := []
deriving DecidableEq

namespace Ignores

instance : EmptyCollection Ignores := ⟨{}⟩

def has (i : Ignores) (who whom : PlayerId) : Bool := (who, whom) ∈ i.pairs

def add (i : Ignores) (who whom : PlayerId) : Ignores :=
  if i.has who whom then i else ⟨(who, whom) :: i.pairs⟩

def remove (i : Ignores) (who whom : PlayerId) : Ignores := ⟨i.pairs.filter (· ≠ (who, whom))⟩

theorem has_add (i : Ignores) (who whom a b : PlayerId) :
    (i.add who whom).has a b = (decide ((a, b) = (who, whom)) || i.has a b) := by
  unfold add
  split <;> by_cases h : (a, b) = (who, whom) <;> simp_all [has]

theorem has_remove (i : Ignores) (who whom a b : PlayerId) :
    (i.remove who whom).has a b = (decide ((a, b) ≠ (who, whom)) && i.has a b) := by
  unfold has remove
  by_cases h : (a, b) = (who, whom)
  · simp [h]
  · simp [List.mem_filter, h]

end Ignores
end ChatChannels
