/-! Finite maps kept as lists of pairs with distinct keys, in the order in which the keys came in. -/
namespace ChatChannels

structure Dict (κ α : Type) where
  entries : List (κ × α)
  nodup : (entries.map Prod.fst).Nodup

namespace Dict

variable {κ α : Type}

@[ext] theorem ext {d e : Dict κ α} (h : d.entries = e.entries) : d = e := by
  cases d; cases e; simp_all

def empty : Dict κ α := ⟨[], by simp⟩

instance : EmptyCollection (Dict κ α) := ⟨empty⟩

def keys (d : Dict κ α) : List κ := d.entries.map Prod.fst

def values (d : Dict κ α) : List α := d.entries.map Prod.snd

def size (d : Dict κ α) : Nat := d.entries.length

variable [DecidableEq κ]

def find? (d : Dict κ α) (k : κ) : Option α :=
  (d.entries.find? fun e => e.1 = k).map Prod.snd

def contains (d : Dict κ α) (k : κ) : Bool := (d.find? k).isSome

/-- Writes a value in place, or at the end under a new key. -/
def putEntry (k : κ) (v : α) : List (κ × α) → List (κ × α)
  | [] => [(k, v)]
  | e :: rest => if e.1 = k then (k, v) :: rest else e :: putEntry k v rest

theorem mem_keys_putEntry {k : κ} {v : α} {l : List (κ × α)} {x : κ} :
    x ∈ (putEntry k v l).map Prod.fst ↔ x = k ∨ x ∈ l.map Prod.fst := by
  induction l with
  | nil => simp [putEntry]
  | cons e rest ih =>
    by_cases h : e.1 = k
    · subst h
      simp [putEntry]
    · simp only [putEntry, if_neg h, List.map_cons, List.mem_cons, ih]
      exact or_left_comm

theorem nodup_keys_putEntry {k : κ} {v : α} {l : List (κ × α)} (h : (l.map Prod.fst).Nodup) :
    ((putEntry k v l).map Prod.fst).Nodup := by
  induction l with
  | nil => simp [putEntry]
  | cons e rest ih =>
    rw [List.map_cons, List.nodup_cons] at h
    by_cases hk : e.1 = k
    · subst hk; simpa [putEntry] using h
    · simp only [putEntry, if_neg hk, List.map_cons, List.nodup_cons, mem_keys_putEntry]
      exact ⟨fun hm => hm.elim hk h.1, ih h.2⟩

/-- A key that is present keeps its place. -/
def insert (d : Dict κ α) (k : κ) (v : α) : Dict κ α :=
  ⟨putEntry k v d.entries, nodup_keys_putEntry d.nodup⟩

def erase (d : Dict κ α) (k : κ) : Dict κ α :=
  ⟨d.entries.filter fun e => e.1 ≠ k,
    d.nodup.sublist ((List.filter_sublist).map Prod.fst)⟩

/-- Of two pairs with one key the later one counts. -/
def ofList (l : List (κ × α)) : Dict κ α := l.foldl (fun d e => d.insert e.1 e.2) ∅

@[simp] theorem find?_empty (k : κ) : (∅ : Dict κ α).find? k = none := rfl

theorem find?_putEntry (k : κ) (v : α) (l : List (κ × α)) (x : κ) :
    ((putEntry k v l).find? fun e => e.1 = x).map Prod.snd =
      if x = k then some v else (l.find? fun e => e.1 = x).map Prod.snd := by
  induction l with
  | nil => by_cases h : k = x <;> simp [putEntry, h, eq_comm]
  | cons e rest ih =>
    by_cases h : e.1 = k
    · subst h
      by_cases hx : e.1 = x
      · simp [putEntry, hx]
      · simp [putEntry, hx, Ne.symm hx]
    · rw [putEntry, if_neg h]
      by_cases hx : e.1 = x
      · subst hx
        simp [h]
      · simpa [List.find?_cons_of_neg, hx] using ih

theorem find?_insert (d : Dict κ α) (k : κ) (v : α) (x : κ) :
    (d.insert k v).find? x = if x = k then some v else d.find? x :=
  find?_putEntry k v d.entries x

@[simp] theorem find?_insert_self (d : Dict κ α) (k : κ) (v : α) :
    (d.insert k v).find? k = some v := by simp [find?_insert]

theorem find?_erase (d : Dict κ α) (k x : κ) :
    (d.erase k).find? x = if x = k then none else d.find? x := by
  obtain ⟨l, hl⟩ := d
  simp only [find?, erase]
  clear hl
  induction l with
  | nil => simp
  | cons e rest ih =>
    by_cases h : e.1 = k
    · subst h
      by_cases hx : e.1 = x
      · subst hx
        simp
      · simpa [hx] using ih
    · by_cases hx : e.1 = x
      · subst hx
        simp [h]
      · simpa [h, hx] using ih

@[simp] theorem find?_erase_self (d : Dict κ α) (k : κ) : (d.erase k).find? k = none := by
  simp [find?_erase]

end Dict
end ChatChannels
