import ChatChannels.Directory
import ChatChannels.Proofs.Dict
import Mathlib.Data.List.Induction

/-! The index of names after any logins and logouts. A name has one entry, however many players bear
it, and whoever gives the name up takes the entry along. So a player who bears a name alone is found
by it exactly if nobody else has borne it since they logged in. -/
namespace ChatChannels

/-- What the index knows a player by. -/
def Player.key (p : Player) : String := Text.lowercase p.name

namespace Directory

/-- A login may also replace a record, under the same name or another. -/
inductive Change where
  | login (p : Player)
  | logout (id : PlayerId)

def change (d : Directory) : Change → Directory
  | .login p => d.insert p
  | .logout id => d.remove id

/-- The directory that changes make of an empty one. -/
def after (changes : List Change) : Directory := changes.foldl change ∅

def key? (d : Directory) (id : PlayerId) : Option String := (d.player? id).map Player.key

/-- The player is online, and nobody else online bears the name in any spelling. -/
structure Sole (d : Directory) (p : Player) : Prop where
  online : d.player? p.id = some p
  alone : ∀ id, id ≠ p.id → d.key? id ≠ some p.key

/-- The player logged in at some point, and has been the only one of the name at every moment from
then on. -/
def SoleSinceLogin (changes : List Change) (p : Player) : Prop :=
  ∃ before later, changes = before ++ .login p :: later ∧
    ∀ part, part <+: later → (after (before ++ .login p :: part)).Sole p

/-- The entry at the player's name leads to the player. -/
def Listed (d : Directory) (p : Player) : Prop := d.names.find? p.key = some p.id

theorem after_concat (changes : List Change) (c : Change) :
    after (changes ++ [c]) = (after changes).change c := by
  rw [after, List.foldl_append]
  rfl

variable (d : Directory) (p : Player) (id id' : PlayerId) (name : String)

/-! ## One change -/

@[simp] theorem player?_empty : (∅ : Directory).player? id = none := rfl

theorem player?_insert :
    (d.insert p).player? id = if id = p.id then some p else d.player? id :=
  Dict.find?_insert d.players p.id p id

theorem player?_remove :
    (d.remove id').player? id = if id = id' then none else d.player? id := by
  unfold remove
  split
  next => exact Dict.find?_erase d.players id' id
  next hoff =>
    split
    next he => rw [he, hoff]
    next => rfl

theorem isOnline_insert : (d.insert p).isOnline id = (decide (id = p.id) || d.isOnline id) := by
  rw [isOnline, isOnline, player?_insert]
  split
  next he => simp [he]
  next he => simp [he]

theorem isOnline_remove : (d.remove id').isOnline id = (decide (id ≠ id') && d.isOnline id) := by
  rw [isOnline, isOnline, player?_remove]
  split
  next he => simp [he]
  next he => simp [he]

theorem key?_insert : (d.insert p).key? id = if id = p.id then some p.key else d.key? id := by
  rw [key?, player?_insert]
  split <;> rfl

theorem key?_remove : (d.remove id').key? id = if id = id' then none else d.key? id := by
  rw [key?, player?_remove]
  split <;> rfl

/-- A login takes the entry of its name over and drops the one of the name the player had. -/
theorem names_insert (k : String) :
    (d.insert p).names.find? k =
      if k = p.key then some p.id
      else if d.key? p.id = some k then none
      else d.names.find? k := by
  unfold insert key?
  rw [Dict.find?_insert]
  by_cases h : k = p.key
  · exact (if_pos h).trans (if_pos h).symm
  · rw [if_neg h, if_neg (by exact h)]
    cases d.player? p.id with
    | none => rfl
    | some old =>
      rw [Dict.find?_erase]
      by_cases hold : k = Text.lowercase old.name <;> simp [Player.key, hold, Ne.symm]

/-- A logout drops the entry of the player's name, to whomever it leads. -/
theorem names_remove (k : String) :
    (d.remove id).names.find? k = if d.key? id = some k then none else d.names.find? k := by
  unfold remove key?
  cases d.player? id with
  | none => rfl
  | some old =>
    dsimp only
    rw [Dict.find?_erase]
    by_cases hold : k = Text.lowercase old.name <;> simp [Player.key, hold, Ne.symm]

/-! ## Records under their own identity -/

def Keyed (d : Directory) : Prop := ∀ id p, d.player? id = some p → p.id = id

variable {d p name}

theorem Keyed.insert (h : d.Keyed) (p : Player) : (d.insert p).Keyed := by
  intro id q hq
  rw [player?_insert] at hq
  split at hq
  next he =>
    cases hq
    exact he.symm
  next => exact h id q hq

theorem Keyed.remove (h : d.Keyed) (id' : PlayerId) : (d.remove id').Keyed := by
  intro id q hq
  rw [player?_remove] at hq
  split at hq
  next => cases hq
  next => exact h id q hq

theorem keyed_after (changes : List Change) : (after changes).Keyed := by
  induction changes using List.reverseRecOn with
  | nil => exact fun id p h => by cases h
  | append_singleton changes c ih =>
    rw [after_concat]
    cases c with
    | login p => exact ih.insert p
    | logout id => exact ih.remove id

theorem Keyed.findByName_eq_some_iff (h : d.Keyed) :
    d.findByName name = some p ↔
      d.names.find? (Text.lowercase name) = some p.id ∧ d.player? p.id = some p := by
  rw [findByName, Option.bind_eq_some_iff]
  constructor
  · rintro ⟨id, hid, hp⟩
    obtain rfl := h id p hp
    exact ⟨hid, hp⟩
  · rintro ⟨hid, hp⟩
    exact ⟨p.id, hid, hp⟩

/-! ## One name alone -/

/-- Nobody else had the name before a change that leaves it to one player, unless the entry went
with whoever had it. -/
theorem Sole.listed_insert (q : Player) (hsole : (d.insert q).Sole p) :
    (d.insert q).Listed p ↔ q = p ∨ d.Sole p ∧ d.Listed p := by
  have honline := hsole.online
  rw [player?_insert] at honline
  by_cases hid : p.id = q.id
  · rw [if_pos hid] at honline
    obtain rfl := Option.some.inj honline
    simp [Listed, names_insert]
  · rw [if_neg hid] at honline
    have hqp : q ≠ p := fun he => hid (congrArg Player.id he).symm
    have hkey : p.key ≠ q.key := by
      have halone := hsole.alone q.id (Ne.symm hid)
      rw [key?_insert, if_pos rfl] at halone
      exact fun he => halone (congrArg some he.symm)
    rw [Listed, names_insert, if_neg hkey]
    constructor
    · intro hlisted
      split at hlisted
      next => cases hlisted
      next hfree =>
        refine .inr ⟨⟨honline, ?_⟩, hlisted⟩
        intro id hne
        by_cases hidq : id = q.id
        · exact hidq ▸ hfree
        · have halone := hsole.alone id hne
          rwa [key?_insert, if_neg hidq] at halone
    · rintro (he | ⟨hbefore, hlisted⟩)
      · exact absurd he hqp
      · rw [if_neg (hbefore.alone q.id (Ne.symm hid))]
        exact hlisted

theorem Sole.listed_remove (id : PlayerId) (hsole : (d.remove id).Sole p) :
    (d.remove id).Listed p ↔ d.Sole p ∧ d.Listed p := by
  have honline := hsole.online
  rw [player?_remove] at honline
  have hid : p.id ≠ id := by
    intro he
    rw [if_pos he] at honline
    cases honline
  rw [if_neg hid] at honline
  rw [Listed, names_remove]
  constructor
  · intro hlisted
    split at hlisted
    next => cases hlisted
    next hfree =>
      refine ⟨⟨honline, ?_⟩, hlisted⟩
      intro id' hne
      by_cases hsame : id' = id
      · exact hsame ▸ hfree
      · have halone := hsole.alone id' hne
        rwa [key?_remove, if_neg hsame] at halone
  · rintro ⟨hbefore, hlisted⟩
    rw [if_neg (hbefore.alone id (Ne.symm hid))]
    exact hlisted

/-- A change that leaves a name to one player leaves the entry to them if it is their own login, or
if they had both before. -/
theorem Sole.listed_change (c : Change) (hsole : (d.change c).Sole p) :
    (d.change c).Listed p ↔ c = .login p ∨ d.Sole p ∧ d.Listed p := by
  cases c with
  | login q =>
    rw [Change.login.injEq]
    exact Sole.listed_insert q hsole
  | logout id =>
    have hlogout := Sole.listed_remove id hsole
    refine ⟨fun hlisted => .inr (hlogout.mp hlisted), ?_⟩
    rintro (hlogin | hbefore)
    · cases hlogin
    · exact hlogout.mpr hbefore

theorem sole_iff :
    d.Sole p ↔ d.player? p.id = some p ∧ ∀ e ∈ d.players.entries, e.1 ≠ p.id → e.2.key ≠ p.key := by
  constructor
  · rintro ⟨honline, halone⟩
    refine ⟨honline, fun e he hne hkey => halone e.1 hne ?_⟩
    have hfind : d.player? e.1 = some e.2 := (Dict.find?_eq_some_iff _ _ _).mpr he
    rw [key?, hfind, Option.map_some, hkey]
  · rintro ⟨honline, halone⟩
    refine ⟨honline, fun id hne hkey => ?_⟩
    obtain ⟨q, hfind, hkey⟩ := Option.map_eq_some_iff.mp hkey
    exact halone (id, q) ((Dict.find?_eq_some_iff _ _ _).mp hfind) hne hkey

instance (d : Directory) (p : Player) : Decidable (d.Sole p) := decidable_of_iff _ sole_iff.symm

/-! ## Any changes -/

/-- Changes that are parted at one of them are parted at the last, or before it. -/
theorem parted_concat {changes before later : List Change} {c b : Change}
    (h : changes ++ [c] = before ++ b :: later) :
    c = b ∨ ∃ later', later = later' ++ [c] ∧ changes = before ++ b :: later' := by
  cases later using List.reverseRecOn with
  | nil => exact .inl (List.head_eq_of_cons_eq (List.append_inj' h rfl).2)
  | append_singleton later last =>
    rw [← List.cons_append, ← List.append_assoc] at h
    obtain ⟨rfl, hc⟩ := List.append_inj' h rfl
    exact .inr ⟨later, by rw [hc], rfl⟩

theorem soleSinceLogin_concat (changes : List Change) (c : Change) :
    SoleSinceLogin (changes ++ [c]) p ↔
      (after (changes ++ [c])).Sole p ∧ (c = .login p ∨ SoleSinceLogin changes p) := by
  constructor
  · rintro ⟨before, later, he, hsole⟩
    have hnow := hsole later (List.prefix_refl later)
    rw [← he] at hnow
    refine ⟨hnow, ?_⟩
    rcases parted_concat he with hc | ⟨later, rfl, rfl⟩
    · exact .inl hc
    · exact .inr ⟨before, later, rfl, fun part hpart => hsole part (hpart.trans (List.prefix_append _ _))⟩
  · rintro ⟨hnow, rfl | ⟨before, later, rfl, hsole⟩⟩
    · refine ⟨changes, [], rfl, fun part hpart => ?_⟩
      rw [List.prefix_nil.mp hpart]
      exact hnow
    · refine ⟨before, later ++ [c], by simp, fun part hpart => ?_⟩
      rcases List.prefix_concat_iff.mp hpart with rfl | hpart
      · simpa using hnow
      · exact hsole part hpart

theorem listed_after_iff (changes : List Change) (hsole : (after changes).Sole p) :
    (after changes).Listed p ↔ SoleSinceLogin changes p := by
  induction changes using List.reverseRecOn with
  | nil => cases hsole.online
  | append_singleton changes c ih =>
    rw [soleSinceLogin_concat, and_iff_right hsole]
    rw [after_concat] at hsole ⊢
    rw [Sole.listed_change c hsole]
    refine or_congr_right ⟨fun ⟨hbefore, hlisted⟩ => (ih hbefore).mp hlisted, fun hsince => ?_⟩
    obtain ⟨before, later, rfl, hall⟩ := hsince
    have hbefore := hall later (List.prefix_refl later)
    exact ⟨hbefore, (ih hbefore).mpr ⟨before, later, rfl, hall⟩⟩

/-- Whoever bears a name alone is found by every spelling of it exactly if they have been the only
one to bear it ever since they logged in. -/
theorem findByName_sole_iff (changes : List Change) (hsole : (after changes).Sole p)
    (hname : Text.lowercase name = p.key) :
    (after changes).findByName name = some p ↔ SoleSinceLogin changes p := by
  rw [(keyed_after changes).findByName_eq_some_iff, hname, and_iff_left hsole.online]
  exact listed_after_iff changes hsole

/-- Bob takes Ann's name and goes again, and Ann is found once more after she has logged in anew. -/
theorem findByName_sole_iff_regained :
    let ann : Player := { id := ⟨1⟩, name := "Ann" }
    let bob : Player := { id := ⟨2⟩, name := "Bob" }
    let changes : List Change := [.login ann, .login bob, .login { bob with name := "ANN" },
      .logout bob.id, .login ann]
    ((after changes).Sole ann ∧ Text.lowercase "aNN" = ann.key) ∧
      SoleSinceLogin changes ann ∧ (after changes).findByName "aNN" = some ann := by
  intro ann bob changes
  have hsole : (after changes).Sole ann := by decide
  have hname : Text.lowercase "aNN" = ann.key := by decide
  have hsince : SoleSinceLogin changes ann := by
    refine ⟨changes.dropLast, [], rfl, fun part hpart => ?_⟩
    rw [List.prefix_nil.mp hpart]
    exact hsole
  exact ⟨⟨hsole, hname⟩, hsince, (findByName_sole_iff changes hsole hname).mpr hsince⟩

/-- Ann logs in under a name, Bob takes it and goes, and Ann is not found although she alone is
online. -/
theorem sole_not_found :
    let ann : Player := { id := ⟨1⟩, name := "Ann" }
    let bob : Player := { id := ⟨2⟩, name := "ANN" }
    let d := after [.login ann, .login bob, .logout bob.id]
    d.Sole ann ∧ d.findByName "Ann" = none := by
  exact ⟨by decide, by decide⟩

end Directory
end ChatChannels
