import ChatChannels.Proofs.Directory

/-! What a directory answers after any logins and logouts. A player is found by identity as long as
nothing replaces or removes the record of their login, and by name as long as no change touches the
name. A change touches the name it is made under and the name its player has until then, and both are
the player's own as long as the record stands, so a name never leads to a record that is gone. -/
namespace ChatChannels.Directory

namespace Change

def player : Change → PlayerId
  | .login p => p.id
  | .logout id => id

/-- The record that the change puts in the place of the one its player had. -/
def record? : Change → Option Player
  | .login p => some p
  | .logout _ => none

/-- A login under the name, or a login or logout of whoever has the name when it is made. -/
def Touches (d : Directory) (key : String) (c : Change) : Prop :=
  c.record?.map Player.key = some key ∨ d.key? c.player = some key

end Change

/-- The player logged in at some point, and every change since then spares what came of it. -/
def LastsSince (spares : Directory → Change → Prop) (changes : List Change) (p : Player) : Prop :=
  ∃ before later, changes = before ++ .login p :: later ∧
    ∀ part c, part ++ [c] <+: later → spares (after (before ++ .login p :: part)) c

/-- The record was given at a login, and nothing has replaced or removed it since. -/
def InForce (changes : List Change) (p : Player) : Prop :=
  LastsSince (fun _ c => c.player ≠ p.id) changes p

/-- The last change to touch the name was the player's login under it. -/
def LastUnder (key : String) (changes : List Change) (p : Player) : Prop :=
  p.key = key ∧ LastsSince (fun d c => ¬c.Touches d key) changes p

variable {d : Directory} {p : Player} {id : PlayerId} {key : String}

theorem lastsSince_concat {spares : Directory → Change → Prop} {changes : List Change}
    {c : Change} :
    LastsSince spares (changes ++ [c]) p ↔
      c = .login p ∨ spares (after changes) c ∧ LastsSince spares changes p := by
  constructor
  · rintro ⟨before, later, he, hspares⟩
    rcases parted_concat he with hc | ⟨later, rfl, rfl⟩
    · exact .inl hc
    · exact .inr ⟨hspares later c (List.prefix_refl _), before, later, rfl,
        fun part c' hpart => hspares part c' (hpart.trans (List.prefix_append _ _))⟩
  · rintro (rfl | ⟨hlast, before, later, rfl, hspares⟩)
    · refine ⟨changes, [], rfl, fun part c hpart => ?_⟩
      simp at hpart
    · refine ⟨before, later ++ [c], by simp, fun part c' hpart => ?_⟩
      rcases List.prefix_concat_iff.mp hpart with he | hpart
      · obtain ⟨rfl, hc⟩ := List.append_inj' he rfl
        obtain rfl : c' = c := List.head_eq_of_cons_eq hc
        exact hlast
      · exact hspares part c' hpart

theorem not_lastsSince_nil {spares : Directory → Change → Prop} : ¬LastsSince spares [] p := by
  rintro ⟨before, later, he, _⟩
  simp at he

/-! ## Records -/

theorem player?_change (c : Change) :
    (d.change c).player? id = if id = c.player then c.record? else d.player? id := by
  cases c with
  | login q => exact player?_insert d q id
  | logout id' => exact player?_remove d id id'

theorem player?_after_iff (changes : List Change) :
    (after changes).player? id = some p ↔ p.id = id ∧ InForce changes p := by
  induction changes using List.reverseRecOn with
  | nil => exact iff_of_false nofun fun h => not_lastsSince_nil h.2
  | append_singleton changes c ih =>
    rw [after_concat, player?_change, InForce, lastsSince_concat]
    by_cases hid : id = c.player
    · -- The change is the player's own, so only its own record can be in force.
      subst hid
      rw [if_pos rfl]
      cases c with
      | login q =>
        rw [Change.record?, Option.some.injEq, Change.login.injEq]
        constructor
        · rintro rfl
          exact ⟨rfl, .inl rfl⟩
        · rintro ⟨hid, rfl | ⟨hne, _⟩⟩
          · rfl
          · exact absurd hid.symm hne
      | logout id =>
        refine iff_of_false nofun ?_
        rintro ⟨hid, hlogin | ⟨hne, _⟩⟩
        · cases hlogin
        · exact hne hid.symm
    · rw [if_neg hid, ih]
      refine and_congr_right fun hp => ?_
      subst hp
      constructor
      · exact fun hforce => .inr ⟨Ne.symm hid, hforce⟩
      · rintro (rfl | ⟨_, hforce⟩)
        · exact absurd rfl hid
        · exact hforce

theorem nameOf_after_iff {name : String} (changes : List Change) :
    (after changes).nameOf id = some name ↔ ∃ p, InForce changes p ∧ p.id = id ∧ p.name = name := by
  rw [nameOf, Option.map_eq_some_iff]
  refine exists_congr fun p => ?_
  rw [player?_after_iff, and_comm (a := p.id = id), and_assoc]

/-! ## Names -/

/-- A change writes the entry of its own name, and of all other names it touches it leaves none. -/
theorem names_change (c : Change) :
    (d.change c).names.find? key = some id ↔
      (∃ p, c = .login p ∧ p.key = key ∧ p.id = id) ∨
        ¬c.Touches d key ∧ d.names.find? key = some id := by
  cases c with
  | login q =>
    rw [change, names_insert]
    by_cases hkey : key = q.key
    · subst hkey
      simp [Change.Touches, Change.record?]
    · by_cases hold : d.key? q.id = some key
      · simp [Change.Touches, Change.player, hold, hkey, Ne.symm hkey]
      · simp [Change.Touches, Change.player, Change.record?, hold, hkey, Ne.symm hkey]
  | logout id' =>
    rw [change, names_remove]
    by_cases hold : d.key? id' = some key <;>
      simp [Change.Touches, Change.player, Change.record?, hold]

theorem lastUnder_concat {changes : List Change} {c : Change} :
    LastUnder key (changes ++ [c]) p ↔
      c = .login p ∧ p.key = key ∨ ¬c.Touches (after changes) key ∧ LastUnder key changes p := by
  rw [LastUnder, LastUnder, lastsSince_concat]
  tauto

theorem names_after_iff (changes : List Change) :
    (after changes).names.find? key = some id ↔ ∃ p, p.id = id ∧ LastUnder key changes p := by
  induction changes using List.reverseRecOn with
  | nil => exact iff_of_false nofun fun ⟨_, _, h⟩ => not_lastsSince_nil h.2
  | append_singleton changes c ih =>
    rw [after_concat, names_change, ih]
    constructor
    · rintro (⟨p, hc, hkey, hid⟩ | ⟨htouches, p, hid, hlast⟩)
      · exact ⟨p, hid, lastUnder_concat.mpr (.inl ⟨hc, hkey⟩)⟩
      · exact ⟨p, hid, lastUnder_concat.mpr (.inr ⟨htouches, hlast⟩)⟩
    · rintro ⟨p, hid, hlast⟩
      rcases lastUnder_concat.mp hlast with ⟨hc, hkey⟩ | ⟨htouches, hlast⟩
      · exact .inl ⟨p, hc, hkey, hid⟩
      · exact .inr ⟨htouches, p, hid, hlast⟩

/-- Whatever replaces or removes a record touches the name in it. -/
theorem LastUnder.inForce {changes : List Change} (h : LastUnder key changes p) :
    InForce changes p := by
  induction changes using List.reverseRecOn with
  | nil => exact absurd h.2 not_lastsSince_nil
  | append_singleton changes c ih =>
    refine lastsSince_concat.mpr ?_
    rcases lastUnder_concat.mp h with ⟨hc, _⟩ | ⟨htouches, hlast⟩
    · exact .inl hc
    · refine .inr ⟨?_, ih hlast⟩
      intro hplayer
      have hrecord := (player?_after_iff changes).mpr ⟨rfl, ih hlast⟩
      refine htouches (.inr ?_)
      rw [hplayer, key?, hrecord, Option.map_some, hlast.1]

theorem findByName_after_iff {name : String} (changes : List Change) :
    (after changes).findByName name = some p ↔ LastUnder (Text.lowercase name) changes p := by
  rw [(keyed_after changes).findByName_eq_some_iff, names_after_iff]
  constructor
  · rintro ⟨⟨q, hid, hlast⟩, hplayer⟩
    have hrecord := (player?_after_iff changes).mpr ⟨hid, hlast.inForce⟩
    obtain rfl : p = q := Option.some.inj (hplayer.symm.trans hrecord)
    exact hlast
  · intro hlast
    exact ⟨⟨p, rfl, hlast⟩, (player?_after_iff changes).mpr ⟨rfl, hlast.inForce⟩⟩

/-! ## What is answered -/

/-- Records and names are answered exactly as long as the record is in force, and a record is found by
name exactly as long as no change touches the name. Whoever is found by name is online with that very
record and bears the name in some spelling. -/
theorem lookups_current (changes : List Change) :
    (∀ id p, (after changes).player? id = some p ↔ p.id = id ∧ InForce changes p) ∧
      (∀ id name, (after changes).nameOf id = some name ↔
        ∃ p, InForce changes p ∧ p.id = id ∧ p.name = name) ∧
      (∀ name p, (after changes).findByName name = some p ↔
        LastUnder (Text.lowercase name) changes p) ∧
      ∀ name p, (after changes).findByName name = some p →
        InForce changes p ∧ (after changes).isOnline p.id ∧
          (after changes).player? p.id = some p ∧ Text.lowercase p.name = Text.lowercase name := by
  refine ⟨fun id p => player?_after_iff changes, fun id name => nameOf_after_iff changes,
    fun name p => findByName_after_iff changes, fun name p hfound => ?_⟩
  have hlast := (findByName_after_iff changes).mp hfound
  have hrecord := (player?_after_iff changes).mpr ⟨rfl, hlast.inForce⟩
  refine ⟨hlast.inForce, ?_, hrecord, hlast.1⟩
  rw [isOnline, hrecord]
  rfl

/-- Bob takes Ann's name and gives it up again, and Ann comes back as Anna. Her new record is found,
and her old one is in force no more. -/
theorem lookups_current_renamed :
    let ann : Player := { id := ⟨1⟩, name := "Ann" }
    let anna : Player := { ann with name := "Anna" }
    let bob : Player := { id := ⟨2⟩, name := "ANN" }
    let changes : List Change := [.login ann, .login bob, .login { bob with name := "Bob" },
      .login anna, .logout bob.id]
    (after changes).findByName "ANNA" = some anna ∧ InForce changes anna ∧
      (after changes).isOnline ann.id ∧ (after changes).findByName "Ann" = none ∧
        ¬InForce changes ann := by
  intro ann anna bob changes
  have hfound : (after changes).findByName "ANNA" = some anna := by decide
  obtain ⟨hforce, honline, _⟩ := (lookups_current changes).2.2.2 "ANNA" anna hfound
  refine ⟨hfound, hforce, honline, by decide, fun hold => ?_⟩
  have hrecord := ((lookups_current changes).1 ann.id ann).mpr ⟨rfl, hold⟩
  exact absurd hrecord (by decide)

end ChatChannels.Directory
