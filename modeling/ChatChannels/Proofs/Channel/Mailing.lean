import ChatChannels.Proofs.Channel.Refused
import ChatChannels.Proofs.Channel.Sound

/-! What the members of a channel are told, notice by notice. A notice goes to every member online
before the next one goes to anybody, so what a request tells them is a list of notices. A change of
owner is told as the roles that change by it, the former owner's first, and then, if it is
proclaimed, as the new owner. -/
namespace ChatChannels

open Event (deliveries)

def RoleChange.notice (change : RoleChange) : NoticeBody :=
  .roleChanged change.player change.old change.new

namespace Role

def withOwnership (r : Role) : Role := { r with owner := true, moderator := true }

/-- The role of an owner who owns the channel no more. -/
def withoutOwnership (r : Role) (moderator : Bool) : Role := { r with owner := false, moderator }

theorem withOwnership_ne {r : Role} (h : r.owner = false) : r.withOwnership ≠ r := by
  intro he
  cases h.symm.trans (congrArg Role.owner he).symm

theorem withoutOwnership_ne {r : Role} (h : r.owner = true) (moderator : Bool) :
    r.withoutOwnership moderator ≠ r := by
  intro he
  cases h.symm.trans (congrArg Role.owner he).symm

end Role

/-! ## Roles that change -/

namespace Roster

/-- The role of a player; whoever is no member has none of its parts. -/
def roleOf (r : Roster) (q : PlayerId) : Role := (r.role? q).getD {}

/-- The notice that a member's role becomes another. -/
def roleNotice (r : Roster) (f : Role → Role) (q : PlayerId) : NoticeBody :=
  .roleChanged q (r.roleOf q) (f (r.roleOf q))

variable {r : Roster} {q : PlayerId} {f : Role → Role}

theorem roleOf_eq {role : Role} (h : r.role? q = some role) : r.roleOf q = role := by
  rw [roleOf, h]
  rfl

theorem role?_eq_roleOf (h : r.contains q) : r.role? q = some (r.roleOf q) := by
  obtain ⟨role, hrole⟩ := exists_role_of_contains h
  rw [roleOf_eq hrole, hrole]

theorem roleOf_insert (hnew : r.contains q = false) : (r.insert q).roleOf q = {} := by
  rw [roleOf, role?_insert, if_pos rfl, (r.role?_eq_none_iff q).mpr hnew]
  rfl

theorem roleOf_remove (hr : r.players.Nodup) {gone : PlayerId} (hne : q ≠ gone) :
    (r.remove gone).roleOf q = r.roleOf q := by
  rw [roleOf, role?_remove _ _ _ hr, if_neg hne]
  rfl

theorem length_players (r : Roster) : r.players.length = r.size := List.length_map ..

theorem notices_update (h : r.contains q) (hchange : f (r.roleOf q) ≠ r.roleOf q) :
    (r.update q f).2.map RoleChange.notice = [r.roleNotice f q] := by
  unfold update
  rw [role?_eq_roleOf h]
  dsimp only
  rw [if_neg hchange.symm]
  rfl

theorem update_outsider (h : r.contains q = false) (f : Role → Role) : r.update q f = (r, []) := by
  unfold update
  rw [(r.role?_eq_none_iff q).mpr h]

/-- What a transfer reports: first of the former owner, and then of the new one. -/
theorem transfer_changes (r : Roster) (current next : Option PlayerId) :
    (r.transfer current next).2 =
      (r.update? current (·.withoutOwnership next.isSome)).2 ++
        ((r.update? current (·.withoutOwnership next.isSome)).1.update? next Role.withOwnership).2 :=
  rfl

/-- Where the former owner is no member, only the new owner's role changes. -/
theorem notices_taken {current next : Option PlayerId}
    (hgone : ∀ o, current = some o → r.contains o = false)
    (hnext : ∀ q, next = some q → r.contains q ∧ (r.roleOf q).owner = false) :
    (r.transfer current next).2.map RoleChange.notice =
      next.toList.map (r.roleNotice Role.withOwnership) := by
  have hreleased : ∀ f, r.update? current f = (r, []) := by
    intro f
    cases current with
    | none => rfl
    | some o => exact update_outsider (hgone o rfl) f
  rw [transfer_changes, hreleased, List.nil_append]
  cases next with
  | none => rfl
  | some q => exact notices_update (hnext q rfl).1 (Role.withOwnership_ne (hnext q rfl).2)

theorem notices_released {o : PlayerId} (hcurrent : r.contains o) (hbit : (r.roleOf o).owner) :
    (r.transfer (some o) none).2.map RoleChange.notice =
      [r.roleNotice (·.withoutOwnership false) o] := by
  have hreleased := notices_update (f := (·.withoutOwnership false)) hcurrent
    (Role.withoutOwnership_ne hbit false)
  rw [transfer_changes, List.map_append]
  exact congrArg (· ++ []) hreleased

/-- The new owner's role changes from what the former owner's change has left of it, which matters
where the two are the same. -/
theorem notices_handed {o q : PlayerId} (hcurrent : r.contains o) (hbit : (r.roleOf o).owner)
    (hnext : r.contains q) (hother : q ≠ o → (r.roleOf q).owner = false) :
    (r.transfer (some o) (some q)).2.map RoleChange.notice =
      let left := if q = o then (r.roleOf o).withoutOwnership true else r.roleOf q
      [r.roleNotice (·.withoutOwnership true) o, .roleChanged q left left.withOwnership] := by
  have hleft : (r.update o (·.withoutOwnership true)).1.roleOf q =
      if q = o then (r.roleOf o).withoutOwnership true else r.roleOf q := by
    rw [roleOf, role?_update, role?_eq_roleOf hnext]
    split
    next he => rw [he]; rfl
    next => rfl
  have hunowned : ((r.update o (·.withoutOwnership true)).1.roleOf q).owner = false := by
    rw [hleft]
    split
    next => rfl
    next hne => exact hother hne
  have hstays : (r.update o (·.withoutOwnership true)).1.contains q := by
    rwa [contains_congr (r.players_update o _)]
  have hreleased := notices_update (f := (·.withoutOwnership true)) hcurrent
    (Role.withoutOwnership_ne hbit true)
  have htaken := notices_update hstays (Role.withOwnership_ne hunowned)
  rw [roleNotice, hleft] at htaken
  rw [transfer_changes, List.map_append]
  simp only [update?, Option.isSome_some]
  rw [hreleased, htaken, List.singleton_append]

end Roster

/-! ## Notices to the members -/

namespace Channel

variable {w : World} {c c' : Channel}

/-- Notices that go out to the members, each to everyone online before the next. -/
def mailing (w : World) (c : Channel) (bodies : List NoticeBody) : List (PlayerId × Message) :=
  bodies.flatMap fun body => (w.onlineMembers c.roster).map fun q => (q, c.notice body)

theorem mailing_append (first second : List NoticeBody) :
    c.mailing w (first ++ second) = c.mailing w first ++ c.mailing w second :=
  List.flatMap_append

/-- To whom notices go depends on who is there and not on anybody's role. -/
theorem mailing_congr (hplayers : c'.roster.players = c.roster.players) (hname : c'.name = c.name)
    (bodies : List NoticeBody) : c'.mailing w bodies = c.mailing w bodies := by
  simp only [mailing, World.onlineMembers, notice, hplayers, hname]

theorem mem_mailing_iff (hname : c'.name = c.name) {bodies : List NoticeBody} {q : PlayerId}
    {body : NoticeBody} :
    (q, c.notice body) ∈ c'.mailing w bodies ↔
      q ∈ w.onlineMembers c'.roster ∧ body ∈ bodies := by
  simp only [mailing, List.mem_flatMap, List.mem_map, Prod.mk.injEq, notice, hname,
    Message.notice.injEq, Notice.mk.injEq, true_and]
  constructor
  · rintro ⟨_, hbody, _, hq, rfl, rfl⟩
    exact ⟨hq, hbody⟩
  · rintro ⟨hq, hbody⟩
    exact ⟨body, hbody, q, hq, rfl, rfl⟩

theorem deliveries_broadcast (body : NoticeBody) :
    deliveries (c.broadcast w body) = c.mailing w [body] := by
  rw [broadcast, World.sendToAll, Event.deliveries_fanOut, mailing, List.flatMap_singleton]

theorem deliveries_broadcast_if (b : Bool) (body : NoticeBody) :
    deliveries (if b then c.broadcast w body else []) = c.mailing w (if b then [body] else []) := by
  cases b with
  | true => exact deliveries_broadcast body
  | false => rfl

theorem deliveries_roleChanges (changes : List RoleChange) :
    deliveries (changes.flatMap (c.broadcastRoleChange w)) =
      c.mailing w (changes.map RoleChange.notice) := by
  induction changes with
  | nil => rfl
  | cons change rest ih =>
    have hfirst : deliveries (c.broadcastRoleChange w change) = c.mailing w [change.notice] :=
      deliveries_broadcast change.notice
    rw [List.flatMap_cons, Event.deliveries_append, hfirst, ih, ← mailing_append]
    rfl

theorem deliveries_setOwner (next : Option PlayerId) (proclaim : Bool) :
    deliveries (c.setOwner w next proclaim).events =
      c.mailing w ((c.roster.transfer c.owner next).2.map RoleChange.notice ++
        if proclaim then [.ownerChanged next] else []) := by
  have hplayers : (c.setOwner w next proclaim).channel.roster.players = c.roster.players :=
    c.roster.players_transfer c.owner next
  rw [← mailing_congr hplayers rfl, mailing_append, ← deliveries_roleChanges,
    ← deliveries_broadcast_if, ← Event.deliveries_append]
  rfl

/-! ## Owners and their roles -/

theorem Sound.roleOf_owner (hc : c.Sound) {o : PlayerId} (ho : c.owner = some o) :
    c.contains o ∧ (c.roster.roleOf o).owner ∧ (c.roster.roleOf o).moderator := by
  obtain ⟨role, hrole, hbits⟩ := hc.owner_bits o ho
  rw [Roster.roleOf_eq hrole]
  exact ⟨Roster.contains_of_role? hrole, hbits⟩

theorem Tidy.roleOf_other (hc : c.Tidy) {q : PlayerId} (hmember : c.contains q)
    (hother : c.owner ≠ some q) : (c.roster.roleOf q).owner = false :=
  hc.owner_bit_eq_false (Roster.role?_eq_roleOf hmember) hother

/-- Where nobody on a channel owns it, the members hear of the role of whoever is to own it. -/
theorem Tidy.deliveries_setOwner (hc : c.Tidy) (hgone : ∀ o, c.owner = some o → c.contains o = false)
    {next : Option PlayerId} (hnext : ∀ q, next = some q → c.contains q) (proclaim : Bool) :
    deliveries (c.setOwner w next proclaim).events =
      c.mailing w (next.toList.map (c.roster.roleNotice Role.withOwnership) ++
        if proclaim then [.ownerChanged next] else []) := by
  have htaken : ∀ q, next = some q → c.contains q ∧ (c.roster.roleOf q).owner = false := by
    intro q hq
    refine ⟨hnext q hq, hc.roleOf_other (hnext q hq) ?_⟩
    intro ho
    cases (hgone q ho).symm.trans (hnext q hq)
  rw [Channel.deliveries_setOwner, Roster.notices_taken hgone htaken]

end Channel
end ChatChannels
