import ChatChannels.Proofs.Channel.Refused
import ChatChannels.Proofs.Channel.Sound

/-! Who may be seen. The list of members and the reply about the owner hide the same players: those
who are not online, and from plain players also those of too high a level and those in hiding. So
whoever asks for the owner is told a name exactly if the list has a row for the owner. -/
namespace ChatChannels

open Event (deliveries)

/-- Whether a player is hidden from another. Nobody is hidden from themselves or from staff
online. -/
def Directory.Hides (d : Directory) (target observer : PlayerId) : Prop :=
  target ∈ d.hidden ∧ target ≠ observer ∧
    ∀ record, d.player? observer = some record → record.security = .player

theorem SecurityLevel.player_lt_iff {s : SecurityLevel} :
    SecurityLevel.player < s ↔ s ≠ .player := by
  cases s <;> decide

theorem Directory.isVisible_eq_false_iff {d : Directory} {observer target : PlayerId} :
    d.isVisible observer target = false ↔ d.Hides target observer := by
  have hplain : (d.player? observer).any (fun o => SecurityLevel.player < o.security) = false ↔
      ∀ record, d.player? observer = some record → record.security = .player := by
    cases d.player? observer <;> simp [SecurityLevel.player_lt_iff]
  rw [Hides, ← hplain, isVisible, Bool.or_eq_false_iff, Bool.or_eq_false_iff]
  simp only [decide_eq_false_iff_not, Decidable.not_not, and_assoc, ne_eq, eq_comm (a := target)]
  exact and_left_comm

namespace Channel

variable {p : Policy} {w : World} {c : Channel} {observer actor : Player} {q : PlayerId}

/-- A player is shown to an observer: they are online, and the observer is staff or neither their
level nor their hiding keeps them from being seen. -/
def Shown (p : Policy) (w : World) (observer : Player) (q : PlayerId) : Prop :=
  ∃ record, w.directory.player? q = some record ∧
    (SecurityLevel.player < observer.security ∨
      (record.security ≤ p.whoListLevel ∧ ¬w.directory.Hides record.id observer.id))

theorem shows_iff {target : Player} :
    shows p w observer target ↔ SecurityLevel.player < observer.security ∨
      (target.security ≤ p.whoListLevel ∧ ¬w.directory.Hides target.id observer.id) := by
  rw [shows, Policy.showsInWhoList, Bool.or_eq_true, Bool.and_eq_true, decide_eq_true_iff,
    decide_eq_true_iff, SecurityLevel.player_lt_iff, ← Directory.isVisible_eq_false_iff,
    Bool.not_eq_false]

theorem shown_iff_any :
    (w.directory.player? q).any (shows p w observer) ↔ Shown p w observer q := by
  rw [Option.any_eq_true, Shown]
  exact exists_congr fun record => and_congr_right fun _ => shows_iff

instance (p : Policy) (w : World) (observer : Player) (q : PlayerId) :
    Decidable (Shown p w observer q) :=
  decidable_of_iff _ shown_iff_any

theorem shown_iff_of_online (p : Policy) (observer : Player) {record : Player}
    (h : w.directory.player? q = some record) :
    Shown p w observer q ↔ shows p w observer record := by
  rw [← shown_iff_any, h]
  rfl

/-! ## The list of members -/

/-- The members that are shown, in the order in which they joined, each with their role. -/
def shownRows (p : Policy) (w : World) (c : Channel) (observer : Player) : List ListedMember :=
  (c.roster.members.filter fun m => Shown p w observer m.player).map fun m => ⟨m.player, m.role⟩

theorem listedMembers_eq : c.listedMembers p w observer = c.shownRows p w observer := by
  unfold listedMembers shownRows
  induction c.roster.members with
  | nil => rfl
  | cons m rest ih =>
    rw [List.filterMap_cons, List.filter_cons, ih]
    cases hplayer : w.directory.player? m.player with
    | none =>
      have hunknown : ¬Shown p w observer m.player := by
        rintro ⟨record, hrecord, _⟩
        cases hplayer.symm.trans hrecord
      simp [hunknown]
    | some record =>
      have hshown := shown_iff_of_online p observer hplayer
      by_cases hshows : shows p w observer record <;> simp [hshown, hshows]

/-- A row with the owner bit is there exactly if the owner is shown. -/
theorem Sound.ownerRow_iff (hc : c.Sound) :
    (∃ row ∈ c.shownRows p w observer, row.role.owner) ↔
      ∃ o, c.owner = some o ∧ Shown p w observer o := by
  constructor
  · rintro ⟨_, hrow, hbit⟩
    obtain ⟨m, hm, rfl⟩ := List.mem_map.mp hrow
    obtain ⟨hmember, hshown⟩ := List.mem_filter.mp hm
    have hrole := (Roster.mem_members_iff hc.distinct).mp hmember
    exact ⟨m.player, hc.owner_of_bit _ _ hrole hbit, of_decide_eq_true hshown⟩
  · rintro ⟨o, ho, hshown⟩
    obtain ⟨role, hrole, hbit, _⟩ := hc.owner_bits o ho
    have hmember : ⟨o, role⟩ ∈ c.roster.members := (Roster.mem_members_iff hc.distinct).mpr hrole
    refine ⟨⟨o, role⟩, List.mem_map.mpr ⟨_, List.mem_filter.mpr ⟨hmember, ?_⟩, rfl⟩, hbit⟩
    exact decide_eq_true hshown

/-! ## The reply about the owner -/

/-- What an observer is told of the owner. -/
inductive OwnerReply where
  | named (owner : Player)
  | unresolved
  | nobody

def OwnerReply.text : OwnerReply → String
  | .named owner => owner.name
  | .unresolved => Notice.unresolved
  | .nobody => Notice.nobody

/-- The record of the owner, who is online. -/
def ownerRecord? (w : World) (c : Channel) : Option Player := c.owner.bind w.directory.player?

/-- Which reply is given: the name of an owner who is shown and has one, that the owner's name is
not known, or that there is nobody. -/
structure Answers (p : Policy) (w : World) (c : Channel) (observer : Player) (reply : OwnerReply) :
    Prop where
  named_iff : ∀ owner, reply = .named owner ↔
    ∃ o, c.owner = some o ∧ w.directory.player? o = some owner ∧ Shown p w observer o ∧
      owner.name ≠ ""
  unresolved_iff : reply = .unresolved ↔
    ∃ o, c.owner = some o ∧ (w.directory.player? o = none ∨
      (Shown p w observer o ∧ w.directory.nameOf o = some ""))
  nobody_iff : reply = .nobody ↔
    ∀ o, c.owner = some o → (w.directory.player? o).isSome ∧ ¬Shown p w observer o

theorem exists_answer (p : Policy) (w : World) (c : Channel) (observer : Player) :
    ∃ reply, c.Answers p w observer reply ∧ c.ownerName p w observer = reply.text := by
  cases ho : c.owner with
  | none =>
    refine ⟨.nobody, by constructor <;> simp [ho], ?_⟩
    simp only [ownerName, ho, OwnerReply.text]
  | some o =>
    cases hplayer : w.directory.player? o with
    | none =>
      refine ⟨.unresolved, by constructor <;> simp [ho, hplayer], ?_⟩
      simp only [ownerName, ho, hplayer, OwnerReply.text]
    | some owner =>
      have hname : w.directory.nameOf o = some owner.name := congrArg (Option.map Player.name) hplayer
      have hshown := shown_iff_of_online p observer hplayer
      by_cases hshows : shows p w observer owner
      · by_cases hempty : owner.name = ""
        · refine ⟨.unresolved, ?_, by simp [ownerName, ho, hplayer, hshows, hempty, OwnerReply.text]⟩
          constructor <;> simp [ho, hplayer, hshown, hshows, hname, hempty]
        · refine ⟨.named owner, ?_, by simp [ownerName, ho, hplayer, hshows, hempty, OwnerReply.text]⟩
          constructor <;> simp [ho, hplayer, hshown, hshows, hname, hempty]
      · refine ⟨.nobody, ?_, by simp [ownerName, ho, hplayer, hshows, OwnerReply.text]⟩
        constructor <;> simp [ho, hplayer, hshown, hshows]

variable {reply : OwnerReply} {owner : Player}

theorem Answers.named_iff_shown (h : c.Answers p w observer reply)
    (howner : c.ownerRecord? w = some owner) (hname : owner.name ≠ "") :
    reply = .named owner ↔ ∃ o, c.owner = some o ∧ Shown p w observer o := by
  obtain ⟨o, ho, hplayer⟩ := Option.bind_eq_some_iff.mp howner
  rw [h.named_iff]
  constructor
  · rintro ⟨o', ho', _, hshown, _⟩
    exact ⟨o', ho', hshown⟩
  · rintro ⟨o', ho', hshown⟩
    cases ho.symm.trans ho'
    exact ⟨o, ho, hplayer, hshown, hname⟩

/-- Of an owner who is online and has a name nothing is told but the name, or that there is nobody. -/
theorem Answers.text_eq_iff (h : c.Answers p w observer reply)
    (howner : c.ownerRecord? w = some owner) (hname : owner.name ≠ "")
    (hother : owner.name ≠ Notice.nobody) : reply.text = owner.name ↔ reply = .named owner := by
  refine ⟨fun htext => ?_, fun he => he ▸ rfl⟩
  obtain ⟨o, ho, hplayer⟩ := Option.bind_eq_some_iff.mp howner
  by_cases hshown : Shown p w observer o
  · exact (h.named_iff_shown howner hname).mpr ⟨o, ho, hshown⟩
  · have hnobody : reply = .nobody := by
      refine h.nobody_iff.mpr fun o' ho' => ?_
      cases ho.symm.trans ho'
      exact ⟨Option.isSome_of_eq_some hplayer, hshown⟩
    rw [hnobody] at htext
    exact absurd htext.symm hother

/-! ## Both together -/

theorem list_member (hmember : c.contains actor.id) :
    c.list p w actor = ⟨c, .ok .applied,
      w.sendTo actor.id (.memberList ⟨c.name, c.flags, c.shownRows p w actor⟩)⟩ := by
  rw [list, hmember, listedMembers_eq]
  rfl

theorem queryOwner_member (hmember : c.contains actor.id) :
    c.queryOwner p w actor =
      ⟨c, .ok .applied, c.tell w actor.id (.ownerReply (c.ownerName p w actor))⟩ := by
  rw [queryOwner, hmember]
  rfl

/-- Whoever is on a channel is listed the members who are shown, and told the owner's name if the
owner is shown. So the reply names an owner who has a name exactly if there is a row with the owner
bit. -/
theorem inquiries_agree (hc : c.Reachable p) (w : World) (t : Throttle) (actor : Player)
    (hmember : c.contains actor.id) (honline : w.isOnline actor.id) :
    let listed := c.execute p w t actor .list
    let asked := c.execute p w t actor .queryOwner
    let rows := c.shownRows p w actor
    (listed.answer = .ok .applied ∧ asked.answer = .ok .applied) ∧
    deliveries listed.events = [(actor.id, .memberList ⟨c.name, c.flags, rows⟩)] ∧
    ∃ reply, c.Answers p w actor reply ∧
      deliveries asked.events = [(actor.id, c.notice (.ownerReply reply.text))] ∧
      ∀ owner, c.ownerRecord? w = some owner → owner.name ≠ "" →
        (reply = .named owner ↔ ∃ row ∈ rows, row.role.owner) ∧
        (owner.name ≠ Notice.nobody →
          (reply.text = owner.name ↔ ∃ row ∈ rows, row.role.owner)) := by
  intro listed asked rows
  have hlisted : deliveries listed.events = _ := deliveries_execute p w t c actor .list
  have hasked : deliveries asked.events = _ := deliveries_execute p w t c actor .queryOwner
  have hanswered : listed.answer = .ok .applied ∧ asked.answer = .ok .applied :=
    ⟨congrArg Turn.answer (list_member hmember), congrArg Turn.answer (queryOwner_member hmember)⟩
  rw [perform, list_member hmember, Event.deliveries_sendTo, if_pos honline] at hlisted
  rw [perform, queryOwner_member hmember, deliveries_tell, if_pos honline] at hasked
  obtain ⟨reply, hreply, htext⟩ := exists_answer p w c actor
  refine ⟨hanswered, hlisted, reply, hreply, htext ▸ hasked, fun owner howner hname => ?_⟩
  have hrow : reply = .named owner ↔ ∃ row ∈ rows, row.role.owner :=
    (hreply.named_iff_shown howner hname).trans hc.sound.ownerRow_iff.symm
  exact ⟨hrow, fun hother => (hreply.text_eq_iff howner hname hother).trans hrow⟩

/-- Plain players see game masters here. Bob is hidden and Dan is offline, so Ann is listed Gil, who
owns the channel, and herself, and is told his name. Once Gil hides too, there is nobody. -/
theorem inquiries_agree_hidden :
    let p := Policy.ofConfig { gmLevelInWhoList := 2 }
    let gil : Player := { id := ⟨1⟩, name := "Gil", security := .gameMaster }
    let ann : Player := { id := ⟨2⟩, name := "Ann" }
    let bob : Player := { id := ⟨3⟩, name := "Bob" }
    let dan : Player := { id := ⟨4⟩, name := "Dan" }
    let d := ((∅ : Directory).insert gil).insert ann |>.insert bob |>.setHidden bob.id true
    let w : World := { directory := d }
    let masked : World := { directory := d.setHidden gil.id true }
    let c := (Scene.run p ⟨w, {}, custom "Raiders"⟩ [.command gil (.join none),
      .command bob (.join none), .command ann (.join none), .command dan (.join none)]).channel
    (c.Reachable p ∧ c.contains ann.id ∧ w.isOnline ann.id ∧ masked.isOnline ann.id) ∧
      deliveries (c.execute p w {} ann .list).events = [(ann.id, .memberList ⟨"Raiders", .custom,
        [⟨gil.id, ⟨true, true, false⟩⟩, ⟨ann.id, {}⟩]⟩)] ∧
      deliveries (c.execute p w {} ann .queryOwner).events =
        [(ann.id, .notice ⟨"Raiders", .ownerReply "Gil"⟩)] ∧
      deliveries (c.execute p masked {} ann .list).events =
        [(ann.id, .memberList ⟨"Raiders", .custom, [⟨ann.id, {}⟩]⟩)] ∧
      deliveries (c.execute p masked {} ann .queryOwner).events =
        [(ann.id, .notice ⟨"Raiders", .ownerReply "Nobody"⟩)] := by
  intro p gil ann bob dan d w masked c
  have hc : c.Reachable p := ⟨w, {}, _, .inl ⟨"Raiders", rfl⟩⟩
  have hmember : c.contains ann.id := by decide
  have honline : w.isOnline ann.id := by decide
  have honline' : masked.isOnline ann.id := by decide
  obtain ⟨_, hlisted, reply, hreply, hasked, _⟩ := inquiries_agree hc w {} ann hmember honline
  obtain ⟨_, hlisted', reply', hreply', hasked', _⟩ := inquiries_agree hc masked {} ann hmember honline'
  obtain rfl : reply = .named gil :=
    (hreply.named_iff gil).mpr ⟨gil.id, by decide, by decide, by decide, by decide⟩
  obtain rfl : reply' = .nobody := by
    refine hreply'.nobody_iff.mpr fun o ho => ?_
    obtain rfl : o = gil.id := Option.some.inj (ho.symm.trans (by decide))
    exact ⟨by decide, by decide⟩
  exact ⟨⟨hc, hmember, honline, honline'⟩, hlisted.trans (by decide), hasked.trans (by decide),
    hlisted'.trans (by decide), hasked'.trans (by decide)⟩

end Channel
end ChatChannels
