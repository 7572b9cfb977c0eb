import ChatChannels.Proofs.Channel.Mailing

/-! Lines of chat. A member speaks if the text is not empty and no gate stands against it: the speech
budget, being muted, the rank of a defense channel, moderation and the public language. A line that
is spoken goes once to every member online who does not ignore the speaker, and a moderator's does
not come back to them. A line that is not spoken reaches nobody. -/
namespace ChatChannels

namespace Event

def fanOutSize? : Event → Option Nat
  | .fannedOut n => some n
  | _ => none

/-- To how many players each broadcast and each line of chat has gone. -/
def fanOutSizes (events : List Event) : List Nat := events.filterMap fanOutSize?

theorem fanOutSizes_append (first second : List Event) :
    fanOutSizes (first ++ second) = fanOutSizes first ++ fanOutSizes second :=
  List.filterMap_append

theorem fanOutSizes_fanOut (recipients : List PlayerId) (m : Message) :
    fanOutSizes (fanOut recipients m) = [recipients.length] := by
  rw [fanOut, fanOutSizes_append, fanOutSizes, List.filterMap_map]
  simp [Function.comp_def, fanOutSize?, fanOutSizes]

theorem fanOutSizes_sendTo (w : World) (q : PlayerId) (m : Message) :
    fanOutSizes (w.sendTo q m) = [] := by
  unfold World.sendTo
  split <;> rfl

end Event

open Event (deliveries fanOutSizes)

variable {p : Policy} {w : World} {t : Throttle} {c : Channel} {actor : Player} {text : String}
  {language : Language}

/-! ## The gates -/

namespace Policy

/-- On some channels only the public language is spoken. -/
def RestrictsLanguage (p : Policy) (c : Channel) : Prop :=
  p.languageRestriction = .all ∨
    (p.languageRestriction = .builtIn ∧ c.isBuiltIn) ∨
    (p.languageRestriction = .publicRealm ∧ c.isPublic ∧ c.realmRestricted)

theorem languageRestricted_iff :
    p.languageRestricted c.isBuiltIn c.isPublic c.realmRestricted ↔ p.RestrictsLanguage c := by
  unfold languageRestricted RestrictsLanguage
  cases p.languageRestriction <;> simp

theorem rankSuffices_iff {id : UInt32} {rank : UInt8} :
    p.rankSuffices id rank ↔
      (id = CatalogEntry.localDefenseId → p.localDefenseMinRank ≤ rank) ∧
      (id = CatalogEntry.worldDefenseId → p.worldDefenseMinRank ≤ rank) := by
  have hapart : CatalogEntry.worldDefenseId ≠ CatalogEntry.localDefenseId := by decide
  unfold rankSuffices
  split
  next hlocal =>
    subst hlocal
    simp [hapart.symm]
  next hlocal =>
    split
    next hworld =>
      subst hworld
      simp [hapart]
    next hworld => simp [hlocal, hworld]

end Policy

theorem Text.isPublicLanguage_iff :
    Text.isPublicLanguage text ↔ ∀ x ∈ text.toList, 0x20 ≤ x.toNat ∧ x.toNat < 0x7F := by
  simp [isPublicLanguage, isPrintableAscii]

namespace Channel

/-- Nothing stands against a line: there is something to say, and every gate lets the speaker
through. -/
structure MaySpeak (p : Policy) (t : Throttle) (c : Channel) (actor : Player) (text : String) :
    Prop where
  given : text ≠ ""
  member : c.contains actor.id
  admitted : t.admits actor.id
  unmuted : (c.roster.roleOf actor.id).muted = false
  ranked : (c.id = CatalogEntry.localDefenseId → p.localDefenseMinRank ≤ actor.rank) ∧
    (c.id = CatalogEntry.worldDefenseId → p.worldDefenseMinRank ≤ actor.rank)
  voiced : c.moderate → (c.roster.roleOf actor.id).moderator ∨ actor.isGameMaster
  /-- The public language is printable ASCII. -/
  understood : p.RestrictsLanguage c → ∀ x ∈ text.toList, 0x20 ≤ x.toNat ∧ x.toNat < 0x7F

theorem speechRefusal_eq_none_iff {role : Role} {admitted : Bool} :
    c.speechRefusal p actor role text admitted = none ↔
      admitted ∧ role.muted = false ∧ p.rankSuffices c.id actor.rank ∧
        (c.moderate → role.moderator ∨ actor.isGameMaster) ∧
        (p.languageRestricted c.isBuiltIn c.isPublic c.realmRestricted →
          Text.isPublicLanguage text) := by
  unfold speechRefusal
  cases admitted <;> cases role.muted <;> cases p.rankSuffices c.id actor.rank <;>
    cases c.moderate <;> cases role.moderator <;> cases actor.isGameMaster <;>
    cases p.languageRestricted c.isBuiltIn c.isPublic c.realmRestricted <;>
    cases Text.isPublicLanguage text <;> simp

theorem maySpeak_iff {role : Role} (hrole : c.roster.role? actor.id = some role) :
    c.MaySpeak p t actor text ↔
      text ≠ "" ∧ c.speechRefusal p actor role text (t.admits actor.id) = none := by
  rw [speechRefusal_eq_none_iff, Policy.languageRestricted_iff, Policy.rankSuffices_iff,
    Text.isPublicLanguage_iff]
  have hroleOf := Roster.roleOf_eq hrole
  constructor
  · rintro ⟨htext, _, hadmitted, hmuted, hrank, hvoice, hlanguage⟩
    rw [hroleOf] at hmuted hvoice
    exact ⟨htext, hadmitted, hmuted, hrank, hvoice, hlanguage⟩
  · rintro ⟨htext, hadmitted, hmuted, hrank, hvoice, hlanguage⟩
    rw [← hroleOf] at hmuted hvoice
    exact ⟨htext, Roster.contains_of_role? hrole, hadmitted, hmuted, hrank, hvoice, hlanguage⟩

/-! ## Who hears a line -/

/-- The members online who do not ignore the speaker, in the order in which they joined. A moderator
who speaks is not one of them. -/
def hearers (w : World) (c : Channel) (speaker : PlayerId) : List PlayerId :=
  c.roster.players.filter fun q => w.isOnline q ∧ w.ignores.has q speaker = false ∧
    ¬(q = speaker ∧ (c.roster.roleOf speaker).moderator)

theorem audience_eq_hearers {role : Role} (hrole : c.roster.role? actor.id = some role) :
    w.audience c.roster actor.id (if role.moderator then some actor.id else none) =
      c.hearers w actor.id := by
  unfold World.audience hearers
  rw [Roster.roleOf_eq hrole]
  refine List.filter_congr fun q _ => ?_
  cases role.moderator <;> cases w.isOnline q <;> cases w.ignores.has q actor.id <;> simp

/-- A line is spoken: everyone who hears it gets it once, and so many are counted. -/
structure Voices (w : World) (c : Channel) (line : ChatLine) (events : List Event) : Prop where
  lines : deliveries events = (c.hearers w line.sender).map fun q => (q, .chat line)
  once : (c.hearers w line.sender).Nodup
  counted : fanOutSizes events = [(deliveries events).length]

/-- Nobody gets a line of chat, and none is counted. -/
structure Voiceless (events : List Event) : Prop where
  lines : ∀ q line, (q, .chat line) ∉ deliveries events
  counted : fanOutSizes events = []

variable {line : ChatLine} {events events' : List Event}

theorem Voices.congr (h : c.Voices w line events) (hdelivered : deliveries events' = deliveries events)
    (hcounted : fanOutSizes events' = fanOutSizes events) : c.Voices w line events' :=
  ⟨hdelivered.trans h.lines, h.once, by rw [hcounted, hdelivered, h.counted]⟩

theorem Sound.voices (hc : c.Sound) (w : World) (line : ChatLine) :
    c.Voices w line (Event.fanOut (c.hearers w line.sender) (.chat line)) where
  lines := Event.deliveries_fanOut _ _
  once := hc.distinct.filter _
  counted := by rw [Event.fanOutSizes_fanOut, Event.deliveries_fanOut, List.length_map]

theorem Voiceless.congr (h : Voiceless events) (hdelivered : deliveries events' = deliveries events)
    (hcounted : fanOutSizes events' = fanOutSizes events) : Voiceless events' :=
  ⟨hdelivered ▸ h.lines, hcounted.trans h.counted⟩

theorem voiceless_reject (cause : Refusal) : Voiceless (c.reject w actor.id cause).events where
  lines q line hmem := by
    obtain ⟨_, body, _, he⟩ := mem_deliveries_refuse w c actor hmem
    cases he
  counted := by
    unfold reject refuse
    dsimp only
    split
    next => exact Event.fanOutSizes_sendTo w _ _
    next => rfl

/-! ## One line -/

theorem Sound.say_voiced (hc : c.Sound) (h : c.MaySpeak p t actor text) (w : World)
    (language : Language) :
    let turn := c.say p w actor text language (t.admits actor.id)
    turn.channel = c ∧ turn.answer = .ok .applied ∧
      c.Voices w { channel := c.name, sender := actor.id, senderName := actor.name, text
                   language := p.chatLanguage language, rank := actor.rank } turn.events := by
  obtain ⟨role, hrole⟩ := Roster.exists_role_of_contains h.member
  obtain ⟨htext, hallowed⟩ := (maySpeak_iff hrole).mp h
  intro turn
  have hturn : turn = ⟨c, .ok .applied, Event.fanOut (c.hearers w actor.id) (.chat {
      channel := c.name, sender := actor.id, senderName := actor.name, text
      language := p.chatLanguage language, rank := actor.rank })⟩ := by
    dsimp only [turn]
    rw [say, if_neg (by simpa using htext), hrole, ← audience_eq_hearers hrole]
    dsimp only
    rw [hallowed]
    rfl
  rw [hturn]
  exact ⟨rfl, rfl, hc.voices w _⟩

/-- A line that is not spoken is ignored or refused. -/
theorem say_unvoiced (h : ¬c.MaySpeak p t actor text) (w : World) (language : Language) :
    let turn := c.say p w actor text language (t.admits actor.id)
    turn.channel = c ∧ turn.answer ≠ .ok .applied ∧ Voiceless turn.events := by
  have hrefused : ∀ cause, (c.reject w actor.id cause).channel = c ∧
      (c.reject w actor.id cause).answer ≠ .ok .applied ∧
      Voiceless (c.reject w actor.id cause).events :=
    fun cause => ⟨rfl, (fun he => by cases he), voiceless_reject cause⟩
  dsimp only
  unfold say
  split
  next => exact ⟨rfl, (fun he => by cases he), (fun _ _ hmem => by cases hmem), rfl⟩
  next htext =>
    split
    next => exact hrefused _
    next role hrole =>
      split
      next cause _ => exact hrefused cause
      next hallowed => exact absurd ((maySpeak_iff hrole).mpr ⟨by simpa using htext, hallowed⟩) h

theorem fanOutSizes_execute (command : Command) :
    fanOutSizes (c.execute p w t actor command).events =
      fanOutSizes (c.perform p w t actor command).events := by
  unfold execute
  dsimp only
  split <;> simp [fanOutSizes, Event.fanOutSize?]

/-- A line is spoken exactly if nothing stands against it, and only then does anybody get it. Where
factions mix, it is in the universal language. Speech leaves the channel as it is. -/
theorem speech_settled (hc : c.Reachable p) (w : World) (t : Throttle) (actor : Player)
    (text : String) (language : Language) :
    let turn := c.execute p w t actor (.say text language)
    turn.channel = c ∧
    (turn.answer = .ok .applied ↔ c.MaySpeak p t actor text) ∧
    (c.MaySpeak p t actor text →
      c.Voices w { channel := c.name, sender := actor.id, senderName := actor.name, text
                   language := if p.crossFaction then .universal else language
                   rank := actor.rank } turn.events) ∧
    (¬c.MaySpeak p t actor text → Voiceless turn.events) := by
  intro turn
  have hdelivered := deliveries_execute p w t c actor (.say text language)
  have hcounted : fanOutSizes turn.events = _ := fanOutSizes_execute (.say text language)
  by_cases hspeaks : c.MaySpeak p t actor text
  · obtain ⟨hchannel, hanswer, hvoiced⟩ := hc.sound.say_voiced hspeaks w language
    exact ⟨hchannel, iff_of_true hanswer hspeaks, fun _ => hvoiced.congr hdelivered hcounted,
      fun h => absurd hspeaks h⟩
  · obtain ⟨hchannel, hanswer, hvoiceless⟩ := say_unvoiced hspeaks w language
    exact ⟨hchannel, iff_of_false hanswer hspeaks, fun h => absurd h hspeaks,
      fun _ => hvoiceless.congr hdelivered hcounted⟩

/-- On a moderated channel where factions mix, Ann is heard by Bob alone, for Cid ignores her and Dan
is offline. Bob has no voice, and what he says is lost. -/
theorem speech_settled_moderated :
    let p := Policy.ofConfig { crossFaction := true, restrictedLanguageMode := 3 }
    let ann : Player := { id := ⟨1⟩, name := "Ann" }
    let bob : Player := { id := ⟨2⟩, name := "Bob", team := .horde }
    let cid : Player := { id := ⟨3⟩, name := "Cid" }
    let dan : Player := { id := ⟨4⟩, name := "Dan" }
    let w : World := {
      directory := ((∅ : Directory).insert ann).insert bob |>.insert cid
      ignores := (∅ : Ignores).add cid.id ann.id }
    let c := (Scene.run p ⟨w, {}, custom "Raiders"⟩ [.command ann (.join none),
      .command bob (.join none), .command cid (.join none), .command dan (.join none),
      .command ann .toggleModerate]).channel
    let turn := c.execute p w {} ann (.say "To arms!" ⟨7⟩)
    let lost := c.execute p w {} bob (.say "For whom?" ⟨1⟩)
    c.Reachable p ∧ c.MaySpeak p {} ann "To arms!" ∧ ¬c.MaySpeak p {} bob "For whom?" ∧
      turn.answer = .ok .applied ∧ turn.channel = c ∧
      deliveries turn.events = [(bob.id, .chat ⟨"Raiders", ann.id, "Ann", "To arms!", .universal, 0⟩)] ∧
      lost.answer ≠ .ok .applied ∧ Voiceless lost.events := by
  intro p ann bob cid dan w c turn lost
  have hc : c.Reachable p := ⟨w, {}, _, .inl ⟨"Raiders", rfl⟩⟩
  have hspeaks : c.MaySpeak p {} ann "To arms!" :=
    ⟨by decide, by decide, by decide, by decide, by decide, by decide,
      fun _ => Text.isPublicLanguage_iff.mp (by decide)⟩
  have hvoice : ¬c.MaySpeak p {} bob "For whom?" := fun h =>
    absurd (h.voiced (by decide)) (by decide)
  obtain ⟨hchannel, happlied, hvoiced, _⟩ := speech_settled hc w {} ann "To arms!" ⟨7⟩
  obtain ⟨_, hrefused, _, hlost⟩ := speech_settled hc w {} bob "For whom?" ⟨1⟩
  exact ⟨hc, hspeaks, hvoice, happlied.mpr hspeaks, hchannel,
    (hvoiced hspeaks).lines.trans (by decide), mt hrefused.mp hvoice, hlost hvoice⟩

end Channel
end ChatChannels
