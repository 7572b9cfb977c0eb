import ChatChannels.Proofs.Channel.Authority
import ChatChannels.Proofs.Channel.Refused
import ChatChannels.Proofs.Registry.Live
import ChatChannels.Proofs.Registry.Refinement

/-! Built-in channels and the names they are joined by. Without faults in the configuration every
built-in channel is there to be joined, but its name has to pass the check on names like that of any
other channel, and the configuration is not checked for that. -/
namespace ChatChannels

open Event (deliveries)

namespace CatalogEntry

/-- Whether the check on names lets an entry's name through, given that there is a name at all. -/
def Fits (e : CatalogEntry) (l : Limits) : Prop :=
  e.name.length ≤ l.maxNameLength ∧ ∀ x ∈ e.name.toList, Text.isControl x = false

-- The characters of the name are tried, and not all characters there are.
instance (e : CatalogEntry) (l : Limits) : Decidable (e.Fits l) :=
  haveI := List.decidableBAll (fun x => Text.isControl x = false) e.name.toList
  inferInstanceAs (Decidable (_ ∧ _))

theorem name_not_empty {e : CatalogEntry} (h : e.hasBlankName = false) : e.name.isEmpty = false := by
  rw [← Bool.not_eq_true]
  intro hempty
  rw [hasBlankName, String.isEmpty_iff.mp hempty] at h
  cases h

/-- The standard names have at most sixteen characters, all of them printable. -/
theorem standard_fits_iff (l : Limits) : (∀ e ∈ standard, e.Fits l) ↔ 16 ≤ l.maxNameLength := by
  constructor
  · intro h
    exact (h { name := "GuildRecruitment", id := 25, city := true } (by decide)).1
  · intro h e he
    have hall : ∀ e ∈ standard, e.Fits { maxNameLength := 16 } := by decide
    exact ⟨Nat.le_trans (hall e he).1 h, (hall e he).2⟩

/-- The built-in channel of an entry with nobody on it but one player. -/
def channelWith (e : CatalogEntry) (player : PlayerId) : Channel :=
  { Channel.builtIn e with roster := (∅ : Roster).insert player }

theorem channelWith_isBuiltIn {e : CatalogEntry} (hid : e.id ≠ 0) (player : PlayerId) :
    (e.channelWith player).isBuiltIn :=
  decide_eq_true hid

end CatalogEntry

/-- Who comes first to a built-in channel neither owns it nor makes it static, and is announced to
nobody. -/
theorem Channel.perform_join_builtIn {e : CatalogEntry} (hid : e.id ≠ 0) (p : Policy) (w : World)
    (t : Throttle) {actor : Player} (hguild : actor.guild = none) (password : Option String) :
    (builtIn e).perform p w t actor (.join password) =
      ⟨e.channelWith actor.id, .ok .applied,
        (builtIn e).tell w actor.id (.youJoined e.flags e.id 0)⟩ := by
  have hbuiltIn := e.channelWith_isBuiltIn hid actor.id
  have hwelcome : (builtIn e).joinRefusal actor password = none := by
    rw [joinRefusal, hguild]
    rfl
  have hadopt := adopt_idle w (e.channelWith actor.id) actor.id (by rw [isPublic, hbuiltIn]; rfl)
  have hconvert : (e.channelWith actor.id).convert p w true false =
      ⟨e.channelWith actor.id, false, []⟩ := convert_idle (by rw [mayConvert, hbuiltIn]; rfl)
  unfold CatalogEntry.channelWith at hadopt hconvert ⊢
  rw [perform, join, hwelcome]
  dsimp only
  rw [show (builtIn e).roster = ∅ from rfl, hadopt, hconvert]
  dsimp only
  rw [List.append_nil, List.append_nil]
  rfl

namespace Registry

/-- A reply by which a player is let into the built-in channel of an entry where nobody is. Only the
player hears of it, and the other channels stay as they are. -/
structure LetsIn (r : Registry) (e : CatalogEntry) (actor : Player) (reply : Reply Registry Answer) :
    Prop where
  answer : reply.answer = .ok .applied
  lands : reply.state.channel? e.name = some (e.channelWith actor.id)
  others : ∀ name, Text.lowercase name ≠ e.key → reply.state.channel? name = r.channel? name
  welcome : deliveries reply.events =
    [(actor.id, .notice ⟨e.name, .youJoined e.flags e.id 0⟩)]

variable {c : Config} {e : CatalogEntry}

theorem channel?_ofConfig (hc : c.faults = []) (he : e ∈ c.builtIns) :
    (ofConfig c).channel? e.name = some (.builtIn e) := by
  obtain ⟨handle, room, hfind, hroom, hchannel⟩ := ofConfig_builtIn hc he
  rw [channel?, hfind, ← hchannel]
  exact House.channel?_of_room? hroom

theorem isValidName_builtIn_iff (hc : c.faults = []) (he : e ∈ c.builtIns) :
    (ofConfig c).isValidName e.name ↔ e.Fits c.limits := by
  have hlimits : (ofConfig c).limits = c.limits := (ofConfig_spec c).2.2.2.1
  have hblank := ((CatalogEntry.faults_eq_nil_iff.mp (Config.builtIns_faults hc)).1 e he).2.2.1
  rw [isValidName, hlimits, CatalogEntry.name_not_empty hblank, CatalogEntry.Fits]
  simp

/-- The first join of a built-in channel, if the check on names lets it through. -/
theorem join_builtIn (hc : c.faults = []) (he : e ∈ c.builtIns) (hfits : e.Fits c.limits)
    {w : World} {actor : Player} (honline : w.isOnline actor.id) (hguild : actor.guild = none)
    (password : Option String) :
    (ofConfig c).LetsIn e actor ((ofConfig c).join w actor e.name password) := by
  have hid := ((CatalogEntry.faults_eq_nil_iff.mp (Config.builtIns_faults hc)).1 e he).1
  have hallows : (ofConfig c).plain.allowsName e.name := (isValidName_builtIn_iff hc he).mpr hfits
  have hfind : (ofConfig c).plain.channels.find? (Text.lowercase e.name) = some (.builtIn e) :=
    (channel?_eq _ _).symm.trans (channel?_ofConfig hc he)
  have hjoin : (ofConfig c).plain.join w actor e.name password =
      (ofConfig c).plain.give w e.key (.builtIn e) actor (.join password) := by
    rw [ChannelMap.join, hallows]
    dsimp only
    rw [hfind]
    rfl
  have hturn := Channel.perform_join_builtIn hid (ofConfig c).plain.policy w
    (ofConfig c).plain.throttle hguild password
  have hkept := Channel.not_disposable_of_isBuiltIn (e.channelWith_isBuiltIn hid actor.id)
  obtain ⟨hstate, hanswer, hdeliveries⟩ := (ofConfig_spec c).1.join_agrees w actor e.name password
  rw [hjoin, ChannelMap.give] at hstate hanswer hdeliveries
  rw [Channel.execute_channel, hturn] at hstate
  rw [Channel.execute_answer, hturn] at hanswer
  rw [Channel.deliveries_execute, hturn, Channel.deliveries_tell, if_pos honline] at hdeliveries
  have hchannels := congrArg ChannelMap.channels hstate
  refine ⟨hanswer, ?_, ?_, hdeliveries⟩
  · rw [channel?_eq]
    refine (congrArg (Dict.find? · e.key) hchannels).trans ?_
    rw [ChannelMap.find?_keep, if_pos rfl, hkept]
    rfl
  · intro name hname
    rw [channel?_eq, channel?_eq]
    refine (congrArg (Dict.find? · (Text.lowercase name)) hchannels).trans ?_
    rw [ChannelMap.find?_keep, if_neg hname]
    rfl

/-- In a new registry of a valid configuration, a built-in channel takes the first player to join it
under its name exactly if the check on names lets the name through. Otherwise the join is refused
like that of an ill-named channel, and nothing changes. -/
theorem ofConfig_join_builtIn (c : Config) (hc : c.faults = []) (e : CatalogEntry)
    (he : e ∈ c.builtIns) :
    let r := ofConfig c
    (r.isValidName e.name ↔ e.Fits c.limits) ∧
      ∀ (w : World) (actor : Player) (password : Option String), w.isOnline actor.id →
        actor.guild = none →
        (e.Fits c.limits → r.LetsIn e actor (r.join w actor e.name password)) ∧
        (¬e.Fits c.limits → r.join w actor e.name password =
          ⟨r, .error .invalidName, [.delivered actor.id (.notice ⟨e.name, .invalidName⟩)]⟩) := by
  intro r
  have hvalid := isValidName_builtIn_iff hc he
  refine ⟨hvalid, fun w actor password honline hguild => ⟨?_, ?_⟩⟩
  · exact fun hfits => join_builtIn hc he hfits honline hguild password
  · intro hlong
    have hrefused : (!r.isValidName e.name) = true := by
      rw [Bool.not_eq_true', ← Bool.not_eq_true]
      exact fun h => hlong (hvalid.mp h)
    rw [join, if_pos hrefused]
    rfl

/-- With names of up to sixteen characters all standard channels can be joined, the recruitment of
guilds for one. -/
theorem ofConfig_join_builtIn_longest :
    let c : Config := { limits := { maxNameLength := 16 } }
    let e : CatalogEntry := { name := "GuildRecruitment", id := 25, city := true }
    let ann : Player := { id := ⟨1⟩, name := "Ann" }
    let w : World := { directory := (∅ : Directory).insert ann }
    c.faults = [] ∧ e ∈ c.builtIns ∧ w.isOnline ann.id ∧ ann.guild = none ∧
      (ofConfig c).isValidName e.name ∧
      (ofConfig c).LetsIn e ann ((ofConfig c).join w ann e.name none) := by
  intro c e ann w
  have hc : c.faults = [] := by decide
  have he : e ∈ c.builtIns := by decide
  have honline : w.isOnline ann.id := by decide
  have hfits : e.Fits c.limits := (CatalogEntry.standard_fits_iff c.limits).mpr (by decide) e he
  have hjoin := ofConfig_join_builtIn c hc e he
  exact ⟨hc, he, honline, rfl, hjoin.1.mpr hfits, (hjoin.2 w ann none honline rfl).1 hfits⟩

/-- A valid limit on names keeps everyone from the channel "General", and a valid catalog may have a
name that nobody can use. -/
theorem builtIn_name_refused :
    let ann : Player := { id := ⟨1⟩, name := "Ann" }
    let w : World := { directory := (∅ : Directory).insert ann }
    let short : Config := { limits := { maxNameLength := 6 } }
    let tabbed : Config := { catalog := [{ name := "Trade	City", id := 2, trade := true }] }
    (short.faults = [] ∧ { name := "General", id := 1 } ∈ short.builtIns ∧
      (ofConfig short).isValidName "General" = false ∧
      ((ofConfig short).join w ann "General" none).answer = .error .invalidName) ∧
    tabbed.faults = [] ∧ (ofConfig tabbed).isValidName "Trade	City" = false ∧
      ((ofConfig tabbed).join w ann "Trade	City" none).answer = .error .invalidName :=
  ⟨⟨by decide, by decide, by decide, rfl⟩, by decide, by decide, rfl⟩

end Registry
end ChatChannels
