import ChatChannels.Proofs.Registry.Budget

/-! Requests under different names. What a request under a name comes to depends on the channel there
and on the budget of the one who speaks by it, and it touches nothing else. So two such requests come
to the same in either order, unless both are lines of one player whose budget is limited. -/
namespace ChatChannels

open Event (deliveries)

/-- The key of the name that a request is made under. -/
def Request.key? : Request → Option String
  | .join _ name _ | .execute _ name _ | .setStatic name _ | .look name | .findOrOpen name =>
    some (Text.lowercase name)
  | .partAll _ => none

/-- Whether a command gives a line of text. -/
def Command.isLine : Command → Bool
  | .say text _ => text ≠ ""
  | _ => false

/-- Who gives a line of text by a request, be they on the channel or not. -/
def Request.talker? : Request → Option PlayerId
  | .execute actor _ command => if command.isLine then some actor.id else none
  | _ => none

/-! ## Budgets that are alike for one player -/

/-- Under one limit the player has been granted the same. -/
structure Throttle.AlikeFor (q : PlayerId) (t t' : Throttle) : Prop where
  limits : t'.limits = t.limits
  granted : t'.granted.find? q = t.granted.find? q

namespace Throttle.AlikeFor

variable {q : PlayerId} {t t' : Throttle}

theorem isEnabled (h : AlikeFor q t t') : t'.isEnabled = t.isEnabled :=
  congrArg RateLimits.isEnabled h.limits

theorem grantedTo (h : AlikeFor q t t') : t'.grantedTo q = t.grantedTo q :=
  congrArg (·.getD 0) h.granted

theorem admits (h : AlikeFor q t t') : t'.admits q = t.admits q := by
  unfold Throttle.admits
  rw [h.isEnabled, h.limits, h.grantedTo]

theorem ask (h : AlikeFor q t t') (id : PlayerId) : AlikeFor q (t.ask id) (t'.ask id) where
  limits := by rw [limits_ask, limits_ask, h.limits]
  granted := by
    by_cases hq : q = id
    · subst hq
      unfold Throttle.ask
      rw [h.isEnabled, h.admits, h.grantedTo]
      split
      · exact h.granted
      · rw [Dict.find?_insert_self, Dict.find?_insert_self]
    · rw [find?_ask_other hq, find?_ask_other hq, h.granted]

end Throttle.AlikeFor

namespace Channel

variable {p : Policy} {w : World} {t t' : Throttle} {c : Channel} {actor : Player}
  {command : Command} {q : PlayerId}

theorem speaker?_talks (h : c.speaker? actor command = some q) :
    command.isLine ∧ actor.id = q := by
  cases command with
  | say text language =>
    obtain ⟨⟨htext, _⟩, hid⟩ := Option.ite_none_right_eq_some.mp h
    exact ⟨decide_eq_true htext, Option.some.inj hid⟩
  | _ => cases h

/-- The budgets matter for a line of text only, and then only whether the speaker has any left. -/
theorem execute_congr (h : command.isLine → t'.admits actor.id = t.admits actor.id) :
    c.execute p w t' actor command = c.execute p w t actor command := by
  cases command with
  | say text language =>
    by_cases htext : text = ""
    · subst htext
      rfl
    · unfold execute perform
      dsimp only
      rw [h (decide_eq_true htext)]
  | _ => rfl

end Channel

namespace ChannelMap

variable (w : World) {m m' : ChannelMap} {key : String} {id : Option PlayerId} {α β : Type}

/-! ## What a request depends on -/

/-- Maps that differ at most in the channels at other keys and in the budgets of other players. -/
structure AlikeAt (key : String) (id : Option PlayerId) (m m' : ChannelMap) : Prop where
  policy : m'.policy = m.policy
  limits : m'.limits = m.limits
  catalog : m'.catalog = m.catalog
  channel : m'.channels.find? key = m.channels.find? key
  budget : ∀ q, id = some q → Throttle.AlikeFor q m.throttle m'.throttle

/-- Replies that are the same, out of maps that are left alike. -/
structure SameAt (key : String) (id : Option PlayerId) (x y : Reply ChannelMap α) : Prop where
  answer : y.answer = x.answer
  events : y.events = x.events
  state : x.state.AlikeAt key id y.state

theorem SameAt.map {x y : Reply ChannelMap α} (h : SameAt key id x y) (f : α → β) :
    SameAt key id (x.map f) (y.map f) :=
  ⟨congrArg f h.answer, h.events, h.state⟩

theorem AlikeAt.keep (h : AlikeAt key id m m') (c : Channel) {t t' : Throttle}
    (ht : ∀ q, id = some q → Throttle.AlikeFor q t t') :
    AlikeAt key id ({ m with throttle := t }.keep key c) ({ m' with throttle := t' }.keep key c) where
  policy := h.policy
  limits := h.limits
  catalog := h.catalog
  channel := by rw [find?_keep, find?_keep, if_pos rfl, if_pos rfl]
  budget := ht

theorem AlikeAt.give (h : AlikeAt key id m m') (c : Channel) (actor : Player) (command : Command)
    (hid : command.isLine → id = some actor.id) :
    SameAt key id (m.give w key c actor command) (m'.give w key c actor command) := by
  have hturn : c.execute m'.policy w m'.throttle actor command =
      c.execute m.policy w m.throttle actor command := by
    rw [h.policy]
    exact Channel.execute_congr fun hline => (h.budget actor.id (hid hline)).admits
  have hbudget : ∀ q, id = some q → Throttle.AlikeFor q
      (c.throttleAfter m.throttle actor command) (c.throttleAfter m'.throttle actor command) := by
    intro q hq
    rw [Channel.throttleAfter_eq, Channel.throttleAfter_eq]
    cases c.speaker? actor command with
    | none => exact h.budget q hq
    | some s => exact (h.budget q hq).ask s
  unfold ChannelMap.give
  rw [hturn]
  exact ⟨rfl, rfl, h.keep _ hbudget⟩

theorem AlikeAt.join (actor : Player) (name : String)
    (h : AlikeAt (Text.lowercase name) id m m') (password : Option String) :
    SameAt (Text.lowercase name) id (m.join w actor name password)
      (m'.join w actor name password) := by
  have hallows : m'.allowsName name = m.allowsName name := by
    rw [allowsName, allowsName, h.limits]
  have hfresh : m'.fresh name = m.fresh name := by
    rw [fresh, fresh, h.catalog]
  unfold ChannelMap.join
  dsimp only
  rw [hallows, hfresh, h.channel]
  split
  · exact ⟨rfl, rfl, h⟩
  · exact h.give w _ actor _ fun hline => by cases hline

theorem AlikeAt.serve (request : Request) (hkey : request.key? = some key)
    (h : AlikeAt key request.talker? m m') :
    SameAt key request.talker? (m.serve w request) (m'.serve w request) := by
  cases request with
  | partAll actor => cases hkey
  | look name =>
    cases hkey
    exact ⟨congrArg Response.shown h.channel, rfl, h⟩
  | findOrOpen name =>
    cases hkey
    have hfresh : m'.fresh name = m.fresh name := by
      rw [fresh, fresh, h.catalog]
    refine SameAt.map ?_ Response.found
    unfold findOrOpen
    rw [h.channel, hfresh]
    split
    next => exact ⟨rfl, rfl, h⟩
    next =>
      refine ⟨rfl, rfl, h.policy, h.limits, h.catalog, ?_, h.budget⟩
      rw [Dict.find?_insert_self, Dict.find?_insert_self]
  | setStatic name wantStatic =>
    cases hkey
    refine SameAt.map ?_ Response.converted
    unfold setStatic
    rw [h.channel, h.policy]
    split
    next => exact ⟨rfl, rfl, h⟩
    next => exact ⟨rfl, rfl, h.keep _ h.budget⟩
  | join actor name password =>
    cases hkey
    exact (h.join w actor name password).map Response.answered
  | execute actor name command =>
    cases hkey
    refine SameAt.map ?_ Response.answered
    rcases command.join_or_other with ⟨password, rfl⟩ | hjoin
    · exact h.join w actor name password
    · rw [m.execute_named w hjoin, m'.execute_named w hjoin, h.channel]
      split
      next => exact ⟨rfl, rfl, h⟩
      next => exact h.give w _ actor command fun hline => if_pos hline

/-! ## What a request leaves alone -/

/-- A map that has changed at most in the channel at one key and in the budget of one player. -/
structure SparesOthers (key : String) (id : Option PlayerId) (m m' : ChannelMap) : Prop where
  policy : m'.policy = m.policy
  limits : m'.limits = m.limits
  catalog : m'.catalog = m.catalog
  rates : m'.throttle.limits = m.throttle.limits
  channels : ∀ key', key' ≠ key → m'.channels.find? key' = m.channels.find? key'
  budgets : ∀ q, (m.throttle.isEnabled → id ≠ some q) →
    m'.throttle.granted.find? q = m.throttle.granted.find? q

theorem SparesOthers.refl (key : String) (id : Option PlayerId) (m : ChannelMap) :
    SparesOthers key id m m :=
  ⟨rfl, rfl, rfl, rfl, fun _ _ => rfl, fun _ _ => rfl⟩

/-- A request at another key and by another speaker finds the map as it was. -/
theorem SparesOthers.alikeAt {key' : String} {id' : Option PlayerId} (h : SparesOthers key id m m')
    (hkey : key' ≠ key) (hid : m.throttle.isEnabled → ∀ q, id' = some q → id ≠ some q) :
    AlikeAt key' id' m m' :=
  ⟨h.policy, h.limits, h.catalog, h.channels key' hkey,
    fun q hq => ⟨h.rates, h.budgets q fun henabled => hid henabled q hq⟩⟩

theorem sparesOthers_keep (key : String) (c : Channel) : SparesOthers key id m (m.keep key c) where
  policy := rfl
  limits := rfl
  catalog := rfl
  rates := rfl
  channels key' hne := by rw [find?_keep, if_neg hne]
  budgets _ _ := rfl

theorem sparesOthers_give (key : String) (c : Channel) (actor : Player) (command : Command)
    (hid : command.isLine → id = some actor.id) :
    SparesOthers key id m (m.give w key c actor command).state := by
  have hkeep : SparesOthers key id m
      (m.keep key (c.execute m.policy w m.throttle actor command).channel) :=
    sparesOthers_keep key _
  refine ⟨rfl, rfl, rfl, ?_, hkeep.channels, ?_⟩
  · change (c.throttleAfter m.throttle actor command).limits = m.throttle.limits
    rw [Channel.throttleAfter_eq]
    cases c.speaker? actor command with
    | none => rfl
    | some s => exact m.throttle.limits_ask s
  · intro q hq
    change (c.throttleAfter m.throttle actor command).granted.find? q = _
    rw [Channel.throttleAfter_eq]
    cases hspeaker : c.speaker? actor command with
    | none => rfl
    | some s =>
      obtain ⟨hline, rfl⟩ := Channel.speaker?_talks hspeaker
      cases henabled : m.throttle.isEnabled with
      | false => exact congrArg (·.granted.find? q) (Throttle.ask_disabled henabled)
      | true =>
        refine Throttle.find?_ask_other ?_
        rintro rfl
        exact hq henabled (hid hline)

theorem sparesOthers_join (actor : Player) (name : String) (password : Option String) :
    SparesOthers (Text.lowercase name) id m (m.join w actor name password).state := by
  unfold join
  split
  · exact .refl _ _ _
  · exact sparesOthers_give w _ _ actor _ fun hline => by cases hline

theorem sparesOthers_serve (m : ChannelMap) (request : Request) (hkey : request.key? = some key) :
    SparesOthers key request.talker? m (m.serve w request).state := by
  cases request with
  | partAll actor => cases hkey
  | look name => exact .refl _ _ _
  | findOrOpen name =>
    cases hkey
    change SparesOthers _ _ m (m.findOrOpen name).state
    unfold findOrOpen
    split
    next => exact .refl _ _ _
    next =>
      refine ⟨rfl, rfl, rfl, rfl, fun key' hne => ?_, fun _ _ => rfl⟩
      exact (Dict.find?_insert _ _ _ _).trans (if_neg hne)
  | setStatic name wantStatic =>
    cases hkey
    change SparesOthers _ _ m (m.setStatic w name wantStatic).state
    unfold setStatic
    split
    next => exact .refl _ _ _
    next => exact sparesOthers_keep _ _
  | join actor name password =>
    cases hkey
    exact sparesOthers_join w actor name password
  | execute actor name command =>
    cases hkey
    change SparesOthers _ _ m (m.execute w actor name command).state
    rcases command.join_or_other with ⟨password, rfl⟩ | hjoin
    · exact sparesOthers_join w actor name password
    · rw [m.execute_named w hjoin]
      split
      next => exact .refl _ _ _
      next => exact sparesOthers_give w _ _ actor command fun hline => if_pos hline

/-! ## Two requests -/

/-- Maps that hold the same channels and the same budgets, listed in whatever order. -/
structure Alike (m m' : ChannelMap) : Prop where
  policy : m'.policy = m.policy
  limits : m'.limits = m.limits
  catalog : m'.catalog = m.catalog
  rates : m'.throttle.limits = m.throttle.limits
  channels : ∀ key, m'.channels.find? key = m.channels.find? key
  budgets : ∀ q, m'.throttle.granted.find? q = m.throttle.granted.find? q

variable {w₁ w₂ : World} {a b : Request} {k l : String}

/-- Whether or not another request has been answered before, a request comes to the same. -/
theorem serve_after (m : ChannelMap) (w₁ w₂ : World) (ha : a.key? = some k)
    (hb : b.key? = some l) (hne : k ≠ l)
    (htalk : m.throttle.isEnabled → ∀ q, a.talker? = some q → b.talker? ≠ some q) :
    SameAt k a.talker? (m.serve w₁ a) ((m.serve w₂ b).state.serve w₁ a) :=
  ((m.sparesOthers_serve w₂ b hb).alikeAt hne htalk).serve w₁ a ha

theorem serve_comm (m : ChannelMap) (ha : a.key? = some k) (hb : b.key? = some l) (hne : k ≠ l)
    (htalk : m.throttle.isEnabled → ∀ q, a.talker? = some q → b.talker? ≠ some q) :
    ((m.serve w₁ a).state.serve w₂ b).state.Alike ((m.serve w₂ b).state.serve w₁ a).state := by
  have htalk' : m.throttle.isEnabled → ∀ q, b.talker? = some q → a.talker? ≠ some q :=
    fun henabled q hbq haq => htalk henabled q haq hbq
  have hfirst := m.sparesOthers_serve w₁ a ha
  have hfirst' := m.sparesOthers_serve w₂ b hb
  have hsecond := (m.serve w₁ a).state.sparesOthers_serve w₂ b hb
  have hsecond' := (m.serve w₂ b).state.sparesOthers_serve w₁ a ha
  have hlate : AlikeAt k a.talker? _ _ := (m.serve_after w₁ w₂ ha hb hne htalk).state
  have hlate' : AlikeAt l b.talker? _ _ := (m.serve_after w₂ w₁ hb ha hne.symm htalk').state
  have henabled : (m.serve w₁ a).state.throttle.isEnabled = m.throttle.isEnabled :=
    congrArg RateLimits.isEnabled hfirst.rates
  have henabled' : (m.serve w₂ b).state.throttle.isEnabled = m.throttle.isEnabled :=
    congrArg RateLimits.isEnabled hfirst'.rates
  refine ⟨?_, ?_, ?_, ?_, fun key => ?_, fun q => ?_⟩
  · rw [hsecond'.policy, hfirst'.policy, hsecond.policy, hfirst.policy]
  · rw [hsecond'.limits, hfirst'.limits, hsecond.limits, hfirst.limits]
  · rw [hsecond'.catalog, hfirst'.catalog, hsecond.catalog, hfirst.catalog]
  · rw [hsecond'.rates, hfirst'.rates, hsecond.rates, hfirst.rates]
  · -- each channel is written by the request made under its name, and by no other
    by_cases hk : key = k
    · subst hk
      rw [hlate.channel, hsecond.channels key hne]
    · by_cases hl : key = l
      · subst hl
        rw [hsecond'.channels key hk, hlate'.channel]
      · rw [hsecond'.channels key hk, hfirst'.channels key hl, hsecond.channels key hl,
          hfirst.channels key hk]
  · by_cases haq : m.throttle.isEnabled ∧ a.talker? = some q
    · have hquiet := htalk haq.1 q haq.2
      rw [(hlate.budget q haq.2).granted, hsecond.budgets q fun _ => hquiet]
    · have hquiet : m.throttle.isEnabled → a.talker? ≠ some q := fun he hq => haq ⟨he, hq⟩
      rw [hsecond'.budgets q (henabled' ▸ hquiet)]
      by_cases hbq : m.throttle.isEnabled ∧ b.talker? = some q
      · exact (hlate'.budget q hbq.2).granted.symm
      · have hquiet' : m.throttle.isEnabled → b.talker? ≠ some q := fun he hq => hbq ⟨he, hq⟩
        rw [hfirst'.budgets q hquiet', hsecond.budgets q (henabled ▸ hquiet'),
          hfirst.budgets q hquiet]

end ChannelMap

namespace Registry

/-- Under every other key the registry keeps the handle and the channel as they are. -/
def SparesOthers (key : String) (r r' : Registry) : Prop :=
  ∀ key', key' ≠ key → r'.house.live.find? key' = r.house.live.find? key' ∧
    r'.house.channels.find? key' = r.house.channels.find? key'

variable {r : Registry} (w : World) {key key' : String}

theorem Sound.live_setStaticVia (hs : r.Sound) {handle : Handle}
    (hlive : r.house.live.find? key = some handle) (hne : key' ≠ key) (wantStatic : Bool) :
    (r.setStaticVia w handle wantStatic).state.house.live.find? key' =
      r.house.live.find? key' := by
  obtain ⟨room, hroom, hdraining, rfl, _⟩ := hs.house.exists_room hlive
  rw [r.setStaticVia_worker w (House.worker?_eq_some_iff.mpr ⟨hroom, hdraining⟩)]
  exact (hs.house.budgeted r.house.throttle).live_settle _ hroom hdraining hne

theorem Sound.live_findOrOpen (hs : r.Sound) {name : String} (hne : key' ≠ Text.lowercase name) :
    (r.findOrOpen name).state.house.live.find? key' = r.house.live.find? key' := by
  unfold findOrOpen
  split
  next => rfl
  next =>
    rw [openAt_house hs.house.standing]
    exact (Dict.find?_insert _ _ _ _).trans (if_neg hne)

theorem Sound.live_join (hs : r.Sound) (actor : Player) {name : String}
    (hne : key' ≠ Text.lowercase name) (password : Option String) :
    (r.join w actor name password).state.house.live.find? key' = r.house.live.find? key' := by
  rw [hs.join_eq w]
  split
  next => rfl
  next =>
    obtain ⟨hs', hlive⟩ := hs.findOrOpen_live name
    exact (hs'.live_commandVia w hlive hne actor _).trans (hs.live_findOrOpen hne)

theorem Sound.live_serve (hs : r.Sound) {request : Request} (hkey : request.key? = some key)
    (hne : key' ≠ key) :
    (r.serve w request).state.house.live.find? key' = r.house.live.find? key' := by
  cases request with
  | partAll actor => cases hkey
  | look name => rfl
  | findOrOpen name =>
    cases hkey
    exact hs.live_findOrOpen hne
  | setStatic name wantStatic =>
    cases hkey
    change (r.setStatic w name wantStatic).state.house.live.find? key' = _
    unfold setStatic
    split
    next => rfl
    next handle hfind => exact hs.live_setStaticVia w hfind hne wantStatic
  | join actor name password =>
    cases hkey
    exact hs.live_join w actor hne password
  | execute actor name command =>
    cases hkey
    change (r.execute w actor name command).state.house.live.find? key' = _
    rcases command.join_or_other with ⟨password, rfl⟩ | hjoin
    · exact hs.live_join w actor hne password
    · rw [hs.execute_eq w hjoin]
      split
      next => rfl
      next handle hfind => exact hs.live_commandVia w hfind hne actor command

theorem Sound.sparesOthers_serve (hs : r.Sound) {request : Request}
    (hkey : request.key? = some key) : r.SparesOthers key (r.serve w request).state := by
  intro key' hne
  refine ⟨hs.live_serve w hkey hne, ?_⟩
  have hagrees := congrArg (·.channels.find? key') (hs.serve_agrees w request).state
  exact hagrees.trans ((r.plain.sparesOthers_serve w request hkey).channels key' hne)

/-- Two requests one after the other are two requests to the plain map. -/
theorem Sound.serve_twice (hs : r.Sound) (w w' : World) (a b : Request) :
    ((r.serve w a).state.serve w' b).Agrees ((r.plain.serve w a).state.serve w' b) := by
  have hs' : (r.serve w a).state.Sound := (hs.move_steps w (.request a)).sound hs
  rw [← (hs.serve_agrees w a).state]
  exact hs'.serve_agrees w' b

/-- A request that comes after another, under another name, is answered as if it came first. -/
theorem Sound.serve_after (hs : r.Sound) (w₁ w₂ : World) {a b : Request} {k l : String}
    (ha : a.key? = some k) (hb : b.key? = some l) (hne : k ≠ l)
    (htalk : r.house.throttle.isEnabled → ∀ q, a.talker? = some q → b.talker? ≠ some q) :
    let first := r.serve w₁ a
    let late := (r.serve w₂ b).state.serve w₁ a
    late.answer = first.answer ∧ deliveries late.events = deliveries first.events := by
  have hfirst := hs.serve_agrees w₁ a
  have hlate := hs.serve_twice w₂ w₁ b a
  have hsame := r.plain.serve_after w₁ w₂ ha hb hne htalk
  refine ⟨hlate.answer.trans (hsame.answer.trans hfirst.answer.symm), ?_⟩
  rw [hlate.deliveries, hsame.events, hfirst.deliveries]

/-- Two requests under different names come to the same in either order, with the same answers and
deliveries and the same channels in the end, unless both are lines of a player whose budget is
limited. Neither touches any channel but its own. -/
theorem run_independent (c : Config) (moves : List (World × Move)) (w₁ w₂ : World) {a b : Request}
    {k l : String} (ha : a.key? = some k) (hb : b.key? = some l) (hne : k ≠ l)
    (htalk : c.rateLimits.isEnabled → ∀ q, a.talker? = some q → b.talker? ≠ some q) :
    let r := (ofConfig c).run moves
    let first := r.serve w₁ a
    let second := first.state.serve w₂ b
    let first' := r.serve w₂ b
    let second' := first'.state.serve w₁ a
    (second'.answer = first.answer ∧ deliveries second'.events = deliveries first.events) ∧
      (second.answer = first'.answer ∧ deliveries second.events = deliveries first'.events) ∧
      second.state.plain.Alike second'.state.plain ∧
      r.SparesOthers k first.state ∧ r.SparesOthers l first'.state := by
  intro r first second first' second'
  have hs : r.Sound := (run_orderly c moves).toSound
  have hlimits : r.house.throttle.limits = c.rateLimits := run_limits c moves
  have htalks : r.house.throttle.isEnabled → ∀ q, a.talker? = some q → b.talker? ≠ some q := by
    rwa [Throttle.isEnabled, hlimits]
  have htalks' : r.house.throttle.isEnabled → ∀ q, b.talker? = some q → a.talker? ≠ some q :=
    fun henabled q hbq haq => htalks henabled q haq hbq
  refine ⟨hs.serve_after w₁ w₂ ha hb hne htalks,
    hs.serve_after w₂ w₁ hb ha hne.symm htalks', ?_,
    hs.sparesOthers_serve w₁ ha, hs.sparesOthers_serve w₂ hb⟩
  rw [(hs.serve_twice w₁ w₂ a b).state, (hs.serve_twice w₂ w₁ b a).state]
  exact r.plain.serve_comm ha hb hne htalks

/-- While lines are limited Ann speaks on Trade, and Bob is the last to leave a channel of his, which
goes. -/
theorem run_independent_drained :
    let c : Config := { rateLimits := { sayRatePerSecond := 1 } }
    let ann : Player := { id := ⟨1⟩, name := "Ann" }
    let bob : Player := { id := ⟨2⟩, name := "Bob" }
    let w : World := { directory := ((∅ : Directory).insert ann).insert bob }
    let moves : List (World × Move) := [(w, .request (.join ann "Trade" none)),
      (w, .request (.join bob "Trade" none)), (w, .request (.join bob "Den" none))]
    let a := Request.execute ann "TRADE" (.say "hi" .universal)
    let b := Request.execute bob "den" (.leave true)
    let r := (ofConfig c).run moves
    let second := (r.serve w a).state.serve w b
    let second' := (r.serve w b).state.serve w a
    (c.rateLimits.isEnabled ∧ a.talker? = some ann.id) ∧
      (a.key? = some "trade" ∧ b.key? = some "den") ∧
      (r.size = 7 ∧ second.state.size = 6) ∧
      deliveries second'.events = deliveries (r.serve w a).events ∧
      second.state.plain.Alike second'.state.plain := by
  intro c ann bob w moves a b r second second'
  have ha : a.key? = some "trade" := by decide +kernel
  have hb : b.key? = some "den" := by decide +kernel
  have hindependent := run_independent c moves w w ha hb (by decide) fun _ _ _ h => by cases h
  exact ⟨by decide, ⟨ha, hb⟩, by decide +kernel, hindependent.1.2, hindependent.2.2.1⟩

end Registry
end ChatChannels
