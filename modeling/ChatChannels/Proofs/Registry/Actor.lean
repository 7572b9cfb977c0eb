import ChatChannels.Proofs.Registry.Membership
import ChatChannels.Proofs.Registry.Refinement

/-! What a command can bring about for others than the one who gives it: it brings nobody else to a
channel, and it gives nobody else a speech budget. -/
namespace ChatChannels

theorem Throttle.contains_ask {t : Throttle} {id q : PlayerId}
    (h : (t.ask id).granted.contains q) : q = id ∨ t.granted.contains q := by
  unfold ask at h
  split at h
  next => exact .inr h
  next =>
    rw [Dict.contains, Dict.find?_insert] at h
    split at h
    next hq => exact .inl hq
    next => exact .inr h

theorem Throttle.contains_forget {t : Throttle} {id q : PlayerId}
    (h : (t.forget id).granted.contains q) : q ≠ id ∧ t.granted.contains q := by
  rw [Dict.contains, forget, Dict.find?_erase] at h
  split at h
  next => cases h
  next hq => exact ⟨hq, h⟩

theorem Passage.mem_follow {q : PlayerId} {present : List PlayerId} {x : Passage}
    (h : q ∈ follow present x) : q ∈ present ∨ x = .arrival q := by
  cases x with
  | arrival a =>
    rcases List.mem_append.mp h with h | h
    · exact .inl (List.mem_of_mem_erase h)
    · exact .inr (congrArg arrival (List.mem_singleton.mp h).symm)
  | departure a => exact .inl (List.mem_of_mem_erase h)

/-- Nobody is brought to a channel by another player. -/
theorem Command.passage?_arrival {command : Command} {w : World} {actor : Player} {answer : Answer}
    {q : PlayerId} (h : command.passage? w actor answer = some (.arrival q)) : q = actor.id := by
  cases answer with
  | error cause => cases h
  | ok outcome =>
    cases command with
    | join password =>
      cases h
      rfl
    | expel name ban =>
      obtain ⟨target, _, h⟩ := Option.map_eq_some_iff.mp h
      cases h
    | _ => cases h

theorem Channel.throttleAfter_cases (c : Channel) (t : Throttle) (actor : Player)
    (command : Command) :
    c.throttleAfter t actor command = t ∨ c.throttleAfter t actor command = t.ask actor.id := by
  unfold throttleAfter
  split
  next => exact .inr rfl
  next => exact .inl rfl

theorem ChannelMap.execute_throttle (w : World) (m : ChannelMap) (actor : Player) (name : String)
    (command : Command) :
    (m.execute w actor name command).state.throttle = m.throttle ∨
      (m.execute w actor name command).state.throttle = m.throttle.ask actor.id := by
  have hgive : ∀ key c, (m.give w key c actor command).state.throttle = m.throttle ∨
      (m.give w key c actor command).state.throttle = m.throttle.ask actor.id :=
    fun key c => c.throttleAfter_cases m.throttle actor command
  rcases command.join_or_other with ⟨password, rfl⟩ | hjoin
  · have hexecute : m.execute w actor name (.join password) = m.join w actor name password := rfl
    rw [hexecute, join]
    split
    next => exact .inl rfl
    next => exact hgive _ _
  · rw [m.execute_named w hjoin]
    split
    next => exact .inl rfl
    next => exact hgive _ _

namespace Registry

variable {w : World} {r : Registry}

theorem Sound.tracked_execute (hs : r.Sound) {actor : Player} {name : String} {command : Command}
    {q : PlayerId}
    (h : (r.execute w actor name command).state.house.throttle.granted.contains q) :
    q = actor.id ∨ r.house.throttle.granted.contains q := by
  have hthrottle := congrArg ChannelMap.throttle (hs.execute_agrees w actor name command).state
  change (r.execute w actor name command).state.house.throttle = _ at hthrottle
  rw [hthrottle] at h
  rcases r.plain.execute_throttle w actor name command with he | he <;> rw [he] at h
  · exact .inr h
  · exact Throttle.contains_ask h

theorem Sound.setStatic_throttle (hs : r.Sound) (name : String) (wantStatic : Bool) :
    (r.setStatic w name wantStatic).state.house.throttle = r.house.throttle := by
  refine (congrArg ChannelMap.throttle (hs.setStatic_agrees w name wantStatic).state).trans ?_
  unfold ChannelMap.setStatic
  split <;> rfl

theorem Sound.mem_execute (hs : r.Sound) {actor : Player} {name key : String} {command : Command}
    {q : PlayerId} (h : q ∈ (r.execute w actor name command).state.membersAt key) :
    q = actor.id ∨ q ∈ r.membersAt key := by
  rw [hs.execute_follows w actor name command key, passageNamed, foldl_passagesAt] at h
  split at h
  next =>
    cases hpassage : command.passage? w actor (r.execute w actor name command).answer with
    | none =>
      rw [hpassage] at h
      exact .inr h
    | some x =>
      rw [hpassage] at h
      rcases Passage.mem_follow h with h | rfl
      · exact .inr h
      · exact .inl (Command.passage?_arrival hpassage)
  next => exact .inr h

end Registry
end ChatChannels
