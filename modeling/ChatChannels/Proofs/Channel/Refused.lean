import ChatChannels.Proofs.Channel.Run
import ChatChannels.Proofs.Delivery

/-! Requests that come to nothing. A refused command leaves the channel as it is and tells the
actor once, or not at all where the refusal is a quiet one. A request that changes nothing tells
nobody anything. -/
namespace ChatChannels.Channel

open Event (deliveries)

variable (p : Policy) (w : World) (t : Throttle) (c : Channel) (actor : Player) (command : Command)

/-- The refusals that nobody is told of. -/
def Untold (cause : Refusal) : Prop :=
  w.isOnline actor.id = false ∨ cause = .guildRestricted ∨
    (c.isBuiltIn ∧ ∃ password player, command = .join password ∧ cause = .alreadyMember player) ∨
    (command = .leave false ∧ cause = .notMember)

theorem keepsQuiet_iff (cause : Refusal) :
    c.keepsQuiet command cause ↔ cause = .guildRestricted ∨
      (c.isBuiltIn ∧ ∃ password player, command = .join password ∧ cause = .alreadyMember player) ∨
      (command = .leave false ∧ cause = .notMember) := by
  cases cause <;> cases command <;> simp [keepsQuiet]

theorem untold_iff (cause : Refusal) :
    c.Untold w actor command cause ↔
      w.isOnline actor.id = false ∨ c.keepsQuiet command cause := by
  rw [keepsQuiet_iff]
  rfl

variable {command} in
theorem exists_notice {cause : Refusal} (hcause : cause ≠ .draining)
    (hquiet : c.keepsQuiet command cause = false) : ∃ body, cause.noticeBody? = some body := by
  cases cause with
  | draining => exact absurd rfl hcause
  | guildRestricted => cases command <;> cases hquiet
  | _ => exact ⟨_, rfl⟩

theorem deliveries_tell (player : PlayerId) (body : NoticeBody) :
    deliveries (c.tell w player body) =
      if w.isOnline player then [(player, c.notice body)] else [] :=
  Event.deliveries_sendTo w player (c.notice body)

theorem mem_deliveries_refuse {report : Report} {cause : Refusal} {d : PlayerId × Message}
    (h : d ∈ deliveries (c.refuse w actor.id report cause).events) :
    w.isOnline actor.id ∧ ∃ body, cause.noticeBody? = some body ∧ d = (actor.id, c.notice body) := by
  unfold refuse at h
  dsimp only at h
  split at h
  next body hbody =>
    rw [deliveries_tell] at h
    split at h
    next honline => exact ⟨honline, body, hbody, List.mem_singleton.mp h⟩
    next => cases h
  next => cases h

theorem deliveries_execute :
    deliveries (c.execute p w t actor command).events =
      deliveries (c.perform p w t actor command).events := by
  unfold execute
  dsimp only
  split <;> simp [deliveries, Event.delivery?]

variable {p w c actor command} {turn : Turn Answer} {cause : Refusal}

theorem Effect.eq_refusal (h : c.Effect p w actor command turn) (he : turn.answer = .error cause) :
    turn = c.refusal w actor command cause ∧ cause ≠ .draining := by
  cases h with
  | refused cause' hcause =>
    cases he
    exact ⟨rfl, hcause⟩
  | _ => cases he

theorem Effect.eq_unchanged (h : c.Effect p w actor command turn)
    (he : turn.answer = .ok .unchanged) : turn = c.unchanged := by
  cases h with
  | idle => rfl
  | _ => cases he

variable (w c actor)

theorem deliveries_refusal_of_untold (h : c.Untold w actor command cause) :
    deliveries (c.refusal w actor command cause).events = [] := by
  rw [untold_iff] at h
  unfold refusal refuse
  dsimp only
  split
  next hreport hbody =>
    rw [deliveries_tell]
    rcases h with h | h
    · rw [if_neg (by simp [h])]
    · simp [h] at hreport
  next => rfl

theorem deliveries_refusal_of_told (hcause : cause ≠ .draining)
    (h : ¬c.Untold w actor command cause) :
    ∃ n, cause.notice? c.name = some n ∧
      deliveries (c.refusal w actor command cause).events = [(actor.id, .notice n)] := by
  rw [untold_iff, not_or, Bool.not_eq_false, Bool.not_eq_true] at h
  obtain ⟨body, hbody⟩ := c.exists_notice hcause h.2
  refine ⟨⟨c.name, body⟩, by simp [Refusal.notice?, hbody], ?_⟩
  simp only [refusal, refuse, h.2, hbody]
  exact (deliveries_tell w c actor.id body).trans (if_pos h.1)

variable (p command)

/-- A refusal keeps the channel as it is and makes one message, to the actor and about the cause,
or none. Where a command or a conversion changes nothing it says nothing either. -/
theorem refused_or_unchanged :
    (∀ cause, (c.execute p w t actor command).answer = .error cause →
      (c.execute p w t actor command).channel = c ∧
      (c.Untold w actor command cause →
        deliveries (c.execute p w t actor command).events = []) ∧
      (¬c.Untold w actor command cause →
        ∃ n, cause.notice? c.name = some n ∧
          deliveries (c.execute p w t actor command).events = [(actor.id, .notice n)])) ∧
    ((c.execute p w t actor command).answer = .ok .unchanged →
      (c.execute p w t actor command).channel = c ∧
      deliveries (c.execute p w t actor command).events = []) ∧
    ∀ wantStatic explicit, (c.convert p w wantStatic explicit).answer = false →
      (c.convert p w wantStatic explicit).channel = c ∧
      deliveries (c.convert p w wantStatic explicit).events = [] := by
  have heffect := c.perform_effect p w actor t command
  rw [deliveries_execute, execute_channel, execute_answer]
  refine ⟨?_, ?_, ?_⟩
  · intro cause he
    obtain ⟨hturn, hcause⟩ := heffect.eq_refusal he
    rw [hturn]
    exact ⟨rfl, deliveries_refusal_of_untold w c actor,
      deliveries_refusal_of_told w c actor hcause⟩
  · intro he
    rw [heffect.eq_unchanged he]
    exact ⟨rfl, rfl⟩
  · intro wantStatic explicit he
    rcases c.convert_cases p w wantStatic explicit with h | ⟨_, _, h⟩ | ⟨_, _, h⟩
    · rw [h]
      exact ⟨rfl, rfl⟩
    all_goals
      rw [h] at he
      cases he

end ChatChannels.Channel
