import ChatChannels.Proofs.Roster
import ChatChannels.Channel.Command

/-! What the speech budgets are after somebody has asked to speak or has been forgotten. Others keep
theirs, and under a rate at which a token can be missing a budget counts what has been asked for, up
to the burst. -/
namespace ChatChannels

/-- A token can be missing at every rate up to one in each nanosecond. -/
theorem RateLimits.tokenInterval_ne_zero {l : RateLimits} (hrate : 1 ≤ l.sayRatePerSecond.toNat)
    (hrate' : l.sayRatePerSecond.toNat ≤ nanosPerSecond) : l.tokenInterval ≠ 0 :=
  Nat.ne_of_gt (Nat.div_pos hrate' hrate)

theorem RateLimits.isEnabled_iff {l : RateLimits} : l.isEnabled ↔ 1 ≤ l.sayRatePerSecond.toNat := by
  rw [RateLimits.isEnabled, decide_eq_true_iff, UInt32.lt_iff_toNat_lt]
  exact Nat.succ_le_iff.symm

namespace Throttle

variable (t : Throttle) (id q : PlayerId)

@[simp] theorem limits_ask : (t.ask id).limits = t.limits := by
  unfold ask
  split <;> rfl

variable {t id q}

theorem ask_disabled (h : t.isEnabled = false) : t.ask id = t := by
  rw [ask, h]
  rfl

theorem find?_ask_other (hq : q ≠ id) : (t.ask id).granted.find? q = t.granted.find? q := by
  unfold ask
  split
  next => rfl
  next => exact (Dict.find?_insert _ _ _ _).trans (if_neg hq)

theorem grantedTo_ask_other (hq : q ≠ id) : (t.ask id).grantedTo q = t.grantedTo q :=
  congrArg (·.getD 0) (find?_ask_other hq)

theorem grantedTo_ask_self (h : t.isEnabled) :
    (t.ask id).grantedTo id = if t.admits id then t.grantedTo id + 1 else t.grantedTo id := by
  rw [ask, h, grantedTo]
  simp

theorem grantedTo_forget_self : (t.forget id).grantedTo id = 0 := by
  rw [grantedTo, forget, Dict.find?_erase_self]
  rfl

theorem grantedTo_forget_other (hq : q ≠ id) : (t.forget id).grantedTo q = t.grantedTo q := by
  rw [grantedTo, forget, Dict.find?_erase, if_neg hq]
  rfl

theorem admits_iff (h : t.isEnabled) (hinterval : t.limits.tokenInterval ≠ 0) :
    t.admits id ↔ t.grantedTo id < t.limits.burst := by
  simp [admits, h, hinterval]

/-- One more line has been asked for, of which the burst bounds how many are granted. -/
theorem grantedTo_ask_min (h : t.isEnabled) (hinterval : t.limits.tokenInterval ≠ 0) {n : Nat}
    (hn : t.grantedTo q = min n t.limits.burst) :
    (t.ask q).grantedTo q = min (n + 1) t.limits.burst := by
  rw [grantedTo_ask_self h]
  split
  next hadmits =>
    have hlt := (admits_iff h hinterval).mp hadmits
    omega
  next hrefused =>
    have hge := mt (admits_iff h hinterval).mpr hrefused
    omega

end Throttle

namespace Channel

variable {c : Channel} {actor : Player}

/-- Only a budget that is spent puts a speaker off until later. -/
theorem admitted_of_speechRefusal {p : Policy} {role : Role} {text : String} {admitted : Bool}
    (h : c.speechRefusal p actor role text admitted = some .throttled) : admitted = false := by
  cases admitted with
  | false => rfl
  | true =>
    simp only [speechRefusal, Bool.not_true, Bool.false_eq_true, if_false] at h
    split at h
    next => cases h
    next =>
      split at h
      next => cases h
      next =>
        split at h
        next => cases h
        next => cases h

/-- The budget decides whether a member's line is put off, whatever else speaks against it. -/
theorem say_throttled_iff {p : Policy} {w : World} {text : String} {language : Language}
    {admitted : Bool} (htext : text ≠ "") (hmember : c.contains actor.id) :
    (c.say p w actor text language admitted).answer = .error .throttled ↔ admitted = false := by
  obtain ⟨role, hrole⟩ := Roster.exists_role_of_contains hmember
  rw [say, if_neg (by simpa using htext), hrole]
  dsimp only
  split
  next cause hcause =>
    rw [reject_answer, Except.error.injEq]
    constructor
    · rintro rfl
      exact admitted_of_speechRefusal hcause
    · rintro rfl
      exact (Option.some.inj hcause).symm
  next hnone =>
    refine iff_of_false (fun he => by cases he) ?_
    rintro rfl
    cases hnone

end Channel
end ChatChannels
