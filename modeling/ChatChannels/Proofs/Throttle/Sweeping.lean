import ChatChannels.Proofs.Dict
import ChatChannels.Proofs.Throttle
import Mathlib.Data.List.Induction

/-! Throttles under any calls while the clock stands still. A player is let through until as many of
their checks have been as the burst allows, counted from when they were last forgotten. Neither other
players nor sweeps make a difference to that: budgets are dropped only at rates at which no token is
ever missing. -/
namespace ChatChannels

namespace RateLimits

variable {l : RateLimits}

/-- The time in which an empty budget fills up, in nanoseconds and rounded to the nearest. -/
def refillTime (l : RateLimits) : Nat :=
  (2 * nanosPerSecond * l.burst + l.sayRatePerSecond.toNat) / (2 * l.sayRatePerSecond.toNat)

/-- Whether a token can be missing: there is a limit, and tokens take time to come back. -/
def Meters (l : RateLimits) : Prop := l.isEnabled ∧ l.tokenInterval ≠ 0

theorem isEnabled_eq_false_iff : l.isEnabled = false ↔ l.sayRatePerSecond = 0 := by
  rw [← Bool.not_eq_true, isEnabled_iff, ← UInt32.toNat_inj, UInt32.toNat_zero]
  omega

theorem not_meters_iff :
    ¬l.Meters ↔ l.sayRatePerSecond = 0 ∨ nanosPerSecond < l.sayRatePerSecond.toNat := by
  rw [Meters, not_and_or, Bool.not_eq_true, isEnabled_eq_false_iff, not_not, tokenInterval,
    Nat.div_eq_zero_iff, ← UInt32.toNat_inj, UInt32.toNat_zero]
  omega

/-- The time rounds to nothing where it is less than half a nanosecond. -/
theorem refillsAtOnce_iff (h : l.isEnabled) : l.refillsAtOnce ↔ l.refillTime = 0 := by
  have hrate := isEnabled_iff.mp h
  rw [refillsAtOnce, decide_eq_true_iff, refillTime, Nat.div_eq_zero_iff]
  omega

/-- A budget that fills up at once has tokens that come back at once: the rate is more than two
tokens in each nanosecond, for one nanosecond of burst. -/
theorem not_meters_of_refillsAtOnce (h : l.refillsAtOnce) : ¬l.Meters := by
  rw [refillsAtOnce, decide_eq_true_iff] at h
  have hburst : 1 ≤ l.burst := Nat.le_max_right _ _
  have hspan := Nat.mul_le_mul_left (2 * nanosPerSecond) hburst
  rw [not_meters_iff]
  omega

end RateLimits

namespace Throttle

variable {t t' : Throttle} {p : PlayerId}

/-! ## Calls -/

inductive Call where
  | check (id : PlayerId)
  | forget (id : PlayerId)
  | sweep
deriving DecidableEq

/-- The player whose budget a call is about. -/
def Call.player? : Call → Option PlayerId
  | .check id | .forget id => some id
  | .sweep => none

def serve (t : Throttle) : Call → Throttle
  | .check id => t.ask id
  | .forget id => t.forget id
  | .sweep => t.sweep

/-- Whether a check lets its player through; other calls are not answered. -/
def answer? (t : Throttle) : Call → Option Bool
  | .check id => some (t.admits id)
  | .forget _ | .sweep => none

def after (t : Throttle) (calls : List Call) : Throttle := calls.foldl serve t

abbrev Log := List (Call × Option Bool)

/-- The calls with their answers. -/
def log (t : Throttle) : List Call → Log
  | [] => []
  | c :: rest => (c, t.answer? c) :: log (t.serve c) rest

/-- How many checks of a player have been let through since the player was last forgotten. -/
def admittedTo (p : PlayerId) (log : Log) : Nat :=
  (log.reverse.takeWhile fun e => e.1 ≠ .forget p).count (.check p, some true)

def answers (log : Log) : List Bool := log.filterMap (·.2)

/-- What the checks of one player have been answered. -/
def answersTo (p : PlayerId) (log : Log) : List Bool :=
  answers (log.filter fun e => e.1.player? = some p)

theorem after_concat (t : Throttle) (calls : List Call) (c : Call) :
    t.after (calls ++ [c]) = (t.after calls).serve c := by
  simp [after]

theorem log_concat (t : Throttle) (calls : List Call) (c : Call) :
    t.log (calls ++ [c]) = t.log calls ++ [(c, (t.after calls).answer? c)] := by
  induction calls generalizing t with
  | nil => rfl
  | cons first rest ih => simp [log, after, ih]

theorem answers_cons (e : Call × Option Bool) (log : Log) :
    answers (e :: log) = e.2.toList ++ answers log := by
  cases he : e.2 <;> simp [answers, he]

theorem answersTo_cons (p : PlayerId) (e : Call × Option Bool) (log : Log) :
    answersTo p (e :: log) =
      if e.1.player? = some p then e.2.toList ++ answersTo p log else answersTo p log := by
  by_cases h : e.1.player? = some p
  · rw [if_pos h, answersTo, List.filter_cons_of_pos (by simpa using h), answers_cons]
    rfl
  · rw [if_neg h, answersTo, List.filter_cons_of_neg (by simpa using h)]
    rfl

theorem admittedTo_concat (p : PlayerId) (log : Log) (e : Call × Option Bool) :
    admittedTo p (log ++ [e]) =
      if e.1 = .forget p then 0
      else admittedTo p log + if e = (.check p, some true) then 1 else 0 := by
  by_cases h : e.1 = .forget p
  · simp [admittedTo, h]
  · simp [admittedTo, h, List.count_cons]

/-! ## One call -/

@[simp] theorem limits_serve (c : Call) : (t.serve c).limits = t.limits := by
  cases c with
  | check id => exact t.limits_ask id
  | forget id => rfl
  | sweep => rfl

@[simp] theorem limits_after (calls : List Call) : (t.after calls).limits = t.limits := by
  induction calls using List.reverseRecOn with
  | nil => rfl
  | append_singleton calls c ih => rw [after_concat, limits_serve, ih]

/-- No budget is dropped as long as a token can be missing from it. -/
theorem sweep_of_meters (h : t.limits.Meters) : t.sweep = t := by
  have hidle : t.idle = [] := if_neg fun hrefills => RateLimits.not_meters_of_refillsAtOnce hrefills h
  rw [sweep, hidle]
  rfl

theorem admits_iff_of_meters (h : t.limits.Meters) :
    t.admits p = true ↔ t.grantedTo p < t.limits.burst :=
  admits_iff h.1 h.2

theorem admits_of_not_meters (h : ¬t.limits.Meters) : t.admits p = true := by
  rw [RateLimits.Meters, not_and_or, Bool.not_eq_true, not_not] at h
  simp only [admits, isEnabled, Bool.or_eq_true, Bool.not_eq_true', decide_eq_true_iff]
  exact .inl h

/-- The throttles have one limit, and as far as anything is counted against it the player has been
granted as much by either. -/
structure AgreesFor (p : PlayerId) (t t' : Throttle) : Prop where
  limits : t.limits = t'.limits
  granted : t.limits.Meters → t.grantedTo p = t'.grantedTo p

theorem AgreesFor.refl (p : PlayerId) (t : Throttle) : t.AgreesFor p t := ⟨rfl, fun _ => rfl⟩

theorem AgreesFor.admits (h : t.AgreesFor p t') : t.admits p = t'.admits p := by
  rw [Bool.eq_iff_iff]
  by_cases hmeters : t.limits.Meters
  · rw [admits_iff_of_meters hmeters, admits_iff_of_meters (h.limits ▸ hmeters), h.granted hmeters,
      h.limits]
  · have hmeters' : ¬t'.limits.Meters := h.limits ▸ hmeters
    simp [admits_of_not_meters hmeters, admits_of_not_meters hmeters']

theorem AgreesFor.serve (h : t.AgreesFor p t') (c : Call) : (t.serve c).AgreesFor p (t'.serve c) := by
  refine ⟨by simp [h.limits], fun hmeters => ?_⟩
  rw [limits_serve] at hmeters
  have hmeters' : t'.limits.Meters := h.limits ▸ hmeters
  have hgranted := h.granted hmeters
  cases c with
  | check id =>
    by_cases hid : p = id
    · subst hid
      change (t.ask p).grantedTo p = (t'.ask p).grantedTo p
      rw [grantedTo_ask_self hmeters.1, grantedTo_ask_self hmeters'.1, h.admits, hgranted]
    · change (t.ask id).grantedTo p = (t'.ask id).grantedTo p
      rw [grantedTo_ask_other hid, grantedTo_ask_other hid, hgranted]
  | forget id =>
    by_cases hid : p = id
    · subst hid
      exact grantedTo_forget_self.trans grantedTo_forget_self.symm
    · change (t.forget id).grantedTo p = (t'.forget id).grantedTo p
      rw [grantedTo_forget_other hid, grantedTo_forget_other hid, hgranted]
  | sweep =>
    change t.sweep.grantedTo p = t'.sweep.grantedTo p
    rw [sweep_of_meters hmeters, sweep_of_meters hmeters', hgranted]

/-- A call about somebody else, or a sweep, makes no difference to a player. -/
theorem AgreesFor.idle (h : t.AgreesFor p t') {c : Call} (hc : c.player? ≠ some p) :
    (t.serve c).AgreesFor p t' := by
  refine ⟨by simp [h.limits], fun hmeters => ?_⟩
  rw [limits_serve] at hmeters
  rw [← h.granted hmeters]
  cases c with
  | check id => exact grantedTo_ask_other fun he => hc (congrArg some he.symm)
  | forget id => exact grantedTo_forget_other fun he => hc (congrArg some he.symm)
  | sweep => exact congrArg (grantedTo · p) (sweep_of_meters hmeters)

theorem AgreesFor.answer? (h : t.AgreesFor p t') {c : Call} (hc : c.player? = some p) :
    t.answer? c = t'.answer? c := by
  cases c with
  | check id =>
    cases hc
    exact congrArg some h.admits
  | forget id => rfl
  | sweep => rfl

/-! ## Any calls -/

/-- As long as a token can be missing, what a player has been granted is what the log shows. -/
theorem grantedTo_after (hmeters : t.limits.Meters) (hstart : t.grantedTo p = 0)
    (calls : List Call) : (t.after calls).grantedTo p = admittedTo p (t.log calls) := by
  induction calls using List.reverseRecOn with
  | nil => exact hstart
  | append_singleton calls c ih =>
    have hmeters' : (t.after calls).limits.Meters := by rwa [limits_after]
    rw [after_concat, log_concat, admittedTo_concat, ← ih]
    by_cases hc : c.player? = some p
    · cases c with
      | check id =>
        cases hc
        change ((t.after calls).ask p).grantedTo p = _
        rw [grantedTo_ask_self hmeters'.1]
        cases hadmits : (t.after calls).admits p <;> simp [Throttle.answer?, hadmits]
      | forget id =>
        cases hc
        rw [if_pos rfl]
        exact grantedTo_forget_self
      | sweep => cases hc
    · have hidle := ((AgreesFor.refl p (t.after calls)).idle hc).granted (by simpa using hmeters)
      have hforget : c ≠ .forget p := fun he => hc (he ▸ rfl)
      have hcheck : c ≠ .check p := fun he => hc (he ▸ rfl)
      rw [hidle]
      simp [hforget, hcheck]

/-- Each player is answered as if nobody else were there and nothing were swept. -/
theorem AgreesFor.answersTo (h : t.AgreesFor p t') (calls : List Call) :
    answersTo p (t.log calls) =
      answersTo p (t'.log (calls.filter fun c => c.player? = some p)) := by
  induction calls generalizing t t' with
  | nil => rfl
  | cons c rest ih =>
    by_cases hc : c.player? = some p
    · rw [List.filter_cons_of_pos (by simpa using hc), log, log, answersTo_cons, answersTo_cons,
        h.answer? hc, ih (h.serve c)]
    · rw [List.filter_cons_of_neg (by simpa using hc), log, answersTo_cons, if_neg hc,
        ih (h.idle hc)]

theorem answer?_eq_of_agreesFor (h : ∀ p, t.AgreesFor p t') (c : Call) :
    t.answer? c = t'.answer? c := by
  cases c with
  | check id => exact (h id).answer? rfl
  | forget id => rfl
  | sweep => rfl

theorem answers_without_sweeps (h : ∀ p, t.AgreesFor p t') (calls : List Call) :
    answers (t.log calls) = answers (t'.log (calls.filter (· ≠ .sweep))) := by
  induction calls generalizing t t' with
  | nil => rfl
  | cons c rest ih =>
    by_cases hc : c = .sweep
    · subst hc
      have hidle : ∀ p, (t.serve .sweep).AgreesFor p t' := fun p =>
        (h p).idle (Option.some_ne_none p).symm
      rw [List.filter_cons_of_neg (by simp), log, answers_cons, ih hidle]
      rfl
    · rw [List.filter_cons_of_pos (by simpa using hc), log, log, answers_cons, answers_cons,
        answer?_eq_of_agreesFor h c, ih fun p => (h p).serve c]

/-- A limit of no lines at all tracks nobody. -/
theorem granted_after_disabled (h : t.isEnabled = false) (hstart : t.granted = ∅)
    (calls : List Call) : (t.after calls).granted = ∅ := by
  induction calls using List.reverseRecOn with
  | nil => exact hstart
  | append_singleton calls c ih =>
    have hdisabled : (t.after calls).isEnabled = false := by rwa [isEnabled, limits_after]
    rw [after_concat]
    cases c with
    | check id => exact (congrArg granted (ask_disabled hdisabled)).trans ih
    | forget id => exact (congrArg (Dict.erase · id) ih).trans rfl
    | sweep =>
      change (t.after calls).idle.foldl Dict.erase _ = _
      rw [idle, ih]
      split <;> rfl

/-- What a sweep does where a limit is set: it drops everybody or nobody, as an empty budget takes no
time to fill up or takes some. -/
theorem granted_sweep (h : t.isEnabled) :
    t.sweep.granted = if t.limits.refillTime = 0 then ∅ else t.granted := by
  rw [sweep, idle]
  by_cases hrefills : t.limits.refillsAtOnce
  · rw [if_pos hrefills, if_pos ((RateLimits.refillsAtOnce_iff h).mp hrefills)]
    exact t.granted.foldl_erase_keys
  · rw [if_neg hrefills, if_neg (mt (RateLimits.refillsAtOnce_iff h).mpr hrefills)]
    rfl

/-- A check lets its player through exactly if there is no limit, or none that a token can be missing
under, or the burst has not been used up since the player was last forgotten. Neither the calls about
others nor the sweeps, which drop budgets only if these take no time to fill up, change an answer. -/
theorem burst_then_refused (l : RateLimits) (calls : List Call) :
    let t : Throttle := { limits := l }
    (∀ p, (t.after calls).answer? (.check p) = some true ↔
      l.sayRatePerSecond = 0 ∨ 1000000000 < l.sayRatePerSecond.toNat ∨
        admittedTo p (t.log calls) < max l.sayBurst.toNat 1) ∧
      (∀ p, answersTo p (t.log calls) =
        answersTo p (t.log (calls.filter fun c => c.player? = some p))) ∧
      answers (t.log calls) = answers (t.log (calls.filter (· ≠ .sweep))) ∧
      ((t.after calls).sweep.granted =
        if l.refillTime = 0 then ∅ else (t.after calls).granted) ∧
      (l.sayRatePerSecond = 0 → (t.after calls).tracked = 0) := by
  intro t
  have hlimits : (t.after calls).limits = l := limits_after calls
  have hdisabled : l.sayRatePerSecond = 0 → (t.after calls).granted = ∅ := fun hrate =>
    granted_after_disabled (RateLimits.isEnabled_eq_false_iff.mpr hrate) rfl calls
  refine ⟨fun p => ?_, fun p => (AgreesFor.refl p t).answersTo calls,
    answers_without_sweeps (AgreesFor.refl · t) calls, ?_, ?_⟩
  · change some ((t.after calls).admits p) = some true ↔ _
    rw [Option.some.injEq, ← or_assoc, ← nanosPerSecond, ← RateLimits.not_meters_iff]
    by_cases hmeters : l.Meters
    · have hmeters' : (t.after calls).limits.Meters := hlimits.symm ▸ hmeters
      rw [admits_iff_of_meters hmeters', grantedTo_after hmeters rfl, hlimits]
      simp [hmeters, RateLimits.burst]
    · have hmeters' : ¬(t.after calls).limits.Meters := hlimits.symm ▸ hmeters
      simp [admits_of_not_meters hmeters', hmeters]
  · cases henabled : l.isEnabled with
    | true =>
      have hsweep := granted_sweep (t := t.after calls) (by rwa [isEnabled, hlimits])
      rwa [hlimits] at hsweep
    | false =>
      have hgranted := hdisabled (RateLimits.isEnabled_eq_false_iff.mp henabled)
      have hsweep := granted_after_disabled (t := t) henabled rfl (calls ++ [.sweep])
      rw [after_concat] at hsweep
      rw [hgranted, ite_self]
      exact hsweep
  · intro hrate
    rw [tracked, hdisabled hrate]
    rfl

/-- Without a limit nobody is tracked. At one line a second, two at once, sweeps do not help Ann to a
third line, and at the greatest rate everybody is dropped and nobody refused. -/
theorem burst_then_refused_swept :
    let ann : PlayerId := ⟨1⟩
    let calls : List Call := [.check ann, .sweep, .check ⟨2⟩, .check ann, .sweep]
    let free : RateLimits := { sayRatePerSecond := 0, sayBurst := 2 }
    let slow : RateLimits := { sayRatePerSecond := 1, sayBurst := 2 }
    let fast : RateLimits := { sayRatePerSecond := 4294967295, sayBurst := 2 }
    (free.sayRatePerSecond = 0 ∧ (after { limits := free } calls).tracked = 0) ∧
      (admittedTo ann (log { limits := slow } calls) = 2 ∧
        (after { limits := slow } calls).answer? (.check ann) ≠ some true) ∧
      (after { limits := fast } calls).sweep.granted = ∅ ∧
        (after { limits := fast } calls).answer? (.check ann) = some true := by
  intro ann calls free slow fast
  obtain ⟨-, -, -, -, htracked⟩ := burst_then_refused free calls
  obtain ⟨hslow, -⟩ := burst_then_refused slow calls
  obtain ⟨hfast, -, -, hsweep, -⟩ := burst_then_refused fast calls
  have hspent : admittedTo ann (log { limits := slow } calls) = 2 := by decide
  refine ⟨⟨rfl, htracked rfl⟩, ⟨hspent, ?_⟩, ?_, ?_⟩
  · rw [ne_eq, hslow ann, hspent]
    decide
  · rw [hsweep, if_pos (by decide)]
  · exact (hfast ann).mpr (.inr (.inl (by decide)))

end Throttle
end ChatChannels
