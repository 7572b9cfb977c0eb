import ChatChannels.Channel
import ChatChannels.Metrics
import ChatChannels.Proofs.Dict

/-! What metrics say of channels, and what makes them right. They count channels as these are opened
and closed, members as these are reported under a channel's name, and conversions. Metrics that agree
with the channels go on agreeing with them when a channel is opened, when it has worked, and when it is
given up. -/
namespace ChatChannels

/-! ## Events that bear on channels -/

namespace Event

/-- Whether an event bears on what is counted of channels. -/
def isGauged : Event → Bool
  | .converted _ | .opened | .closed | .counted .. | .uncounted _ => true
  | .delivered .. | .fannedOut _ | .commanded _ | .refused .. => false

def gauged (events : List Event) : List Event := events.filter isGauged

variable {events events' : List Event}

@[simp] theorem gauged_nil : gauged [] = [] := rfl

@[simp] theorem gauged_append : gauged (events ++ events') = gauged events ++ gauged events' :=
  List.filter_append _ _

@[simp] theorem gauged_ite (b : Prop) [Decidable b] :
    gauged (if b then events else events') = if b then gauged events else gauged events' :=
  apply_ite _ _ _ _

@[simp] theorem gauged_converted (toStatic : Bool) :
    gauged (.converted toStatic :: events) = .converted toStatic :: gauged events := rfl

@[simp] theorem gauged_commanded (command : String) :
    gauged (.commanded command :: events) = gauged events := rfl

@[simp] theorem gauged_refused (command : String) (cause : Refusal) :
    gauged (.refused command cause :: events) = gauged events := rfl

@[simp] theorem gauged_fanOut (recipients : List PlayerId) (m : Message) :
    gauged (fanOut recipients m) = [] := by
  simp [gauged, fanOut, isGauged]

@[simp] theorem gauged_sendTo (w : World) (q : PlayerId) (m : Message) :
    gauged (w.sendTo q m) = [] := by
  unfold World.sendTo
  split <;> rfl

end Event

/-- What is counted when one channel becomes another: a conversion, if there was one. -/
def Channel.conversion (c c' : Channel) : List Event :=
  if c'.isStatic = c.isStatic then [] else [.converted c'.isStatic]

namespace Metrics

open Event (gauged)

def recordAll (m : Metrics) (events : List Event) : Metrics := events.foldl record m

/-- How many conversions to static, or to dynamic, have been counted. -/
def conversionsTo (m : Metrics) (toStatic : Bool) : Nat :=
  (m.conversions.find? (if toStatic then "static" else "dynamic")).getD 0

/-- The counts that say something of channels. -/
def gauges (m : Metrics) : Int × Dict String Nat × Dict String Nat :=
  (m.activeChannels, m.channelMembers, m.conversions)

variable {m m' : Metrics}

theorem recordAll_append (events events' : List Event) :
    m.recordAll (events ++ events') = (m.recordAll events).recordAll events' :=
  List.foldl_append

theorem ofEvents_append (events events' : List Event) :
    ofEvents (events ++ events') = (ofEvents events).recordAll events' :=
  List.foldl_append

theorem recordAll_opened (m : Metrics) (n : Nat) :
    m.recordAll (.replicate n .opened) = { m with activeChannels := m.activeChannels + n } := by
  induction n generalizing m with
  | zero => rw [Int.natCast_zero, Int.add_zero]; rfl
  | succ n ih =>
    change (m.record .opened).recordAll (.replicate n .opened) = _
    have hcount : m.activeChannels + 1 + n = m.activeChannels + (n + 1 : Nat) := by omega
    rw [ih, record, ← hcount]

theorem gauges_eq_iff : m'.gauges = m.gauges ↔ m'.activeChannels = m.activeChannels ∧
    m'.channelMembers = m.channelMembers ∧ m'.conversions = m.conversions := by
  simp [gauges]

theorem gauges_record_of_not_gauged {e : Event} (he : e.isGauged = false) :
    (m.record e).gauges = m.gauges := by
  cases e with
  | delivered | fannedOut | commanded | refused => rfl
  | _ => cases he

theorem gauges_record_congr (h : m'.gauges = m.gauges) (e : Event) :
    (m'.record e).gauges = (m.record e).gauges := by
  obtain ⟨hactive, hmembers, hconversions⟩ := gauges_eq_iff.mp h
  cases e <;> simp [record, gauges, hactive, hmembers, hconversions]

/-- Only gauged events bear on what is counted of channels. -/
theorem gauges_recordAll_gauged (h : m'.gauges = m.gauges) (events : List Event) :
    (m'.recordAll (gauged events)).gauges = (m.recordAll events).gauges := by
  induction events generalizing m m' with
  | nil => exact h
  | cons e rest ih =>
    cases he : e.isGauged with
    | true =>
      rw [gauged, List.filter_cons_of_pos he]
      exact ih (gauges_record_congr h e)
    | false =>
      rw [gauged, List.filter_cons_of_neg (by simp [he])]
      exact ih (h.trans (gauges_record_of_not_gauged he).symm)

theorem conversionsTo_record_converted (toStatic toStatic' : Bool) :
    (m.record (.converted toStatic)).conversionsTo toStatic' =
      m.conversionsTo toStatic' + (decide (toStatic' = toStatic)).toNat := by
  cases toStatic <;> cases toStatic' <;>
    simp [record, conversionsTo, Dict.increment, Dict.find?_insert]

/-! ## Metrics that agree with the channels -/

/-- Metrics that are right about the channels there are. -/
structure Describes (m : Metrics) (channels : Dict String Channel) : Prop where
  active : m.activeChannels = channels.size
  /-- Whatever is labelled is a channel, with as many members as it says there. -/
  labelled : ∀ name n, m.channelMembers.find? name = some n →
    ∃ key c, channels.find? key = some c ∧ c.name = name ∧ c.roster.size = n
  unlabelled : ∀ key c, channels.find? key = some c → m.channelMembers.find? c.name = none →
    c.roster.isEmpty
  conversions : (m.conversionsTo true : Int) - m.conversionsTo false =
    channels.values.countP Channel.isStatic

variable {channels : Dict String Channel} {key : String} {c c' : Channel}

theorem Describes.congr (h : m.Describes channels) (hg : m'.gauges = m.gauges) :
    m'.Describes channels := by
  obtain ⟨hactive, hmembers, hconversions⟩ := gauges_eq_iff.mp hg
  have hcount (toStatic : Bool) : m'.conversionsTo toStatic = m.conversionsTo toStatic := by
    rw [conversionsTo, hconversions, conversionsTo]
  refine ⟨hactive.trans h.active, ?_, ?_, ?_⟩
  · rw [hmembers]
    exact h.labelled
  · rw [hmembers]
    exact h.unlabelled
  · rw [hcount, hcount]
    exact h.conversions

theorem Describes.of_gauged {events : List Event}
    (h : (m.recordAll (gauged events)).Describes channels) :
    (m.recordAll events).Describes channels :=
  h.congr (gauges_recordAll_gauged rfl events).symm

/-- A new channel has no members and is dynamic, so it needs no label. -/
theorem Describes.opened (h : m.Describes channels) (hnew : channels.find? key = none)
    (hempty : c.roster.isEmpty) (hdynamic : c.isStatic = false) :
    (m.record .opened).Describes (channels.insert key c) := by
  have hsize := channels.size_insert key c
  have hstatic := channels.countP_values_insert key c Channel.isStatic
  rw [Dict.contains, hnew, Option.isSome_none, Bool.toNat_false] at hsize
  rw [hnew, hdynamic, Option.any_none, Bool.toNat_false] at hstatic
  refine ⟨?_, ?_, ?_, ?_⟩
  · have hactive := h.active
    change m.activeChannels + 1 = _
    omega
  · intro name n hlabel
    obtain ⟨key', c', hfind, hname, hcount⟩ := h.labelled name n hlabel
    have hne : key' ≠ key := by
      rintro rfl
      cases hnew.symm.trans hfind
    exact ⟨key', c', by rw [Dict.find?_insert, if_neg hne, hfind], hname, hcount⟩
  · intro key' c' hfind hlabel
    rw [Dict.find?_insert] at hfind
    split at hfind
    next =>
      cases hfind
      exact hempty
    next => exact h.unlabelled key' c' hfind hlabel
  · have hconversions := h.conversions
    change (m.conversionsTo true : Int) - m.conversionsTo false = _
    omega

theorem recordAll_conversion (m : Metrics) (c c' : Channel) :
    let m' := m.recordAll (c.conversion c')
    m'.activeChannels = m.activeChannels ∧ m'.channelMembers = m.channelMembers ∧
      (m'.conversionsTo true : Int) - m'.conversionsTo false + c.isStatic.toNat =
        m.conversionsTo true - m.conversionsTo false + c'.isStatic.toNat := by
  unfold Channel.conversion
  split
  next hkept =>
    rw [hkept]
    exact ⟨rfl, rfl, rfl⟩
  next hchanged =>
    refine ⟨rfl, rfl, ?_⟩
    have hcount := m.conversionsTo_record_converted c'.isStatic
    change ((m.record (.converted c'.isStatic)).conversionsTo true : Int) -
      (m.record (.converted c'.isStatic)).conversionsTo false + _ = _
    rw [hcount, hcount]
    cases hc : c.isStatic <;> cases hc' : c'.isStatic <;> simp_all <;> omega

/-- What is labelled by another name is another channel. -/
theorem Describes.labelled_elsewhere (h : m.Describes channels) (hfind : channels.find? key = some c)
    {name : String} {n : Nat} (hlabel : m.channelMembers.find? name = some n)
    (hother : name ≠ c.name) :
    ∃ key' d, key' ≠ key ∧ channels.find? key' = some d ∧ d.name = name ∧ d.roster.size = n := by
  obtain ⟨key', d, hd, hname, hcount⟩ := h.labelled name n hlabel
  refine ⟨key', d, ?_, hd, hname, hcount⟩
  rintro rfl
  cases hfind.symm.trans hd
  exact hother hname.symm

/-- A channel that has worked and is still kept is counted anew. -/
theorem Describes.kept (h : m.Describes channels) (hfind : channels.find? key = some c)
    (hname : c'.name = c.name) :
    (m.recordAll (c.conversion c' ++ [.counted c'.name c'.roster.size])).Describes
      (channels.insert key c') := by
  have hsize := channels.size_insert key c'
  have hstatic := channels.countP_values_insert key c' Channel.isStatic
  rw [Dict.contains, hfind, Option.isSome_some, Bool.toNat_true] at hsize
  rw [hfind, Option.any_some] at hstatic
  obtain ⟨hactive, hmembers, hbalance⟩ := m.recordAll_conversion c c'
  have hlabels (name : String) :
      (m.recordAll (c.conversion c' ++ [.counted c'.name c'.roster.size])).channelMembers.find? name =
        if name = c'.name then some c'.roster.size else m.channelMembers.find? name := by
    rw [recordAll_append]
    change (Dict.insert _ c'.name c'.roster.size).find? name = _
    rw [hmembers, Dict.find?_insert]
  refine ⟨?_, ?_, ?_, ?_⟩
  · have hold := h.active
    rw [recordAll_append]
    change (m.recordAll (c.conversion c')).activeChannels = _
    omega
  · intro name n hlabel
    rw [hlabels] at hlabel
    split at hlabel
    next he =>
      cases hlabel
      exact ⟨key, c', Dict.find?_insert_self _ _ _, he.symm, rfl⟩
    next hother =>
      obtain ⟨key', d, hne, hd, hdname, hcount⟩ :=
        h.labelled_elsewhere hfind hlabel (hname ▸ hother)
      exact ⟨key', d, by rw [Dict.find?_insert, if_neg hne, hd], hdname, hcount⟩
  · intro key' d hd hlabel
    rw [hlabels] at hlabel
    rw [Dict.find?_insert] at hd
    split at hlabel
    next => cases hlabel
    next hother =>
      split at hd
      next =>
        cases hd
        exact absurd rfl hother
      next => exact h.unlabelled key' d hd hlabel
  · have hold := h.conversions
    rw [recordAll_append]
    change ((m.recordAll (c.conversion c')).conversionsTo true : Int) -
      (m.recordAll (c.conversion c')).conversionsTo false = _
    omega

/-- A channel that is given up is counted no more. No other channel has its name, so no other loses
its label. -/
theorem Describes.givenUp (h : m.Describes channels)
    (hkeyed : ∀ key d, channels.find? key = some d → Text.lowercase d.name = key)
    (hfind : channels.find? key = some c) (hname : c'.name = c.name)
    (hdynamic : c'.isStatic = false) :
    (m.recordAll (c.conversion c' ++
      [.counted c'.name c'.roster.size, .uncounted c'.name, .closed])).Describes
        (channels.erase key) := by
  have hsize := channels.size_erase key
  have hstatic := channels.countP_values_erase key Channel.isStatic
  rw [Dict.contains, hfind, Option.isSome_some, Bool.toNat_true] at hsize
  rw [hfind, Option.any_some] at hstatic
  obtain ⟨hactive, hmembers, hbalance⟩ := m.recordAll_conversion c c'
  rw [hdynamic, Bool.toNat_false] at hbalance
  have hlabels (name : String) :
      (m.recordAll (c.conversion c' ++
        [.counted c'.name c'.roster.size, .uncounted c'.name, .closed])).channelMembers.find? name =
          if name = c'.name then none else m.channelMembers.find? name := by
    rw [recordAll_append]
    change ((Dict.insert _ c'.name c'.roster.size).erase c'.name).find? name = _
    rw [Dict.erase_insert, hmembers, Dict.find?_erase]
  refine ⟨?_, ?_, ?_, ?_⟩
  · have hold := h.active
    rw [recordAll_append]
    change (m.recordAll (c.conversion c')).activeChannels - 1 = _
    omega
  · intro name n hlabel
    rw [hlabels] at hlabel
    split at hlabel
    next => cases hlabel
    next hother =>
      obtain ⟨key', d, hne, hd, hdname, hcount⟩ :=
        h.labelled_elsewhere hfind hlabel (hname ▸ hother)
      exact ⟨key', d, by rw [Dict.find?_erase, if_neg hne, hd], hdname, hcount⟩
  · intro key' d hd hlabel
    rw [Dict.find?_erase] at hd
    split at hd
    next => cases hd
    next hne =>
      have hother : d.name ≠ c'.name := by
        intro he
        apply hne
        rw [← hkeyed key' d hd, ← hkeyed key c hfind, he, hname]
      rw [hlabels, if_neg hother] at hlabel
      exact h.unlabelled key' d hd hlabel
  · have hold := h.conversions
    rw [recordAll_append]
    change ((m.recordAll (c.conversion c')).conversionsTo true : Int) -
      (m.recordAll (c.conversion c')).conversionsTo false = _
    omega

end Metrics
end ChatChannels
