import ChatChannels.Delivery

/-! What is delivered in a list of events: which messages go to whom, and what one player hears. -/
namespace ChatChannels.Event

/-- Every message delivered is one that may go where it goes. -/
def Within (P : PlayerId → Message → Prop) (events : List Event) : Prop :=
  ∀ r m, (r, m) ∈ deliveries events → P r m

/-- The messages that go to one player, in order. -/
def heardBy (r : PlayerId) (events : List Event) : List Message :=
  (deliveries events).filterMap fun d => if d.1 = r then some d.2 else none

variable {P Q : PlayerId → Message → Prop} {events events' : List Event} {r : PlayerId}

theorem deliveries_fanOut (recipients : List PlayerId) (m : Message) :
    deliveries (fanOut recipients m) = recipients.map fun q => (q, m) := by
  simp [fanOut, deliveries, List.filterMap_map, Function.comp_def, delivery?]

theorem deliveries_sendTo (w : World) (q : PlayerId) (m : Message) :
    deliveries (w.sendTo q m) = if w.isOnline q then [(q, m)] else [] := by
  unfold World.sendTo
  split <;> rfl

/-! ## Where messages may go -/

theorem Within.nil : Within P [] := fun _ _ h => absurd h List.not_mem_nil

theorem Within.append (h : Within P events) (h' : Within P events') : Within P (events ++ events') := by
  intro r m hmem
  rw [deliveries_append] at hmem
  exact (List.mem_append.mp hmem).elim (h r m) (h' r m)

theorem Within.mono (h : Within P events) (himp : ∀ r m, P r m → Q r m) : Within Q events :=
  fun r m hmem => himp r m (h r m hmem)

theorem Within.ite {b : Bool} (h : b → Within P events) : Within P (if b then events else []) := by
  split
  next hb => exact h hb
  next => exact .nil

theorem within_fanOut {recipients : List PlayerId} {m : Message} (h : ∀ q ∈ recipients, P q m) :
    Within P (fanOut recipients m) := by
  intro r m' hmem
  rw [deliveries_fanOut] at hmem
  obtain ⟨q, hq, he⟩ := List.mem_map.mp hmem
  cases he
  exact h r hq

theorem within_sendTo {w : World} {q : PlayerId} {m : Message} (h : w.isOnline q → P q m) :
    Within P (w.sendTo q m) := by
  intro r m' hmem
  rw [deliveries_sendTo] at hmem
  split at hmem
  next honline =>
    cases List.mem_singleton.mp hmem
    exact h honline
  next => cases hmem

/-! ## What one player hears -/

@[simp] theorem heardBy_nil : heardBy r [] = [] := rfl

@[simp] theorem heardBy_append : heardBy r (events ++ events') =
    heardBy r events ++ heardBy r events' := by
  rw [heardBy, deliveries_append, List.filterMap_append]
  rfl

theorem Within.of_heard (h : Within P events) {m : Message} (hm : m ∈ heardBy r events) : P r m := by
  obtain ⟨⟨q, m'⟩, hmem, hheard⟩ := List.mem_filterMap.mp hm
  split at hheard
  next hq =>
    obtain ⟨rfl⟩ := hheard
    exact hq ▸ h q m' hmem
  next => cases hheard

theorem Within.heardBy_eq_nil (h : Within P events) (hno : ∀ m, ¬P r m) : heardBy r events = [] :=
  List.eq_nil_iff_forall_not_mem.mpr fun m hm => hno m (h.of_heard hm)

/-- Among recipients who are all different each hears a message once. -/
theorem heardBy_fanOut {recipients : List PlayerId} (hdistinct : recipients.Nodup) (m : Message) :
    heardBy r (fanOut recipients m) = if r ∈ recipients then [m] else [] := by
  rw [heardBy, deliveries_fanOut]
  induction recipients with
  | nil => rfl
  | cons q rest ih =>
    rw [List.nodup_cons] at hdistinct
    by_cases hq : q = r
    · subst hq
      simp [hdistinct.1, ih hdistinct.2]
    · simp [hq, Ne.symm hq, ih hdistinct.2]

theorem heardBy_sendTo (w : World) (q : PlayerId) (m : Message) :
    heardBy r (w.sendTo q m) = if q = r ∧ w.isOnline r then [m] else [] := by
  rw [heardBy, deliveries_sendTo]
  by_cases hq : q = r
  · subst hq
    cases w.isOnline q <;> simp
  · cases w.isOnline q <;> simp [hq]

end ChatChannels.Event
