import Mathlib.Algebra.Ring.Nat
import Mathlib.Data.List.TakeDrop
import Mathlib.Data.Nat.Log
import Flowchart.Event.Bus

/-!
# What the bus delivers

A bus carries all events that have been sent on it, but retains the last ones only, as many as its
capacity (`Bus.Carries`). A receiver that has fallen no further behind than that gets all the events
that it has not got yet, and any other one is told how many it has lost and gets those that are
retained (`Bus.Carries.drain_eq`). The capacity is the least power of two that will do
(`Bus.powerFrom_eq`).
-/

namespace Flowchart

variable {capacity n r fuel : Nat} {events more : List Event} {e : Event} {bus other : Bus}

/-! ## What a bus retains -/

/-- A bus of a capacity on which some events have been sent, and nothing else. -/
structure Bus.Carries (bus : Bus) (capacity : Nat) (events : List Event) : Prop where
  capacity_eq : bus.capacity = capacity
  sent_eq : bus.sent = events.length
  retained_eq : bus.retained = events.drop (events.length - capacity)

namespace Bus.Carries

/-- Sending an event adds it to those that have been sent. -/
theorem send (h : bus.Carries capacity events) (e : Event) :
    (bus.send e).Carries capacity (events ++ [e]) where
  capacity_eq := h.capacity_eq
  sent_eq := by simp [Bus.send, h.sent_eq]
  retained_eq := by
    have hall : bus.retained ++ [e] = (events ++ [e]).drop (events.length - capacity) := by
      rw [h.retained_eq, List.drop_append_of_le_length (Nat.sub_le _ _)]
    simp only [Bus.send, hall, h.capacity_eq, List.drop_drop]
    congr 1
    simp only [List.length_drop, List.length_append, List.length_singleton]
    omega

/-- Sending events one after another adds them in order. -/
theorem foldl_send (h : bus.Carries capacity events) (more : List Event) :
    (more.foldl Bus.send bus).Carries capacity (events ++ more) := by
  induction more generalizing bus events with
  | nil => rwa [List.append_nil]
  | cons e more ih =>
      rw [List.foldl_cons, List.append_cons]
      exact ih (h.send e)

/-- Sending events at once adds them in order. -/
theorem sendAll (h : bus.Carries capacity events) (more : List Event) :
    (bus.sendAll more).Carries capacity (events ++ more) where
  capacity_eq := h.capacity_eq
  sent_eq := by simp [Bus.sendAll, h.sent_eq]
  retained_eq := by
    have hall : bus.retained ++ more = (events ++ more).drop (events.length - capacity) := by
      rw [h.retained_eq, List.drop_append_of_le_length (Nat.sub_le _ _)]
    simp only [Bus.sendAll, hall, h.capacity_eq, List.drop_drop]
    congr 1
    simp only [List.length_drop, List.length_append]
    omega

/-- What a bus carries is all that there is to it. -/
theorem unique (h : bus.Carries capacity events) (h' : other.Carries capacity events) :
    bus = other := by
  obtain ⟨_, _, _⟩ := bus
  obtain ⟨_, _, _⟩ := other
  simp only [Bus.mk.injEq]
  exact ⟨h.capacity_eq.trans h'.capacity_eq.symm, h.sent_eq.trans h'.sent_eq.symm,
    h.retained_eq.trans h'.retained_eq.symm⟩

/-- The number of the first event that is retained. -/
theorem oldest_eq (h : bus.Carries capacity events) :
    bus.sent - bus.retained.length = events.length - capacity := by
  rw [h.sent_eq, h.retained_eq, List.length_drop]
  omega

/-- A receiver that is further behind than what is retained is told how many events it has lost, and
goes on with the oldest one that is retained. -/
theorem receive_of_lagging (h : bus.Carries capacity events) (hr : r + capacity < events.length) :
    bus.receive ⟨r⟩ =
      (.lagged (events.length - capacity - r), ⟨events.length - capacity⟩) := by
  have hlow : r < events.length - capacity := by omega
  simp only [Bus.receive, h.oldest_eq]
  rw [if_pos hlow]

/-- A receiver gets the next event if that is retained. -/
theorem receive_of_lt (h : bus.Carries capacity events) (hr : events.length ≤ r + capacity)
    (hlt : r < events.length) : bus.receive ⟨r⟩ = (.event events[r], ⟨r + 1⟩) := by
  have hindex : events.length - capacity + (r - (events.length - capacity)) = r := by omega
  have hget : bus.retained[r - (events.length - capacity)]? = some events[r] := by
    rw [h.retained_eq, List.getElem?_drop, hindex, List.getElem?_eq_getElem hlt]
  simp only [Bus.receive, h.oldest_eq]
  rw [if_neg (by omega)]
  simp only [hget]

/-- A receiver that has got all events gets nothing. -/
theorem receive_of_length (h : bus.Carries capacity events) :
    bus.receive ⟨events.length⟩ = (.empty, ⟨events.length⟩) := by
  have hget : bus.retained[events.length - (events.length - capacity)]? = none := by
    rw [h.retained_eq, List.getElem?_drop, List.getElem?_eq_none (by omega)]
  simp only [Bus.receive, h.oldest_eq]
  rw [if_neg (by omega)]
  simp only [hget]

/-- A receiver that is no further behind than what is retained gets all the other events. -/
theorem go_of_le (h : bus.Carries capacity events) (hr : events.length ≤ r + capacity)
    (hle : r ≤ events.length) (hfuel : events.length ≤ r + fuel) :
    (Bus.drain.go bus fuel ⟨r⟩).1 = (events.drop r).map .event := by
  induction fuel generalizing r with
  | zero =>
      obtain rfl : r = events.length := le_antisymm hle hfuel
      rw [List.drop_length]
      rfl
  | succ fuel ih =>
      by_cases hlt : r < events.length
      · have hmore := ih (by omega) (Nat.succ_le_of_lt hlt) (by omega)
        rw [List.drop_eq_getElem_cons hlt, List.map_cons, ← hmore, Bus.drain.go,
          h.receive_of_lt hr hlt]
      · obtain rfl : r = events.length := by omega
        rw [Bus.drain.go, h.receive_of_length, List.drop_length]
        rfl

/-- What a receiver gets of all that has been sent since it last received: everything if that is no
more than the bus retains, and else the number of events that it has lost and the retained ones. -/
theorem drain_eq (h : bus.Carries capacity (events ++ more)) :
    (bus.drain ⟨events.length⟩).1 =
      if more.length ≤ capacity then more.map .event
      else .lagged (more.length - capacity) ::
        (more.drop (more.length - capacity)).map .event := by
  have hlength : (events ++ more).length = events.length + more.length := List.length_append
  have hretained : bus.retained.length =
      (events ++ more).length - ((events ++ more).length - capacity) := by
    rw [h.retained_eq, List.length_drop]
  rw [Bus.drain]
  by_cases hkept : more.length ≤ capacity
  · rw [if_pos hkept, h.go_of_le (by omega) (by omega) (by omega), List.drop_left]
  · have hlagging : events.length + capacity < (events ++ more).length := by omega
    have hlost : (events ++ more).length - capacity - events.length = more.length - capacity := by
      omega
    have hdrop : (events ++ more).drop ((events ++ more).length - capacity) =
        more.drop (more.length - capacity) := by
      rw [← hlost, List.drop_append, List.drop_of_length_le (by omega), List.nil_append]
    have hrest := h.go_of_le (show (events ++ more).length ≤
      (events ++ more).length - capacity + capacity by omega) (Nat.sub_le _ _)
      (show (events ++ more).length ≤
        (events ++ more).length - capacity + bus.retained.length by omega)
    rw [if_neg hkept, Bus.drain.go, h.receive_of_lagging hlagging, ← hdrop, ← hrest, hlost]

end Bus.Carries

/-! ## The capacity -/

namespace Bus

/-- The search for a power of two ends at the least one that is great enough. -/
theorem powerFrom_eq {exponent : Nat} (hn : n ≤ 2 ^ (exponent + fuel))
    (hleast : exponent ≤ Nat.clog 2 n) : powerFrom n (2 ^ exponent) fuel = 2 ^ Nat.clog 2 n := by
  induction fuel generalizing exponent with
  | zero =>
      have hle : Nat.clog 2 n ≤ exponent := Nat.clog_le_of_le_pow hn
      rw [powerFrom, le_antisymm hleast hle]
  | succ fuel ih =>
      rw [powerFrom]
      by_cases henough : n ≤ 2 ^ exponent
      · rw [if_pos henough, le_antisymm hleast (Nat.clog_le_of_le_pow henough)]
      · have hmore : exponent < Nat.clog 2 n :=
          (Nat.lt_clog_iff_pow_lt Nat.one_lt_two).mpr (not_le.mp henough)
        rw [if_neg henough, ← Nat.pow_succ']
        exact ih (by rwa [Nat.succ_add_eq_add_succ]) hmore

/-- A new bus for at least one event carries nothing yet. -/
theorem exists_create?_eq (hpos : 0 < n) (hn : n < 2 ^ 64) :
    ∃ bus, create? n = some bus ∧ bus.Carries (2 ^ Nat.clog 2 n) [] := by
  have hcapacity : powerFrom n 1 64 = 2 ^ Nat.clog 2 n := powerFrom_eq (by omega) (Nat.zero_le _)
  exact ⟨_, if_neg hpos.ne', hcapacity, rfl, List.drop_nil.symm⟩

end Bus
end Flowchart
