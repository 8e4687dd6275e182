import Flowchart.Command.Listener
import Flowchart.Proofs.Event.Bus

/-!
# What a listener misses

A bus retains the last events only. As long as no more than those wait for a listener whenever it
receives (`Listener.KeepsUp`), it prints all events, however its receipts lie between the events. As
soon as more wait when it receives, it stops for good: what it prints is a beginning of the events,
and never all of them.
-/

namespace Flowchart

variable {capacity n r : Nat} {events : List Event} {e : Event} {bus : Bus}

namespace Listener

/-! ## Receiving -/

/-- The listener that has received the first `r` events. -/
def heard (events : List Event) (r : Nat) : Listener :=
  ⟨⟨r⟩, true, (events.take r).map Event.line⟩

/-- A listener that has stopped does not receive. -/
theorem pollTimes_of_stopped {listener : Listener} (h : listener.listening = false) :
    pollTimes bus n listener = listener := by
  induction n with
  | zero => rfl
  | succ n ih => simp [pollTimes, poll, h, ih]

/-- A listener that is no further behind than what is retained receives what it is given time
for. -/
theorem pollTimes_heard (h : bus.Carries capacity events) (hr : events.length ≤ r + capacity)
    (hle : r ≤ events.length) :
    pollTimes bus n (heard events r) = heard events (min events.length (r + n)) := by
  induction n generalizing r with
  | zero => rw [pollTimes, Nat.add_zero, Nat.min_eq_right hle]
  | succ n ih =>
      rcases Nat.lt_or_eq_of_le hle with hlt | rfl
      · have hpoll : (heard events r).poll bus = heard events (r + 1) := by
          simp only [poll, heard, h.receive_of_lt hr hlt, List.take_succ_eq_append_getElem hlt,
            List.map_append]
          rfl
        rw [pollTimes, hpoll, ih (by omega) hlt, Nat.succ_add_eq_add_succ]
      · have hpoll : (heard events events.length).poll bus = heard events events.length := by
          simp [poll, heard, h.receive_of_length]
        rw [pollTimes, hpoll, ih (by omega) (Nat.le_refl _)]
        congr 1
        omega

/-- A listener that receives when it is further behind than what is retained stops. -/
theorem pollTimes_of_lagging (h : bus.Carries capacity events) (hr : r + capacity < events.length)
    (hn : 0 < n) :
    (pollTimes bus n (heard events r)).listening = false ∧
      (pollTimes bus n (heard events r)).lines = (events.take r).map Event.line := by
  obtain ⟨n, rfl⟩ := Nat.exists_eq_add_one.mpr hn
  have hpoll : (heard events r).poll bus =
      ⟨⟨events.length - capacity⟩, false, (events.take r).map Event.line⟩ := by
    simp [poll, heard, h.receive_of_lagging hr]
  rw [pollTimes, hpoll, pollTimes_of_stopped rfl]
  exact ⟨rfl, rfl⟩

/-- What has been heard does not depend on the events that come later. -/
theorem heard_take (h : r ≤ n) : heard (events.take n) r = heard events r := by
  rw [heard, heard, List.take_take, Nat.min_eq_left h]

/-! ## Receiving while events are sent -/

variable (receives : List Event → Nat)

/-- The number of events that a listener has received after `n` events, if it has not stopped. -/
def received (events : List Event) : Nat → Nat
  | 0 => 0
  | n + 1 => min (n + 1) (received events n + receives (events.take (n + 1)).reverse)

theorem received_le (events : List Event) (n : Nat) : received receives events n ≤ n := by
  cases n with
  | zero => exact Nat.le_refl 0
  | succ n => exact Nat.min_le_left _ _

theorem received_mono (events : List Event) {m n : Nat} (h : m ≤ n) :
    received receives events m ≤ received receives events n := by
  induction h with
  | refl => exact Nat.le_refl _
  | @step n _ ih =>
      have := received_le receives events n
      rw [received]
      omega

/-- The listener receives after `n` events, when more wait for it than the bus retains. -/
structure Lags (capacity : Nat) (events : List Event) (n : Nat) : Prop where
  receives_pos : 0 < receives (events.take (n + 1)).reverse
  lt : received receives events n + capacity < n + 1

/-- Whenever the listener receives, no more events wait for it than the bus retains. -/
structure KeepsUp (capacity : Nat) (events : List Event) : Prop where
  meanwhile : ∀ n < events.length, ¬ Lags receives capacity events n
  atEnd : events.length ≤ received receives events events.length + capacity

/-- A listener that has stopped after the first `r` events. -/
structure Stopped (events : List Event) (r : Nat) (listener : Listener) : Prop where
  listening_eq : listener.listening = false
  lines_eq : listener.lines = (events.take r).map Event.line

/-- The state of things after `n` events: the bus carries them, and the listener has received as
many as it was given time for. -/
structure InPace (capacity : Nat) (events : List Event) (n : Nat) (bus : Bus)
    (listener : Listener) : Prop where
  carries : bus.Carries capacity (events.take n)
  heard_eq : listener = heard events (received receives events n)

variable {receives} {listener : Listener}

/-- A listener that has stopped takes no notice of later events. -/
theorem attend_of_stopped (h : listener.listening = false) (sent rest : List Event) :
    (attend receives bus listener sent rest).2 = listener := by
  induction rest generalizing bus sent with
  | nil => rfl
  | cons e rest ih => rw [attend, pollTimes_of_stopped h, ih]

/-- The next event adds to what the bus carries. -/
theorem InPace.carries_send (h : InPace receives capacity events n bus listener)
    (hn : n < events.length) : (bus.send events[n]).Carries capacity (events.take (n + 1)) := by
  rw [List.take_succ_eq_append_getElem hn]
  exact h.carries.send _

/-- Unless the listener lags, one more event leaves it in pace. -/
theorem InPace.step (h : InPace receives capacity events n bus listener) (hn : n < events.length)
    (hnot : ¬ Lags receives capacity events n) :
    InPace receives capacity events (n + 1) (bus.send events[n])
      (pollTimes (bus.send events[n]) (receives (events.take (n + 1)).reverse) listener) := by
  refine ⟨h.carries_send hn, ?_⟩
  have hle := received_le receives events n
  have hlength : (events.take (n + 1)).length = n + 1 := List.length_take_of_le hn
  rw [h.heard_eq, received]
  rcases Nat.eq_zero_or_pos (receives (events.take (n + 1)).reverse) with hzero | hpos
  · rw [hzero, pollTimes, Nat.min_eq_right (by omega)]
    rfl
  · have hlag : ¬ received receives events n + capacity < n + 1 := fun hlt => hnot ⟨hpos, hlt⟩
    -- what is received now is received from the bus that carries the next event too
    rw [← heard_take (n := n + 1) (by omega),
      pollTimes_heard (h.carries_send hn) (by omega) (by omega), hlength,
      heard_take (Nat.min_le_left _ _)]

/-- If the listener lags, it stops with what it has received before. -/
theorem InPace.stops (h : InPace receives capacity events n bus listener) (hn : n < events.length)
    (hlags : Lags receives capacity events n) :
    Stopped events (received receives events n)
      (pollTimes (bus.send events[n]) (receives (events.take (n + 1)).reverse) listener) := by
  have hle := received_le receives events n
  have hlength : (events.take (n + 1)).length = n + 1 := List.length_take_of_le hn
  have hstopped := pollTimes_of_lagging (h.carries_send hn) (hlength ▸ hlags.lt) hlags.receives_pos
  rw [heard_take (by omega), ← h.heard_eq, List.take_take, Nat.min_eq_left (by omega)] at hstopped
  exact ⟨hstopped.1, hstopped.2⟩

/-- While events are sent, either the listener never lags and is in pace after all of them, or it
stops where it lags first. -/
theorem attend_cases (h : InPace receives capacity events n bus listener)
    (hn : n ≤ events.length) :
    let later := attend receives bus listener (events.take n).reverse (events.drop n)
    ((∀ m, n ≤ m → m < events.length → ¬ Lags receives capacity events m) ∧
      InPace receives capacity events events.length later.1 later.2) ∨
    ∃ m, m < events.length ∧ Lags receives capacity events m ∧
      Stopped events (received receives events m) later.2 := by
  dsimp only
  -- on the number of events still to be sent: a step keeps the pace or ends the listening
  induction hk : events.length - n generalizing n bus listener with
  | zero =>
      obtain rfl : n = events.length := by omega
      rw [List.drop_length, attend]
      exact .inl ⟨fun m hm hlt => absurd hlt (by omega), h⟩
  | succ k ih =>
      have hlt : n < events.length := by omega
      have hsent : events[n] :: (events.take n).reverse = (events.take (n + 1)).reverse := by
        rw [List.take_succ_eq_append_getElem hlt, List.reverse_append]
        rfl
      rw [List.drop_eq_getElem_cons hlt, attend, hsent]
      by_cases hlags : Lags receives capacity events n
      · have hstopped := h.stops hlt hlags
        exact .inr ⟨n, hlt, hlags, by rwa [attend_of_stopped hstopped.listening_eq]⟩
      · rcases ih (h.step hlt hlags) hlt (by omega) with ⟨hnever, hend⟩ | hstops
        · refine .inl ⟨fun m hm hlt' => ?_, hend⟩
          rcases Nat.eq_or_lt_of_le hm with rfl | hm
          · exact hlags
          · exact hnever m hm hlt'
        · exact .inr hstops

/-! ## All that a listener prints -/

/-- A listener to a bus on which nothing has been sent yet either keeps up with the events and
prints all of them, or does not and prints the first ones only, at most as many as it was given time
for. -/
theorem follow_cases (receives : List Event → Nat) (events : List Event)
    (h : bus.Carries capacity []) :
    (KeepsUp receives capacity events ∧
      (follow receives bus events).lines = events.map Event.line) ∨
    ¬ KeepsUp receives capacity events ∧
      ∃ n < events.length, n ≤ received receives events events.length ∧
        (follow receives bus events).lines = (events.take n).map Event.line := by
  have hstart : InPace receives capacity events 0 bus (start bus) :=
    ⟨by rwa [List.take_zero], by rw [start, Bus.subscribe, h.sent_eq]; rfl⟩
  have hcases := attend_cases hstart (Nat.zero_le _)
  rw [List.take_zero, List.reverse_nil, List.drop_zero] at hcases
  rw [follow]
  generalize attend receives bus (start bus) [] events = later at hcases ⊢
  obtain ⟨bus, listener⟩ := later
  dsimp only at hcases ⊢
  rcases hcases with ⟨hnever, hcarries, hheard⟩ | ⟨m, hm, hlags, hstopped⟩
  · rw [List.take_length] at hcarries
    have hle := received_le receives events events.length
    -- in pace so far, so the receipts after the last event decide
    by_cases hend : events.length ≤ received receives events events.length + capacity
    · refine .inl ⟨⟨fun m hm => hnever m (Nat.zero_le m) hm, hend⟩, ?_⟩
      have hretained : bus.retained.length = events.length - (events.length - capacity) := by
        rw [hcarries.retained_eq, List.length_drop]
      rw [hheard, pollTimes_heard hcarries hend hle, Nat.min_eq_left (by omega), heard,
        List.take_length]
    · refine .inr ⟨fun hkeeps => hend hkeeps.atEnd, _, ?_, Nat.le_refl _,
        hheard ▸ (pollTimes_of_lagging hcarries (Nat.lt_of_not_le hend) (Nat.succ_pos _)).2⟩
      omega
  · have hle := received_le receives events m
    refine .inr ⟨fun hkeeps => hkeeps.meanwhile m hm hlags, _, Nat.lt_of_le_of_lt hle hm,
      received_mono receives events (Nat.le_of_lt hm), ?_⟩
    rw [pollTimes_of_stopped hstopped.listening_eq, hstopped.lines_eq]

/-! ## Listeners that keep up and listeners that do not -/

/-- A listener that receives after each event keeps up. -/
theorem keepsUp_of_pos (hpos : ∀ sent, 0 < receives sent) (hcapacity : 0 < capacity) :
    KeepsUp receives capacity events := by
  have hall : ∀ n, received receives events n = n := fun n => by
    induction n with
    | zero => rfl
    | succ n ih =>
        have := hpos (events.take (n + 1)).reverse
        rw [received, ih, Nat.min_eq_left (by omega)]
  refine ⟨fun n _ hlags => ?_, ?_⟩
  · have := hlags.lt
    rw [hall] at this
    omega
  · rw [hall]
    omega

theorem received_of_idle (events : List Event) (n : Nat) :
    received (fun _ => 0) events n = 0 := by
  induction n with
  | zero => rfl
  | succ n ih => rw [received, ih, Nat.min_eq_right (Nat.zero_le _)]

/-- A listener that receives nothing before the end prints nothing if there are more events than the
bus retains. -/
theorem lines_follow_of_idle (h : bus.Carries capacity []) (hlong : capacity < events.length) :
    (follow (fun _ => 0) bus events).lines = [] := by
  rcases follow_cases (fun _ => 0) events h with ⟨hkeeps, -⟩ | ⟨-, n, -, hle, hlines⟩
  · have := hkeeps.atEnd
    rw [received_of_idle] at this
    omega
  · rw [received_of_idle, Nat.le_zero] at hle
    rw [hlines, hle]
    rfl

end Listener
end Flowchart
