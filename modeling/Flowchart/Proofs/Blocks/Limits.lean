import Flowchart.Command.Example
import Flowchart.Proofs.Binary64.Overflow
import Flowchart.Proofs.Run.Clock
import Flowchart.Proofs.Blocks.Response
import Flowchart.Proofs.Variables.Numbers

/-!
# Limits of delays and timeouts

A wait asks for a number of milliseconds (`WaitSettings.requested`), and waits for its whole part or
for the limit, whichever is less. The limit is compared as a binary64 number, though, so it is not
kept by the number that it is rounded to if that is greater (`Overshoots`). The timeout of a request
always keeps the limit, but is none at all for a fraction of a millisecond
(`RequestSettings.AsksForFraction`).
-/

namespace Flowchart.Blocks

open Binary64 (toRat)

/-! ## Waits -/

/-- A number overshoots a limit if the limit is rounded to just that number and is less than its
whole part. -/
def Overshoots (limit : Nat) (q : ℚ) : Prop :=
  q = (Binary64.ofNat limit).toRat ∧ limit < (Binary64.ofNat limit).toWord

/-- The number of milliseconds that a wait asks for: that of the variable if it holds a number, else
that of the settings. Without a number it is zero, and so is a negative one. -/
def WaitSettings.requested (settings : WaitSettings) (store : Store) : ℚ :=
  max 0 ((((delayFromVariable store settings.delayVariable).or
    (store.resolveNumber settings.delayMs)).map toRat).getD 0)

/-- What a variable holds as a delay is finite. -/
theorem isFinite_of_delayFromVariable {store : Store} {name : String} {x : Binary64}
    (h : delayFromVariable store name = some x) : x.isFinite = true := by
  rw [delayFromVariable] at h
  split at h
  · cases h
  · obtain ⟨value, -, hvalue⟩ := Option.bind_eq_some_iff.mp h
    exact isFinite_of_parseNumber hvalue

variable {settings : WaitSettings} {store : Store} {limit : Nat} {requested : Binary64}

/-- A requested delay is a finite number without a negative sign. -/
theorem requestedDelay_spec (settings : WaitSettings) (store : Store) :
    (requestedDelay settings store).isFinite = true ∧
      (requestedDelay settings store).negative = false ∧
      (requestedDelay settings store).toRat = settings.requested store := by
  have hzero : Binary64.zero.isFinite = true ∧ Binary64.zero.negative = false ∧
      Binary64.zero.toRat = 0 :=
    ⟨rfl, rfl, Binary64.toRat_eq_zero_iff.mpr rfl⟩
  have hasked (x : Binary64) (hx : x.isFinite = true) :
      (if x.negative then Binary64.zero else x).isFinite = true ∧
        (if x.negative then Binary64.zero else x).negative = false ∧
        (if x.negative then Binary64.zero else x).toRat = max 0 x.toRat := by
    cases hsign : x.negative with
    | true =>
        rw [if_pos rfl, max_eq_left (Binary64.toRat_nonpos hsign)]
        exact hzero
    | false =>
        rw [if_neg Bool.false_ne_true, max_eq_right (Binary64.toRat_nonneg hsign)]
        exact ⟨hx, hsign, rfl⟩
  simp only [requestedDelay, WaitSettings.requested]
  cases hvariable : delayFromVariable store settings.delayVariable with
  | some x => exact hasked x (isFinite_of_delayFromVariable hvariable)
  | none =>
      cases hnumber : store.resolveNumber settings.delayMs with
      | some x => exact hasked x (isFinite_of_parseNumber hnumber)
      | none =>
          have hnothing := hasked .zero hzero.1
          rw [hzero.2.2] at hnothing
          exact hnothing

/-- A requested delay is cut to the limit, unless it overshoots the limit. -/
theorem cutDelay_of_not_overshoots (hlimit : limit < 2 ^ 64) (hfinite : requested.isFinite = true)
    (hsign : requested.negative = false) (h : ¬ Overshoots limit requested.toRat) :
    (cutDelay requested limit).1 = min limit ⌊requested.toRat⌋₊ := by
  rw [cutDelay]
  by_cases hless : (Binary64.ofNat limit).less requested = true
  · -- A number above the rounded limit is not below the limit, else it would have been rounded to.
    rw [if_pos hless]
    rw [Binary64.less_iff] at hless
    have hle : (limit : ℚ) ≤ requested.toRat := by
      by_contra hlt
      exact absurd (Binary64.le_toRat_ofNat hfinite hsign (not_le.mp hlt).le) (not_le.mpr hless)
    exact (min_eq_left (Nat.le_floor hle)).symm
  · rw [if_neg hless]
    rw [Binary64.less_iff, not_lt] at hless
    show requested.toWord = _
    rw [Binary64.toWord_eq]
    by_cases hkeeps : ⌊requested.toRat⌋₊ ≤ limit
    · rw [min_eq_right hkeeps]
      omega
    · -- Only the rounded limit itself is above the limit, and it is out of range.
      have hle : (limit : ℚ) ≤ requested.toRat :=
        (Nat.le_floor_iff (Binary64.toRat_nonneg hsign)).mp (not_le.mp hkeeps).le
      have hsame : requested.toRat = (Binary64.ofNat limit).toRat :=
        le_antisymm hless (Binary64.toRat_ofNat_le hfinite hsign hle)
      have hword : (Binary64.ofNat limit).toWord ≤ limit :=
        not_lt.mp fun hlt => h ⟨hsame, hlt⟩
      rw [Binary64.toWord_eq, ← hsame] at hword
      omega

/-- What overshoots the limit is not cut. -/
theorem cutDelay_of_overshoots (h : Overshoots limit requested.toRat) :
    (cutDelay requested limit).1 = (Binary64.ofNat limit).toWord := by
  obtain ⟨hsame, -⟩ := h
  have hless : ¬ (Binary64.ofNat limit).less requested = true := by
    rw [Binary64.less_iff, hsame]
    exact lt_irrefl _
  rw [cutDelay, if_neg hless, Binary64.toWord_eq, Binary64.toWord_eq, hsame]

/-- Limits below `2 ^ 53` are never overshot. -/
theorem not_overshoots (hlimit : limit < 2 ^ 53) (q : ℚ) : ¬ Overshoots limit q := by
  rintro ⟨-, hlt⟩
  rw [Binary64.toWord_eq, Binary64.toRat_ofNat hlimit, Nat.floor_natCast] at hlt
  omega

/-- The delay of a wait is what its settings ask for, cut to the limit. -/
theorem waitDelay_eq (limit : Nat) (context : Context) (scene : Scene) :
    waitDelay limit context scene = (cutDelay (requestedDelay
      (Settings.ofBlock WaitSettings.record context.block) scene.store) limit).1 := by
  obtain ⟨notes, hread⟩ := Settings.exists_read_eq WaitSettings.record context scene
  simp only [waitDelay, hread]

/-- A wait keeps its limit, and waits for the lesser of the limit and the whole part of what it asks
for, just if it does not overshoot. -/
theorem waitDelay_iff (hlimit : limit < 2 ^ 64) (context : Context) (scene : Scene) {q : ℚ}
    (hq : (Settings.ofBlock WaitSettings.record context.block).requested scene.store = q) :
    (waitDelay limit context scene = min limit ⌊q⌋₊ ↔ ¬ Overshoots limit q) ∧
      (waitDelay limit context scene ≤ limit ↔ ¬ Overshoots limit q) := by
  obtain ⟨hfinite, hsign, hrequested⟩ :=
    requestedDelay_spec (Settings.ofBlock WaitSettings.record context.block) scene.store
  rw [hq] at hrequested
  rw [waitDelay_eq]
  by_cases hover : Overshoots limit q
  · have hcut := cutDelay_of_overshoots (hrequested ▸ hover)
    have hmore : limit < (Binary64.ofNat limit).toWord := hover.2
    rw [hcut]
    constructor
    · refine iff_of_false (fun heq => ?_) (not_not.mpr hover)
      have hmin := min_le_left limit ⌊q⌋₊
      omega
    · exact iff_of_false (not_le.mpr hmore) (not_not.mpr hover)
  · have hcut := cutDelay_of_not_overshoots hlimit hfinite hsign (hrequested ▸ hover)
    rw [hcut, hrequested]
    exact ⟨iff_of_true rfl hover, iff_of_true (min_le_left _ _) hover⟩

/-! ## Requests -/

/-- A timeout of a part of a millisecond. -/
def RequestSettings.AsksForFraction (settings : RequestSettings) (store : Store) : Prop :=
  ∃ x, store.resolveNumber settings.timeoutMs = some x ∧ 0 < x.toRat ∧ x.toRat < 1

/-- The timeout of a request is at most the limit. -/
theorem RequestSettings.timeout_le (settings : RequestSettings) (store : Store) (limit : Nat) :
    settings.timeout store limit ≤ limit := by
  rw [timeout]
  split
  · split
    · exact min_le_right _ _
    · exact le_rfl
  · exact le_rfl

/-- Under a positive limit a request has time, unless it asks for a part of a millisecond. -/
theorem RequestSettings.timeout_pos_iff (settings : RequestSettings) (store : Store)
    (h : 0 < limit) : 0 < settings.timeout store limit ↔ ¬ settings.AsksForFraction store := by
  rw [timeout, AsksForFraction]
  cases hnumber : store.resolveNumber settings.timeoutMs with
  | none => exact iff_of_true h (by rintro ⟨x, hx, -⟩; cases hx)
  | some x =>
      have hzero : Binary64.zero.toRat = 0 := Binary64.toRat_eq_zero_iff.mpr rfl
      simp only [Option.some.injEq, exists_eq_left', Binary64.less_iff, hzero]
      by_cases hpositive : 0 < x.toRat
      · rw [if_pos hpositive, lt_min_iff, and_iff_left h, Binary64.toWord_eq, lt_min_iff,
          and_iff_left (by norm_num), Nat.floor_pos, not_and, not_lt]
        exact ⟨fun hone _ => hone, fun hone => hone hpositive⟩
      · rw [if_neg hpositive]
        exact iff_of_true h fun hfraction => hpositive hfraction.1

/-- Half a millisecond is no time. -/
example : RequestSettings.timeout { timeoutMs := "0.5" } default 1000 = 0 := by decide +kernel

/-! ## Both -/

/-- What limits of milliseconds do. A wait waits once, for its delay. The delay is the lesser of the
limit and the whole part of the number that is asked for, and so at most the limit, just if the
number does not overshoot the limit; with a limit below `2 ^ 53` none does. The timeout with which a
request is sent is at most the limit and, if the limit is positive, positive itself just if the
settings do not ask for a part of a millisecond. -/
theorem limits_hold_iff (limit : Nat) (hlimit : limit < 2 ^ 64) (context : Context)
    (scene : Scene) :
    (let q := (Settings.ofBlock WaitSettings.record context.block).requested scene.store
      let delay := waitDelay limit context scene
      (∃ noted : Scene, runWait limit context scene =
        (waitVerdict delay (scene.clock.wait delay).1,
          noted.onClock (scene.clock.wait delay).2)) ∧
      (delay = min limit ⌊q⌋₊ ↔ ¬ Overshoots limit q) ∧
      (delay ≤ limit ↔ ¬ Overshoots limit q) ∧
      (limit < 2 ^ 53 → ¬ Overshoots limit q)) ∧
    (let settings := Settings.ofBlock RequestSettings.record context.block
      let timeout := settings.timeout scene.store limit
      (∀ call, settings.Describes scene.store call →
        ∃ notes, runRequest limit context scene = settings.conclude (settings.heading scene.store)
          (sendWithin timeout (.ok call) { scene with notes })) ∧
      timeout ≤ limit ∧
      (0 < limit → (0 < timeout ↔ ¬ settings.AsksForFraction scene.store))) := by
  refine ⟨?_, ?_⟩
  · intro q delay
    obtain ⟨noted, hrun⟩ := exists_runWait_onClock limit context scene
    obtain ⟨hdelay, hle⟩ := waitDelay_iff hlimit context scene rfl
    exact ⟨⟨noted, hrun scene.clock⟩, hdelay, hle, fun h => not_overshoots h q⟩
  · intro settings timeout
    exact ⟨fun call hcall => runRequest_of_describes rfl hcall limit,
      settings.timeout_le scene.store limit, settings.timeout_pos_iff scene.store⟩

/-- A block that waits. -/
def waiting (delay : String) : Context where
  block := Workflow.standardBlock (.ofNat 1) "Wait" "Wait"
    (some (.object [("DelayMs", .string delay)]))
  type := default
  outgoing := []

/-- What that block asks for, if its settings are these and the delay is a number. -/
theorem requested_waiting {delay : String} {q : ℚ} (hsettings : Settings.ofBlock
    WaitSettings.record (waiting delay).block = ⟨delay, ""⟩) (hq : 0 ≤ q)
    (hdelay : ((default : Store).resolveNumber delay).map toRat = some q) :
    (Settings.ofBlock WaitSettings.record (waiting delay).block).requested default = q := by
  have hvariable : delayFromVariable default "" = none := by decide
  rw [hsettings, WaitSettings.requested, hvariable, Option.none_or, hdelay, Option.getD_some,
    max_eq_right hq]

/-- Two and a half seconds are cut to a limit of one second. -/
theorem second_holds : 1000 < 2 ^ 64 ∧
    (Settings.ofBlock WaitSettings.record (waiting "2500").block).requested default = 2500 ∧
    waitDelay 1000 (waiting "2500") default = 1000 := by
  have hlimit : 1000 < 2 ^ 64 := by decide
  obtain ⟨⟨-, hdelay, -, hkeeps⟩, -⟩ := limits_hold_iff 1000 hlimit (waiting "2500") default
  have hnumber : ((default : Store).resolveNumber "2500").map toRat = some 2500 := by
    have hread := Store.resolveNumber_toString (show 2500 < 2 ^ 53 by decide) default
    have htext : toString 2500 = "2500" := by decide
    rw [← htext, hread, Option.map_some, Binary64.toRat_ofNat (by decide)]
    norm_num
  have hrequested := requested_waiting (by decide +kernel) (by norm_num) hnumber
  refine ⟨hlimit, hrequested, (hdelay.mpr (hkeeps (by decide))).trans ?_⟩
  show min 1000 ⌊(Settings.ofBlock WaitSettings.record
    (waiting "2500").block).requested default⌋₊ = 1000
  rw [hrequested]
  norm_num

/-- A limit above `2 ^ 53` that is rounded up may be overshot. -/
theorem wait_overshoots :
    (Settings.ofBlock WaitSettings.record (waiting "9007199254740996").block).requested default =
      9007199254740996 ∧
    waitDelay 9007199254740995 (waiting "9007199254740996") default = 9007199254740996 := by
  have hone : (Binary64.unitsPerOne : ℚ) ≠ 0 := Nat.cast_ne_zero.mpr Binary64.unitsPerOne_pos.ne'
  have hnumber : ((default : Store).resolveNumber "9007199254740996").map Binary64.value =
      some ((9007199254740996 * Binary64.unitsPerOne : Nat) : Int) := by
    decide +kernel
  obtain ⟨x, hx, hvalue⟩ := Option.map_eq_some_iff.mp hnumber
  refine ⟨requested_waiting (by decide +kernel) (by norm_num) ?_, by decide +kernel⟩
  rw [hx, Option.map_some, toRat, hvalue, Int.cast_natCast, Nat.cast_mul,
    mul_div_cancel_right₀ _ hone]
  norm_num

end Flowchart.Blocks
