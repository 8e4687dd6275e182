import Flowchart.Proofs.Blocks.Loop
import Flowchart.Proofs.Blocks.Settings

/-!
# Refused settings

Settings are refused if they are no document, or a document that cannot be decoded
(`Settings.Refused`). Then the defaults hold, and those of the standard handlers leave all variables
alone (`defaults_keep_store`). A block with refused settings therefore does what it does without
any, after one warning (`refused_settings_only_warn`).
-/

namespace Flowchart

open Json

namespace Settings

variable {σ : Type} {record : Decoder.Record σ} {text : String}

/-- A text that is refused as settings: it is no document, or its document, with all names in normal
form, cannot be decoded. -/
inductive Refused (record : Decoder.Record σ) (text : String) : Prop
  | malformed {error : Error} (hread : Value.ofText text = .error error)
  | undecodable {document : Value} {fault : Fault} (hread : Value.ofText text = .ok document)
      (hdecode : record.decoder.ofValue (normalize document) = .error fault)

/-- A text is refused if decoding it gives an error. -/
theorem refused_iff : Refused record text ↔ ∃ reason, decode record text = .error reason := by
  constructor
  · rintro (hread | ⟨hread, hdecode⟩)
    · exact ⟨_, by simp only [decode, hread]; rfl⟩
    · exact ⟨_, by simp only [decode, hread, hdecode]; rfl⟩
  · rintro ⟨reason, hreason⟩
    unfold decode at hreason
    split at hreason
    case h_1 error hread => exact .malformed hread
    case h_2 document hread =>
      split at hreason
      case h_1 fault hdecode => exact .undecodable hread hdecode
      case h_2 => cases hreason

/-- Whether a text is refused can be computed. -/
instance : Decidable (Refused record text) :=
  match h : decode record text with
  | .error reason => isTrue (refused_iff.mpr ⟨reason, h⟩)
  | .ok _ => isFalse fun hrefused => by
      obtain ⟨reason, hreason⟩ := refused_iff.mp hrefused
      cases h.symm.trans hreason

end Settings

namespace Blocks

open Settings

variable {limits : Limits} {h : Handler} {σ : Type} {record : Decoder.Record σ}
  {context : Context} {scene : Scene} {text : String}

/-- The defaults of the standard handlers leave all variables alone: no operation goes on with them
that would name a variable. -/
theorem defaults_keep_store (hh : HasSettings limits h record) (hnone : context.settings? = none) :
    (h.run context scene).2.store = scene.store := by
  cases hh with
  | calculation =>
      have hoperation : Operation.ofName? CalculationSettings.record.start.operation = none := by
        decide
      rw [calculation, Handler.run_named]
      simp only [runCalculation, read_of_none hnone, hoperation]
  | condition =>
      rw [condition, Handler.run_named]
      simp only [runCondition, read_of_none hnone]
      split
      · rfl
      · split <;> rfl
  | switch =>
      rw [switch, Handler.run_named]
      simp only [runSwitch, read_of_none hnone]
      split <;> rfl
  | loop =>
      rw [loop, Handler.run_named]
      simp only [runLoop, read_of_none hnone]
      split <;> rfl
  | wait =>
      rw [wait, Handler.run_named]
      simp only [runWait, read_of_none hnone]
      split <;> split <;> rfl
  | textTransform =>
      rw [textTransform, Handler.run_named]
      simp only [runTransform, read_of_none hnone]
      split <;> rfl
  | textReplace =>
      rw [textReplace, Handler.run_named]
      simp only [runReplacement, read_of_none hnone]
      rfl
  | extraction =>
      rw [extraction, Handler.run_named]
      simp only [runExtraction, read_of_none hnone]
      split
      · rfl
      · split <;> rfl
  | httpRequest =>
      rw [httpRequest, Handler.run_named]
      have hurl : Text.isBlankText (scene.store.expand RequestSettings.record.start.url) = true :=
        rfl
      simp only [runRequest, read_of_none hnone, hurl, if_true]

/-- Under settings that are refused, a block does what it does without any, after one warning. -/
theorem run_of_refused (hh : HasSettings limits h record) (hblank : Text.isBlankText text = false)
    {reason : String} (hdecode : decode record text = .error reason) (context : Context)
    (scene : Scene) :
    ∃ notes, (h.run (context.configured none) scene).2.notes = scene.notes ++ notes ∧
      h.run (context.configured (some text)) scene =
        ((h.run (context.configured none) scene).1,
          { (h.run (context.configured none) scene).2 with
            notes := scene.notes ++ .warning (warning context reason) :: notes }) := by
  -- Both runs are compared with one in which nothing was noted before.
  let silent : Scene := { scene with notes := [] }
  have hsilent : read record (context.configured none) silent = (record.start, silent) :=
    read_of_none rfl
  have hplain : read record (context.configured none) scene =
      (record.start, silent.after scene.notes) := by
    rw [read_of_none rfl]
    simp [silent, Scene.after]
  have hrefused : read record (context.configured (some text)) scene =
      (record.start, silent.after (scene.notes ++ [.warning (warning context reason)])) := by
    rw [read_of_error (settings?_configured hblank) hdecode]
    simp [silent, Scene.after, Scene.warn, Scene.note]
    rfl
  have hplain := hh.governs hplain hsilent
  have hrefused := hh.governs hrefused hsilent
  rw [Context.configured_configured] at hplain hrefused
  refine ⟨(h.run (context.configured none) silent).2.notes, ?_, ?_⟩
  · rw [hplain]
    rfl
  · rw [hplain, hrefused]
    simp [Scene.after]

/-- Settings that are refused do nothing but warn. Whatever text is refused, the verdict of the
block and the variables, counters and all else in the scene are as without settings, and there is
one note more, a warning with the reason before all others. Without settings no variable
changes. -/
theorem refused_settings_only_warn (hh : HasSettings limits h record)
    (hblank : Text.isBlankText text = false) (hrefused : Refused record text) :
    let plain := h.run (context.configured none) scene
    plain.2.store = scene.store ∧
    ∃ reason notes, decode record text = .error reason ∧ plain.2.notes = scene.notes ++ notes ∧
      h.run (context.configured (some text)) scene =
        (plain.1, { plain.2 with
          notes := scene.notes ++ .warning (warning context reason) :: notes }) := by
  obtain ⟨reason, hdecode⟩ := refused_iff.mp hrefused
  obtain ⟨notes, hnotes, hrun⟩ := run_of_refused hh hblank hdecode context scene
  exact ⟨defaults_keep_store hh rfl, reason, notes, hdecode, hnotes, hrun⟩

/-- The settings of a request that give its token under both of its names. -/
def doubleToken : String :=
  "\x7b\"Url\":\"http://localhost/\",\"Token\":\"old\",\"BearerToken\":\"new\"\x7d"

/-- A scene in which a variable has a value and something was noted before. -/
def busyScene : Scene :=
  { (default : Scene) with store := Store.empty.set "a" "1", notes := [.info "before"] }

/-- A request with a token under two names sends nothing and warns. -/
theorem doubleToken_only_warns :
    Text.isBlankText doubleToken = false ∧ Refused RequestSettings.record doubleToken ∧
    let plain := (httpRequest {}).run (Context.configured default none) busyScene
    plain.2.store = busyScene.store ∧
    ∃ reason notes, decode RequestSettings.record doubleToken = .error reason ∧
      plain.2.notes = busyScene.notes ++ notes ∧
      (httpRequest {}).run (Context.configured default (some doubleToken)) busyScene =
        (plain.1, { plain.2 with
          notes := busyScene.notes ++ .warning (warning default reason) :: notes }) := by
  have hblank : Text.isBlankText doubleToken = false := by decide +kernel
  have hrefused : Refused RequestSettings.record doubleToken := by decide +kernel
  exact ⟨hblank, hrefused, refused_settings_only_warn .httpRequest hblank hrefused⟩

end Blocks
end Flowchart
