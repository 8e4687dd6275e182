import Flowchart.Command.Basic
import Flowchart.Text.Search

/-!
# Reading the command line

A command is the name of what to do and options. An option has a long name after `--`, possibly a
letter after `-`, and either a value or none. The value is the next argument or stands behind `=`,
after a letter also without it; letters without values may be joined. No option may be given twice.
The first argument that does not fit ends the reading.
-/

namespace Flowchart

/-- Why arguments are no command. -/
inductive ArgumentFault where
  /-- They ask how to use the program. -/
  | helpWanted
  /-- They do not fit. -/
  | misused
  deriving DecidableEq, Repr

/-- What an option does to settings. -/
inductive Switch.Action (σ : Type) where
  | flag (set : σ → σ)
  /-- The value may not fit. -/
  | value (set : String → σ → Option σ)
  | help

/-- An option. -/
structure Switch (σ : Type) where
  name : String
  letter : Option Char
  action : Switch.Action σ

namespace Switch

/-- The option that asks how to use the program. -/
def help {σ : Type} : Switch σ := ⟨"help", some 'h', .help⟩

/-- The letter of an option. -/
inductive Letter where
  /-- The first character of its name. -/
  | initial
  | absent

/-- The letter of an option with a name. -/
def Letter.of (name : String) : Letter → Option Char
  | initial => name.toList.head?
  | absent => none

/-- An option without value. -/
def flag {σ : Type} (name : String) (letter : Letter) (set : σ → σ) : Switch σ :=
  ⟨name, letter.of name, .flag set⟩

/-- An option for a text. -/
def text {σ : Type} (name : String) (letter : Letter) (set : String → σ → σ) : Switch σ :=
  ⟨name, letter.of name, .value fun v s => some (set v s)⟩

/-- An option for the path of a file, which is not empty. -/
def path {σ : Type} (name : String) (letter : Letter) (set : String → σ → σ) : Switch σ :=
  ⟨name, letter.of name, .value fun v s => if v.isEmpty then none else some (set v s)⟩

/-- The number that digits write, if it is at most a limit. -/
def natural? (limit : Nat) (ds : List Char) : Option Nat :=
  if ds.isEmpty || !ds.all Char.isDigit then none
  else
    let n := ds.foldl (fun n c => n * 10 + (c.toNat - 48)) 0
    if n ≤ limit then some n else none

/-- The number without sign that a text of at most 64 bits writes. -/
def word? (s : String) : Option Nat :=
  natural? (0xFFFFFFFFFFFFFFFF) (match s.toList with
    | '+' :: ds => ds
    | ds => ds)

/-- The number with a sign that a text of at most 64 bits writes. -/
def signedWord? (s : String) : Option Int :=
  match s.toList with
  | '-' :: ds => (natural? 0x8000000000000000 ds).map fun n => -(n : Int)
  | '+' :: ds => (natural? (0x7FFFFFFFFFFFFFFF) ds).map Int.ofNat
  | ds => (natural? (0x7FFFFFFFFFFFFFFF) ds).map Int.ofNat

/-- An option for a number without sign. -/
def word {σ : Type} (name : String) (set : Nat → σ → σ) : Switch σ :=
  ⟨name, none, .value fun v s => (word? v).map (set · s)⟩

/-- An option for a number with a sign. -/
def signedWord {σ : Type} (name : String) (set : Int → σ → σ) : Switch σ :=
  ⟨name, none, .value fun v s => (signedWord? v).map (set · s)⟩

end Switch

/-- Settings and the names of the options that were given so far. -/
structure Arguments (σ : Type) where
  settings : σ
  given : List String

/-- What an argument leaves behind: settings, or an option that waits for its value. -/
inductive Arguments.Progress (σ : Type) where
  | done (a : Arguments σ)
  | awaiting (s : Switch σ) (set : String → σ → Option σ) (a : Arguments σ)

namespace Arguments

variable {σ : Type}

/-- Notes that an option is given. -/
def note (a : Arguments σ) (s : Switch σ) (settings : Option σ) :
    Except ArgumentFault (Arguments σ) :=
  match settings with
  | some settings =>
      if a.given.contains s.name then .error .misused else .ok ⟨settings, s.name :: a.given⟩
  | none => .error .misused

/-- Takes an option with the value that is attached to it, if there is one. -/
def take (a : Arguments σ) (s : Switch σ) (attached : Option String) :
    Except ArgumentFault (Progress σ) :=
  match s.action, attached with
  | .help, none => .error .helpWanted
  | .flag set, none => (a.note s (some (set a.settings))).map .done
  | .value set, some v => (a.note s (set v a.settings)).map .done
  | .value set, none => .ok (.awaiting s set a)
  | .help, some _ | .flag _, some _ => .error .misused

/-- Takes an argument of joined letters. -/
def takeLetters (switches : List (Switch σ)) : List Char → Arguments σ →
    Except ArgumentFault (Progress σ)
  | [], a => .ok (.done a)
  | c :: rest, a =>
      match switches.find? fun s => s.letter = some c with
      | none => .error .misused
      | some s =>
          match s.action, rest with
          | .value _, [] => a.take s none
          | .value _, '=' :: value => a.take s (some (String.ofList value))
          | .value _, value => a.take s (some (String.ofList value))
          | _, rest =>
              match a.take s none with
              | .ok (.done a) => takeLetters switches rest a
              | other => other

/-- Takes an option by its long name. -/
def takeNamed (switches : List (Switch σ)) (text : List Char) (a : Arguments σ) :
    Except ArgumentFault (Progress σ) :=
  let name := String.ofList (text.takeWhile (· ≠ '='))
  let attached := match text.dropWhile (· ≠ '=') with
    | [] => none
    | _ :: value => some (String.ofList value)
  match switches.find? fun s => s.name = name with
  | none => .error .misused
  | some s => a.take s attached

/-- Takes an argument that may be an option. -/
def takeArgument (switches : List (Switch σ)) (argument : String) (a : Arguments σ) :
    Except ArgumentFault (Progress σ) :=
  match argument.toList with
  | '-' :: '-' :: text => a.takeNamed switches text
  | '-' :: c :: text => takeLetters switches (c :: text) a
  | _ => .error .misused

/-- Whether an argument looks like an option and thus is not taken for a value. -/
def looksLikeOption (argument : String) : Bool :=
  match argument.toList with
  | '-' :: _ :: _ => true
  | _ => false

/-- Reads all arguments of a command. -/
def read (switches : List (Switch σ)) : List String → Arguments σ →
    Except ArgumentFault σ
  | [], a => .ok a.settings
  | argument :: rest, a =>
      if argument = "--" then if rest.isEmpty then .ok a.settings else .error .misused
      else
        match a.takeArgument switches argument with
        | .error fault => .error fault
        | .ok (.done a) => read switches rest a
        | .ok (.awaiting s set a) =>
            match rest with
            | [] => .error .misused
            | value :: rest =>
                if looksLikeOption value then .error .misused
                else match a.note s (set value a.settings) with
                  | .error fault => .error fault
                  | .ok a => read switches rest a

/-- Reads the arguments of a command that starts from some settings. -/
def readFrom (start : σ) (switches : List (Switch σ)) (arguments : List String) :
    Except ArgumentFault σ :=
  read (switches ++ [Switch.help]) arguments ⟨start, []⟩

end Arguments

namespace Command

open Switch

/-- The file of a command with its options. -/
abbrev WithFile (σ : Type) := Option String × σ

/-- The option for the file of a command. -/
def fileSwitch {σ : Type} : Switch (WithFile σ) :=
  path "file" .initial fun v s => (some v, s.2)

/-- An option that does not concern the file of a command. -/
def option {σ : Type} (s : Switch σ) : Switch (WithFile σ) where
  name := s.name
  letter := s.letter
  action := match s.action with
    | .flag set => .flag fun (file, options) => (file, set options)
    | .value set => .value fun v (file, options) => (set v options).map (file, ·)
    | .help => .help

/-- The options of runs. -/
def runSwitches : List (Switch RunOptions) := [
  text "input" .initial fun v s => { s with input := some v },
  flag "verbose" .initial fun s => { s with verbose := true },
  word "max-steps" fun v s => { s with maxSteps := v },
  word "max-wait-ms" fun v s => { s with maxWaitMs := v },
  word "http-timeout-ms" fun v s => { s with httpTimeoutMs := v },
  word "timeout-ms" fun v s => { s with timeoutMs := some v }]

/-- The options of schedules. -/
def scheduleSwitches : List (Switch ScheduleOptions) := [
  text "trigger" .absent fun v s => { s with trigger := v },
  text "start" .absent fun v s => { s with start := some v },
  signedWord "interval-minutes" fun v s => { s with intervalMinutes := v },
  text "last-run" .absent fun v s => { s with lastRun := some v }]

/-- A file that must be given. -/
def requireFile {σ : Type} : WithFile σ → Except ArgumentFault (String × σ)
  | (some file, options) => .ok (file, options)
  | (none, _) => .error .misused

/-- The commands by their names, with what reads their options. -/
def readers : List (String × (List String → Except ArgumentFault Command)) := [
  ("run", fun arguments => do
    let given ← Arguments.readFrom (none, {}) (fileSwitch :: runSwitches.map option) arguments
    let (file, options) ← requireFile given
    return .run file options),
  ("validate", fun arguments => do
    let given ← Arguments.readFrom ((none, ()) : WithFile Unit) [fileSwitch] arguments
    let (file, _) ← requireFile given
    return .validate file),
  ("blocks", fun arguments => do
    Arguments.readFrom () [] arguments
    return .listBlocks),
  ("init", fun arguments => do
    let output ← Arguments.readFrom "workflow.json" [path "output" .initial fun v _ => v] arguments
    return .createExample output),
  ("next-run", fun arguments => do
    let (file, options) ←
      Arguments.readFrom (none, {}) (fileSwitch :: scheduleSwitches.map option) arguments
    return .nextRun file options)]

/-- Reads a command line. -/
def ofArguments : List String → Except ArgumentFault Command
  | [] => .error .misused
  | name :: rest =>
      match readers.lookup name with
      | some reader => reader rest
      | none =>
          if name = "help" then
            match rest with
            | [] => .error .helpWanted
            | [topic] =>
                .error (if topic = "help" || (readers.lookup topic).isSome
                  then .helpWanted else .misused)
            | _ => .error .misused
          else match Arguments.takeArgument [Switch.help] name (⟨(), []⟩ : Arguments Unit) with
            | .error fault => .error fault
            | .ok _ => .error .misused

end Command
end Flowchart
