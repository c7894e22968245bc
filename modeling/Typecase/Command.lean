import Typecase.Text.Quoted
import Typecase.Text.Utf8

/-! Commands of the operating system that a task runs: how they are shown before they run,
how what they printed is shown afterwards, and what counts as a failure. Running itself
is left to the caller, who hands over an executor. -/

namespace Typecase

structure Command where
  program : String
  arguments : List String
  /-- Environment variables set for this command; of two of one name the last counts. -/
  environment : List (String × String) := []

structure Output where
  code : Nat
  stdout : List UInt8
  stderr : List UInt8

namespace Output

def succeeded (output : Output) : Bool := output.code == 0

/-- One printed stream under its title, on lines of its own; nothing if it is empty. -/
def titled (title : String) (bytes : List UInt8) : List Char :=
  match bytes with
  | [] => []
  | bytes =>
    let text := (title ++ ":\n").toList ++ Utf8.decode bytes
    if text.getLast? = some '\n' then text else text ++ ['\n']

def transcript (output : Output) : String :=
  match titled "stdout" output.stdout ++ titled "stderr" output.stderr with
  | [] => "(no output)\n"
  | text => String.ofList text

end Output

inductive CommandError where
  | notStarted (program reason : String)
  | failed (command : Command) (output : Output)

namespace CommandError

def message : CommandError → String
  | notStarted program reason => s!"Failed to run {program}: {reason}"
  | failed command output =>
    command.program ++ " " ++ " ".intercalate command.arguments ++ " failed:\n"
      ++ output.transcript

end CommandError

namespace Command

/-- The value that a variable has for the command, if the command sets it. -/
def value? (command : Command) (name : String) : Option String :=
  (command.environment.reverse.find? (·.1 == name)).map Prod.snd

/-- The command as it could be typed. -/
def line (command : Command) : String :=
  String.join (command.environment.map fun (name, value) =>
      name ++ "=" ++ Text.shellText value ++ " ")
    ++ command.program ++ " "
    ++ String.ofList (Text.shellLine (command.arguments.map String.toList))

/-- What is shown before the command runs. -/
def echo (command : Command) : String := "$ " ++ command.line

/-- Starts a program and waits for it, or says why it did not start. -/
abbrev Executor (m : Type → Type) := Command → m (Except String Output)

variable {m : Type → Type} [Monad m]

/-- Everything that is handed to the system when the command starts. -/
def words (command : Command) : List String :=
  command.program :: command.arguments
    ++ command.environment.flatMap fun (name, value) => [name, value]

/-- Runs a command. The system ends a word at its first zero character, so a command with
one in it is not started. -/
def run (execute : Executor m) (command : Command) : m (Except CommandError Output) := do
  if command.words.any (·.toList.contains '\x00') then
    return .error (.notStarted command.program "nul byte found in provided data")
  return (← execute command).mapError (.notStarted command.program)

/-- Runs a command that has to succeed. -/
def runOrFail (execute : Executor m) (command : Command) :
    m (Except CommandError Output) := do
  match ← command.run execute with
  | .error error => return .error error
  | .ok output =>
    return if output.succeeded then .ok output else .error (.failed command output)

/-- Whatever runs it, a command that has to succeed has an output exactly if it can be started, is
run and ends with code zero. -/
theorem runOrFail_eq_ok_iff (execute : Executor Id) (command : Command) (output : Output) :
    command.runOrFail execute = .ok output ↔
      (∀ word ∈ command.words, '\x00' ∉ word.toList) ∧ execute command = .ok output ∧
        output.code = 0 := by
  unfold runOrFail run
  by_cases cut : command.words.any (·.toList.contains '\x00') = true
  · have held : ¬∀ word ∈ command.words, '\x00' ∉ word.toList := by simpa using cut
    simp only [if_pos cut, pure, bind, held, false_and, reduceCtorEq]
  · have whole : ∀ word ∈ command.words, '\x00' ∉ word.toList := by simpa using cut
    simp only [if_neg cut, pure, bind]
    rw [and_iff_right whole]
    cases execute command with
    | error reason =>
      change Except.error (CommandError.notStarted command.program reason) = .ok output ↔ _
      simp only [reduceCtorEq, false_and]
    | ok found =>
      change (if found.succeeded then Except.ok found
        else Except.error (CommandError.failed command found)) = .ok output ↔ _
      simp only [Output.succeeded, beq_iff_eq]
      constructor
      · intro ended
        split at ended
        next zero =>
          cases ended
          exact ⟨rfl, zero⟩
        next => cases ended
      · rintro ⟨⟨⟩, zero⟩
        exact if_pos zero

end Command

end Typecase
