import Typecase.Task

/-! The command line. It shows the commands of the task asked for as they would be typed,
one behind each prompt, and refuses what is no task. -/

open Typecase in
def main (arguments : List String) : IO UInt32 := do
  match Task.ofArguments arguments with
  | .ok task =>
    for command in task.commands do
      IO.println command.echo
    return 0
  | .error error =>
    IO.eprintln error.message
    return 1
