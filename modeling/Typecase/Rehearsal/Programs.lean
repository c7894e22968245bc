import Typecase.Command
import Typecase.Rehearsal.Format
import Typecase.Rehearsal.Place

/-! A rehearsal answers a few well-known programs without starting them, so that the way
commands are run and reported can be tried where no program may run. It is one executor among
others: commands take any, and nothing that is proved of them rests on this one. -/

namespace Typecase.Rehearsal

def output (code : Nat) (printed : List Char) : Output := ⟨code, toBytes printed, []⟩

/-- An argument that holds options of `echo` only. -/
def isEchoOption (argument : List Char) : Bool :=
  match argument with
  | '-' :: letters => !letters.isEmpty && letters.all ("neE".toList.contains ·)
  | _ => false

/-- Words with spaces between them and a line break at the end. Of the options that
contradict each other the last counts. A strict program reads escapes anyway, and options
only behind a plain `-n`. -/
def echo (strict : Bool) (arguments : List (List Char)) : Output :=
  let isOption := fun argument =>
    (!strict || arguments.head? == some ['-', 'n']) && isEchoOption argument
  let options := (arguments.takeWhile isOption).flatten
  let line := [' '].intercalate (arguments.dropWhile isOption)
  let ending := if options.contains 'n' then [] else ['\n']
  if strict ∨ (options.filter ("eE".toList.contains ·)).getLast? = some 'e' then
    let expansion := expand Escape.takeLenient line.length line
    output 0 (expansion.printed ++ if expansion.cut.isSome then [] else ending)
  else output 0 (line ++ ending)

/-- The lines that a program writes about itself, each behind its name. -/
def remarkLines (program : String) (texts : List String) : List Char :=
  (texts.map fun text => (program ++ ": " ++ text ++ "\n").toList).flatten

/-- The output of a program that was called in a wrong way. -/
def misused (code : Nat) (program reason : String) : Output :=
  let hint := "Try '" ++ program ++ " --help' for more information.\n"
  ⟨code, [], toBytes (remarkLines program [reason] ++ hint.toList)⟩

def printf (program : String) (strict : Bool) (arguments : List (List Char)) : Output :=
  let arguments := if arguments.head? = some ['-', '-'] then arguments.drop 1 else arguments
  match arguments with
  | [] => misused 1 program "missing operand"
  | format :: arguments =>
    let printing := printFormatted strict format arguments
    ⟨printing.code, toBytes printing.printed,
      toBytes (remarkLines program (printing.remarks.map Remark.text))⟩

/-- The variables of a command as a program finds them, each name before its value. A name
that is set again keeps its last value. -/
def settings (command : Command) : List (List Char) :=
  let names := (command.environment.map Prod.fst).eraseDups.mergeSort (· ≤ ·)
  names.filterMap fun name =>
    (command.value? name).map fun value => bytesOf (name ++ "=" ++ value)

/-- The values of the variables of a name. A name that holds an equals sign finds none. -/
def valuesOf (settings : List (List Char)) (name : List Char) : List (List Char) :=
  if name.isEmpty || name.contains '=' then []
  else (settings.filter ((name ++ ['=']).isPrefixOf ·)).map (·.drop (name.length + 1))

/-- Between quotes, as it stands. -/
def enclosed (word : List Char) : String := "'" ++ String.ofList word ++ "'"

/-- What is wrong with a long option of `printenv`, without its dashes. It may be cut short
as long as it is clear, and takes no value. -/
def longOptionFault? (option : List Char) : Option String :=
  let name := option.takeWhile (· ≠ '=')
  if name.isEmpty then
    some ("option " ++ enclosed ("--".toList ++ option)
      ++ " is ambiguous; possibilities: '--null' '--help' '--version'")
  else if !name.isPrefixOf "null".toList then
    some ("unrecognized option " ++ enclosed ("--".toList ++ option))
  else if name.length < option.length then some "option '--null' doesn't allow an argument"
  else none

/-- What is wrong with letters that are options of `printenv`. -/
def shortOptionFault? (letters : List Char) : Option String :=
  (letters.find? (· ≠ '0')).map fun wrong => "invalid option -- " ++ enclosed [wrong]

/-- The options of `printenv`: whether values end in a zero byte instead of a line break,
and the names behind the options. The first wrong option is complained about. -/
def printenvOptions (zeros : Bool) :
    List (List Char) → Except String (Bool × List (List Char))
  | ['-', '-'] :: names => .ok (zeros, names)
  | ('-' :: letter :: letters) :: rest =>
    let fault :=
      if letter = '-' then longOptionFault? letters else shortOptionFault? (letter :: letters)
    match fault with
    | some reason => .error reason
    | none => printenvOptions true rest
  | names => .ok (zeros, names)

/-- The values of the variables asked for. It fails if some are not set. -/
def printenv (program : String) (settings arguments : List (List Char)) : Output :=
  match printenvOptions false arguments with
  | .error reason => misused 2 program reason
  | .ok (zeros, names) =>
    let found := names.map (valuesOf settings)
    let ending := if zeros then '\x00' else '\n'
    output (if found.any List.isEmpty then 1 else 0)
      ((found.flatten.map (· ++ [ending])).flatten)

/-- The first number of bytes that is too large for a word handed to a program. -/
def wordLimit : Nat := 131072

/-- Where programs are searched for unless a command says otherwise. -/
def usualPath : String := "/usr/bin:/bin"

/-- Answers a program that was found. Its remarks name it as the command does. -/
def answer (command : Command) (found : String) : Output :=
  let settings := settings command
  let strict := !(valuesOf settings (bytesOf "POSIXLY_CORRECT")).isEmpty
  let arguments := command.arguments.map bytesOf
  match found with
  | "echo" => echo strict arguments
  | "printf" => printf command.program strict arguments
  | "printenv" => printenv command.program settings arguments
  | "false" => output 1 []
  | _ => output 0 []

/-- Answers a command. -/
def execute : Command.Executor Id := fun command =>
  let searchPath := (command.value? "PATH").getD usualPath
  match Place.search searchPath command.program with
  | .error obstacle => .error obstacle.message
  | .ok found =>
    let words := command.arguments.map bytesOf ++ settings command
    if words.any (wordLimit ≤ ·.length) then .error Obstacle.listTooLong.message
    else .ok (answer command found)

end Typecase.Rehearsal
