import Typecase.Bench.Scales
import Typecase.Command

/-! The tasks of a developer on the command line, and the commands that each stands for. -/

namespace Typecase

inductive Task where
  | verify
  | format
  | clippy
  | lint
  | test
  | benchReport (scales : List Nat)

inductive TaskError where
  | unknown (name : String)
  | scales (bad : Bench.BadScales)

namespace TaskError

def message : TaskError → String
  | unknown name =>
    "Unknown command: " ++ name
      ++ "\nUsage: cargo run -p xtask -- <verify|fmt|clippy|lint|test|bench-report [scales]>"
  | scales bad => bad.message

end TaskError

namespace Task

/-- The task that arguments ask for; without any, everything is verified. -/
def ofArguments (arguments : List String) : Except TaskError Task :=
  match arguments with
  | [] => .ok verify
  | name :: rest =>
    match name with
    | "verify" => .ok verify
    | "fmt" => .ok format
    | "clippy" => .ok clippy
    | "lint" => .ok lint
    | "test" => .ok test
    | "bench-report" =>
      ((Bench.scalesOrDefault rest.head?).mapError TaskError.scales).map benchReport
    | _ => .error (.unknown name)

def cargo (arguments : List String) : Command := { program := "cargo", arguments := arguments }

def formatCheck : Command := cargo ["fmt", "--all", "--", "--check"]

def clippyArguments : List String :=
  ["clippy", "--workspace", "--all-targets", "--", "-D", "warnings"]

def testAll : Command := cargo ["test", "--workspace"]

def benchmark (scale : Nat) : Command where
  program := "cargo"
  arguments := ["test", "-p", "ts_dispatch", "--release", "--test", "perf_dispatch", "--",
    "--ignored", "--nocapture", "--test-threads=1"]
  environment := [("TS_BENCH_SCALE", toString scale)]

/-- The commands of a task in the order in which they run. -/
def commands : Task → List Command
  | verify => [formatCheck, cargo clippyArguments, testAll]
  | format => [formatCheck]
  | clippy => [cargo clippyArguments]
  | lint =>
    [cargo (clippyArguments
      ++ ["-W", "clippy::all", "-W", "clippy::perf", "-W", "clippy::nursery"])]
  | test => [testAll]
  | benchReport scales => scales.map benchmark

end Task

end Typecase
