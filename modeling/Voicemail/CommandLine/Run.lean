import Voicemail.CommandLine.Answer
import Voicemail.FileTree

/-!
# Runs

Runs of the program one after another on the same machine. A run that asks the client opens the
store that its settings name, and leaves it in the files of the machine for the next run.
-/

namespace Voicemail.CommandLine

/-- A machine on which the program runs. -/
structure Machine where
  host : Host
  /-- The working directory. -/
  directory : Path
  environment : Environment
  tree : FileTree
  /-- The random draws to come. -/
  draws : List Nat

namespace Machine

/-- What a run finds around it. -/
def surroundings (m : Machine) : Surroundings := m.tree.surroundings m.directory m.environment

/-- Runs the program: the machine afterwards, and the response. -/
def run (m : Machine) (args : List String) : Machine × Response :=
  match plan m.surroundings args with
  | .respond r => (m, r)
  | .ask settings q =>
    match m.tree.openStore m.directory settings.databasePath with
    | (tree, .error e) => ({ m with tree }, .ofFailure e)
    | (_, .ok opened) =>
      let (r, store, draws) := q.answer m.host settings opened.store m.draws
      ({ m with tree := opened.tree.keep store opened.place, draws }, r)

/-- Runs the program with one list of arguments after another. -/
def runAll (m : Machine) : List (List String) → List Response
  | [] => []
  | args :: rest =>
    let (m, r) := m.run args
    r :: m.runAll rest

end Machine

end Voicemail.CommandLine
