import Voicemail.CommandLine.Arguments

/-!
# Manuals

What is known of a command for people: how it is called, what it does, its switches, its examples
and, of a group, its commands. The help page of a command is set in lines of at most
`Manual.lineWidth` characters, and in the list of a group what a command does stands on one line.
-/

namespace Voicemail.CommandLine

/-- The manual of a command. -/
structure Manual where
  /-- The words that call the command. -/
  path : String
  /-- What may follow the switches. -/
  operands : List String := []
  about : String
  switches : List Switch
  examples : List String := []
  /-- The commands of a group, in order, with what they do. -/
  commands : List (String × String) := []

namespace Manual

/-- The greatest length of a line. -/
def lineWidth : Nat := 78

/-- The switch that shows the help page. -/
def helpSwitch : Switch := { name := "help", about := "Show this message and exit." }

/-- The switch that shows the examples. -/
def examplesSwitch : Switch := { name := "examples", about := "Show usage examples." }

/-- Whether a manual is that of a group. -/
def isGroup (m : Manual) : Bool := !m.commands.isEmpty

/-- Every switch of a command. -/
def allSwitches (m : Manual) : List Switch :=
  m.switches ++ (if m.examples.isEmpty then [] else [examplesSwitch]) ++ [helpSwitch]

/-- The line that says how a command is called. -/
def usage (m : Manual) : String :=
  " ".intercalate ("Usage:" :: m.path :: "[OPTIONS]" :: m.operands)

/-- The words of a text. -/
def words (s : String) : List String := (s.splitOn " ").filter fun w => !w.isEmpty

/-- Words in lines of at most some characters. -/
def wrap (room : Nat) (ws : List String) : List String :=
  let (done, last) := ws.foldl (fun (done, line) w =>
    if line.isEmpty then (done, w)
    else if line.length + 1 + w.length ≤ room then (done, line ++ " " ++ w)
    else (done ++ [line], w)) ([], "")
  done ++ [last]

/-- The number of words that fit into a line with an ellipsis. -/
def fitting (room : Nat) (ws : List String) : Nat :=
  ((List.range ws.length).filter fun n => (" ".intercalate (ws.take n)).length + 3 ≤ room).length

/-- A text in one line: cut after a word, with an ellipsis, if it is too long. -/
def shortened (room : Nat) (s : String) : String :=
  if s.length ≤ room then s
  else
    let ws := words s
    " ".intercalate (ws.take (fitting room ws - 1)) ++ "..."

/-- The length of the longest of some texts. -/
def longest (names : List String) : Nat := (names.map String.length).foldl max 0

/-- Names with what they mean, in two columns. -/
def rows (entries : List (String × String)) : List String :=
  let width := longest (entries.map (·.1)) + 2
  entries.map fun (name, about) =>
    "  " ++ name ++ String.ofList (List.replicate (width - name.length) ' ') ++ about

/-- A switch as the help page names it. -/
def label (s : Switch) : String :=
  ((s.letter.map fun c => letterName c ++ ", ").getD "") ++ s.longName ++
    ((s.value.map (" " ++ ·)).getD "")

/-- The part of a help page about the commands of a group. -/
def commandRows (m : Manual) : List String :=
  if m.isGroup then
    let room := lineWidth - 6 - longest (m.commands.map (·.1))
    "" :: "Commands:" ::
      rows (m.commands.map fun (name, about) => (name, shortened room about))
  else []

/-- The help page of a command. -/
def help (m : Manual) : String :=
  "\n".intercalate
    ([m.usage, ""] ++ (wrap (lineWidth - 2) (words m.about)).map ("  " ++ ·) ++
      ["", "Options:"] ++ rows (m.allSwitches.map fun s => (label s, s.about)) ++ m.commandRows)

/-- The examples of a command. -/
def exampleText (m : Manual) : String :=
  "\n".intercalate ([s!"Examples for '{m.path}':", ""] ++ m.examples.map ("  " ++ ·))

/-- What is told about a usage error of a command. -/
def complaint (m : Manual) (e : UsageError) : String :=
  let lines := if e.tellsUsage then [m.usage, s!"Try '{m.path} --help' for help.", ""] else []
  "\n".intercalate (lines ++ ["Error: " ++ e.message])

end Manual

end Voicemail.CommandLine
