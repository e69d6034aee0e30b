import FleetConsole.CommandLine.Reading

/-!
# Help

The help text of a command explains the command, its own commands, its values and its options. What
explains stands in one column in each section. A command line that makes no sense is answered with
what is wrong with it.
-/

namespace FleetConsole.CommandLine

/-- The lines of a section: terms, each with what explains it. -/
def entryLines (entries : List (String × String)) : List String :=
  let width := (entries.map (·.1.length)).foldl max 0
  entries.map fun (term, about) =>
    "  " ++ term ++ String.ofList (List.replicate (width - term.length + 2) ' ') ++ about

/-- A section under its heading; an empty one is left out. -/
def sectionLines (heading : String) (entries : List (String × String)) : List String :=
  if entries.isEmpty then [] else "" :: (heading ++ ":") :: entryLines entries

/-- A value as it is written in the usage. -/
def Place.usage (p : Place) : String :=
  if p.required then "<" ++ p.name ++ ">" else "[" ++ p.name ++ "]"

/-- An option with its forms and its value. -/
def Switch.usage (s : Switch) : String :=
  (match s.short? with
    | some c => "-" ++ String.singleton c ++ ", --"
    | none => "    --") ++
  s.long ++ s.value?.elim "" fun value => " <" ++ value ++ ">"

/-- How a command is called. -/
def Verb.usage (v : Verb) : String :=
  let child := if v.children.isEmpty then []
    else [if v.needsChild then "<COMMAND>" else "[COMMAND]"]
  " ".intercalate (v.path ++ ["[OPTIONS]"] ++ v.places.map Place.usage ++ child)

/-- The help text of a command. -/
def Verb.help (v : Verb) : String :=
  let children := v.children.map fun c => (c.name, c.about)
  let help := if children.isEmpty then []
    else [(helpWord, "Print this message or the help of the given subcommand(s)")]
  let lines := [v.about, "", "Usage: " ++ v.usage] ++
    sectionLines "Commands" (children ++ help) ++
    sectionLines "Arguments" (v.places.map fun p => (p.usage, p.about)) ++
    sectionLines "Options" (Switch.all.map fun s => (s.usage, s.about))
  String.join (lines.map (· ++ "\n"))

/-- What is wrong, in words. -/
def Misuse.message : Misuse → String
  | unknownOption word => "there is no option '" ++ word ++ "'"
  | repeated s => "the option '--" ++ s.long ++ "' is given twice"
  | missingValue s => "the option '--" ++ s.long ++ "' needs a value"
  | surplusValue s => "the option '--" ++ s.long ++ "' takes no value"
  | unexpected word => "unexpected argument '" ++ word ++ "'"
  | conflict s t => "the options '--" ++ s.long ++ "' and '--" ++ t.long ++ "' exclude each other"
  | missingPlace v => "arguments are missing: " ++ v.usage
  | missingCommand v => "a command is missing: " ++ v.usage

end FleetConsole.CommandLine
