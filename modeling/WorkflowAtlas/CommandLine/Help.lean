import WorkflowAtlas.CommandLine.Basic

/-!
# Help

The text that explains the program or one of its commands: what it does, how it is used, and a table of
commands, operands and options. The second column of a table starts two blanks behind the longest entry
of the first.
-/

namespace WorkflowAtlas

namespace CommandName

/-- What a command does, in one line. -/
def about : CommandName → String
  | .analyze => "Analyze a repository and emit its workflow graph"
  | .facts => "Print the extracted repository structure"
  | .callGraph => "Print one file's call graph"
  | .compare => "Diff two snapshot files; exits with status 1 when they differ"
  | .version => "Show version"
  | .help => "Print this message or the help of the given subcommand(s)"

end CommandName

namespace Help

/-- A row of a table. -/
structure Row where
  left : String
  right : String

/-- The lines of a table under a heading. -/
def table (heading : String) (rows : List Row) : List String :=
  let width := (rows.map (·.left.length)).foldl max 0
  if rows.isEmpty then []
  else "" :: (heading ++ ":") :: rows.map fun row =>
    "  " ++ row.left ++ String.ofList (List.replicate (width - row.left.length) ' ') ++ "  " ++ row.right

/-- The row of an option that takes a value. -/
def optionRow (option : CommandOption) : Row where
  left := (match option.short with
    | some c => "-" ++ String.singleton c ++ ", "
    | none => "    ") ++ "--" ++ option.long ++ " <" ++ option.long.toUpper ++ ">"
  right := match option.standard with
    | none => option.about
    | some value => option.about ++ (if option.about.isEmpty then "" else " ") ++ "[default: " ++ value ++ "]"

def verboseRow : Row := ⟨"-v, --verbose", "Enable verbose logging"⟩

def helpRow : Row := ⟨"-h, --help", "Print help"⟩

/-- The options of a command; the one that every command has stands behind the first of its own. -/
def optionRows (name : CommandName) : List Row :=
  let own := name.options.map optionRow
  own.take 1 ++ [verboseRow] ++ own.drop 1 ++ (if name = .help then [] else [helpRow])

/-- The operands of a command. -/
def operandRows : CommandName → List Row
  | .help => [⟨"[COMMAND]...", "Print help for the subcommand(s)"⟩]
  | name => name.operands.map fun operand => ⟨"<" ++ operand ++ ">", ""⟩

/-- The lines on the program as a whole. -/
def programLines : List String :=
  ["Static analysis of LLM workflows in source repositories", "", "Usage: codag [OPTIONS] <COMMAND>"]
    ++ table "Commands" (CommandName.all.map fun name => ⟨name.word, name.about⟩)
    ++ table "Options" [verboseRow, helpRow]

/-- The lines on a command. -/
def commandLines (name : CommandName) : List String :=
  let usage := " ".intercalate (["Usage: codag", name.word, "[OPTIONS]"] ++ (operandRows name).map (·.left))
  [name.about, "", usage] ++ table "Arguments" (operandRows name) ++ table "Options" (optionRows name)

/-- **The help on a topic.** -/
def text (topic : Option CommandName) : String :=
  let lines := match topic with
    | none => programLines
    | some name => commandLines name
  "\n".intercalate lines

end Help

end WorkflowAtlas
