import QuizFeed.Command.Invocation

/-!
# Help pages

A page says what a command is for, how it is used, and what can be given to it. In short, a row of
a table keeps to one column for its explanation; in full, the explanation stands below.
-/

namespace QuizFeed.Command.Help

/-- A row of a table: something that can be given, what it means, remarks on it, and the values
that it can have if they are explained. -/
structure Row where
  label : String
  about : String
  remarks : List String := []
  values : List (String × String) := []

/-- A table of a page. -/
structure Table where
  title : String
  rows : List Row

/-- A help page. -/
structure Page where
  about : String
  usage : String
  tables : List Table

/-- The width of a page in characters. -/
def pageWidth : Nat := 100

/-- The indentation of explanations that stand below. -/
def fullIndentation : Nat := 10

/-- Some spaces. -/
def spaces (count : Nat) : String :=
  String.ofList (List.replicate count ' ')

/-- A text followed by spaces up to a width. -/
def pad (width : Nat) (text : String) : String :=
  text ++ spaces (width - text.length)

/-- Adds a word to lines, the last of which comes first. -/
def addWord (width : Nat) : List String → String → List String
  | [], word => [word]
  | line :: lines, word =>
    if line.length + 1 + word.length ≤ width then (line ++ " " ++ word) :: lines
    else word :: line :: lines

/-- Breaks a text into lines of at most some width, between words. -/
def wrap (width : Nat) (text : String) : List String :=
  ((text.splitOn " ").foldl (addWord width) []).reverse

/-- A row with its explanation beside it, which starts behind some width. -/
def Row.short (row : Row) (width : Nat) : String :=
  let names := row.values.map Prod.fst
  let remarks := row.remarks ++
    (if names.isEmpty then [] else ["[possible values: " ++ ", ".intercalate names ++ "]"])
  let text := " ".intercalate ((if row.about = "" then [] else [row.about]) ++ remarks)
  let indentation := width + 4
  "  " ++ pad width row.label ++ "  " ++
    ("\n" ++ spaces indentation).intercalate (wrap (pageWidth - indentation) text)

/-- A row with its explanation below it. -/
def Row.full (row : Row) : String :=
  let newline := "\n" ++ spaces fullIndentation
  let width := (row.values.map fun value => value.1.length).foldl max 0
  let values := row.values.map fun (name, about) =>
    "- " ++ pad (width + 2) (name ++ ":") ++ about
  let parts := [if row.about = "" then [] else [row.about], row.remarks,
    if values.isEmpty then [] else "Possible values:" :: values]
  "  " ++ row.label ++ newline ++
    (newline ++ newline).intercalate
      ((parts.filter (!·.isEmpty)).map newline.intercalate)

/-- A table in short. -/
def Table.short (table : Table) : String :=
  let width := (table.rows.map fun row => row.label.length).foldl max 0
  table.title ++ ":\n" ++ "\n".intercalate (table.rows.map fun row => row.short width)

/-- A table in full. -/
def Table.full (table : Table) : String :=
  table.title ++ ":\n" ++ "\n\n".intercalate (table.rows.map Row.full)

/-- A page as it is printed. Commands are always listed in short. -/
def Page.text (page : Page) (inFull : Bool) : String :=
  let tables := page.tables.map fun table =>
    if inFull && table.title != "Commands" then table.full else table.short
  line (page.about ++ "\n\nUsage: " ++ programName ++ " " ++ page.usage ++ "\n\n" ++
    "\n\n".intercalate tables)
where
  /-- A text as a line. -/
  line (text : String) : String :=
    text ++ "\n"

/-- The row of the switch for help. -/
def helpRow : Row :=
  ⟨"-h, --help", "Print help", [], []⟩

/-- What is said about the variable of the environment that stands for an option. -/
def variableRemark (name : String) (value : Option String) : String :=
  "[env: " ++ name ++ "=" ++ value.getD "" ++ "]"

/-- The page of the program. -/
def programPage (environment : Environment) (inFull : Bool) : Page where
  about := purpose
  usage := "[OPTIONS] <COMMAND>"
  tables :=
    [⟨"Commands",
      [⟨"feed", "List every riddle in the feed", [], []⟩,
        ⟨"lookup", "Print one media field of a riddle", [], []⟩,
        ⟨"thumbnail", "Print the local thumbnail of a riddle, downloading it when needed", [], []⟩,
        ⟨"configure", "Update and save the settings file", [], []⟩,
        ⟨"help", "Print this message or the help of the given subcommand(s)", [], []⟩]⟩,
      ⟨"Options",
        [⟨"    --settings <SETTINGS>", "RON settings file",
          [variableRemark "RIDDLE_SETTINGS" environment.settings,
            "[default: riddle_settings.ron]"], []⟩,
          ⟨"    --token <TOKEN>", "Overrides the token from the settings file",
            [variableRemark "RIDDLE_TOKEN" environment.token], []⟩,
          ⟨"    --log <LOG>", "", ["[default: terminal]"],
            [("file", "Write to ./riddle_feed.log in current directory"),
              ("terminal", "Write to the terminal (stderr for warnings and errors)"),
              ("both", "Write to both file and terminal")]⟩,
          ⟨"-v, --verbose", "", [], []⟩,
          { helpRow with
            about := "Print help (see " ++
              (if inFull then "a summary with '-h'" else "more with '--help'") ++ ")" }]⟩]

/-- The row of the code of a quiz. -/
def codeRow : Row :=
  ⟨"<CODE>", "", [], []⟩

/-- The page of a command. -/
def commandPage? : String → Option Page
  | "feed" => some ⟨"List every riddle in the feed", "feed", [⟨"Options", [helpRow]⟩]⟩
  | "lookup" =>
    some ⟨"Print one media field of a riddle", "lookup <CODE> <FIELD>",
      [⟨"Arguments",
        [codeRow, ⟨"<FIELD>", "id, title, status, thumbnail or thumbnail_local_uri", [], []⟩]⟩,
        ⟨"Options", [helpRow]⟩]⟩
  | "thumbnail" =>
    some ⟨"Print the local thumbnail of a riddle, downloading it when needed",
      "thumbnail <CODE>", [⟨"Arguments", [codeRow]⟩, ⟨"Options", [helpRow]⟩]⟩
  | "configure" =>
    some ⟨"Update and save the settings file", "configure [OPTIONS]",
      [⟨"Options",
        [⟨"    --token <TOKEN>", "", [], []⟩,
          ⟨"    --fetch-unpublished <FETCH_UNPUBLISHED>", "",
            ["[possible values: true, false]"], []⟩,
          ⟨"    --empty-title-prefix <EMPTY_TITLE_PREFIX>", "", [], []⟩, helpRow]⟩]⟩
  | "help" =>
    some ⟨"Print this message or the help of the given subcommand(s)", "help [COMMAND]...",
      [⟨"Arguments", [⟨"[COMMAND]...", "Print help for the subcommand(s)", [], []⟩]⟩]⟩
  | _ => none

/-- The help on a command, or on the program. -/
def text (environment : Environment) (topic : Option String) (inFull : Bool) : String :=
  match topic.bind commandPage? with
  | some page => page.text false
  | none => (programPage environment inFull).text inFull

end QuizFeed.Command.Help
