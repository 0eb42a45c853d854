import WebMount.Mount.Descriptor

/-!
# The command line

The command `filter-path` prints the path that a deployment descriptor maps a name to. Its options
are `--web-xml FILE` and `--name NAME`, both of which are needed, and `--servlet`; none may be
given twice. A value either follows its option or stands behind an equals sign; one that follows
cannot begin with a hyphen, unless it is nothing else. The help is shown if it is asked for in the
place of an option; in the place of a value, `-h` and `--help` leave that value missing.
-/

namespace WebMount.CommandLine

open WebMount.Mount WebMount.Text

/-- What a run of the program writes, and the code that it exits with. -/
structure Outcome where
  exitCode : Nat
  output : String := ""
  complaint : String := ""
  deriving DecidableEq, Repr

/-- The options of the command as far as they are given. -/
structure Options where
  file : Option String := none
  name : Option String := none
  servlet : Bool := false
  deriving DecidableEq, Repr

/-- Why there is nothing to run. -/
inductive Refusal where
  /-- The text that explains the command was asked for. -/
  | help
  | misuse (argument : String)
  deriving DecidableEq, Repr

/-- The text that explains the command. -/
def helpText : String :=
  String.join
    (["Print the filter path a deployment descriptor maps a filter to",
      "",
      "Usage: resource-filter filter-path [OPTIONS] --web-xml <WEB_XML> --name <NAME>",
      "",
      "Options:",
      "      --web-xml <WEB_XML>  Deployment descriptor (web.xml)",
      "      --name <NAME>        Filter or servlet name",
      "      --servlet            Look up a servlet-mapping instead of a filter-mapping",
      "  -h, --help               Print help"].map (· ++ "\n"))

/-- The options with the file given. A file has a name. -/
def Options.giveFile (o : Options) (file : String) : Except Refusal Options :=
  if o.file.isSome ∨ file = "" then .error (.misuse "--web-xml")
  else .ok { o with file := some file }

/-- The options with the name given. -/
def Options.giveName (o : Options) (name : String) : Except Refusal Options :=
  if o.name.isSome then .error (.misuse "--name") else .ok { o with name := some name }

/-- The value behind the equals sign of an argument that begins with an option. -/
def attached? (option argument : String) : Option String :=
  (dropStart? (option ++ "=").toList argument.toList).map String.ofList

/-- Whether an argument can be the value of the option in front of it. -/
def isValue (argument : String) : Bool :=
  argument == "-" || argument.toList.head? != some '-'

/-- Why nothing is run if an argument stands in the place of an option and is none of the three. -/
def refusalOf (argument : String) : Refusal :=
  if argument = "-h" ∨ argument = "--help" then .help else .misuse argument

/-- The options that arguments give, added to those given before. -/
def Options.read (o : Options) : List String → Except Refusal Options
  | [] => .ok o
  | ["--web-xml"] => .error (.misuse "--web-xml")
  | ["--name"] => .error (.misuse "--name")
  | "--web-xml" :: value :: rest =>
    if isValue value then
      match o.giveFile value with
      | .ok o => o.read rest
      | .error e => .error e
    else .error (.misuse "--web-xml")
  | "--name" :: value :: rest =>
    if isValue value then
      match o.giveName value with
      | .ok o => o.read rest
      | .error e => .error e
    else .error (.misuse "--name")
  | "--servlet" :: rest =>
    if o.servlet then .error (.misuse "--servlet") else { o with servlet := true }.read rest
  | argument :: rest =>
    match attached? "--web-xml" argument, attached? "--name" argument with
    | some file, _ =>
      match o.giveFile file with
      | .ok o => o.read rest
      | .error e => .error e
    | none, some name =>
      match o.giveName name with
      | .ok o => o.read rest
      | .error e => .error e
    | none, none => .error (refusalOf argument)

/-- The kind of mapping, the name and the file that a run of the program is about. -/
def request? : List String → Except Refusal (Descriptor.MappingKind × String × String)
  | "filter-path" :: arguments =>
    match Options.read {} arguments with
    | .error e => .error e
    | .ok ⟨some file, some name, servlet⟩ =>
      .ok (if servlet then .servlet else .filter, name, file)
    | .ok ⟨none, _, _⟩ => .error (.misuse "--web-xml")
    | .ok ⟨_, none, _⟩ => .error (.misuse "--name")
  | argument :: _ => .error (.misuse argument)
  | [] => .error (.misuse "filter-path")

/-- What is written where there is nothing to run. -/
def Refusal.outcome : Refusal → Outcome
  | help => { exitCode := 0, output := helpText }
  | misuse argument => { exitCode := 2, complaint := s!"error: invalid argument '{argument}'\n" }

/-- What is written about the filter path found. -/
def outcomeOf : Except MountError String → Outcome
  | .ok path => { exitCode := 0, output := "/" ++ path ++ "\n" }
  | .error e => { exitCode := 1, complaint := s!"Error: {e.message}\n" }

/-- The filter path that a descriptor maps to a name, if the descriptor can be read. -/
def filterPathOf (kind : Descriptor.MappingKind) (name : String)
    (document : Except IoError Bytes) : Except MountError String :=
  match document with
  | .ok document => Descriptor.filterPath kind name document
  | .error cause => .error (.unreadableDescriptor cause)

/-- A run of the program, in any monad in which files can be read. -/
def run {m : Type → Type} [Monad m] (read : String → m (Except IoError Bytes))
    (arguments : List String) : m Outcome :=
  match request? arguments with
  | .error e => pure e.outcome
  | .ok (kind, name, file) => do
    return outcomeOf (filterPathOf kind name (← read file))

end WebMount.CommandLine
