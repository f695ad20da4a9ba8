import HtmlModules.Command.Option
import HtmlModules.Workspace

/-!
# Commands

The command line names a command and its options. `Command.read` makes a `Command` of it, and
`Command.run` carries it out on a tree of files.
-/

namespace HtmlModules

open Text

/-- What the command line asks for. The declarations are read when the command is carried out. -/
inductive Command where
  | package (options : PackageOptions) (declarations : List String)
  | workspace (options : WorkspaceOptions) (declarations : List String)
  /-- A run that fails for its options. -/
  | failing (failure : Failure)

namespace Command

/-! ## Reading -/

/-- The option that asks for help. -/
def helpOption : OptionSpec := { names := ["--help", "-h"], kind := .help }

/-- The options of every command. -/
def commonOptions : List OptionSpec :=
  [helpOption,
    { names := ["--exclude"], kind := anyValue, whenBlank := some .noValue },
    { names := ["--delete-files"], kind := anyValue, whenBlank := some .noValue },
    { names := ["--namespace"], kind := anyValue, whenBlank := some .noValue },
    { names := ["--import-style"], kind := oneOf ["name", "path"] },
    { names := ["--add-import-path"], kind := .flag },
    { names := ["--template-tag"], kind := anyValue },
    { names := ["--dependency-mapping"], kind := anyValue, whenBlank := some .noParts },
    { names := ["--declaration"], kind := anyValue, whenBlank := some .noParts },
    { names := ["--workers"], kind := .value isInteger, whenBlank := some .noValue },
    { names := ["--verbose", "-v"], kind := .flag }]

/-- The options of the conversion of a package. -/
def packageOptions : List OptionSpec :=
  commonOptions ++
    [{ names := ["--in"], kind := anyValue, whenBlank := some .noValue },
      { names := ["--out"], kind := anyValue, whenBlank := some .noValue },
      { names := ["--npm-name"], kind := anyValue },
      { names := ["--npm-version"], kind := anyValue },
      { names := ["--include"], kind := anyValue, whenBlank := some .noValue },
      { names := ["--package-type"], kind := oneOf ["element", "application"],
        whenBlank := some .unknownWord },
      { names := ["--manifest-in"], kind := anyValue, whenBlank := some .noValue },
      { names := ["--manifest-out"], kind := anyValue, whenBlank := some .noValue }]

/-- The options of the conversion of a workspace. -/
def workspaceOptions : List OptionSpec :=
  commonOptions ++
    [{ names := ["--workspace-dir"], kind := anyValue, required := true,
        whenBlank := some .noValue },
      { names := ["--repo"], kind := anyValue, required := true, whenBlank := some .noValue },
      { names := ["--npm-version"], kind := anyValue, required := true }]

/-- The options that all commands share; imports have the style `style` unless they are given one. -/
def runOptions (g : Given) (style : ImportStyle) : RunOptions where
  excludes := g.all "--exclude"
  deletes := g.all "--delete-files"
  namespaces := g.all? "--namespace"
  importStyle := ((g.last? "--import-style").bind ImportStyle.ofWord?).getD style
  addImportPath := g.has "--add-import-path"
  templateTag := g.last? "--template-tag"
  mappings := g.all "--dependency-mapping"

/-- The conversion of a package. -/
def ofPackage (g : Given) : Command :=
  .package {
    common := runOptions g .path
    source := (g.last? "--in").getD "."
    target := (g.last? "--out").getD "modulizer_out"
    name := g.last? "--npm-name"
    version := g.last? "--npm-version"
    includes := (g.all? "--include").getD ["*.html"]
    packageType := ((g.last? "--package-type").bind PackageType.ofWord?).getD .element
    manifestIn := g.last? "--manifest-in"
    manifestOut := g.last? "--manifest-out" } (g.all "--declaration")

/-- The conversion of a workspace. -/
def ofWorkspace (g : Given) : Command :=
  .workspace {
    common := runOptions g .name
    dir := (g.last? "--workspace-dir").getD ""
    repositories := g.all "--repo"
    version := (g.last? "--npm-version").getD "" } (g.all "--declaration")

/-- A command, unless words are left over; its run fails if an option says so. -/
def unlessLeftover (g : Given) (command : Command) : Except UsageExit Command :=
  if g.leftover then .error .mistake else .ok ((g.failure.map failing).getD command)

/-- The command with a name and the words behind it. -/
def readNamed (name : String) (words : List String) : Except UsageExit Command :=
  match name with
  | "package" => do
    let g ← readOptions packageOptions words
    unlessLeftover g (ofPackage g)
  | "workspace" => do
    let g ← readOptions workspaceOptions words
    unlessLeftover g (ofWorkspace g)
  | _ => .error .mistake

/-- Reads a command line. Unknown options in front of the command are mistakes, but the command is
read first. -/
def read : List String → Except UsageExit Command
  | [] => .error .mistake
  | "--" :: _ => .error .mistake
  | text :: rest => do
    match ← readToken [helpOption] text with
    | .word name => readNamed name rest
    | .option o name (some attached) =>
      let _ ← addAttached [helpOption] {} o name attached
      read rest
    | .option o _ none =>
      let _ ← Given.addFlags {} [o]
      read rest
    | _ =>
      let _ ← read rest
      throw .mistake

/-! ## Carrying out -/

/-- A declaration of the form `path=kind`. -/
def parseDeclaration (value : String) : Except Failure (String × DeclarationKind) :=
  let path := before '=' value
  match DeclarationKind.ofWord? (trim ((afterStart? value (path ++ "=")).getD "")) with
  | some kind => .ok (trim path, kind)
  | none => .error (.badDeclaration value)

/-- The declarations; a later one replaces an earlier one of the same path. -/
def parseDeclarations (values : List String) : Except Failure (Table DeclarationKind) :=
  values.foldlM (fun t value => do
    let (path, kind) ← parseDeclaration value
    return Table.set path kind t) []

/-- Carries out a command, with paths read from `cwd`. -/
def convert (c : Command) (cwd : String) : Run Unit :=
  match c with
  | .package o values => do
    let declarations ← Run.ofExcept (parseDeclarations values)
    Package.convert { o with common := { o.common with declarations } } cwd
  | .workspace o values => do
    let declarations ← Run.ofExcept (parseDeclarations values)
    Workspace.convert { o with common := { o.common with declarations } } cwd
  | .failing e => throw e

/-- The files and directories that a command reads, with paths read from `cwd`. -/
def inputs (c : Command) (cwd : String) : List String :=
  let paths := match c with
    | .package o _ => [o.source, o.target] ++ o.manifestIn.toList
    | .workspace o _ => [o.dir]
    | .failing _ => []
  paths.map (FileTree.resolve cwd)

/-- How a command ended: the exit code, what it prints and the files it leaves. -/
structure Outcome where
  exitCode : Nat
  printed : String
  tree : FileTree

/-- Runs a command on the files of a tree. A run that cannot be set up is reported; any other failure
is passed on, with the disk that it leaves. -/
def runOn (c : Command) (cwd : String) (t : FileTree) (color : Bool) :
    Except (Failure × Disk) Outcome :=
  match c.convert cwd { disk := { tree := t } } with
  | .ok () s => .ok ⟨0, s.printed color, s.disk.tree⟩
  | .error e s =>
    if e.isSetup then .ok ⟨1, (s.refuse e).printed color, s.disk.tree⟩
    else .error (e, s.disk)

/-- Runs a command, without the disk that a failure leaves. -/
def run (c : Command) (cwd : String) (t : FileTree) (color : Bool) : Except Failure Outcome :=
  (c.runOn cwd t color).mapError Prod.fst

end Command

end HtmlModules
