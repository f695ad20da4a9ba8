import HtmlModules.Identifier
import HtmlModules.Pass.Basic
import HtmlModules.Script.Reference

/-!
# Exports

Statements that assign to a member of a tracked namespace become exports. An assigned object that is
a namespace itself is taken apart into its members. Statements that only make sure that a namespace
exists are removed; the namespace stands for the module as a whole if anything of it is exported.

The names are those of the registry where it has them, so that the conversion of a document exports
what its scan announced.
-/

namespace HtmlModules.Pass

open Text Script

/-! ## Statements -/

/-- The declaration of a single variable by its name, with its value. -/
def singleVariable? (statement : Node) : Option (VariableKind × String × Node) := do
  match statement.kind, statement.childrenIn .declaration with
  | .variableDeclaration kind, [d] => return (kind, ← (← d.child? .id).name?, ← d.child? .initial)
  | _, _ => none

/-- The expression of an expression statement. -/
def statementExpression? (statement : Node) : Option Node :=
  if statement.kind == .expressionStatement then statement.child? .expression else none

/-- The path that a statement sets, and the value it sets it to. -/
def settingOf? (statement : Node) : Option (List String × Node) :=
  match statementExpression? statement with
  | some e => do
    let (left, right) ← e.plainAssignment?
    return (← left.path?, right)
  | none => (singleVariable? statement).map fun (_, name, value) => ([name], value)

/-- An object without properties. -/
def isEmptyObject (n : Node) : Bool :=
  n.kind == .objectExpression && (n.childrenIn .property).isEmpty

/-- What a value falls back from to an empty object. -/
def defaulted? (value : Node) : Option Node :=
  match value.kind, value.child? .left, value.child? .right with
  | .logicalExpression "||", some left, some right =>
    if isEmptyObject right then some left else none
  | _, _, _ => none

/-- The path that a statement sets to itself or, failing that, to an empty object. -/
def initializedPath? (roots : List String) (statement : Node) : Option (List String) := do
  let (path, value) ← settingOf? statement
  let left ← defaulted? value
  if path.head?.any roots.contains && left.path? == some path then some path else none

/-- A statement that assigns to a member of a namespace. -/
structure Candidate where
  statement : Node
  path : List String
  value : Node
  /-- The variable that is declared with the same value. -/
  declares? : Option (VariableKind × String) := none

/-- The path names a member of a namespace. -/
def isMember (roots path : List String) : Bool :=
  1 < path.length && path.head?.any roots.contains

/-- The assignment in a statement, and the variable it is the value of. -/
def assignmentIn? (statement : Node) : Option (Node × Option (VariableKind × String)) :=
  match statementExpression? statement with
  | some e => some (e, none)
  | none => (singleVariable? statement).map fun (kind, name, value) => (value, some (kind, name))

/-- The statement as a candidate for an export. -/
def candidate? (roots : List String) (statement : Node) : Option Candidate := do
  let (assignment, declares?) ← assignmentIn? statement
  let (left, value) ← assignment.plainAssignment?
  let path ← left.path?
  if isMember roots path then some ⟨statement, path, value, declares?⟩ else none

/-! ## Extent of removed lines -/

/-- A blank within a line. -/
def isIndent (c : Char) : Bool := c == ' ' || c == '\t'

/-- The range from `start` to `stop`, widened to whole lines if nothing else stands on them. -/
def lineExtent (source : String) (start stop : Nat) : Nat × Nat :=
  let cs := source.toList
  let indent := ((cs.take start).reverse.takeWhile isIndent).length
  let gap := ((cs.drop stop).takeWhile isIndent).length
  let lineStart := start - indent
  let lineStop := stop + gap
  let startsLine := lineStart == 0 || cs[lineStart - 1]? == some '\n'
  let endsLine := cs.length ≤ lineStop || cs[lineStop]? == some '\n'
  if startsLine && endsLine then (lineStart, min (lineStop + 1) cs.length) else (start, stop)

/-! ## Names -/

/-- What the conversion of the statements reads. -/
structure ExportInput where
  source : String
  settings : Settings
  registry : Registry
  moduleUrl : String
  /-- The names that the statements declare. -/
  declared : List String
  /-- The paths that are written to, once for each write. -/
  writes : List String

/-- What the conversion of the statements has chosen so far. -/
structure Exports where
  /-- The names in use in the program. -/
  used : List String
  names : List String := []
  /-- The paths that were exported as values. -/
  values : List String := []
  /-- The namespaces that statements make sure of. -/
  initialized : List String := []
  records : List ExportRecord := []
  localNames : Table String := []
  /-- The functions that were members of a namespace, with the namespace. -/
  functions : Table String := []

namespace Exports

/-- The path has been exported. -/
def hasPath (e : Exports) (path : String) : Bool := e.records.any (·.path == path)

/-- Chooses the name under which a path is exported: the registered one, or one like `requested`. -/
def chooseName (i : ExportInput) (path requested : String) (e : Exports) : String × Exports :=
  let registered := (i.registry.lookup path).filter fun r =>
    r.module == i.moduleUrl && !r.isNamespace
  let name := (registered.map (·.name)).getD (Identifier.findAvailable requested e.names)
  (name, { e with names := Identifier.use name e.names })

/-- Chooses a local name for an export: its own name if no binding has it. -/
def chooseLocal (name : String) (e : Exports) : String × Exports :=
  if e.used.contains name then
    let (localName, used) := Identifier.allocate name e.used
    (localName, { e with used })
  else (name, { e with used := e.used ++ [name] })

/-- Records an export. -/
def record (i : ExportInput) (path name : String) (localName : Option String) (e : Exports) :
    Exports :=
  { e with
    records := e.records ++ [⟨path, i.moduleUrl, name⟩]
    localNames := localName.elim e.localNames fun l => Table.set path l e.localNames }

end Exports

/-- The keyword for a binding that is written to `count` times, `own` of them when it is made. -/
def bindingKeyword (count own : Nat) : String := if own < count then "let" else "const"

/-- The clause that exports a local name. -/
def exportClause (localName name : String) : String :=
  "export \x7b " ++ (if localName = name then localName else s!"{localName} as {name}") ++ " \x7d;"

/-- A declaration that is exported under a name. -/
def exportDeclaration (declaration localName name : String) : String :=
  if localName = name then "export " ++ declaration
  else declaration ++ "\n" ++ exportClause localName name

/-! ## Values -/

/-- The candidate as the export of one value. -/
def exportValue (i : ExportInput) (c : Candidate) (e : Exports) : String × Exports :=
  let path := join "." c.path
  let (name, e) := e.chooseName i path (c.path.getLast?.getD "")
  let e := { e with values := e.values ++ [path] }
  let declare := fun keyword localName =>
    exportDeclaration s!"{keyword} {localName} = {c.value.text i.source};" localName name
  match c.declares?, c.value.name?.filter i.declared.contains with
  | some (kind, localName), _ =>
    (declare kind.keyword localName, e.record i path name localName)
  | none, some localName => (exportClause localName name, e.record i path name localName)
  | none, none =>
    let (localName, e) := e.chooseLocal name
    (declare (bindingKeyword (i.writes.count path) 1) localName, e.record i path name localName)

/-! ## Namespaces -/

/-- A member of a namespace, with the comment in front of it. -/
structure Member where
  key : String
  value : Node
  comment : String

/-- The name of a property that can become the name of a binding. -/
def memberKey? (property : Node) : Option String := do
  match property.kind with
  | .property .init false _ _ =>
    let key ← property.child? .key
    (key.name? <|> key.string?).filter Identifier.isValid
  | _ => none

/-- What stands between two properties, without the comma. -/
def commentBetween (source : String) (start stop : Nat) : String :=
  trim (trimStart (· == ',') (trim (slice source start stop)))

/-- The members of a namespace, none if one of them cannot be taken out; `position` is the end of
the property before. -/
def members? (source : String) : Nat → List Node → Option (List Member)
  | _, [] => some []
  | position, p :: rest => do
    let key ← memberKey? p
    let value ← p.child? .value
    let others ← members? source p.stop rest
    return ⟨key, value, commentBetween source position p.start⟩ :: others

/-- The members that a node writes to through `this`. -/
def receiverWrite? (n : Node) : Option String := do
  match (← n.writeTarget?).memberPath? with
  | some ["this", key] => some key
  | _ => none

/-- The members that a function writes to through `this`. -/
def receiverWrites (function : Node) : List String :=
  match function.child? .body with
  | none => []
  | some body => (body.outline Node.sharesThis none).filterMap fun (_, n) => receiverWrite? n

/-- How a function is marked as asynchronous and as a generator. -/
def functionMarks (function : Node) : FunctionMarks :=
  match function.kind with
  | .functionExpression marks | .functionDeclaration marks | .arrowFunction marks => marks
  | _ => {}

/-- The declaration of a function under a name. -/
def functionText (source name : String) (function : Node) : String :=
  let marks := functionMarks function
  let params := join ", " ((function.childrenIn .param).map (·.text source))
  let body := ((function.child? .body).map (·.text source)).getD ""
  (if marks.isAsync then "async " else "") ++ "function" ++
    (if marks.isGenerator then "*" else "") ++ s!" {name}({params}) {body}"

/-- A member of a namespace as an export; `written` are the members written to through `this`. -/
def exportMember (i : ExportInput) (space : String) (written : List String) (m : Member)
    (e : Exports) : String × Exports :=
  let path := space ++ "." ++ m.key
  let (name, e) := e.chooseName i path m.key
  let (localName, e) := e.chooseLocal name
  let e := e.record i path name localName
  let (declaration, e) :=
    if m.value.kind.isPlainFunction then
      (functionText i.source localName m.value,
        { e with functions := Table.set localName space e.functions })
    else
      let keyword := if written.contains m.key then "let"
        else bindingKeyword (i.writes.count path) 0
      (s!"{keyword} {localName} = {m.value.text i.source};", e)
  let text := exportDeclaration declaration localName name
  (if m.comment = "" then text else m.comment ++ "\n" ++ text, e)

/-- The members of a namespace as exports. -/
def exportMembers (i : ExportInput) (space : String) (written : List String) :
    List Member → Exports → List String × Exports
  | [], e => ([], e)
  | m :: rest, e =>
    let (text, e) := exportMember i space written m e
    let (texts, e) := exportMembers i space written rest e
    (text :: texts, e)

/-- The candidate as a namespace that is taken apart, if it can be. -/
def exportNamespace? (i : ExportInput) (c : Candidate) (e : Exports) : Option (String × Exports) := do
  let members ← members? i.source (c.value.start + 1) (c.value.childrenIn .property)
  let written := members.flatMap fun m =>
    if m.value.kind.isPlainFunction then receiverWrites m.value else []
  let space := join "." c.path
  let (texts, e) := exportMembers i space written members e
  return (join "\n\n" texts, e.record i space ExportRecord.wholeModule none)

/-! ## Candidates -/

/-- The prefixes of a path, shortest first. -/
def pathPrefixes (path : List String) : List String :=
  (List.range path.length).map fun n => join "." (path.take (n + 1))

/-- How the candidate is converted; `leading` is the text in front of it. -/
def declarationKind (i : ExportInput) (c : Candidate) (leading : String) : DeclarationKind :=
  let path := join "." c.path
  match Table.get? i.settings.declarationOverrides path with
  | some kind => kind
  | none =>
    if c.value.kind == .objectExpression && c.declares?.isNone &&
        (i.settings.namespaces.contains path || contains leading "@namespace") then .namespace
    else .value

/-- The candidate stays as it is: it is exported already or elsewhere, it is excluded or replaced,
or it writes to a property of a value that the module exports. -/
def staysAssignment (i : ExportInput) (c : Candidate) (e : Exports) : Bool :=
  let path := join "." c.path
  e.hasPath path || (pathPrefixes c.path).any i.settings.isRedirected ||
    ((i.registry.lookup path).map fun r => r.module != i.moduleUrl).getD false ||
    ((pathPrefixes c.path).drop 1).dropLast.any e.values.contains

/-- The text that replaces a candidate. -/
def exportCandidate? (i : ExportInput) (c : Candidate) (leading : String) (e : Exports) :
    Option (String × Exports) :=
  let kind := declarationKind i c leading
  if kind == .ignore || staysAssignment i c e then none
  else
    let taken := if kind == .namespace && c.value.kind == .objectExpression
      then exportNamespace? i c e else none
    some (taken.getD (exportValue i c e))

/-! ## Programs -/

/-- Converts statements, `position` being the end of the one before. -/
def exportStatements (i : ExportInput) : Nat → List Node → Exports → List Edit × Exports
  | _, [], e => ([], e)
  | position, s :: rest, e =>
    let roots := i.settings.roots
    let leading := slice i.source position s.start
    let (edits, e) := match initializedPath? roots s with
      | some path =>
        let (start, stop) := lineExtent i.source s.start s.stop
        ([Edit.delete start stop],
          if 1 < path.length then { e with initialized := e.initialized ++ [join "." path] } else e)
      | none =>
        match (candidate? roots s).bind fun c => exportCandidate? i c leading e with
        | some (text, e) => ([Edit.replace s.start s.stop text], e)
        | none => ([], e)
    let (more, e) := exportStatements i s.stop rest e
    (edits ++ more, e)

/-- Records the namespaces of which something is exported. -/
def recordNamespaces (i : ExportInput) (e : Exports) : Exports :=
  e.initialized.foldl (fun e space =>
    if e.records.any fun r => startsWith r.path (space ++ ".") then
      e.record i space ExportRecord.wholeModule none
    else e) e

/-- The paths that a program writes to, once for each write. -/
def writtenPaths (program : Node) : List String :=
  program.walk.filterMap fun n => (n.writeTarget?.bind (·.path?)).map (join ".")

/-- Converts the statements of a program. -/
def exportProgram (c : Context) (source : String) (program : Node) : List Edit × Exports :=
  let i : ExportInput := {
    source, settings := c.settings, registry := c.registry, moduleUrl := c.moduleUrl
    declared := Node.scopeNames (statements program), writes := writtenPaths program }
  let (edits, e) := exportStatements i 0 (statements program) { used := program.usedNames }
  (edits, recordNamespaces i e)

/-- Turns assignments to members of namespaces into exports. -/
def exportNamespaces (source : String) : Step String := do
  let (edits, e) := exportProgram (← read) source (← readProgram source)
  modify fun f => { f with
    exports := f.exports ++ e.records
    localNames := Table.setAll f.localNames e.localNames
    namespaceFunctions := Table.setAll f.namespaceFunctions e.functions }
  edit source edits

end HtmlModules.Pass
