import HtmlModules.Script.Grammar.Statement

/-!
# Imports, exports and the items of a body
-/

namespace HtmlModules.Script.Grammar

/-- The text that names a module. -/
def moduleSpecifier : Reader Node := do
  let start ← here
  if (← get).lookahead.kind != .string then refuse .unexpectedBare
  let t ← advance
  finish start (literalOf t) []

/-- Refuses the lookahead where `from` is missing. Zero and the empty text are not shown, and a long
number cannot be. -/
def missingFrom : Reader α := do
  let t := (← get).lookahead
  if t.value == "" || (t.kind == .number && t.value == "0") then refuse .unexpectedBare
  else if t.kind == .number && t.value.length > Decimal.mostDigits then throw ⟨.longNumber, none⟩
  else refuse (.unexpected t.value)

/-- `from` and the module it names. -/
def fromClause : Reader Node := do
  if !(← seesWord "from") then missingFrom
  let _ ← advance
  moduleSpecifier

/-- `as` and a name read by `name`, or `default` if there is none. -/
def renamed (name : Reader Node) (default : Reader Node) : Reader Node := do
  if ← seesWord "as" then
    let _ ← advance
    name
  else default

/-- A name in the braces of an import. -/
def importSpecifier : Reader Node := do
  let start ← here
  let plain ← seesIdentifier
  let imported ← if plain then variableName none else identifierName
  let localName ← renamed (variableName none)
    (if plain then pure imported else do unexpected (← advance))
  finish start .importSpecifier [imported.withRole .imported, localName.withRole .localName]

/-- The names of an import in braces. -/
def namedImports : Reader (List Node) := do
  expect "\x7b"
  let names ← collect do
    if ← sees "\x7d" then return none
    else
      let s ← importSpecifier
      if !(← sees "\x7d") then expect ","
      return some s
  expect "\x7d"
  return names

/-- The name of a whole module in an import. -/
def namespaceImport : Reader Node := do
  let start ← here
  expect "*"
  if !(← seesWord "as") then refuse .unexpectedBare
  let _ ← advance
  let name ← identifierName
  finish start .importNamespaceSpecifier [name.withRole .localName]

/-- The name of a default import. -/
def defaultImport : Reader Node := do
  let start ← here
  let name ← identifierName
  finish start .importDefaultSpecifier [name.withRole .localName]

/-- All names that an import brings in. -/
def importSpecifiers : Reader (List Node) := do
  let t := (← get).lookahead
  if ← sees "\x7b" then namedImports
  else if ← sees "*" then return [← namespaceImport]
  else if isWord t && !(← seesKeyword "default") then
    let first ← defaultImport
    if ← skipIf "," then
      if ← sees "*" then return [first, ← namespaceImport]
      else if ← sees "\x7b" then return first :: (← namedImports)
      else unexpectedNext
    else return [first]
  else unexpected (← advance)

/-- An import. -/
def importDeclaration : Reader Node := do
  if (← get).context.inFunction then refuse .unexpectedBare
  let start ← here
  expectKeyword "import"
  let (specifiers, source) ← if (← get).lookahead.kind == .string then
      pure ([], ← moduleSpecifier)
    else
      let specifiers ← importSpecifiers
      pure (specifiers, ← fromClause)
  consumeSemicolon
  finish start .importDeclaration (each .specifier specifiers ++ [source.withRole .source])

/-- A name in the braces of an export. -/
def exportSpecifier : Reader Node := do
  let start ← here
  let localName ← identifierName
  let exported ← renamed identifierName (pure localName)
  finish start .exportSpecifier [localName.withRole .localName, exported.withRole .exported]

/-- The names of an export in braces, and whether one of them is `default`. -/
def namedExports : Reader (List Node × Bool) := do
  expect "\x7b"
  let r ← extend (fun (names, hasDefault) => do
    if ← sees "\x7d" then return none
    else
      let isDefault ← seesKeyword "default"
      let s ← exportSpecifier
      if !(← sees "\x7d") then expect ","
      return some (names ++ [s], hasDefault || isDefault)) (([] : List Node), false)
  expect "\x7d"
  return r

/-- All names of an export, and whether one in the braces is `default`. A name without braces stands
for the default export of the module that is named behind it. -/
def exportSpecifiers : Reader (List Node × Bool) := do
  if (← get).lookahead.kind == .identifier then
    let start ← here
    let name ← identifierName
    let first ← finish start .exportDefaultSpecifier [name.withRole .localName]
    if ← skipIf "," then
      let (names, hasDefault) ← namedExports
      return (first :: names, hasDefault)
    else return ([first], false)
  else namedExports

/-- What a default export exports. -/
def defaultExport (self : Rule) : Reader Node := do
  if ← seesKeyword "function" then functionDeclaration self true
  else if ← seesKeyword "class" then classDeclaration self true
  else if ← seesWord "async" then
    if ← seesAsyncFunction then functionDeclaration self true else self .assignment
  else
    if ← seesWord "from" then refuse (.unexpected "from")
    let e ← if ← sees "\x7b" then objectLiteral self
      else if ← sees "[" then arrayLiteral self
      else self .assignment
    consumeSemicolon
    return e

/-- An export. -/
def exportDeclaration (self : Rule) : Reader Node := do
  if (← get).context.inFunction then refuse .unexpectedBare
  let start ← here
  expectKeyword "export"
  let exportOf := fun (d : Node) => finish start .exportNamedDeclaration [d.withRole .declaration]
  let t := (← get).lookahead
  if ← seesKeyword "default" then
    let _ ← advance
    let d ← defaultExport self
    finish start .exportDefaultDeclaration [d.withRole .declaration]
  else if ← skipIf "*" then
    let source ← fromClause
    consumeSemicolon
    finish start .exportAllDeclaration [source.withRole .source]
  else if t.kind == .keyword then
    if t.value == "let" || t.value == "const" then exportOf (← lexicalDeclaration self)
    else if t.value == "var" || t.value == "class" || t.value == "function" then
      exportOf (← self .item)
    else unexpectedNext
  else if ← seesAsyncFunction then exportOf (← functionDeclaration self)
  else
    let (names, hasDefault) ← exportSpecifiers
    let source ← if ← seesWord "from" then
        let source ← fromClause
        consumeSemicolon
        pure (some source)
      else
        if hasDefault then missingFrom
        consumeSemicolon
        pure none
    finish start .exportNamedDeclaration (each .specifier names ++ maybe .source source)

/-- A statement or declaration in a body. -/
def item (self : Rule) : Reader Node := do
  modifyContext fun c => { c with isAssignmentTarget := true, isBindingElement := true }
  let s ← get
  let t := s.lookahead
  if t.kind == .keyword then
    match t.value with
    | "export" =>
      if !s.context.isModule then refuseAt t .unexpectedBare
      exportDeclaration self
    | "import" =>
      if ← seesImportCall then expressionStatement self
      else
        if !s.context.isModule then refuseAt t .unexpectedBare
        importDeclaration
    | "const" => lexicalDeclaration self
    | "function" => functionDeclaration self
    | "class" => classDeclaration self
    | "let" =>
      if ← seesLexicalDeclaration then lexicalDeclaration self else statement self
    | _ => statement self
  else statement self

end HtmlModules.Script.Grammar
