import HtmlModules.Proofs.Batch
import HtmlModules.Proofs.Failing
import HtmlModules.Proofs.Offer
import HtmlModules.Proofs.Pipeline

/-!
# Statements that make sure of a namespace

Such a statement sets a path to itself or, failing that, to an empty object
(`Pass.IsInitializer`).
-/

namespace HtmlModules

open Text Script

namespace Script.Node

section

variable (role : Role) (kind : Kind) (span : Span) (children : List Node)

@[simp] theorem role_mk : (mk role kind span children).role = role := rfl

@[simp] theorem kind_mk : (mk role kind span children).kind = kind := rfl

@[simp] theorem children_mk : (mk role kind span children).children = children := rfl

end

/-! ## Spelled paths -/

/-- A path can begin with the name. -/
def IsRootName (name : String) : Prop := name ≠ "this" ∧ name ≠ "window"

/-- The node spells a path as a chain of names, with or without `window` in front of them. -/
inductive Spells : Node → List String → Prop
  | name {role : Role} {span : Span} {name : String} :
    IsRootName name → Spells (.mk role (.identifier name) span []) [name]
  | ofWindow {role objectRole lastRole : Role} {span objectSpan lastSpan : Span} {name : String} :
    IsRootName name → Spells (.mk role (.memberExpression false) span
      [.mk objectRole (.identifier "window") objectSpan [],
        .mk lastRole (.identifier name) lastSpan []]) [name]
  | member {role lastRole : Role} {span lastSpan : Span} {object : Node} {path : List String}
    {last : String} : Spells object path → Spells (.mk role (.memberExpression false) span
      [object, .mk lastRole (.identifier last) lastSpan []]) (path ++ [last])

variable {n : Node} {path : List String}

theorem Spells.exists_root (h : n.Spells path) :
    ∃ root, path.head? = some root ∧ IsRootName root := by
  induction h with
  | name hname => exact ⟨_, rfl, hname⟩
  | ofWindow hname => exact ⟨_, rfl, hname⟩
  | member _ ih =>
    obtain ⟨root, hroot, hname⟩ := ih
    exact ⟨root, by rw [List.head?_append, hroot]; rfl, hname⟩

/-- The node is a name, or a chain that spells the path. -/
theorem Spells.cases_memberPath? (h : n.Spells path) :
    (∃ role name span, n = .mk role (.identifier name) span [] ∧ path = [name] ∧ IsRootName name) ∨
      n.kind = .memberExpression false ∧ n.memberPath? = some path := by
  induction h with
  | name hname => exact .inl ⟨_, _, _, rfl, rfl, hname⟩
  | ofWindow hname => exact .inr ⟨rfl, rfl⟩
  | @member role lastRole span lastSpan object path last hobject ih =>
    refine .inr ⟨rfl, ?_⟩
    rcases ih with ⟨role, name, span, rfl, rfl, hname⟩ | ⟨hkind, hpath⟩
    · simp [memberPath?, name?, kind, hname.2]
    · obtain ⟨objectRole, kind, objectSpan, children⟩ := object
      obtain rfl : kind = .memberExpression false := hkind
      simp [memberPath?, name?, Node.kind, hpath]

theorem Spells.path? (h : n.Spells path) : n.path? = some path := by
  rcases h.cases_memberPath? with ⟨role, name, span, rfl, rfl, -⟩ | ⟨hkind, hpath⟩
  · rfl
  · rw [Node.path?, hkind, hpath]

instance (name : String) : Decidable (IsRootName name) := inferInstanceAs (Decidable (_ ∧ _))

/-- The path that a node spells. -/
def spelled? : Node → Option (List String)
  | .mk _ (.identifier name) _ [] => if IsRootName name then some [name] else none
  | .mk _ (.memberExpression false) _ [holder, .mk _ (.identifier last) _ []] =>
    match holder with
    | .mk _ (.identifier "window") _ [] => if IsRootName last then some [last] else none
    | holder => (spelled? holder).map (· ++ [last])
  | _ => none

theorem spells_of_spelled? (h : n.spelled? = some path) : n.Spells path := by
  fun_induction spelled? n generalizing path with
  | case1 role name span hname =>
    cases h
    exact .name hname
  | case3 role span lastRole last lastSpan windowRole windowSpan hlast =>
    cases h
    exact .ofWindow hlast
  | case5 role span holder lastRole last lastSpan hwindow ih =>
    obtain ⟨rest, hrest, rfl⟩ := Option.map_eq_some_iff.1 h
    exact .member (ih hrest)
  | case2 | case4 | case6 => cases h

end Script.Node

namespace Pass

open Node

variable {c : Context} {path : List String} {s default : Node}

/-- The statement sets the path to itself or, failing that, to an empty object. `default` is the node
that reads the path. -/
inductive IsInitializer : List String → (s default : Node) → Prop
  | assignment {role : Role} {span span₁ span₂ span₃ : Span} {path : List String}
    {left default : Node} :
    left.Spells path → left.role = .left → default.Spells path → default.role = .left →
    IsInitializer path (.mk role .expressionStatement span
      [.mk .expression (.assignmentExpression "=") span₁
        [left, .mk .right (.logicalExpression "||") span₂
          [default, .mk .right .objectExpression span₃ []]]]) default
  | declaration {role : Role} {kind : VariableKind} {span span₁ span₂ span₃ span₄ : Span}
    {name : String} {default : Node} :
    default.Spells [name] → default.role = .left →
    IsInitializer [name] (.mk role (.variableDeclaration kind) span
      [.mk .declaration .variableDeclarator span₁
        [.mk .id (.identifier name) span₂ [],
          .mk .initial (.logicalExpression "||") span₃
            [default, .mk .right .objectExpression span₄ []]]]) default

/-- The default of an initializer spells the path that is initialized. -/
theorem IsInitializer.spells (h : IsInitializer path s default) : default.Spells path := by
  cases h with
  | assignment _ _ hdefault _ => exact hdefault
  | declaration hdefault _ => exact hdefault

/-- The path that a statement makes sure of, and the node that reads it. -/
def initializer? : Node → Option (List String × Node)
  | .mk _ .expressionStatement _ [.mk .expression (.assignmentExpression "=") _
      [left, .mk .right (.logicalExpression "||") _
        [default, .mk .right .objectExpression _ []]]] => do
    let path ← left.spelled?
    if left.role = .left ∧ default.role = .left ∧ default.spelled? = some path then
      some (path, default)
    else none
  | .mk _ (.variableDeclaration _) _ [.mk .declaration .variableDeclarator _
      [.mk .id (.identifier name) _ [], .mk .initial (.logicalExpression "||") _
        [default, .mk .right .objectExpression _ []]]] =>
    if default.role = .left ∧ default.spelled? = some [name] then some ([name], default) else none
  | _ => none

theorem isInitializer_of_initializer? (h : initializer? s = some (path, default)) :
    IsInitializer path s default := by
  unfold initializer? at h
  split at h
  · obtain ⟨target, htarget, h⟩ := Option.bind_eq_some_iff.1 h
    split_ifs at h with hroles
    cases h
    exact .assignment (spells_of_spelled? htarget) hroles.1 (spells_of_spelled? hroles.2.2)
      hroles.2.1
  · split_ifs at h with hroles
    cases h
    exact .declaration (spells_of_spelled? hroles.2) hroles.1
  · cases h

/-- The default is what stands in front of the empty object. -/
theorem defaulted?_eq {role : Role} {span span' : Span} (h : default.role = .left) :
    defaulted? (.mk role (.logicalExpression "||") span
      [default, .mk .right .objectExpression span' []]) = some default := by
  simp [defaulted?, child?, h, isEmptyObject, childrenIn]

/-- The statement is recognized if its path begins with the name of a tracked namespace. -/
theorem IsInitializer.initializedPath? (h : IsInitializer path s default) {roots : List String}
    (hroots : path.head?.any roots.contains = true) :
    initializedPath? roots s = some path := by
  have hpath := h.spells.path?
  have hsetting : ∃ value, settingOf? s = some (path, value) ∧ defaulted? value = some default := by
    cases h with
    | @assignment _ _ _ span₂ span₃ _ _ _ hleft hleftRole _ hrole =>
      refine ⟨.mk .right (.logicalExpression "||") span₂
        [default, .mk .right .objectExpression span₃ []], ?_, defaulted?_eq hrole⟩
      simp [settingOf?, statementExpression?, plainAssignment?, child?, hleftRole, hleft.path?]
    | declaration _ hrole => exact ⟨_, rfl, defaulted?_eq hrole⟩
  obtain ⟨value, hsetting, hdefaulted⟩ := hsetting
  simp [Pass.initializedPath?, hsetting, hdefaulted, hpath, hroots]

/-! ## Places in such a statement -/

/-- The places of references in a node. -/
def sitesIn (parent : Option Node) (n : Node) : List Site :=
  (n.outline holdsReferences parent).filterMap fun (parent, m) => Site.of? parent m

/-- A node that is no name and no chain has the places of its children. -/
theorem sitesIn_of_children {parent : Option Node} {n : Node}
    (hname : ∀ name, n.kind ≠ .identifier name)
    (hchain : ∀ computed, n.kind ≠ .memberExpression computed) :
    sitesIn parent n = n.children.flatMap (sitesIn (some n)) := by
  obtain ⟨role, kind, span, children⟩ := n
  have hsite : Site.of? parent (.mk role kind span children) = none := by
    unfold Site.of?
    split
    · exact absurd ‹_› (hchain _)
    · exact absurd ‹_› (hname _)
    · rfl
  have henter : holdsReferences (.mk role kind span children) = true := by
    rw [holdsReferences, memberPath?_of_kind hchain]
  rw [sitesIn, outline, if_pos henter, List.filterMap_cons]
  simp only [hsite]
  rw [outlineAll_eq_flatMap, List.filterMap_flatMap]
  rfl

/-- A node that spells a path is a place of a reference on both sides of an assignment or of an
operator. -/
theorem sitesIn_of_spells {n p : Node} (h : n.Spells path)
    (hp : p.kind = .assignmentExpression "=" ∨ p.kind = .logicalExpression "||") :
    sitesIn (some p) n = [⟨some p, n, path⟩] := by
  have href : n.isReference (some p) = true := by
    rcases hp with hp | hp <;> simp [isReference, hp]
  rcases h.cases_memberPath? with ⟨role, name, span, rfl, rfl, hname⟩ | ⟨hkind, hpath⟩
  · simp [sitesIn, outline, outlineAll, Site.of?, hname.2, href]
  · obtain ⟨root, hroot, hname⟩ := h.exists_root
    have hsite : Site.of? (some p) n = some ⟨some p, n, path⟩ := by
      simp [Site.of?, hkind, hpath, Option.filter, hroot, hname.1]
    have hleave : holdsReferences n = false := by simp [holdsReferences, hpath, hroot, hname.1]
    obtain ⟨role, kind, span, children⟩ := n
    rw [sitesIn, outline, hleave]
    simp [hsite]

/-- The one site in the value of an initializer is its default. -/
theorem sitesIn_default {role : Role} {span span' : Span} (h : default.Spells path)
    (parent : Option Node) :
    sitesIn parent (.mk role (.logicalExpression "||") span
        [default, .mk .right .objectExpression span' []]) =
      [⟨some (.mk role (.logicalExpression "||") span
        [default, .mk .right .objectExpression span' []]), default, path⟩] := by
  rw [sitesIn_of_children (by simp) (by simp), children_mk, List.flatMap_cons, List.flatMap_cons,
    sitesIn_of_spells h (.inr rfl), sitesIn_of_children (by simp) (by simp)]
  rfl

/-- All places in the statement are of the path. The default is one, and it is only read. -/
theorem IsInitializer.sites (h : IsInitializer path s default) (program : Node) :
    (∀ site ∈ sitesIn (some program) s, site.path = path) ∧
      ∃ site ∈ sitesIn (some program) s, site.node = default ∧ site.isAssigned = false := by
  cases h with
  | @assignment role span span₁ span₂ span₃ _ left _ hleft hleftRole hdefault hrole =>
    rw [sitesIn_of_children (by simp) (by simp), children_mk, List.flatMap_singleton,
      sitesIn_of_children (by simp) (by simp), children_mk, List.flatMap_cons, List.flatMap_singleton,
      sitesIn_of_spells hleft (.inl rfl), sitesIn_default hdefault]
    simp [Site.isAssigned, Node.isAssigned]
  | @declaration role kind span span₁ span₂ span₃ span₄ name _ hdefault hrole =>
    have hid (d : Node) (hd : d.kind = .variableDeclarator) :
        sitesIn (some d) (.mk .id (.identifier name) span₂ []) = [] := by
      simp [sitesIn, outline, outlineAll, Site.of?, isReference, hd]
    rw [sitesIn_of_children (by simp) (by simp), children_mk, List.flatMap_singleton,
      sitesIn_of_children (by simp) (by simp), children_mk, List.flatMap_cons, List.flatMap_singleton,
      hid _ rfl, sitesIn_default hdefault]
    simp [Site.isAssigned, Node.isAssigned]

/-! ## Stages in front of the collection -/

/-- The node is no receiver, no call and no class. -/
def IsQuiet (n : Node) : Prop :=
  n.kind ≠ .thisExpression ∧ n.kind ≠ .callExpression ∧ n.kind.isClass = false

/-- All nodes that a walk through the node can come to are quiet. -/
def AllQuiet (n : Node) : Prop :=
  ∀ (enter : Node → Bool) (parent : Option Node), ∀ x ∈ n.outline enter parent, IsQuiet x.2

theorem allQuiet_mk {role : Role} {kind : Kind} {span : Span} {children : List Node}
    (hkind : kind ≠ .thisExpression ∧ kind ≠ .callExpression ∧ kind.isClass = false)
    (hchildren : ∀ child ∈ children, AllQuiet child) : AllQuiet (.mk role kind span children) := by
  intro enter parent x hx
  rw [outline] at hx
  rcases List.mem_cons.1 hx with rfl | hx
  · exact hkind
  · split_ifs at hx
    · rw [outlineAll_eq_flatMap] at hx
      obtain ⟨child, hchild, hx⟩ := List.mem_flatMap.1 hx
      exact hchildren child hchild enter _ x hx
    · cases hx

/-- A path is quiet: nothing in it is called, and nothing is `this`. -/
theorem allQuiet_of_spells {n : Node} (h : n.Spells path) : AllQuiet n := by
  have hname {role : Role} {name : String} {span : Span} :
      AllQuiet (.mk role (.identifier name) span []) := allQuiet_mk (by simp [Kind.isClass]) (by simp)
  induction h with
  | name _ => exact hname
  | ofWindow _ => exact allQuiet_mk (by simp [Kind.isClass]) (by simp [hname])
  | member _ ih => exact allQuiet_mk (by simp [Kind.isClass]) (by simp [hname, ih])

theorem IsInitializer.allQuiet (h : IsInitializer path s default) : AllQuiet s := by
  have hempty {role : Role} {span : Span} : AllQuiet (.mk role .objectExpression span []) :=
    allQuiet_mk (by simp [Kind.isClass]) (by simp)
  have hvalue {role : Role} {span span' : Span} (hdefault : default.Spells path) :
      AllQuiet (.mk role (.logicalExpression "||") span
        [default, .mk .right .objectExpression span' []]) :=
    allQuiet_mk (by simp [Kind.isClass]) (by simp [hempty, allQuiet_of_spells hdefault])
  cases h with
  | assignment hleft _ hdefault _ =>
    refine allQuiet_mk (by simp [Kind.isClass]) (List.forall_mem_singleton.2 ?_)
    exact allQuiet_mk (by simp [Kind.isClass]) (by simp [allQuiet_of_spells hleft, hvalue hdefault])
  | @declaration _ _ _ _ span₂ _ _ name _ hdefault _ =>
    have hid : AllQuiet (.mk .id (.identifier name) span₂ []) :=
      allQuiet_mk (by simp [Kind.isClass]) (by simp)
    refine allQuiet_mk (by simp [Kind.isClass]) (List.forall_mem_singleton.2 ?_)
    exact allQuiet_mk (by simp [Kind.isClass]) (by simp [hid, hvalue hdefault])

/-- The stages in front of the collection make no edits for the statement: it has no receiver, it is
neither a directive nor a wrapper, and no element is declared in it. -/
structure LeftInFront (s : Node) : Prop where
  receivers : ∀ parent, (s.outline sharesThis parent).filterMap (fun x => windowEdit? x.2) = []
  wrappers : ∀ (r : UnwrapRound) (source : String) (others : List String),
    r.take source others s = r
  elements : ∀ n ∈ s.walk,
    n.kind.isClass = false ∧ n.factoryTag? = none ∧ n.registration? = none

theorem IsInitializer.leftInFront (h : IsInitializer path s default) : LeftInFront s where
  receivers parent := by
    refine List.filterMap_eq_nil_iff.2 fun x hx => ?_
    simp [windowEdit?, (h.allQuiet sharesThis parent x hx).1]
  wrappers r source others := by
    have hno : s.isUseStrict = false ∧ s.wrappedFunction? = none := by
      cases h with
      | assignment => exact ⟨rfl, rfl⟩
      | declaration => exact ⟨rfl, rfl⟩
    simp [UnwrapRound.take, removableWrapper?, hno]
  elements n hn := by
    obtain ⟨x, hx, rfl⟩ := List.mem_map.1 hn
    obtain ⟨-, hcall, hclass⟩ := h.allQuiet _ _ x hx
    refine ⟨hclass, ?_, ?_⟩
    · unfold factoryTag?
      split
      · exact absurd ‹_› hcall
      · rfl
    · unfold registration?
      split
      · exact absurd ‹_› hcall
      · rfl

/-! ## Records of other modules -/

/-- The record of the longest part that a path begins with and that is registered, if it is one of
another module. -/
def foreign? (registry : Registry) (moduleUrl : String) (path : List String) :
    Option ExportRecord :=
  ((pathPrefixes path).reverse.findSome? registry.lookup).filter (·.module != moduleUrl)

/-- The record that a path is resolved to. -/
def Resolution.record? : Resolution → Option ExportRecord
  | .exported record _ => some record
  | _ => none

/-- A path of which no part is excluded or replaced is resolved to the record of another module that
it begins with. -/
theorem record?_resolve (hdirect : ∀ name ∈ pathPrefixes path, c.settings.isRedirected name = false) :
    (c.resolve path path.length).record? = foreign? c.registry c.moduleUrl path := by
  suffices h : ∀ n ≤ path.length, (c.resolve path n).record? =
      (((List.range n).map fun k => join "." (path.take (k + 1))).reverse.findSome?
        c.registry.lookup).filter (·.module != c.moduleUrl) from h _ le_rfl
  intro n hn
  induction n with
  | zero => rfl
  | succ n ih =>
    have hname : join "." (path.take (n + 1)) ∈ pathPrefixes path :=
      List.mem_map.2 ⟨n, List.mem_range.2 hn, rfl⟩
    rw [List.range_succ, List.map_append, List.reverse_append, List.findSome?_append,
      Context.resolve]
    simp only [hdirect _ hname, List.map_cons, List.map_nil, List.reverse_singleton,
      List.findSome?_singleton]
    cases hlookup : c.registry.lookup (join "." (path.take (n + 1))) with
    | none => simpa using ih (Nat.le_of_succ_le hn)
    | some record =>
      cases hmodule : record.module == c.moduleUrl with
      | true => simp [Resolution.record?, Option.filter, hmodule, bne]
      | false => simp [Resolution.record?, Option.filter, hmodule, bne]

/-! ## Collecting -/

/-- The edits for the places in one statement. -/
def CollectedFor (c : Context) (source : String) (program s : Node) (edits : List Edit) : Prop :=
  ∃ batches, edits = batches.flatten ∧
    List.Forall₂ (fun site batch => ∃ f g, collectSite source site c f = .ok batch g)
      (sitesIn (some program) s) batches

/-- Of a node that spells a path the beginning is replaced. -/
def BeginsAnew (n : Node) (edits : List Edit) : Prop :=
  ∃ k text, Edit.replace (n.chainBase k).start (n.chainBase k).stop text ∈ edits

/-- A site of which the path is not registered is left as it is. -/
theorem collectSite_eq_nil {source : String} {site : Site} {f g : Findings} {edits : List Edit}
    (h : collectSite source site c f = .ok edits g)
    (hforeign : (c.resolve site.path site.path.length).record? = none) : edits = [] := by
  unfold collectSite at h
  obtain ⟨c', f', hread, h⟩ := bind_eq_ok.1 h
  cases hread
  cases hresolve : c.resolve site.path site.path.length with
  | ours =>
    simp only [hresolve] at h
    cases h
    rfl
  | exported record length =>
    rw [hresolve] at hforeign
    cases hforeign
  | unknown =>
    simp only [hresolve] at h
    split_ifs at h
    · obtain ⟨-, g', -, hreturn⟩ := bind_eq_ok.1 h
      cases hreturn
      rfl
    · cases h
      rfl

/-- Where a path is read that another module has the record of, its beginning is replaced. -/
theorem beginsAnew_of_collectSite {source : String} {site : Site} {f g : Findings}
    {edits : List Edit} (h : collectSite source site c f = .ok edits g)
    (hread : site.isAssigned = false)
    (hforeign : (c.resolve site.path site.path.length).record?.isSome = true) :
    BeginsAnew site.node edits := by
  unfold collectSite at h
  obtain ⟨c', f', hcontext, h⟩ := bind_eq_ok.1 h
  cases hcontext
  cases hresolve : c.resolve site.path site.path.length with
  | exported record length =>
    simp only [hresolve, hread, Bool.false_and, Bool.false_eq_true, if_false] at h
    obtain ⟨k, text, rfl⟩ := useExport_ok h
    exact ⟨k, text, List.mem_singleton_self _⟩
  | ours | unknown =>
    rw [hresolve] at hforeign
    cases hforeign

/-- A statement that makes sure of a namespace is left alone if and only if the path does not begin
with the record of another module. Otherwise its default does not spell the path any more. -/
theorem IsInitializer.collected (h : IsInitializer path s default)
    (hdirect : ∀ name ∈ pathPrefixes path, c.settings.isRedirected name = false) {source : String}
    {program : Node} {edits : List Edit} (hedits : CollectedFor c source program s edits) :
    (edits = [] ↔ foreign? c.registry c.moduleUrl path = none) ∧
      ((foreign? c.registry c.moduleUrl path).isSome = true → BeginsAnew default edits) := by
  obtain ⟨hpaths, site, hsite, rfl, hread⟩ := h.sites program
  obtain ⟨batches, rfl, hbatches⟩ := hedits
  obtain ⟨batch, hbatch, f, g, hok⟩ := exists_of_forall₂_left hbatches hsite
  rw [← record?_resolve hdirect]
  have hanew (hforeign : (c.resolve path path.length).record?.isSome = true) :
      BeginsAnew site.node batches.flatten := by
    rw [← hpaths site hsite] at hforeign
    obtain ⟨k, text, hmem⟩ := beginsAnew_of_collectSite hok hread hforeign
    exact ⟨k, text, List.mem_flatten.2 ⟨batch, hbatch, hmem⟩⟩
  refine ⟨⟨fun hnil => ?_, fun hnone => List.flatten_eq_nil_iff.2 fun b hb => ?_⟩, hanew⟩
  · by_contra hsome
    obtain ⟨k, text, hmem⟩ := hanew (Option.isSome_iff_ne_none.2 hsome)
    rw [hnil] at hmem
    cases hmem
  · obtain ⟨t, ht, f', g', hok'⟩ := exists_of_forall₂_left hbatches.flip hb
    exact collectSite_eq_nil hok' (by rw [hpaths t ht, hnone])

/-- Programs are made of their bodies. -/
theorem parse_ok {source : String} {program : Node} (h : parse source = .ok program) :
    program.kind = .program ∧ statements program = program.children := by
  have hread {self : Grammar.Rule} {state state' : Grammar.ReadState}
      (h : Script.program self state = .ok program state') :
      program.kind = .program ∧ statements program = program.children := by
    obtain ⟨start, s₁, -, h⟩ := Failing.run_bind_eq_ok.1 h
    obtain ⟨first, s₂, -, h⟩ := Failing.run_bind_eq_ok.1 h
    obtain ⟨rest, s₃, -, h⟩ := Failing.run_bind_eq_ok.1 h
    obtain ⟨s, s₄, -, h⟩ := Failing.run_bind_eq_ok.1 h
    cases h
    refine ⟨rfl, List.filter_eq_self.2 fun child hchild => ?_⟩
    rw [Node.ofChildren, children_mk, (sortBy_perm _ _).mem_iff] at hchild
    obtain ⟨⟨role, kind, span, children⟩, -, rfl⟩ := List.mem_map.1 hchild
    rfl
  have hreadAs {isModule : Bool} (h : parseAs isModule source = .ok program) :
      program.kind = .program ∧ statements program = program.children := by
    obtain ⟨state, -, h⟩ := Failing.bind_eq_ok.1 h
    split at h
    · cases h
      exact hread ‹_›
    · cases h
  unfold parse at h
  split at h
  · cases h
    exact hreadAs ‹_›
  · split at h
    · cases h
      exact hreadAs ‹_›
    · cases h

/-- The collection makes its edits statement by statement. -/
theorem collectReferences_ok {source text : String} {f g : Findings}
    (h : collectReferences source c f = .ok text g) :
    ∃ program rows, parse source = .ok program ∧
      List.Forall₂ (CollectedFor c source program) (statements program) rows ∧
      applyEdits source rows.flatten = .ok text := by
  obtain ⟨program, f₁, hprogram, hcollect⟩ := bind_eq_ok.1 h
  obtain ⟨hparse, -⟩ := readProgram_eq_ok.1 hprogram
  obtain ⟨batches, f₂, hbatches, hedit⟩ := bind_eq_ok.1 hcollect
  obtain ⟨htext, -⟩ := edit_eq_ok.1 hedit
  obtain ⟨hkind, hstatements⟩ := parse_ok hparse
  have hsites : referenceSites program = (statements program).flatMap (sitesIn (some program)) := by
    rw [hstatements]
    exact sitesIn_of_children (by simp [hkind]) (by simp [hkind])
  have hall := forall₂_of_mapM hbatches
  rw [hsites] at hall
  obtain ⟨rows, hrows, rfl⟩ := exists_of_forall₂_flatMap hall
  refine ⟨program, rows.map List.flatten, hparse, ?_, by rw [← List.flatten_flatten]; exact htext⟩
  rw [List.forall₂_map_right_iff]
  exact hrows.imp fun s row hrow => ⟨row, rfl, hrow⟩

/-! ## Exporting -/

/-- The range that is widened to whole lines holds what it was. -/
theorem lineExtent_holds (source : String) (start stop : Nat) :
    (lineExtent source start stop).1 ≤ start ∧
      min stop source.length ≤ (lineExtent source start stop).2 := by
  unfold lineExtent
  dsimp only
  have hlength : source.toList.length = source.length := String.length_toList
  split_ifs
  · omega
  · omega

/-- The statement is taken out of the source, with the rest of its lines if that is blank: what is
left is made of what stands in front of it and of what stands behind it. -/
def Removed (source : String) (s : Node) (text : String) : Prop :=
  ∃ start stop before after text₁ text₂, start ≤ s.start ∧ min s.stop source.length ≤ stop ∧
    (start, stop) = lineExtent source s.start s.stop ∧ text.toList = text₁ ++ text₂ ∧
    Spliced 0 (source.toList.take start) before text₁ ∧
    Spliced stop (source.toList.drop stop) after text₂

/-- The statement of an initializer is deleted with its line, by induction on the statements in
front of it. -/
theorem delete_mem_exportStatements {i : ExportInput} {path : List String}
    {s : Node} (hpath : initializedPath? i.settings.roots s = some path) :
    ∀ {ss : List Node} {position : Nat} {e : Exports}, s ∈ ss →
      Edit.delete (lineExtent i.source s.start s.stop).1 (lineExtent i.source s.start s.stop).2 ∈
        (exportStatements i position ss e).1
  | first :: rest, position, e, hs => by
    rw [exportStatements]
    rcases List.mem_cons.1 hs with rfl | hs
    · simp only [hpath]
      exact List.mem_append_left _ (List.mem_singleton_self _)
    · exact List.mem_append_right _ (delete_mem_exportStatements hpath hs)

/-- Every statement of the program that makes sure of a tracked namespace is removed. -/
theorem IsInitializer.removed (h : IsInitializer path s default)
    (hroots : path.head?.any c.settings.roots.contains = true) {source text : String}
    {program : Node} (hs : s ∈ statements program)
    (htext : applyEdits source (exportProgram c source program).1 = .ok text) :
    Removed source s text := by
  obtain ⟨hstart, hstop⟩ := lineExtent_holds source s.start s.stop
  set range := lineExtent source s.start s.stop
  have hmem : Edit.delete range.1 range.2 ∈ (exportProgram c source program).1 :=
    delete_mem_exportStatements (i := exportInput c source program) (h.initializedPath? hroots) hs
  obtain ⟨front, old, back, before, after, text₁, text₂, hsource, hfront, hback, htext, hbefore,
    hafter⟩ := (spliced_of_applyEdits htext).split ((orderEdits_perm _).mem_iff.2 hmem)
  simp only [Edit.delete, Nat.zero_add, Int.natCast_inj] at hfront hback
  refine ⟨range.1, range.2, before, after, text₁, text₂, hstart, hstop, rfl, ?_, ?_, ?_⟩
  · simpa [Edit.delete] using htext
  · rwa [hsource, hfront, List.take_left]
  · rw [Nat.zero_add] at hafter
    rwa [hsource, hback, ← List.append_assoc, ← List.length_append, List.drop_left,
      List.length_append]

end Pass

end HtmlModules
