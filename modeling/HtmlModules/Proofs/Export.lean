import HtmlModules.Proofs.Listing
import HtmlModules.Proofs.Naming
import HtmlModules.Proofs.Offer
import HtmlModules.Proofs.Registry

/-!
# Records follow offers

`exportProgram` follows the offers of a program (`follows_exportProgram`): its records have the
paths of the offers, in their order. The name of a record is the registered one if the registry has
its path for the module, and else one that no record before it has.

So the records of single exports have distinct paths if and only if no object that is taken apart
repeats one (`nodup_paths_iff`), and they have distinct names if and only if no record has the name
that is registered for a later one (`nodup_names_iff`).
-/

namespace HtmlModules.Pass

open Text Script

/-! ## Names -/

/-- The record that the registry has of a single export of the module. -/
def ExportInput.registered? (i : ExportInput) (path : String) : Option ExportRecord :=
  (i.registry.lookup path).filter fun r => r.module == i.moduleUrl && !r.isNamespace

/-- An export that is registered keeps the name it is registered with. -/
theorem chooseName_of_registered {i : ExportInput} {path : String} {r : ExportRecord}
    (h : i.registered? path = some r) (requested : String) (e : Exports) :
    (e.chooseName i path requested).1 = r.name := by
  rw [ExportInput.registered?] at h
  rw [Exports.chooseName, h]
  rfl

/-- An export that is not registered has the first name that is free. -/
theorem chooseName_of_not_registered {i : ExportInput} {path : String}
    (h : i.registered? path = none) (requested : String) (e : Exports) :
    (e.chooseName i path requested).1 = Identifier.findAvailable requested e.names := by
  rw [ExportInput.registered?] at h
  rw [Exports.chooseName, h]
  rfl

theorem wholeModule_ne_numbered (name : String) (n : Nat) :
    Identifier.numbered name n ≠ ExportRecord.wholeModule := by
  intro h
  have hmem := Identifier.dollar_mem_numbered name n
  rw [h] at hmem
  exact absurd hmem (by decide)

/-- A name is only that of the whole module if it was asked for. -/
theorem findAvailable_ne_wholeModule {requested : String}
    (h : requested ≠ ExportRecord.wholeModule) (used : List String) :
    Identifier.findAvailable requested used ≠ ExportRecord.wholeModule := by
  unfold Identifier.findAvailable
  split_ifs
  · exact wholeModule_ne_numbered _ _
  · exact h

theorem getLast?_toList_append {s t : String} (ht : t.toList ≠ []) :
    (s ++ t).toList.getLast? = t.toList.getLast? := by
  rw [String.toList_append, List.getLast?_append_of_ne_nil _ ht]

theorem join_cons_cons (sep s t : String) (rest : List String) :
    join sep (s :: t :: rest) = s ++ sep ++ join sep (t :: rest) :=
  rfl

theorem join_ne_empty {sep : String} :
    ∀ {path : List String} {last : String}, path.getLast? = some last → last.toList ≠ [] →
      (join sep path).toList ≠ []
  | [s], last, h, hl => by
    obtain rfl : s = last := Option.some.inj h
    exact hl
  | s :: t :: rest, last, h, hl => by
    have hrest : (join sep (t :: rest)).toList ≠ [] :=
      join_ne_empty (by simpa [List.getLast?_cons_cons] using h) hl
    rw [join_cons_cons, String.toList_append]
    exact List.append_ne_nil_of_right_ne_nil _ hrest

/-- Joined segments end as the last of them does. -/
theorem getLast?_join {sep : String} :
    ∀ {path : List String} {last : String}, path.getLast? = some last → last.toList ≠ [] →
      (join sep path).toList.getLast? = last.toList.getLast?
  | [s], last, h, _ => by
    obtain rfl : s = last := Option.some.inj h
    rfl
  | s :: t :: rest, last, h, hl => by
    have htail : (t :: rest).getLast? = some last := by simpa [List.getLast?_cons_cons] using h
    rw [join_cons_cons, getLast?_toList_append (join_ne_empty htail hl), getLast?_join htail hl]

/-- The character at the end of a path that could be taken for the whole module. -/
def EndsInStar (path : String) : Prop := path.toList.getLast? = some '*'

/-- A path that ends in the mark for a whole module ends in a star. -/
theorem endsInStar_join {path : List String} (h : path.getLast? = some ExportRecord.wholeModule) :
    EndsInStar (join "." path) := by
  rw [EndsInStar, getLast?_join h (by decide)]
  rfl

theorem not_endsInStar_of_isNameShaped :
    ∀ {cs : List Char}, Identifier.isNameShaped cs = true → cs.getLast? ≠ some '*'
  | c :: cs, h, hlast => by
    obtain ⟨hc, hcs⟩ := Bool.and_eq_true_iff.1 h
    have hpart : ∀ d ∈ c :: cs, Identifier.isNamePart d = true := by
      intro d hd
      rcases List.mem_cons.1 hd with rfl | hd
      · simp [Identifier.isNamePart, hc]
      · exact List.all_eq_true.1 hcs d hd
    exact absurd (hpart '*' (List.mem_of_getLast? hlast)) (by decide)

/-- The path of a member does not end in a star, since its key can name a binding. -/
theorem not_endsInStar_member (space : String) {key : String} (h : Identifier.isValid key = true) :
    ¬EndsInStar (space ++ "." ++ key) := by
  have hshape : Identifier.isNameShaped (Identifier.dropLineEnd key.toList) = true := by
    simp only [Identifier.isValid, Bool.and_eq_true] at h
    exact h.1
  have hne : key.toList ≠ [] := by
    intro he
    rw [he] at hshape
    exact absurd hshape (by decide)
  rw [EndsInStar, getLast?_toList_append hne]
  unfold Identifier.dropLineEnd at hshape
  split_ifs at hshape with hline
  · rw [hline]
    decide
  · exact not_endsInStar_of_isNameShaped hshape

/-! ## What an export changes -/

@[simp] theorem records_chooseName (i : ExportInput) (path requested : String) (e : Exports) :
    (e.chooseName i path requested).2.records = e.records :=
  rfl

@[simp] theorem values_chooseName (i : ExportInput) (path requested : String) (e : Exports) :
    (e.chooseName i path requested).2.values = e.values :=
  rfl

@[simp] theorem initialized_chooseName (i : ExportInput) (path requested : String) (e : Exports) :
    (e.chooseName i path requested).2.initialized = e.initialized :=
  rfl

/-- A local name only adds to the names in use in the program. -/
theorem chooseLocal_snd (name : String) (e : Exports) :
    (e.chooseLocal name).2 = { e with used := (e.chooseLocal name).2.used } := by
  unfold Exports.chooseLocal
  split_ifs <;> rfl

@[simp] theorem records_chooseLocal (name : String) (e : Exports) :
    (e.chooseLocal name).2.records = e.records := by
  rw [chooseLocal_snd]

@[simp] theorem values_chooseLocal (name : String) (e : Exports) :
    (e.chooseLocal name).2.values = e.values := by
  rw [chooseLocal_snd]

@[simp] theorem initialized_chooseLocal (name : String) (e : Exports) :
    (e.chooseLocal name).2.initialized = e.initialized := by
  rw [chooseLocal_snd]

@[simp] theorem names_chooseLocal (name : String) (e : Exports) :
    (e.chooseLocal name).2.names = e.names := by
  rw [chooseLocal_snd]

/-- What a value leaves behind: its record, its name and its initializer. -/
theorem exportValue_snd (i : ExportInput) (c : Candidate) (e : Exports) :
    let path := join "." c.path
    let chosen := e.chooseName i path (c.path.getLast?.getD "")
    let e' := (exportValue i c e).2
    e'.records = e.records ++ [⟨path, i.moduleUrl, chosen.1⟩] ∧ e'.initialized = e.initialized ∧
      e'.values = e.values ++ [path] ∧ e'.names = chosen.2.names := by
  unfold exportValue
  dsimp only
  split <;> simp [Exports.record]

/-- What a member of a namespace leaves behind: its record and its name. -/
theorem exportMember_snd (i : ExportInput) (space : String) (written : List String) (m : Member)
    (e : Exports) :
    let path := space ++ "." ++ m.key
    let chosen := e.chooseName i path m.key
    let e' := (exportMember i space written m e).2
    e'.records = e.records ++ [⟨path, i.moduleUrl, chosen.1⟩] ∧ e'.initialized = e.initialized ∧
      e'.values = e.values ∧ e'.names = chosen.2.names := by
  unfold exportMember
  dsimp only
  split <;> simp [Exports.record]

/-- Members that can be taken out have keys that can name a binding. -/
theorem isValid_of_members? {source : String} :
    ∀ {properties : List Node} {position : Nat} {members : List Member},
      members? source position properties = some members →
        ∀ m ∈ members, Identifier.isValid m.key = true
  | [], _, members, h => by
    obtain rfl : [] = members := Option.some.inj h
    simp
  | p :: rest, position, members, h => by
    simp only [members?, Option.bind_eq_bind, Option.bind_eq_some_iff, Option.pure_def,
      Option.some.injEq] at h
    obtain ⟨key, hkey, value, -, others, hothers, rfl⟩ := h
    intro m hm
    rcases List.mem_cons.1 hm with rfl | hm
    · unfold memberKey? at hkey
      split at hkey
      · obtain ⟨n, -, hn⟩ := Option.bind_eq_some_iff.1 hkey
        exact (Option.filter_eq_some_iff.1 hn).2
      · cases hkey
    · exact isValid_of_members? hothers m hm

/-- A name that is chosen for a path is that of a module as a whole only if the path asks for it. -/
theorem isNamespace_chooseName {i : ExportInput} {path requested : String}
    (hrequested : requested = ExportRecord.wholeModule → EndsInStar path) (hstar : ¬EndsInStar path)
    (e : Exports) :
    ExportRecord.isNamespace ⟨path, i.moduleUrl, (e.chooseName i path requested).1⟩ = false := by
  refine beq_eq_false_iff_ne.2 ?_
  cases hr : i.registered? path with
  | some q =>
    have hq := (Option.filter_eq_some_iff.1 hr).2
    simp only [Bool.and_eq_true, Bool.not_eq_true'] at hq
    exact chooseName_of_registered hr requested e ▸ beq_eq_false_iff_ne.1 hq.2
  | none =>
    rw [chooseName_of_not_registered hr]
    exact findAvailable_ne_wholeModule (mt hrequested hstar) e.names

/-! ## Records and offers -/

/-- The record is what an offer becomes. -/
structure Describes (i : ExportInput) (r : ExportRecord) (o : Offer) : Prop where
  path : r.path = o.path
  module : r.module = i.moduleUrl
  whole : o.kind = .whole → r.isNamespace = true
  single : o.IsSingle → ¬EndsInStar o.path → r.isNamespace = false
  registered : o.IsSingle → ∀ q, i.registered? o.path = some q → r.name = q.name
  member : o.kind = .member → ¬EndsInStar o.path

/-- A record is single if it describes an offer that is. -/
theorem Describes.isSingle_iff {i : ExportInput} {r : ExportRecord} {o : Offer}
    (h : Describes i r o) (hstar : ¬EndsInStar o.path) : o.IsSingle ↔ r.isNamespace = false :=
  ⟨fun hs => h.single hs hstar, fun hr hw => by simp [h.whole hw] at hr⟩

/-- The two records have different names, if the name of the second one was free to choose. -/
def Distinguished (i : ExportInput) (q r : ExportRecord) : Prop :=
  q.isNamespace = false → r.isNamespace = false → i.registered? r.path = none → q.name ≠ r.name

/-- What has been chosen so far follows the offers, and the namespaces that were made sure of. -/
structure Follows (i : ExportInput) (e : Exports) (os : List Offer) (spaces : List String) :
    Prop where
  described : List.Forall₂ (Describes i) e.records os
  initialized : e.initialized = spaces
  values : ∀ path, path ∈ e.values ↔ ⟨path, .value⟩ ∈ os
  names : ∀ r ∈ e.records, r.isNamespace = false → r.name ∈ e.names
  distinguished : e.records.Pairwise (Distinguished i)

namespace Follows

variable {i : ExportInput} {e e' : Exports} {os : List Offer} {spaces : List String}

/-- At the start nothing is offered and nothing is recorded. -/
theorem start (i : ExportInput) (used : List String) : Follows i { used } [] [] where
  described := .nil
  initialized := rfl
  values := by simp
  names := by simp
  distinguished := .nil

/-- The module as a whole comes to stand for a namespace. -/
theorem whole (h : Follows i e os spaces) (path : String)
    (hrecords : e'.records = e.records ++ [⟨path, i.moduleUrl, ExportRecord.wholeModule⟩])
    (hinitialized : e'.initialized = e.initialized) (hvalues : e'.values = e.values)
    (hnames : e'.names = e.names) : Follows i e' (os ++ [⟨path, .whole⟩]) spaces := by
  have hstar : ExportRecord.isNamespace ⟨path, i.moduleUrl, ExportRecord.wholeModule⟩ = true := rfl
  refine ⟨?_, hinitialized.trans h.initialized, ?_, ?_, ?_⟩
  · rw [hrecords]
    refine List.rel_append h.described (.cons ⟨rfl, rfl, fun _ => hstar, ?_, ?_, ?_⟩ .nil)
    · exact fun hs => absurd rfl hs
    · exact fun hs => absurd rfl hs
    · exact fun hm => nomatch hm
  · intro p
    simp [hvalues, h.values]
  · intro r hr hname
    rw [hrecords, List.mem_append, List.mem_singleton] at hr
    rcases hr with hr | rfl
    · exact hnames ▸ h.names r hr hname
    · exact absurd hstar (by simp [hname])
  · rw [hrecords]
    refine List.pairwise_append.2 ⟨h.distinguished, List.pairwise_singleton _ _, ?_⟩
    intro q _ r hr _ hname
    rw [List.mem_singleton.1 hr] at hname
    exact absurd hstar (by simp [hname])

/-- A path gets an export of its own. -/
theorem single (h : Follows i e os spaces) (path requested : String) {kind : OfferKind}
    (hkind : kind ≠ .whole) (hmember : kind = .member → ¬EndsInStar path)
    (hrequested : requested = ExportRecord.wholeModule → EndsInStar path)
    (hrecords : e'.records =
      e.records ++ [⟨path, i.moduleUrl, (e.chooseName i path requested).1⟩])
    (hinitialized : e'.initialized = e.initialized)
    (hvalues : ∀ p, p ∈ e'.values ↔ p ∈ e.values ∨ p = path ∧ kind = .value)
    (hnames : e'.names = (e.chooseName i path requested).2.names) :
    Follows i e' (os ++ [⟨path, kind⟩]) spaces := by
  set name := (e.chooseName i path requested).1 with hname
  have huse : e'.names = Identifier.use name e.names := hnames
  have hregistered : ∀ q, i.registered? path = some q → name = q.name := fun q hq =>
    chooseName_of_registered hq requested e
  have hnamed : ¬EndsInStar path → ExportRecord.isNamespace ⟨path, i.moduleUrl, name⟩ = false :=
    fun hstar => isNamespace_chooseName hrequested hstar e
  refine ⟨?_, hinitialized.trans h.initialized, ?_, ?_, ?_⟩
  · rw [hrecords]
    exact List.rel_append h.described (.cons ⟨rfl, rfl, fun hw => absurd hw hkind,
      fun _ => hnamed, fun _ => hregistered, hmember⟩ .nil)
  · intro p
    rw [hvalues, h.values, List.mem_append, List.mem_singleton, Offer.mk.injEq]
    tauto
  · intro r hr hnot
    rw [hrecords, List.mem_append, List.mem_singleton] at hr
    rw [huse, Identifier.mem_use]
    rcases hr with hr | rfl
    · exact Or.inl (h.names r hr hnot)
    · exact Or.inr rfl
  · rw [hrecords]
    refine List.pairwise_append.2 ⟨h.distinguished, List.pairwise_singleton _ _, ?_⟩
    intro q hq r hr hqn _ hfree
    obtain rfl := List.mem_singleton.1 hr
    have hfresh : name ∉ e.names := by
      rw [hname, chooseName_of_not_registered hfree]
      exact Identifier.findAvailable_not_mem requested e.names
    intro (he : q.name = name)
    exact hfresh (he ▸ h.names q hq hqn)

/-! ### Statements -/

/-- The records and the offers have the same paths. -/
theorem paths_eq (h : Follows i e os spaces) :
    e.records.map (·.path) = os.map (·.path) := by
  have hd := h.described
  clear h
  generalize e.records = records at hd
  induction hd with
  | nil => rfl
  | cons hd _ ih => rw [List.map_cons, List.map_cons, hd.path, ih]

/-- The paths of the records are those of the offers. -/
theorem any_path_eq (h : Follows i e os spaces) (test : String → Bool) :
    (e.records.any fun r => test r.path) = os.any fun o => test o.path := by
  have hrecords : (e.records.any fun r => test r.path) = (e.records.map (·.path)).any test := by
    rw [List.any_map]
    rfl
  rw [hrecords, h.paths_eq, List.any_map]
  rfl

/-- Whether a statement stays as it is can be told from the offers. -/
theorem staysAssignment_eq (h : Follows i e os spaces) (c : Candidate) :
    staysAssignment i c e = staysUnoffered i c os := by
  have hvalues : ∀ p, e.values.contains p = os.contains ⟨p, .value⟩ := by
    intro p
    rw [Bool.eq_iff_iff, List.contains_iff_mem, List.contains_iff_mem, h.values]
  have hany : e.values.contains = fun p => os.contains ⟨p, .value⟩ := funext hvalues
  have hpath : e.hasPath (join "." c.path) = os.any (·.path == join "." c.path) :=
    h.any_path_eq (· == join "." c.path)
  simp only [staysAssignment, staysUnoffered, hpath, hany]

theorem exportValue (h : Follows i e os spaces) {c : Candidate} (hc : c.path ≠ []) :
    Follows i (Pass.exportValue i c e).2 (os ++ [⟨join "." c.path, .value⟩]) spaces := by
  have hlast : c.path.getLast?.getD "" = ExportRecord.wholeModule →
      EndsInStar (join "." c.path) := by
    rw [List.getLast?_eq_some_getLast hc, Option.getD_some]
    exact fun hl => endsInStar_join (hl ▸ List.getLast?_eq_some_getLast hc)
  obtain ⟨hrecords, hinitialized, hvalues, hnames⟩ := exportValue_snd i c e
  refine h.single _ _ (by decide) (fun hk => nomatch hk) hlast hrecords hinitialized ?_ hnames
  intro p
  simp [hvalues]

theorem exportMember (h : Follows i e os spaces) (space : String) (written : List String)
    {m : Member} (hm : Identifier.isValid m.key = true) :
    Follows i (Pass.exportMember i space written m e).2
      (os ++ [⟨space ++ "." ++ m.key, .member⟩]) spaces := by
  have hstar := not_endsInStar_member space hm
  have hkey : m.key = ExportRecord.wholeModule → EndsInStar (space ++ "." ++ m.key) := by
    intro he
    rw [he] at hm
    exact absurd hm (by decide)
  obtain ⟨hrecords, hinitialized, hvalues, hnames⟩ := exportMember_snd i space written m e
  refine h.single _ _ (by decide) (fun _ => hstar) hkey hrecords hinitialized ?_ hnames
  intro p
  simp [hvalues]

/-- The members of an object follow each other. -/
theorem exportMembers (space : String) (written : List String) :
    ∀ {members : List Member} {e : Exports} {os : List Offer},
      (∀ m ∈ members, Identifier.isValid m.key = true) → Follows i e os spaces →
      Follows i (Pass.exportMembers i space written members e).2
        (os ++ members.map fun m => ⟨space ++ "." ++ m.key, .member⟩) spaces
  | [], e, os, _, h => by simpa [Pass.exportMembers] using h
  | m :: rest, e, os, hm, h => by
    have hfirst := h.exportMember space written (hm m (by simp))
    have hrest := exportMembers space written
      (fun m' hm' => hm m' (List.mem_cons_of_mem _ hm')) hfirst
    simpa [Pass.exportMembers] using hrest

/-- The records of a statement describe its offers. -/
theorem exportCandidate (h : Follows i e os spaces) {c : Candidate} (hc : c.path ≠ [])
    {leading text : String} (hx : exportCandidate? i c leading e = some (text, e')) :
    Follows i e' (os ++ candidateOffers i c leading) spaces := by
  unfold exportCandidate? at hx
  dsimp only at hx
  split_ifs at hx with hstays hspace
  · have htaken : takenMembers? i c leading =
        members? i.source (c.value.start + 1) (c.value.childrenIn .property) := if_pos hspace
    cases hm : members? i.source (c.value.start + 1) (c.value.childrenIn .property) with
    | none =>
      simp only [exportNamespace?, hm, Option.bind_eq_bind, Option.bind_none, Option.getD_none,
        Option.some.injEq] at hx
      have hvalue := h.exportValue hc
      rw [hx] at hvalue
      simpa only [candidateOffers, htaken, hm] using hvalue
    | some members =>
      simp only [exportNamespace?, hm, Option.bind_eq_bind, Option.bind_some, Option.pure_def,
        Option.getD_some, Option.some.injEq, Prod.mk.injEq] at hx
      obtain ⟨-, rfl⟩ := hx
      have hmembers := h.exportMembers (join "." c.path)
        (members.flatMap fun m =>
          if m.value.kind.isPlainFunction then receiverWrites m.value else [])
        (isValid_of_members? hm)
      rw [candidateOffers, htaken, hm, ← List.append_assoc]
      exact hmembers.whole (join "." c.path) rfl rfl rfl rfl
  · have htaken : takenMembers? i c leading = none := if_neg hspace
    simp only [Option.getD_none, Option.some.injEq] at hx
    have hvalue := h.exportValue hc
    rw [hx] at hvalue
    simpa only [candidateOffers, htaken] using hvalue

end Follows

/-! ## Programs -/

/-- What one statement changes. -/
def exportStatement (i : ExportInput) (leading : String) (s : Node) (e : Exports) : Exports :=
  match initializedPath? i.settings.roots s with
  | some path =>
    if 1 < path.length then { e with initialized := e.initialized ++ [join "." path] } else e
  | none =>
    match (candidate? i.settings.roots s).bind fun c => exportCandidate? i c leading e with
    | some (_, e) => e
    | none => e

/-- The first statement leaves what the rest starts with. -/
theorem exportStatements_cons (i : ExportInput) (position : Nat) (s : Node) (rest : List Node)
    (e : Exports) :
    (exportStatements i position (s :: rest) e).2 =
      (exportStatements i s.stop rest
        (exportStatement i (slice i.source position s.start) s e)).2 := by
  unfold exportStatement
  cases hp : initializedPath? i.settings.roots s with
  | some path => simp only [exportStatements, hp]
  | none =>
    cases hx : (candidate? i.settings.roots s).bind fun c =>
        exportCandidate? i c (slice i.source position s.start) e with
    | none => simp only [exportStatements, hp, hx]
    | some result => simp only [exportStatements, hp, hx]

/-- A statement is left alone if its comment or what was recorded before says so. -/
theorem exportCandidate?_eq_none_iff (i : ExportInput) (c : Candidate) (leading : String)
    (e : Exports) :
    exportCandidate? i c leading e = none ↔
      (declarationKind i c leading == .ignore || staysAssignment i c e) = true := by
  unfold exportCandidate?
  dsimp only
  split_ifs with h <;> simp [h]

/-- A declaration of a single variable that has a value. -/
theorem singleVariable?_eq_some {s : Node} {kind : VariableKind} {name : String} {value : Node}
    (h : singleVariable? s = some (kind, name, value)) :
    s.kind = .variableDeclaration kind ∧ ∃ d id, s.childrenIn .declaration = [d] ∧
      d.child? .id = some id ∧ id.name? = some name ∧ d.child? .initial = some value := by
  unfold singleVariable? at h
  split at h
  · next d hkind hdeclarations =>
    simp only [Option.bind_eq_bind, Option.bind_eq_some_iff, Option.pure_def, Option.some.injEq,
      Prod.mk.injEq] at h
    obtain ⟨id, hid, _, hname, _, hvalue, rfl, rfl, rfl⟩ := h
    exact ⟨hkind, d, id, hdeclarations, hid, hname, hvalue⟩
  · cases h

theorem singleVariable?_of_assignmentIn? {s own : Node} {kind : VariableKind} {name : String}
    (h : assignmentIn? s = some (own, some (kind, name))) :
    singleVariable? s = some (kind, name, own) := by
  unfold assignmentIn? at h
  split at h
  · cases h
  · obtain ⟨⟨kind', name', value⟩, hvariable, heq⟩ := Option.map_eq_some_iff.1 h
    cases heq
    exact hvariable

/-- A candidate is made of the assignment in a statement. -/
theorem candidate?_eq_some {roots : List String} {s : Node} {c : Candidate}
    (h : candidate? roots s = some c) :
    ∃ own left, assignmentIn? s = some (own, c.declares?) ∧
      own.plainAssignment? = some (left, c.value) ∧ left.path? = some c.path ∧
      isMember roots c.path = true := by
  simp only [candidate?, Option.bind_eq_bind, Option.bind_eq_some_iff] at h
  obtain ⟨⟨own, declares?⟩, hown, ⟨left, value⟩, hsides, path, hpath, h⟩ := h
  split_ifs at h with hmember
  obtain rfl := Option.some.inj h
  exact ⟨own, left, hown, hsides, hpath, hmember⟩

theorem path_ne_nil_of_candidate? {roots : List String} {s : Node} {c : Candidate}
    (h : candidate? roots s = some c) : c.path ≠ [] := by
  obtain ⟨-, -, -, -, -, hmember⟩ := candidate?_eq_some h
  intro hpath
  rw [hpath] at hmember
  exact absurd hmember (by simp [isMember])

namespace Follows

variable {i : ExportInput} {e : Exports} {os : List Offer} {spaces : List String}

/-- One statement is followed by what it offers. -/
theorem statement (h : Follows i e os spaces) (leading : String) (s : Node) :
    Follows i (exportStatement i leading s e) (offerStatement i leading s os)
      (spaces ++ initializedSpaces i.settings.roots [s]) := by
  unfold exportStatement offerStatement
  cases hp : initializedPath? i.settings.roots s with
  | some path =>
    rw [Option.isSome_some, if_pos rfl]
    dsimp only
    split_ifs with hlength
    · have hs : initializedSpaces i.settings.roots [s] = [join "." path] := by
        simp [initializedSpaces, hp, Option.filter, hlength]
      exact ⟨h.described, by rw [hs, h.initialized], h.values, h.names, h.distinguished⟩
    · have hs : initializedSpaces i.settings.roots [s] = [] := by
        simp [initializedSpaces, hp, Option.filter, hlength]
      rwa [hs, List.append_nil]
  | none =>
    have hs : initializedSpaces i.settings.roots [s] = [] := by
      simp [initializedSpaces, hp]
    rw [hs, List.append_nil]
    cases hc : candidate? i.settings.roots s with
    | none => exact h
    | some c =>
      have hskip := exportCandidate?_eq_none_iff i c leading e
      rw [h.staysAssignment_eq c] at hskip
      simp only [Option.isSome_none, Bool.false_eq_true, if_false, Option.bind_some]
      cases hx : exportCandidate? i c leading e with
      | none =>
        rw [if_pos (hskip.1 hx)]
        exact h
      | some result =>
        rw [if_neg fun hs => by simp [hskip.2 hs] at hx]
        exact h.exportCandidate (path_ne_nil_of_candidate? hc) hx

/-- The statements of a program are followed by what they offer. -/
theorem statements :
    ∀ (ss : List Node) (position : Nat) {e : Exports} {os : List Offer} {spaces : List String},
      Follows i e os spaces →
      Follows i (exportStatements i position ss e).2 (offerStatements i position ss os)
        (spaces ++ initializedSpaces i.settings.roots ss)
  | [], _, e, os, spaces, h => by simpa [exportStatements, offerStatements, initializedSpaces]
  | s :: rest, position, e, os, spaces, h => by
    have hspaces : initializedSpaces i.settings.roots (s :: rest) =
        initializedSpaces i.settings.roots [s] ++ initializedSpaces i.settings.roots rest :=
      List.filterMap_append (l := [s])
    rw [exportStatements_cons, hspaces, ← List.append_assoc]
    exact statements rest s.stop (h.statement (slice i.source position s.start) s)

/-- The namespaces of which something is exported are followed by those of which something is
offered. -/
theorem namespaces :
    ∀ (more : List String) {e : Exports} {os : List Offer}, Follows i e os spaces →
      Follows i (more.foldl (fun e space =>
          if e.records.any fun r => startsWith r.path (space ++ ".") then
            e.record i space ExportRecord.wholeModule none
          else e) e) (offerNamespaces more os) spaces
  | [], e, os, h => h
  | space :: more, e, os, h => by
    rw [offerNamespaces, List.foldl_cons, List.foldl_cons, ← offerNamespaces,
      h.any_path_eq fun path => startsWith path (space ++ ".")]
    split_ifs
    · exact namespaces more (h.whole space rfl rfl rfl rfl)
    · exact namespaces more h

end Follows

/-- What a program leaves behind: the records of its statements, and those of its namespaces. -/
theorem exportProgram_snd (c : Context) (source : String) (program : Node) :
    (exportProgram c source program).2 =
      recordNamespaces (exportInput c source program)
        (exportStatements (exportInput c source program) 0 (statements program)
          { used := program.usedNames }).2 :=
  rfl

/-- The exports of a program are what it offers, under the names that are registered for the module
where there are such. -/
theorem follows_exportProgram (c : Context) (source : String) (program : Node) :
    Follows (exportInput c source program) (exportProgram c source program).2
      (offers c source program)
      (initializedSpaces c.settings.roots (statements program)) := by
  have hstatements := (Follows.start (exportInput c source program) program.usedNames).statements
    (statements program) 0
  rw [List.nil_append] at hstatements
  have hnamespaces := hstatements.namespaces
    (initializedSpaces c.settings.roots (statements program))
  rw [exportProgram_snd, recordNamespaces, hstatements.initialized]
  exact hnamespaces

/-! ## Single exports -/

/-- The records of single exports. -/
def singles (records : List ExportRecord) : List ExportRecord :=
  records.filter fun r => !r.isNamespace

/-- A relation between single records is one between the records that are no namespaces. -/
theorem pairwise_singles {records : List ExportRecord} {P : ExportRecord → ExportRecord → Prop} :
    (singles records).Pairwise P ↔
      records.Pairwise fun q r => q.isNamespace = false → r.isNamespace = false → P q r := by
  simp [singles, List.pairwise_filter]

/-- If the second offer is a member that is taken out, it does not repeat a single export. -/
def NoRepeat (o p : Offer) : Prop := p.kind = .member → o.IsSingle → o.path ≠ p.path

namespace Follows

variable {i : ExportInput} {e : Exports} {os : List Offer} {spaces : List String}

/-- Single exports have distinct paths if and only if no member repeats the path of one. -/
theorem nodup_paths_iff (h : Follows i e os spaces) (hnew : os.Pairwise NewValue) :
    ((singles e.records).map (·.path)).Nodup ↔ os.Pairwise NoRepeat := by
  rw [List.Nodup, List.pairwise_map, pairwise_singles]
  refine pairwise_iff_of_forall₂ ?_ h.described hnew
  intro q r o p hq hr hop
  constructor
  · intro hpaths hmember hsingle he
    have hstar := hr.member hmember
    have hsingle' : p.IsSingle := by
      rw [Offer.IsSingle, hmember]
      decide
    exact hpaths (hq.single hsingle (he ▸ hstar)) (hr.single hsingle' hstar)
      (hq.path.trans (he.trans hr.path.symm))
  · intro hrepeat hqn hrn he
    have hsame : o.path = p.path := hq.path.symm.trans (he.trans hr.path)
    have hsingle : o.IsSingle := fun hw => by simp [hq.whole hw] at hqn
    cases hk : p.kind with
    | value => exact hop hk hsame
    | member => exact hrepeat hk hsingle hsame
    | whole => simp [hr.whole hk] at hrn

/-- Single exports have distinct names if and only if no record has the name that is registered for
a later one. -/
theorem nodup_names_iff (h : Follows i e os spaces) :
    ((singles e.records).map (·.name)).Nodup ↔
      (singles e.records).Pairwise fun q r =>
        (i.registered? r.path).isSome = true → q.name ≠ r.name := by
  rw [List.Nodup, List.pairwise_map]
  refine ⟨fun hp => hp.imp_of_mem fun _ _ hne _ => hne, fun hp => ?_⟩
  rw [pairwise_singles] at hp ⊢
  refine List.Pairwise.imp₂ ?_ h.distinguished hp
  intro q r hdist hregistered hq hr
  cases hreg : i.registered? r.path with
  | none => exact hdist hq hr hreg
  | some s => exact hregistered hq hr (by simp [hreg])

/-- A record that the registry has for the module is among the exports if and only if its path is
offered as a single export. -/
theorem mem_records_iff (h : Follows i e os spaces) {r : ExportRecord}
    (hr : i.registered? r.path = some r) :
    r ∈ e.records ↔ ∃ o ∈ os, o.path = r.path ∧ o.IsSingle := by
  obtain ⟨-, hown⟩ := Option.filter_eq_some_iff.1 hr
  simp only [Bool.and_eq_true, beq_iff_eq, Bool.not_eq_true'] at hown
  constructor
  · intro hmem
    obtain ⟨o, ho, hd⟩ := exists_of_forall₂_left h.described hmem
    exact ⟨o, ho, hd.path.symm, fun hw => by simp [hd.whole hw] at hown⟩
  · rintro ⟨o, ho, hpath, hsingle⟩
    obtain ⟨q, hq, hd⟩ := exists_of_forall₂_left h.described.flip ho
    have hname : q.name = r.name := hd.registered hsingle r (hpath ▸ hr)
    have heq : q = r :=
      ExportRecord.ext (hd.path.trans hpath) (hd.module.trans hown.1.symm) hname
    exact heq ▸ hq

end Follows

end HtmlModules.Pass
