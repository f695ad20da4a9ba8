import HtmlModules.Analysis.Feature
import HtmlModules.Url.Module

/-!
# Analysis

The files that a set of documents leads to. A url is loaded once, and the links of a document are
followed in the order in which they stand. A document that cannot be read ends the analysis.
-/

namespace HtmlModules

open Text

/-- The urls that were asked for, with the files found there, and the warnings about them. -/
structure Analysis where
  loaded : Table (Option SourceFile) := []
  diagnostics : Diagnostics := []

namespace Analysis

/-- The file with a url. -/
def file? (a : Analysis) (url : String) : Option SourceFile := (Table.get? a.loaded url).join

/-- A file with this url was loaded. -/
def has (a : Analysis) (url : String) : Bool := (a.file? url).isSome

/-- The files in the order in which they were loaded. -/
def files (a : Analysis) : List SourceFile := (Table.values a.loaded).filterMap id

/-- The urls of the files. -/
def urls (a : Analysis) : List String := a.files.map (·.url)

/-- The texts of the files. -/
def texts (a : Analysis) : Table String := a.files.map fun f => (f.url, f.contents)

/-- Adds what was found at a url. -/
def add (a : Analysis) (url : String) (file : Option SourceFile) (warnings : Diagnostics) :
    Analysis :=
  { loaded := a.loaded ++ [(url, file)], diagnostics := a.diagnostics.reportAll warnings }

end Analysis

namespace SourceRoot

/-- The file of a text, with warnings about it. -/
def readFile (r : SourceRoot) (url : String) (text : Except Failure String) :
    Except Failure (SourceFile × Diagnostics) := do
  let contents ← text
  if endsWith url Url.htmlExtension then r.readDocument url contents
  else return ({ url, contents }, [])

/-- Loads a url, unless it has been asked for. -/
def load (r : SourceRoot) (a : Analysis) (url : String) : Except Failure Analysis :=
  if Table.has a.loaded url then .ok a
  else match Table.get? r.files url with
    | none => .ok (a.add url none [])
    | some text => do
      let (file, warnings) ← r.readFile url text
      return a.add url (some file) warnings

/-! ## Following links -/

/-- The number of files that have not been loaded. -/
def unread (r : SourceRoot) (a : Analysis) : Nat :=
  (Table.keys r.files).countP fun url => !Table.has a.loaded url

/-- What was loaded stays loaded. -/
theorem has_loaded_add {a : Analysis} {url other : String} {file : Option SourceFile}
    {warnings : Diagnostics} (h : Table.has a.loaded other = true) :
    Table.has (a.add url file warnings).loaded other = true := by
  simp only [Table.has, Table.get?, Analysis.add, List.lookup_append] at *
  cases hl : a.loaded.lookup other with
  | none => simp [hl] at h
  | some _ => simp

/-- What is added is loaded. -/
theorem has_loaded_add_self {a : Analysis} {url : String} {file : Option SourceFile}
    {warnings : Diagnostics} : Table.has (a.add url file warnings).loaded url = true := by
  simp only [Table.has, Table.get?, Analysis.add, List.lookup_append]
  cases a.loaded.lookup url <;> simp [List.lookup_cons_self]

/-- Adding a url leaves no more files to load. -/
theorem unread_add_le (r : SourceRoot) (a : Analysis) (url : String) (file : Option SourceFile)
    (warnings : Diagnostics) : r.unread (a.add url file warnings) ≤ r.unread a := by
  refine List.countP_mono_left fun other _ h => ?_
  cases hl : Table.has a.loaded other with
  | false => rfl
  | true => simp [has_loaded_add hl] at h

/-- A condition that refuses a member which another one accepts, and accepts no other, counts
fewer. -/
theorem countP_lt_countP {α : Type} {p q : α → Bool} {x : α} :
    ∀ {l : List α}, x ∈ l → p x = true → q x = false → (∀ y, q y = true → p y = true) →
      l.countP q < l.countP p
  | y :: l, hx, hp, hq, h => by
    have hle : l.countP q ≤ l.countP p := List.countP_mono_left fun z _ hz => h z hz
    rcases List.mem_cons.1 hx with rfl | hx
    · simp only [List.countP_cons, hp, hq]
      simpa using Nat.lt_succ_of_le hle
    · have ih := countP_lt_countP hx hp hq h
      by_cases hy : q y = true
      · simpa [List.countP_cons, hy, h y hy] using ih
      · by_cases hy' : p y = true
        · simpa [List.countP_cons, hy, hy'] using Nat.lt_succ_of_lt ih
        · simpa [List.countP_cons, hy, hy'] using ih

/-- Adding a file that exists leaves fewer files to load. -/
theorem unread_add_lt (r : SourceRoot) {a : Analysis} {url : String} (file : Option SourceFile)
    (warnings : Diagnostics) (hf : Table.has r.files url = true)
    (ha : Table.has a.loaded url = false) :
    r.unread (a.add url file warnings) < r.unread a := by
  have hmem : url ∈ Table.keys r.files := by
    obtain ⟨text, ht⟩ := Option.isSome_iff_exists.1 hf
    exact List.mem_map.2 ⟨(url, text), Table.mem_of_get? ht, rfl⟩
  refine countP_lt_countP hmem (by simp [ha]) (by simp [has_loaded_add_self]) fun other h => ?_
  cases hl : Table.has a.loaded other with
  | false => rfl
  | true => simp [has_loaded_add hl] at h

/-- The urls that a file links to and that have not been asked for. -/
def newLinks (a : Analysis) (file : SourceFile) : List String :=
  (file.links.map (·.url)).filter fun url => !Table.has a.loaded url

/-- Loads the urls of a queue and all that they lead to. -/
def follow (r : SourceRoot) (a : Analysis) : List String → Except Failure Analysis
  | [] => .ok a
  | url :: queue =>
    if ha : Table.has a.loaded url then follow r a queue
    else
      match hf : Table.get? r.files url with
      | none => follow r (a.add url none []) queue
      | some text =>
        match r.readFile url text with
        | .error e => .error e
        | .ok (file, warnings) =>
          let added := a.add url (some file) warnings
          have hlt : r.unread added < r.unread a :=
            r.unread_add_lt _ _ (by simp [Table.has, hf]) (by simpa using ha)
          follow r added (queue ++ newLinks added file)
termination_by queue => (r.unread a, queue.length)
decreasing_by
  · exact Prod.Lex.right _ (Nat.lt_succ_self _)
  · rcases Nat.lt_or_eq_of_le (unread_add_le r a url none []) with h | h
    · exact Prod.Lex.left _ _ h
    · rw [h]; exact Prod.Lex.right _ (Nat.lt_succ_self _)
  · exact Prod.Lex.left _ _ hlt

/-- Loads documents and all that they lead to. -/
def analyze (r : SourceRoot) (urls : List String) : Except Failure Analysis := r.follow {} urls

end SourceRoot

end HtmlModules
