import HtmlModules.Proofs.Call
import HtmlModules.Proofs.Registry
import Mathlib.Data.List.Induction

/-!
# A builder and the registries it seals

A builder is registered with, asked and sealed in any order and any number of times. What it holds
is told by its history alone: the records that were the first of their paths among all that were
passed to it before it was sealed (`after_eq`). So every look-up finds the first record of its path,
every registration returns the records that became such first ones, and the registries that were
sealed stay the same as the builder (`first_record_wins`).
-/

namespace HtmlModules

/-! ## First records -/

namespace ExportRecord

/-- The records of a list that are the first of their paths, also if the records `earlier` stand in
front of the list. -/
def firsts (earlier records : List ExportRecord) : List ExportRecord :=
  records.zipIdx.filterMap fun (q, n) =>
    if (earlier ++ records.take n).any (·.path == q.path) then none else some q

theorem firsts_cons (earlier rest : List ExportRecord) (q : ExportRecord) :
    firsts earlier (q :: rest) =
      (if earlier.any (·.path == q.path) then [] else [q]) ++ firsts (earlier ++ [q]) rest := by
  have hrest : (rest.zipIdx 1).filterMap (fun (p, n) =>
      if (earlier ++ (q :: rest).take n).any (·.path == p.path) then none else some p) =
      firsts (earlier ++ [q]) rest := by
    rw [List.zipIdx_succ, List.filterMap_map, firsts]
    refine List.filterMap_congr fun p _ => ?_
    simp [List.append_assoc]
  rw [firsts, List.zipIdx_cons, List.filterMap_cons, hrest]
  cases hknown : earlier.any (·.path == q.path) <;> simp [hknown]

end ExportRecord

open ExportRecord

namespace Registry

theorem any_path_eq_isSome_lookup (r : Registry) (path : String) :
    r.any (·.path == path) = (r.lookup path).isSome := by
  rw [lookup, Bool.eq_iff_iff, List.find?_isSome, List.any_eq_true]

/-- A registry that knows the paths of some records accepts those that are first behind them. -/
theorem addNew_snd :
    ∀ (news : List ExportRecord) {r : Registry} {earlier : List ExportRecord},
      (∀ path, (r.lookup path).isSome = (lookup earlier path).isSome) →
      (r.addNew news).2 = firsts earlier news
  | [], _, _, _ => rfl
  | q :: rest, r, earlier, hknown => by
    rw [firsts_cons, any_path_eq_isSome_lookup, ← hknown]
    cases hq : r.lookup q.path with
    | some old =>
      rw [addNew_cons_of_some (by simp [hq])]
      refine addNew_snd rest fun path => ?_
      rw [hknown, lookup_append, lookup_cons, lookup_nil]
      by_cases hpath : q.path = path
      · have hold : (lookup earlier path).isSome = true := by rw [← hknown, ← hpath, hq]; rfl
        obtain ⟨first, hfirst⟩ := Option.isSome_iff_exists.1 hold
        simp [hfirst]
      · simp [hpath]
    | none =>
      rw [addNew_cons_of_none hq]
      refine congrArg (q :: ·) (addNew_snd rest fun path => ?_)
      simp [lookup_append, hknown]

/-- Adding to an empty registry leaves the first records. -/
theorem addNew_nil (news : List ExportRecord) :
    Registry.addNew [] news = (firsts [] news, firsts [] news) := by
  have hsnd : (Registry.addNew [] news).2 = firsts [] news := addNew_snd news fun _ => rfl
  refine Prod.ext ?_ hsnd
  rw [addNew_fst, List.nil_append, hsnd]

theorem lookup_firsts (records : List ExportRecord) (path : String) :
    lookup (firsts [] records) path = lookup records path := by
  have hlookup := lookup_addNew path records []
  rwa [addNew_nil, lookup_nil, Option.none_or] at hlookup

/-- First records are extended by those that are first behind them. -/
theorem addNew_firsts (earlier news : List ExportRecord) :
    Registry.addNew (firsts [] earlier) news =
      (firsts [] (earlier ++ news), firsts earlier news) := by
  refine Prod.ext ?_ (addNew_snd news fun path => by rw [lookup_firsts])
  have happend := addNew_append news earlier []
  rw [addNew_nil, addNew_nil] at happend
  exact happend.symm

end Registry

/-! ## Histories -/

namespace RegistryBuilder

/-- A call on a builder. -/
inductive Call where
  | register (records : List ExportRecord)
  | lookup (path : String)
  | size
  | freeze
deriving DecidableEq

/-- What a call on a builder returns. -/
inductive Answer where
  /-- The records that a registration accepted. -/
  | accepted (records : List ExportRecord)
  | found (record : Option ExportRecord)
  | size (n : Nat)
  /-- The registry that was sealed. -/
  | registry (r : Registry)
deriving DecidableEq

/-- Carries out a call. -/
def perform : Call → EStateM Failure RegistryBuilder Answer
  | .register records => fun b =>
    match b.register records with
    | .ok (b', accepted) => .ok (.accepted accepted) b'
    | .error e => .error e b
  | .lookup path => fun b => .ok (.found (b.lookup path)) b
  | .size => fun b => .ok (.size b.records.length) b
  | .freeze => fun b => .ok (.registry b.freeze.2) b.freeze.1

/-- The call seals the builder. -/
def Call.isFreeze : Call → Bool
  | .freeze => true
  | _ => false

/-- The records that a call passes to the builder. -/
def Call.records : Call → List ExportRecord
  | .register records => records
  | _ => []

/-- The records that are passed to a builder before it is sealed. -/
def passed (calls : List Call) : List ExportRecord :=
  (calls.takeWhile fun call => !call.isFreeze).flatMap Call.records

/-- The builder has been sealed. -/
def isFrozen (calls : List Call) : Bool := calls.any Call.isFreeze

theorem passed_append (calls more : List Call) :
    passed (calls ++ more) = passed calls ++ if isFrozen calls then [] else passed more := by
  induction calls with
  | nil => rfl
  | cons first calls ih =>
    cases hfirst : first.isFreeze with
    | true => simp [passed, isFrozen, hfirst]
    | false =>
      have hcons (rest : List Call) : passed (first :: rest) = first.records ++ passed rest := by
        simp [passed, hfirst]
      have hfrozen : isFrozen (first :: calls) = isFrozen calls := by simp [isFrozen, hfirst]
      rw [List.cons_append, hcons, hcons, hfrozen, ih, List.append_assoc]

theorem passed_singleton (call : Call) : passed [call] = call.records := by
  cases call <;> simp [passed, Call.isFreeze, Call.records]

theorem isFrozen_concat (calls : List Call) (call : Call) :
    isFrozen (calls ++ [call]) = (isFrozen calls || call.isFreeze) := by
  simp [isFrozen]

/-- The history of a builder tells what it holds: the first records of those that were passed to it
before it was sealed. -/
theorem after_eq (calls : List Call) :
    Calls.after perform {} calls = ⟨firsts [] (passed calls), isFrozen calls⟩ := by
  induction calls using List.reverseRecOn with
  | nil => rfl
  | append_singleton calls call ih =>
    rw [Calls.after_concat, ih, passed_append, passed_singleton, isFrozen_concat]
    cases call with
    | register records =>
      cases hfrozen : isFrozen calls with
      | true => simp [perform, register, Calls.stateOf]
      | false =>
        simp [perform, register, Calls.stateOf, Call.records, Call.isFreeze, Registry.addNew_firsts]
    | lookup path => simp [perform, Calls.stateOf, Call.records, Call.isFreeze]
    | size => simp [perform, Calls.stateOf, Call.records, Call.isFreeze]
    | freeze => simp [perform, Calls.stateOf, Call.records, Call.isFreeze, freeze]

/-! ## The first record wins -/

/-- A registry gives the answers that a builder gives. -/
structure AnsweredBy (b : RegistryBuilder) (r : Registry) : Prop where
  lookup : ∀ path, r.lookup path = b.lookup path
  contains : ∀ path, path ∈ r.map (·.path) ↔ (b.lookup path).isSome = true
  length : r.length = b.records.length
  forModule : ∀ url, r.forModule url = b.records.filter (·.module == url)

theorem AnsweredBy.of_eq {b : RegistryBuilder} {r : Registry} (h : r = b.records) :
    AnsweredBy b r := by
  subst h
  refine ⟨fun _ => rfl, fun path => ?_, rfl, fun _ => rfl⟩
  rw [RegistryBuilder.lookup, ← Registry.any_path_eq_isSome_lookup]
  simp

/-- After any calls on a new builder a look-up finds the first record of the path among all that
were passed to the builder before it was first sealed; a registration returns the records that
become such first ones, in their order; and once the builder is sealed it refuses every registration
and stays as it is. A registry that is sealed holds the first records and gives the answers of the
builder, as it is then and as it is after any later calls. -/
theorem first_record_wins (calls later : List Call) :
    let b := Calls.after perform {} calls
    (∀ path, Calls.answerOf (perform (.lookup path) b) =
      .ok (.found ((passed calls).find? (·.path == path)))) ∧
    (∀ records, isFrozen calls = false → Calls.answerOf (perform (.register records) b) =
      .ok (.accepted (firsts (passed calls) records))) ∧
    (∀ records, isFrozen calls = true → perform (.register records) b = .error .registrySealed b) ∧
    ∀ r, Calls.answerOf (perform .freeze b) = .ok (.registry r) →
      r = firsts [] (passed calls) ∧ AnsweredBy b r ∧
        AnsweredBy (Calls.after perform {} (calls ++ .freeze :: later)) r := by
  intro b
  have hb : b = ⟨firsts [] (passed calls), isFrozen calls⟩ := after_eq calls
  refine ⟨fun path => ?_, fun records hopen => ?_, fun records hfrozen => ?_, fun r hr => ?_⟩
  · have hlookup : b.lookup path = Registry.lookup (passed calls) path := by
      rw [hb]
      exact Registry.lookup_firsts _ path
    exact congrArg (fun found => Except.ok (Answer.found found)) hlookup
  · simp [hb, hopen, perform, register, Calls.answerOf, Registry.addNew_firsts]
  · simp [hb, hfrozen, perform, register]
  · obtain rfl : b.records = r := by simpa [perform, freeze, Calls.answerOf] using hr
    have hpassed : passed (calls ++ .freeze :: later) = passed calls := by
      have hnothing : passed (.freeze :: later) = [] := rfl
      rw [passed_append, hnothing, ite_self, List.append_nil]
    refine ⟨by rw [hb], .of_eq rfl, .of_eq ?_⟩
    rw [after_eq, hpassed, hb]

/-- Two registrations, the first of which repeats a path. -/
def repeatingCalls : List Call :=
  [.register [⟨"P.a", "./x.js", "a"⟩, ⟨"P.a", "./y.js", "b"⟩], .register [⟨"P.b", "./y.js", "b"⟩]]

/-- A third registration, of a path that is known and of a new one that it repeats, is answered by
the first record of the new path; behind a freeze it is refused, and the registry that was sealed
stays. -/
theorem first_record_wins_repeating :
    let records : List ExportRecord :=
      [⟨"P.b", "./z.js", "c"⟩, ⟨"P.c", "./z.js", "c"⟩, ⟨"P.c", "./x.js", "d"⟩]
    let unsealed := Calls.after perform {} repeatingCalls
    let sealed := Calls.after perform {} (repeatingCalls ++ [.freeze])
    Calls.answerOf (perform (.register records) unsealed) =
      .ok (.accepted [⟨"P.c", "./z.js", "c"⟩]) ∧
    perform (.register records) sealed = .error .registrySealed sealed ∧
    AnsweredBy (Calls.after perform {} (repeatingCalls ++ .freeze :: [.register records, .freeze]))
      [⟨"P.a", "./x.js", "a"⟩, ⟨"P.b", "./y.js", "b"⟩] := by
  intro records unsealed sealed
  obtain ⟨-, hregister, -, hregistry⟩ :=
    first_record_wins repeatingCalls [.register records, .freeze]
  obtain ⟨-, -, hrefused, -⟩ := first_record_wins (repeatingCalls ++ [.freeze]) []
  refine ⟨hregister records rfl, hrefused records rfl, ?_⟩
  exact (hregistry [⟨"P.a", "./x.js", "a"⟩, ⟨"P.b", "./y.js", "b"⟩] rfl).2.2

end RegistryBuilder

end HtmlModules
