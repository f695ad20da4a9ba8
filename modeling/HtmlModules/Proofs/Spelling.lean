import HtmlModules.Proofs.Event

/-!
# What events spell

The texts and comments of events are what stands in the source at their ranges
(`scanEvent_spells`), and the events reach from its beginning to its end without gaps
(`joined_scan`).
-/

namespace HtmlModules

namespace Text

/-! ## Parts of a text -/

theorem toList_slice (s : String) (a b : Nat) :
    (slice s a b).toList = (s.toList.drop a).take (b - a) := by
  rw [slice, String.toList_ofList, List.drop_take]

theorem slice_append_slice {a b c : Nat} (s : String) (hab : a ≤ b) (hbc : b ≤ c) :
    slice s a b ++ slice s b c = slice s a c := by
  apply String.toList_injective
  rw [String.toList_append, toList_slice, toList_slice, toList_slice]
  have hdrop : s.toList.drop b = (s.toList.drop a).drop (b - a) := by
    rw [List.drop_drop, Nat.add_sub_cancel' hab]
  rw [hdrop, ← List.take_add]
  congr 1
  omega

theorem length_slice {s : String} {a b : Nat} (hb : b ≤ s.length) :
    (slice s a b).length = b - a := by
  rw [← String.length_toList, toList_slice, List.length_take, List.length_drop,
    String.length_toList]
  omega

theorem slice_self (s : String) (a : Nat) : slice s a a = "" := by
  apply String.toList_injective
  rw [toList_slice, Nat.sub_self, List.take_zero, String.toList_empty]

theorem slice_zero_length (s : String) : slice s 0 s.length = s := by
  apply String.toList_injective
  rw [toList_slice, List.drop_zero, Nat.sub_zero, ← String.length_toList, List.take_length]

/-- What stands at the beginning of the rest of a text. -/
theorem slice_of_beginning {s : String} {a b : Nat} {part : List Char} (hb : b = a + part.length)
    (h : part <+: s.toList.drop a) : slice s a b = String.ofList part := by
  apply String.toList_injective
  rw [toList_slice, String.toList_ofList, hb, Nat.add_sub_cancel_left]
  exact (List.prefix_iff_eq_take.1 h).symm

/-- A pattern stands where it is found. -/
theorem prefix_of_indexOfChars {pat : List Char} :
    ∀ {cs : List Char} {n : Nat}, indexOfChars pat cs = some n → pat <+: cs.drop n
  | [], n, h => by
    rw [indexOfChars] at h
    split_ifs at h with hpat
    rw [List.isEmpty_iff.1 hpat]
    exact List.nil_prefix
  | c :: cs, n, h => by
    rw [indexOfChars] at h
    split_ifs at h with hpat
    · obtain rfl := Option.some.inj h
      exact List.isPrefixOf_iff_prefix.1 hpat
    · obtain ⟨m, hm, rfl⟩ := Option.map_eq_some_iff.1 h
      rw [List.drop_succ_cons]
      exact prefix_of_indexOfChars hm

end Text

namespace Markup

open Text

variable {source : String} {cs : List Char} {start : Nat} {e : Event}

/-! ## Events -/

/-- The texts in an event from `start` to `stop` are those in the source. -/
def EventKind.Spells (source : String) (start stop : Nat) : EventKind → Prop
  | text s => s = slice source start stop
  | comment data => slice source start stop = "<!--" ++ data ++ "-->"
  | rawElement _ _ innerStart innerStop s => s = slice source innerStart innerStop
  | _ => True

/-- A comment is its data between its marks. -/
theorem comment?_begins {data : List Char} (h : comment? cs = some data) :
    ['<', '!', '-', '-'] ++ data ++ ['-', '-', '>'] <+: cs := by
  unfold comment? at h
  split at h
  · next rest =>
    obtain ⟨n, hindex, rfl⟩ := Option.map_eq_some_iff.1 h
    obtain ⟨more, hmore⟩ := prefix_of_indexOfChars hindex
    refine ⟨more, ?_⟩
    rw [List.append_assoc, List.append_assoc, hmore, List.take_append_drop]
    rfl
  · cases h

theorem rawText_begins (word : List Char) : ∀ cs : List Char, rawText word cs <+: cs
  | [] => List.prefix_rfl
  | c :: cs => by
    rw [rawText]
    split_ifs
    · exact List.nil_prefix
    · exact List.cons_prefix_cons.2 ⟨rfl, rawText_begins word cs⟩

theorem rawRest_spells {word : List Char} {tag : String} {head : TagRest}
    (hcs : source.toList.drop head.stop = cs) (h : rawRest word tag start head cs = .ok e) :
    e.kind.Spells source start e.stop := by
  unfold rawRest at h
  dsimp only at h
  generalize htext : (if (rawClose? word cs).isSome then [] else rawText word cs) = text at h
  have hprefix : text <+: source.toList.drop head.stop := by
    rw [hcs, ← htext]
    split_ifs
    · exact List.nil_prefix
    · exact rawText_begins word cs
  split at h
  · obtain rfl := Except.ok.inj h
    exact (slice_of_beginning rfl hprefix).symm
  · split_ifs at h

/-- The event at the beginning of the rest of a source spells what stands there. -/
theorem scanEvent_spells (hcs : source.toList.drop start = cs) (h : scanEvent start cs = .ok e) :
    e.kind.Spells source start e.stop := by
  unfold scanEvent at h
  split at h
  · next data hdata =>
    obtain rfl := Except.ok.inj h
    have hslice := slice_of_beginning (b := start + data.length + 7)
      (by simp only [List.length_append, List.length_cons, List.length_nil]; omega)
      (hcs ▸ comment?_begins hdata)
    refine hslice.trans (String.toList_injective ?_)
    simp
  split at h
  · obtain rfl := Except.ok.inj h
    trivial
  split at h
  · next word hword =>
    have hle := rawWord?_le hword
    obtain ⟨head, hrest, hraw⟩ := Failing.bind_eq_ok.1 h
    have hstop := tagRest_stop hrest
    refine rawRest_spells ?_ hraw
    rw [← hcs, List.drop_drop]
    congr 1
    omega
  split at h
  · obtain rfl := Except.ok.inj h
    trivial
  split at h
  · obtain ⟨rest, -, hevent⟩ := Failing.bind_eq_ok.1 h
    obtain rfl := Except.ok.inj hevent
    trivial
  dsimp only at h
  split at h
  · obtain rfl := Except.ok.inj h
    exact (slice_of_beginning rfl (hcs ▸ List.prefix_append ['<'] _)).symm
  · obtain rfl := Except.ok.inj h
    exact (slice_of_beginning rfl (hcs ▸ List.takeWhile_prefix _)).symm

/-! ## Texts -/

/-- The events follow each other without gaps from one offset to another, and spell what stands
there. -/
def Joined (source : String) (stop : Nat) : Nat → List Event → Prop
  | offset, [] => offset = stop
  | offset, e :: events =>
    e.Covers offset stop ∧ e.kind.Spells source offset e.stop ∧ Joined source stop e.stop events

theorem joined_scanFrom :
    ∀ {fuel start : Nat} {cs : List Char} {events : List Event}, source.toList.drop start = cs →
      cs.length ≤ fuel → scanFrom fuel start cs = .ok events →
      Joined source (start + cs.length) start events
  | 0, start, cs, _, _, hfuel, h => by
    obtain rfl := Except.ok.inj h
    obtain rfl := List.length_eq_zero_iff.1 (Nat.le_zero.1 hfuel)
    rfl
  | fuel + 1, start, cs, events, hsource, hfuel, h => by
    rw [scanFrom] at h
    split_ifs at h with hcs
    · obtain rfl := Except.ok.inj h
      obtain rfl := List.isEmpty_iff.1 hcs
      rfl
    · obtain ⟨e, hevent, hrest⟩ := Failing.bind_eq_ok.1 h
      obtain ⟨rest, hscan, hevents⟩ := Failing.bind_eq_ok.1 hrest
      obtain rfl := Except.ok.inj hevents
      have hcovers := scanEvent_covers (by simpa using hcs) hevent
      have hlt := hcovers.start_lt
      have hle := hcovers.stop_le
      have hdrop : source.toList.drop e.stop = cs.drop (e.stop - start) := by
        rw [← hsource, List.drop_drop, Nat.add_sub_cancel' (Nat.le_of_lt hlt)]
      have hlimit : e.stop + (cs.drop (e.stop - start)).length = start + cs.length := by
        rw [List.length_drop]
        omega
      have hjoined := joined_scanFrom hdrop (by rw [List.length_drop]; omega) hscan
      exact ⟨hcovers, scanEvent_spells hsource hevent, hlimit ▸ hjoined⟩

/-- The events of a text reach from its beginning to its end. -/
theorem joined_scan {events : List Event} (h : scan source = .ok events) :
    Joined source source.length 0 events := by
  have hjoined := joined_scanFrom List.drop_zero (Nat.le_of_eq String.length_toList) h
  rwa [String.length_toList, Nat.zero_add] at hjoined

end Markup

end HtmlModules
