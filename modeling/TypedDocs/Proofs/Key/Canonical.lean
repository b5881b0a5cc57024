import TypedDocs.Key

/-!
# Keys and the texts they are stored under

A key is read back from its stored text exactly when some text denotes it at all: no bar stands in
its name, and no tilde in its mixin.  Every text denotes a key; what is stored for this key is the
canonical form of the text, which denotes the same key and differs from the text only in the dots
behind the first bar.

    parse (wire k) = k ↔ k.Denoted                                          (parse_wire_iff)
    parse (wire (parse w)) = parse w                                        (parse_wire_parse)
    (wire (parse w)).toList[i]? = w.toList[i]?.map
      fun c => if c = '.' ∧ '|' ∈ w.toList.take i then '~' else c           (getElem?_wire_parse)
-/

namespace TypedDocs.Key

/-! ## Definition -/

/-- No bar stands in the name of the key, and no tilde in its mixin. -/
structure Denoted (k : Key) : Prop where
  barless : '|' ∉ k.name.toList
  tildeless : ∀ mixin, k.mixin? = some mixin → '~' ∉ mixin.toList

/-! ## Replaced characters -/

theorem getElem?_replaceChar (old new : Char) (cs : List Char) (i : Nat) :
    (replaceChar old new cs)[i]? = cs[i]?.map fun c => if c = old then new else c :=
  List.getElem?_map

/-- What was put for a character is put back for it. -/
theorem replaceChar_undone (old new : Char) (cs : List Char) :
    replaceChar old new (replaceChar new old cs) = replaceChar old new cs := by
  simp only [replaceChar, List.map_map]
  refine List.map_congr_left fun c _ => ?_
  by_cases hc : c = new
  · simp [hc]
  · simp [hc]

theorem not_mem_replaceChar {old new : Char} (hne : new ≠ old) (cs : List Char) :
    old ∉ replaceChar old new cs := by
  intro hm
  obtain ⟨c, -, hc⟩ := List.mem_map.1 hm
  by_cases ho : c = old
  · rw [if_pos ho] at hc
    exact hne hc
  · rw [if_neg ho] at hc
    exact ho hc

/-! ## Reading -/

theorem parse_of_split {w : String} {before after : List Char} (hbefore : '|' ∉ before)
    (hw : w.toList = before ++ '|' :: after) :
    parse w = .qualified (String.ofList before) (String.ofList (replaceChar tilde '.' after)) := by
  have hsplit : splitBar w.toList = some (before, after) := by
    rw [hw]
    exact splitBar_append hbefore after
  rw [parse, hsplit]

/-- A text without a bar denotes its name; any other one is split at its first bar. -/
theorem parse_cases (w : String) :
    ('|' ∉ w.toList ∧ parse w = .plain w) ∨
      ∃ before after, '|' ∉ before ∧ w.toList = before ++ '|' :: after := by
  by_cases hbar : '|' ∈ w.toList
  · obtain ⟨before, after, hw, hbefore⟩ := List.eq_append_cons_of_mem hbar
    exact .inr ⟨before, after, hbefore, hw⟩
  · refine .inl ⟨hbar, ?_⟩
    rw [parse, splitBar_eq_none hbar]

theorem denoted_parse (w : String) : (parse w).Denoted := by
  rcases parse_cases w with ⟨hbar, hp⟩ | ⟨before, after, hbefore, hw⟩
  · rw [hp]
    exact ⟨hbar, fun mixin hm => by cases hm⟩
  · rw [parse_of_split hbefore hw]
    refine ⟨?_, fun mixin hm => ?_⟩
    · rw [name, String.toList_ofList]
      exact hbefore
    · cases hm
      rw [String.toList_ofList]
      exact not_mem_replaceChar (by decide) after

theorem Denoted.parse_wire {k : Key} (hk : k.Denoted) : parse k.wire = k := by
  cases k with
  | plain name => exact parse_wire_plain hk.barless
  | qualified name mixin => exact parse_wire_qualified hk.barless (hk.tildeless mixin rfl)

/-- The keys that are read back are those that are read at all. -/
theorem parse_wire_iff {k : Key} : parse k.wire = k ↔ k.Denoted := by
  constructor
  · intro hk
    rw [← hk]
    exact denoted_parse k.wire
  · exact Denoted.parse_wire

theorem parse_wire_parse (w : String) : parse (parse w).wire = parse w :=
  (denoted_parse w).parse_wire

/-! ## Canonical texts -/

theorem toList_wire_parse {w : String} {before after : List Char} (hbefore : '|' ∉ before)
    (hw : w.toList = before ++ '|' :: after) :
    (parse w).wire.toList = before ++ '|' :: replaceChar '.' tilde after := by
  rw [parse_of_split hbefore hw]
  simp only [wire, String.toList_ofList, replaceChar_undone, bar]

/-- The canonical text of a text has a tilde for each dot behind the first bar, and is else the
text. -/
theorem getElem?_wire_parse (w : String) (i : Nat) :
    (parse w).wire.toList[i]? =
      w.toList[i]?.map fun c => if c = '.' ∧ '|' ∈ w.toList.take i then '~' else c := by
  rcases parse_cases w with ⟨hbar, hp⟩ | ⟨before, after, hbefore, hw⟩
  · have hnone : '|' ∉ w.toList.take i := fun hm => hbar (List.mem_of_mem_take hm)
    simp [hp, wire, hnone]
  · rw [toList_wire_parse hbefore hw, hw]
    rcases Nat.lt_or_ge i before.length with hlt | hge
    · have hnone : '|' ∉ (before ++ '|' :: after).take i := by
        rw [List.take_append_of_le_length (Nat.le_of_lt hlt)]
        exact fun hm => hbefore (List.mem_of_mem_take hm)
      rw [List.getElem?_append_left hlt, List.getElem?_append_left hlt]
      simp [hnone]
    · obtain ⟨j, rfl⟩ := Nat.exists_eq_add_of_le hge
      rw [List.getElem?_append_right hge, List.getElem?_append_right hge,
        Nat.add_sub_cancel_left]
      cases j with
      | zero => simp
      | succ j =>
        have hmem : '|' ∈ (before ++ '|' :: after).take (before.length + (j + 1)) := by
          simp [List.take_append]
        rw [List.getElem?_cons_succ, List.getElem?_cons_succ, getElem?_replaceChar]
        simp [hmem, tilde]

theorem wire_parse_eq_self_iff (w : String) :
    (parse w).wire = w ↔ ∀ i, '|' ∈ w.toList.take i → w.toList[i]? ≠ some '.' := by
  rw [← String.toList_inj, List.ext_getElem?_iff]
  refine forall_congr' fun i => ?_
  rw [getElem?_wire_parse]
  cases hc : w.toList[i]? with
  | none => simp
  | some c =>
    by_cases hdot : c = '.'
    · simp [hdot]
    · simp [hdot]

/-! ## Main statement -/

/-- A key is read back exactly when no bar stands in its name and no tilde in its mixin.  What is
stored for the key that a text denotes has a tilde for each dot behind the first bar of the text and
is else the text; it denotes the same key, and so it is canonical already. -/
theorem canonical_wire :
    (∀ k : Key, parse k.wire = k ↔ k.Denoted) ∧
    ∀ w : String,
      parse (parse w).wire = parse w ∧
      (∀ i : Nat, (parse w).wire.toList[i]? =
        w.toList[i]?.map fun c => if c = '.' ∧ '|' ∈ w.toList.take i then '~' else c) ∧
      ((parse w).wire = w ↔ ∀ i : Nat, '|' ∈ w.toList.take i → w.toList[i]? ≠ some '.') ∧
      (parse (parse w).wire).wire = (parse w).wire := by
  refine ⟨fun k => parse_wire_iff, fun w => ?_⟩
  have hsame := parse_wire_parse w
  exact ⟨hsame, getElem?_wire_parse w, wire_parse_eq_self_iff w, congrArg wire hsame⟩

/-- The dots before the first bar are kept, and a second bar belongs to the mixin. -/
example : (parse "a.b|c.d~e|f").wire = "a.b|c~d~e|f" := by decide

end TypedDocs.Key
