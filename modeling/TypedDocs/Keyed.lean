/-!
# Keyed lists

Entries under text keys, as a list that is kept in ascending order of keys (code points).
Looking up, writing and erasing are laws of their own, whatever the order of the list:

    get? (insert m k v) k = some v                       (get?_insert_self)
    j ≠ k → get? (insert m k v) j = get? m j             (get?_insert_of_ne)
    get? (erase m k) k = none                            (get?_erase_self)
    j ≠ k → get? (erase m k) j = get? m j                (get?_erase_of_ne)

and each of them keeps the order (`Sorted.insert`, `Sorted.erase`).  Entries that are in order
already are the list that is made of them (`ofEntries_of_sorted`).
-/

namespace TypedDocs

/-- Entries under text keys. -/
abbrev Keyed (α : Type) := List (String × α)

namespace Keyed

variable {α : Type}

/-! ## Algorithm -/

/-- The entry under a key. -/
def get? : Keyed α → String → Option α
  | [], _ => none
  | (k, v) :: rest, key => if k = key then some v else get? rest key

/-- Whether there is an entry under a key. -/
def contains (m : Keyed α) (key : String) : Bool := (get? m key).isSome

/-- Writes an entry: in place of the one under its key, else before the first greater key. -/
def insert : Keyed α → String → α → Keyed α
  | [], key, value => [(key, value)]
  | (k, v) :: rest, key, value =>
    if key = k then (key, value) :: rest
    else if key < k then (key, value) :: (k, v) :: rest
    else (k, v) :: insert rest key value

/-- Removes every entry under a key. -/
def erase (m : Keyed α) (key : String) : Keyed α := m.filter fun entry => entry.1 ≠ key

/-- The keys, in order. -/
def keys (m : Keyed α) : List String := m.map Prod.fst

/-- The entries in order of keys; of entries under one key the last counts. -/
def ofEntries (entries : List (String × α)) : Keyed α :=
  entries.foldl (fun m entry => insert m entry.1 entry.2) []

/-- Writes entries over a list, one after the other. -/
def overlay (m : Keyed α) (entries : List (String × α)) : Keyed α :=
  entries.foldl (fun m entry => insert m entry.1 entry.2) m

/-- The keys ascend strictly. -/
def Sorted (m : Keyed α) : Prop := m.Pairwise fun a b => a.1 < b.1

instance (m : Keyed α) : Decidable (Sorted m) :=
  inferInstanceAs (Decidable (m.Pairwise fun a b => a.1 < b.1))

/-! ## Lemmas -/

@[simp] theorem get?_nil (key : String) : get? ([] : Keyed α) key = none := rfl

@[simp] theorem get?_insert_self (m : Keyed α) (key : String) (value : α) :
    get? (insert m key value) key = some value := by
  induction m with
  | nil => simp [insert, get?]
  | cons e rest ih =>
    obtain ⟨k, v⟩ := e
    simp only [insert]
    split
    · simp [get?]
    · rename_i h
      split
      · simp [get?]
      · simp [get?, Ne.symm h, ih]

theorem get?_insert_of_ne (m : Keyed α) {key other : String} (value : α) (h : other ≠ key) :
    get? (insert m key value) other = get? m other := by
  induction m with
  | nil => simp [insert, get?, h.symm]
  | cons e rest ih =>
    obtain ⟨k, v⟩ := e
    simp only [insert]
    split
    · next hk => subst hk; simp [get?, h.symm]
    · split
      · simp [get?, h.symm]
      · simp [get?, ih]

@[simp] theorem get?_erase_self (m : Keyed α) (key : String) : get? (erase m key) key = none := by
  induction m with
  | nil => rfl
  | cons e rest ih =>
    obtain ⟨k, v⟩ := e
    by_cases h : k = key
    · simpa [erase, h] using ih
    · simpa [erase, get?, h] using ih

theorem get?_erase_of_ne (m : Keyed α) {key other : String} (h : other ≠ key) :
    get? (erase m key) other = get? m other := by
  induction m with
  | nil => rfl
  | cons e rest ih =>
    obtain ⟨k, v⟩ := e
    by_cases hk : k = key
    · subst hk
      simpa [erase, get?, h.symm] using ih
    · have ih' : get? (rest.filter fun entry => !decide (entry.1 = key)) other =
          get? rest other := by
        simpa [erase] using ih
      simp [erase, get?, hk, ih']

theorem get?_insert (m : Keyed α) (key other : String) (value : α) :
    get? (insert m key value) other = if other = key then some value else get? m other := by
  split
  · next h => rw [h, get?_insert_self]
  · next h => rw [get?_insert_of_ne m value h]

theorem get?_erase (m : Keyed α) (key other : String) :
    get? (erase m key) other = if other = key then none else get? m other := by
  split
  · next h => rw [h, get?_erase_self]
  · next h => rw [get?_erase_of_ne m h]

theorem mem_of_get? {m : Keyed α} {key : String} {value : α} (h : get? m key = some value) :
    (key, value) ∈ m := by
  induction m with
  | nil => simp at h
  | cons e rest ih =>
    obtain ⟨k, v⟩ := e
    rw [get?] at h
    split at h
    · next hk =>
      cases h
      rw [hk]
      exact List.mem_cons_self
    · exact List.mem_cons_of_mem _ (ih h)

/-- Where no key comes twice, every entry is the one under its key. -/
theorem get?_of_mem {m : Keyed α} (hn : (m.map Prod.fst).Nodup) {key : String} {value : α}
    (h : (key, value) ∈ m) : get? m key = some value := by
  induction m with
  | nil => cases h
  | cons e rest ih =>
    obtain ⟨k, v⟩ := e
    rw [List.map_cons, List.nodup_cons] at hn
    rw [get?]
    rcases List.mem_cons.1 h with h | h
    · cases h
      rw [if_pos rfl]
    · have hk : k ≠ key := fun hk => hn.1 (List.mem_map.2 ⟨(key, value), h, hk.symm⟩)
      rw [if_neg hk]
      exact ih hn.2 h

theorem Sorted.nodup {m : Keyed α} (h : Sorted m) : (m.map Prod.fst).Nodup := by
  rw [List.nodup_iff_pairwise_ne, List.pairwise_map]
  refine List.Pairwise.imp ?_ h
  intro a b hlt he
  exact String.lt_irrefl b.1 (by rwa [he] at hlt)

theorem Sorted.get?_eq_some_iff {m : Keyed α} (hs : Sorted m) {key : String} {value : α} :
    get? m key = some value ↔ (key, value) ∈ m :=
  ⟨mem_of_get?, get?_of_mem hs.nodup⟩

/-- Writing over an entry changes no key, nor anything else that the old and the new entry have
in common. -/
theorem Sorted.map_insert {β : Type} {m : Keyed α} (hs : Sorted m) {key : String} {old new : α}
    (h : get? m key = some old) (f : α → β) (hf : f new = f old) :
    (insert m key new).map (fun e => (e.1, f e.2)) = m.map (fun e => (e.1, f e.2)) := by
  induction m with
  | nil => simp at h
  | cons e rest ih =>
    obtain ⟨k, v⟩ := e
    rw [get?] at h
    rw [insert]
    by_cases hk : k = key
    · rw [if_pos hk] at h
      cases h
      rw [if_pos hk.symm, List.map_cons, List.map_cons, hf, hk]
    · rw [if_neg hk] at h
      have hlt : k < key := List.rel_of_pairwise_cons hs (mem_of_get? h)
      rw [if_neg (Ne.symm hk), if_neg (String.lt_asymm hlt), List.map_cons, List.map_cons,
        ih (List.Pairwise.of_cons hs) h]

theorem Sorted.insert_eq_self {m : Keyed α} (hs : Sorted m) {key : String} {value : α}
    (h : get? m key = some value) : Keyed.insert m key value = m := by
  simpa using hs.map_insert h id rfl

theorem insert_insert (m : Keyed α) (key : String) (a b : α) :
    insert (insert m key a) key b = insert m key b := by
  induction m with
  | nil => simp [insert]
  | cons e rest ih =>
    obtain ⟨k, v⟩ := e
    by_cases hk : key = k
    · simp [insert, hk]
    · by_cases hlt : key < k
      · simp [insert, hk, hlt]
      · simp [insert, hk, hlt, ih]

theorem mem_insert {m : Keyed α} {key : String} {value : α} {e : String × α}
    (h : e ∈ insert m key value) : e = (key, value) ∨ e ∈ m := by
  induction m with
  | nil => simpa [insert] using h
  | cons a rest ih =>
    obtain ⟨k, v⟩ := a
    simp only [insert] at h
    split at h
    · rcases List.mem_cons.1 h with h | h
      · exact .inl h
      · exact .inr (List.mem_cons_of_mem _ h)
    · split at h
      · rcases List.mem_cons.1 h with h | h
        · exact .inl h
        · exact .inr h
      · rcases List.mem_cons.1 h with h | h
        · exact .inr (h ▸ List.mem_cons_self)
        · rcases ih h with h | h
          · exact .inl h
          · exact .inr (List.mem_cons_of_mem _ h)

theorem Sorted.insert {m : Keyed α} (h : Sorted m) (key : String) (value : α) :
    Sorted (Keyed.insert m key value) := by
  induction m with
  | nil => simp [Keyed.insert, Sorted]
  | cons a rest ih =>
    obtain ⟨k, v⟩ := a
    have hk : ∀ e ∈ rest, k < e.1 := fun e he => List.rel_of_pairwise_cons h he
    have hr : Sorted rest := List.Pairwise.of_cons h
    simp only [Keyed.insert]
    split
    · next e => subst e; exact List.Pairwise.cons hk hr
    · next hne =>
      split
      · next hlt =>
        refine List.Pairwise.cons (fun e he => ?_) h
        rcases List.mem_cons.1 he with rfl | he
        · exact hlt
        · exact String.lt_trans hlt (hk e he)
      · next hnlt =>
        refine List.Pairwise.cons (fun e he => ?_) (ih hr)
        rcases mem_insert he with rfl | he
        · show k < key
          exact Classical.byContradiction fun hc =>
            hne (String.le_antisymm (String.not_lt.1 hc) (String.not_lt.1 hnlt))
        · exact hk e he

theorem Sorted.erase {m : Keyed α} (h : Sorted m) (key : String) : Sorted (Keyed.erase m key) :=
  List.Pairwise.filter _ h

theorem insert_of_lt {m : Keyed α} {key : String} (h : ∀ e ∈ m, e.1 < key) (value : α) :
    insert m key value = m ++ [(key, value)] := by
  induction m with
  | nil => rfl
  | cons a rest ih =>
    obtain ⟨k, v⟩ := a
    have hk : k < key := h (k, v) List.mem_cons_self
    have hne : key ≠ k := fun e => String.lt_irrefl k (e ▸ hk)
    have hge : ¬key < k := fun hlt => String.lt_irrefl k (String.lt_trans hk hlt)
    rw [insert, if_neg hne, if_neg hge, ih fun e he => h e (List.mem_cons_of_mem _ he)]
    rfl

theorem ofEntries_of_sorted {m : Keyed α} (h : Sorted m) : ofEntries m = m := by
  have step (l : List (String × α)) : ∀ m : Keyed α, Sorted (m ++ l) →
      l.foldl (fun m e => insert m e.1 e.2) m = m ++ l := by
    induction l with
    | nil => exact fun m _ => (List.append_nil m).symm
    | cons e l ih =>
      intro m hm
      have hlt : ∀ a ∈ m, a.1 < e.1 := fun a ha =>
        (List.pairwise_append.1 hm).2.2 a ha e List.mem_cons_self
      rw [List.foldl_cons, insert_of_lt hlt, ih _ (by simpa using hm)]
      simp
  exact step m [] h

theorem get?_eq_none_of_not_mem {m : Keyed α} {key : String} (h : key ∉ m.map Prod.fst) :
    get? m key = none := by
  cases hv : get? m key with
  | none => rfl
  | some v => exact absurd (List.mem_map_of_mem (mem_of_get? hv)) h

theorem get?_eq_none_iff {m : Keyed α} {key : String} :
    get? m key = none ↔ key ∉ m.map Prod.fst := by
  refine ⟨fun h hm => ?_, get?_eq_none_of_not_mem⟩
  induction m with
  | nil => cases hm
  | cons e rest ih =>
    obtain ⟨k, v⟩ := e
    rw [get?] at h
    split at h
    · cases h
    · next hk =>
      rcases List.mem_cons.1 hm with he | hm
      · exact hk he.symm
      · exact ih h hm

theorem ne_of_get?_eq_none {m : Keyed α} {key : String} (h : get? m key = none)
    {e : String × α} (he : e ∈ m) : e.1 ≠ key := by
  intro hk
  exact get?_eq_none_iff.1 h (hk ▸ List.mem_map_of_mem he)

theorem mem_keys_iff {m : Keyed α} {key : String} : key ∈ keys m ↔ (get? m key).isSome = true := by
  have hnone : get? m key = none ↔ key ∉ keys m := get?_eq_none_iff
  rw [← Option.ne_none_iff_isSome, Ne, hnone, Classical.not_not]

theorem mem_keys_of_get? {m : Keyed α} {key : String} {value : α} (hg : get? m key = some value) :
    key ∈ keys m := by
  rw [mem_keys_iff, hg]
  rfl

theorem mem_keys_insert {m : Keyed α} {key other : String} {value : α} :
    other ∈ keys (insert m key value) ↔ other = key ∨ other ∈ keys m := by
  rw [mem_keys_iff, mem_keys_iff, get?_insert]
  by_cases ho : other = key
  · simp [ho]
  · simp [ho]

/-- Where no key is written twice, what is written counts, and what was there elsewhere. -/
theorem get?_overlay {entries : List (String × α)} (h : (entries.map Prod.fst).Nodup)
    (m : Keyed α) (key : String) :
    get? (overlay m entries) key = (get? entries key).or (get? m key) := by
  induction entries generalizing m with
  | nil => simp [overlay]
  | cons e rest ih =>
    obtain ⟨k, v⟩ := e
    rw [List.map_cons, List.nodup_cons] at h
    show get? (overlay (insert m k v) rest) key = _
    rw [ih h.2, get?_insert, get?]
    by_cases hk : k = key
    · rw [if_pos hk, if_pos hk.symm, get?_eq_none_of_not_mem (hk ▸ h.1)]
      rfl
    · rw [if_neg hk, if_neg (Ne.symm hk)]

theorem get?_overlay_of_not_mem {entries : List (String × α)} {key : String}
    (h : key ∉ entries.map Prod.fst) (m : Keyed α) :
    get? (overlay m entries) key = get? m key := by
  induction entries generalizing m with
  | nil => rfl
  | cons e rest ih =>
    rw [List.map_cons, List.mem_cons, not_or] at h
    show get? (overlay (insert m e.1 e.2) rest) key = _
    rw [ih h.2, get?_insert_of_ne m e.2 h.1]

theorem Sorted.overlay {m : Keyed α} (h : Sorted m) (entries : List (String × α)) :
    Sorted (Keyed.overlay m entries) := by
  induction entries generalizing m with
  | nil => exact h
  | cons e rest ih => exact ih (h.insert e.1 e.2)

/-- Where no key comes twice, the list made of entries has each of them. -/
theorem get?_ofEntries {entries : List (String × α)} (h : (entries.map Prod.fst).Nodup)
    (key : String) : get? (ofEntries entries) key = get? entries key := by
  show get? (overlay [] entries) key = _
  rw [get?_overlay h, get?_nil, Option.or_none]

theorem mem_overlay {m : Keyed α} {entries : List (String × α)} {e : String × α}
    (h : e ∈ overlay m entries) : e ∈ m ∨ e ∈ entries := by
  induction entries generalizing m with
  | nil => exact .inl h
  | cons a rest ih =>
    rcases ih h with h | h
    · rcases mem_insert h with rfl | h
      · exact .inr List.mem_cons_self
      · exact .inl h
    · exact .inr (List.mem_cons_of_mem _ h)

theorem mem_of_mem_ofEntries {entries : List (String × α)} {e : String × α}
    (h : e ∈ ofEntries entries) : e ∈ entries := by
  rcases mem_overlay h with h | h
  · exact absurd h List.not_mem_nil
  · exact h

theorem sorted_ofEntries (entries : List (String × α)) : Sorted (ofEntries entries) :=
  Sorted.overlay List.Pairwise.nil entries

end Keyed

end TypedDocs
