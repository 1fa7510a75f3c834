/-!
# Dictionaries with text keys

A `Dict α` maps text to values of `α`. Its entries are kept in strictly increasing order of their
keys, so there is one `Dict` for each mapping: two of them are equal as soon as they answer every
look-up alike, and listing one never depends on the order in which it was filled. Keys compare by
code point, which is also the order of their UTF-8 bytes.
-/

namespace JobLauncher

/-- Of two texts, one comes first or they are the same. -/
theorem text_trichotomy (a b : String) : a < b ∨ a = b ∨ b < a := by
  by_cases h₁ : a < b
  · exact .inl h₁
  · by_cases h₂ : b < a
    · exact .inr (.inr h₂)
    · exact .inr (.inl (String.le_antisymm (String.not_lt.mp h₂) (String.not_lt.mp h₁)))

/-- A finite map from text, its entries in strictly increasing key order. -/
structure Dict (α : Type u) where
  entries : List (String × α)
  sorted : entries.Pairwise (fun a b => a.1 < b.1)

namespace Dict

variable {α : Type u} {β : Type v}

instance [DecidableEq α] : DecidableEq (Dict α) := fun a b =>
  if h : a.entries = b.entries then isTrue (by cases a; cases b; simp_all)
  else isFalse (fun e => h (congrArg entries e))

@[ext] theorem ext {a b : Dict α} (h : a.entries = b.entries) : a = b := by
  cases a; cases b; simp_all

/-- The dictionary without entries. -/
def empty : Dict α := ⟨[], .nil⟩

instance : Inhabited (Dict α) := ⟨empty⟩

/-- The entries in increasing key order. -/
def toList (d : Dict α) : List (String × α) := d.entries

/-- The keys in increasing order. -/
def keys (d : Dict α) : List String := d.entries.map (·.1)

def isEmpty (d : Dict α) : Bool := d.entries.isEmpty

/-- The value stored under `k`. -/
def get? (d : Dict α) (k : String) : Option α := d.entries.lookup k

def contains (d : Dict α) (k : String) : Bool := (d.get? k).isSome

/-- Puts an entry in its place in a sorted list; an entry with the same key gives way. -/
def insertEntry (k : String) (v : α) : List (String × α) → List (String × α)
  | [] => [(k, v)]
  | (k', v') :: rest =>
    if k < k' then (k, v) :: (k', v') :: rest
    else if k = k' then (k, v) :: rest
    else (k', v') :: insertEntry k v rest

theorem mem_insertEntry {k : String} {v : α} {l : List (String × α)} {e : String × α}
    (h : e ∈ insertEntry k v l) : e = (k, v) ∨ e ∈ l := by
  induction l with
  | nil => simpa [insertEntry] using h
  | cons x rest ih =>
    obtain ⟨k', v'⟩ := x
    simp only [insertEntry] at h
    split at h
    · simpa using h
    · split at h
      · rcases List.mem_cons.mp h with h | h
        · exact .inl h
        · exact .inr (List.mem_cons_of_mem _ h)
      · rcases List.mem_cons.mp h with h | h
        · exact .inr (h ▸ List.mem_cons_self ..)
        · exact (ih h).imp id (List.mem_cons_of_mem _)

theorem sorted_insertEntry (k : String) (v : α) {l : List (String × α)}
    (h : l.Pairwise (fun a b => a.1 < b.1)) :
    (insertEntry k v l).Pairwise (fun a b => a.1 < b.1) := by
  induction l with
  | nil => simp [insertEntry]
  | cons x rest ih =>
    obtain ⟨k', v'⟩ := x
    have hrest := List.pairwise_cons.mp h
    simp only [insertEntry]
    split
    next hlt =>
      refine List.pairwise_cons.mpr ⟨fun e he => ?_, h⟩
      rcases List.mem_cons.mp he with rfl | he
      · exact hlt
      · exact String.lt_trans hlt (hrest.1 e he)
    next hnlt =>
      split
      next heq =>
        subst heq
        exact List.pairwise_cons.mpr ⟨hrest.1, hrest.2⟩
      next hne =>
        refine List.pairwise_cons.mpr ⟨fun e he => ?_, ih hrest.2⟩
        rcases mem_insertEntry he with rfl | he
        · exact ((text_trichotomy k k').resolve_left hnlt).resolve_left hne
        · exact hrest.1 e he

/-- The dictionary with `v` under `k`, whatever was there before. -/
def insert (d : Dict α) (k : String) (v : α) : Dict α :=
  ⟨insertEntry k v d.entries, sorted_insertEntry k v d.sorted⟩

/-- Keeps an entry that is already there. -/
def insertNew (d : Dict α) (k : String) (v : α) : Dict α :=
  if d.contains k then d else d.insert k v

/-- Enters the pairs one after another, so the last of several values for a key stays. -/
def insertAll (d : Dict α) (pairs : List (String × α)) : Dict α :=
  pairs.foldl (fun d p => d.insert p.1 p.2) d

/-- The dictionary of a list of pairs, the last value for each key. -/
def ofList (pairs : List (String × α)) : Dict α := empty.insertAll pairs

/-- The same keys with every value changed by `f`. -/
def map (f : α → β) (d : Dict α) : Dict β :=
  ⟨d.entries.map (fun e => (e.1, f e.2)), by
    simpa [List.pairwise_map] using d.sorted⟩

/-! ## Look-ups -/

theorem lookup_cons_if (k k₁ : String) (v₁ : α) (rest : List (String × α)) :
    ((k₁, v₁) :: rest).lookup k = if k = k₁ then some v₁ else rest.lookup k := by
  by_cases h : k = k₁
  · simp [h]
  · simp only [List.lookup_cons, beq_eq_false_iff_ne.mpr h, if_neg h]

theorem lookup_insertEntry (k : String) (v : α) (l : List (String × α)) (k' : String)
    (h : l.Pairwise (fun a b => a.1 < b.1)) :
    (insertEntry k v l).lookup k' = if k' = k then some v else l.lookup k' := by
  induction l with
  | nil => rw [insertEntry, lookup_cons_if]
  | cons x rest ih =>
    obtain ⟨k₁, v₁⟩ := x
    have hrest := List.pairwise_cons.mp h
    simp only [insertEntry]
    split
    · rw [lookup_cons_if]
    · split
      next heq =>
        subst heq
        rw [lookup_cons_if, lookup_cons_if]
        split <;> rfl
      next hne =>
        rw [lookup_cons_if, lookup_cons_if, ih hrest.2]
        by_cases hk₁ : k' = k₁
        · have : k' ≠ k := fun e => hne (e ▸ hk₁)
          simp [hk₁ ▸ this, hk₁]
        · simp [hk₁]

@[simp] theorem get?_empty (k : String) : (empty : Dict α).get? k = none := rfl

theorem get?_insert (d : Dict α) (k : String) (v : α) (k' : String) :
    (d.insert k v).get? k' = if k' = k then some v else d.get? k' :=
  lookup_insertEntry k v d.entries k' d.sorted

theorem get?_insertNew (d : Dict α) (k : String) (v : α) (k' : String) :
    (d.insertNew k v).get? k' = (d.get? k').or (if k' = k then some v else none) := by
  unfold insertNew contains
  by_cases hk : k' = k
  · subst hk
    cases hd : d.get? k' with
    | none => simp [get?_insert]
    | some w => simp [hd]
  · rw [if_neg hk, Option.or_none]
    split
    · rfl
    · rw [get?_insert, if_neg hk]

/-- Entries that are added one after another do not replace each other either. -/
theorem get?_foldl_insertNew (l : List (String × α)) (d : Dict α) (k : String) :
    (l.foldl (fun d e => d.insertNew e.1 e.2) d).get? k = (d.get? k).or (l.lookup k) := by
  induction l generalizing d with
  | nil => rw [List.foldl_nil, List.lookup_nil, Option.or_none]
  | cons e rest ih =>
    rw [List.foldl_cons, ih, get?_insertNew, lookup_cons_if, Option.or_assoc]
    congr 1
    split <;> rfl

theorem lookup_map {κ : Type w} [BEq κ] (f : α → β) (k : κ) (l : List (κ × α)) :
    (l.map fun e => (e.1, f e.2)).lookup k = (l.lookup k).map f := by
  induction l with
  | nil => rfl
  | cons e rest ih =>
    rw [List.map_cons, List.lookup_cons, List.lookup_cons, ih]
    split <;> rfl

theorem get?_map (f : α → β) (d : Dict α) (k : String) : (d.map f).get? k = (d.get? k).map f :=
  lookup_map f k d.entries

/-! ## Listing and filling -/

/-- An entry whose key comes last is put at the end. -/
theorem insertEntry_of_lt {k : String} (v : α) {l : List (String × α)} (h : ∀ e ∈ l, e.1 < k) :
    insertEntry k v l = l ++ [(k, v)] := by
  induction l with
  | nil => rfl
  | cons x rest ih =>
    obtain ⟨k', v'⟩ := x
    have hlt : k' < k := h (k', v') List.mem_cons_self
    have hrest := ih fun e he => h e (List.mem_cons_of_mem _ he)
    rw [insertEntry, if_neg (String.lt_asymm hlt), if_neg (String.ne_of_lt hlt).symm, hrest]
    rfl

/-- Pairs that come in key order after what is there already are listed after it. -/
theorem entries_insertAll {pairs : List (String × α)} {d : Dict α}
    (h : (d.entries ++ pairs).Pairwise (fun a b => a.1 < b.1)) :
    (d.insertAll pairs).entries = d.entries ++ pairs := by
  induction pairs generalizing d with
  | nil => exact (List.append_nil _).symm
  | cons p rest ih =>
    obtain ⟨-, -, hbefore⟩ := List.pairwise_append.mp h
    have hone : (d.insert p.1 p.2).entries = d.entries ++ [p] :=
      insertEntry_of_lt p.2 fun e he => hbefore e he p List.mem_cons_self
    have hsplit : d.entries ++ p :: rest = (d.insert p.1 p.2).entries ++ rest := by
      rw [hone, List.append_assoc]
      rfl
    rw [hsplit] at h ⊢
    exact ih h

theorem nodup_keys (d : Dict α) : d.keys.Nodup :=
  (List.pairwise_map.mpr d.sorted).imp String.ne_of_lt

/-- Listing a dictionary shows what looking up finds. -/
theorem mem_toList_iff {d : Dict α} {k : String} {v : α} :
    (k, v) ∈ d.toList ↔ d.get? k = some v := by
  unfold get? toList
  rw [List.lookup_eq_some_iff]
  constructor
  · intro h
    obtain ⟨before, after, hsplit⟩ := List.append_of_mem h
    have hsorted := d.sorted
    rw [hsplit] at hsorted
    obtain ⟨-, -, hbefore⟩ := List.pairwise_append.mp hsorted
    refine ⟨before, after, hsplit, fun e he => bne_iff_ne.mpr ?_⟩
    exact (String.ne_of_lt (hbefore e he (k, v) List.mem_cons_self)).symm
  · rintro ⟨before, after, hsplit, -⟩
    rw [hsplit]
    exact List.mem_append_right before List.mem_cons_self

theorem mem_keys_iff {d : Dict α} {k : String} : k ∈ d.keys ↔ d.get? k ≠ none := by
  rw [Option.ne_none_iff_exists', keys, List.mem_map]
  constructor
  · rintro ⟨e, he, rfl⟩
    exact ⟨e.2, mem_toList_iff.mp he⟩
  · rintro ⟨v, hv⟩
    exact ⟨(k, v), mem_toList_iff.mpr hv, rfl⟩

/-- In a list with different keys, looking a key up finds all there is for it. -/
theorem filter_key_eq_lookup {l : List (String × α)} (h : (l.map (·.1)).Nodup) (k : String) :
    l.filter (·.1 == k) = ((l.lookup k).map fun v => (k, v)).toList := by
  induction l with
  | nil => rfl
  | cons x rest ih =>
    obtain ⟨k', v'⟩ := x
    obtain ⟨hnew, hrest⟩ := List.nodup_cons.mp h
    rw [List.filter_cons, lookup_cons_if]
    by_cases hk : k = k'
    · subst hk
      have hnone : rest.filter (·.1 == k) = [] := by
        refine List.filter_eq_nil_iff.mpr fun e he heq => ?_
        rw [← beq_iff_eq.mp heq] at hnew
        exact hnew (List.mem_map_of_mem (f := (·.1)) he)
      simp [hnone]
    · have hk' : (k' == k) = false := beq_false_of_ne (Ne.symm hk)
      simp [hk, hk', ih hrest]

/-- The entries of a dictionary under a key are what looking up finds. -/
theorem filter_toList (d : Dict α) (k : String) :
    d.toList.filter (·.1 == k) = ((d.get? k).map fun v => (k, v)).toList :=
  filter_key_eq_lookup d.nodup_keys k

theorem get?_insertAll (pairs : List (String × α)) (d : Dict α) (k : String) :
    (d.insertAll pairs).get? k = (pairs.reverse.lookup k).or (d.get? k) := by
  induction pairs generalizing d with
  | nil => rfl
  | cons p rest ih =>
    have hcons : d.insertAll (p :: rest) = (d.insert p.1 p.2).insertAll rest := rfl
    rw [hcons, ih, get?_insert, List.reverse_cons, List.lookup_append, lookup_cons_if,
      List.lookup_nil, Option.or_assoc]
    congr 1
    split <;> rfl

/-- Of several values for a key, the last stays. -/
theorem get?_ofList (pairs : List (String × α)) (k : String) :
    (ofList pairs).get? k = pairs.reverse.lookup k := by
  rw [ofList, get?_insertAll, get?_empty, Option.or_none]

theorem get?_ofList_eq_some_iff {pairs : List (String × α)} {k : String} {v : α} :
    (ofList pairs).get? k = some v ↔
      ∃ before after, pairs = before ++ (k, v) :: after ∧ ∀ p ∈ after, p.1 ≠ k := by
  rw [get?_ofList, List.lookup_eq_some_iff]
  constructor
  · rintro ⟨after, before, hsplit, hafter⟩
    refine ⟨before.reverse, after.reverse, ?_, fun p hp => ?_⟩
    · rw [← List.reverse_inj, hsplit]
      simp
    · exact (bne_iff_ne.mp (hafter p (List.mem_reverse.mp hp))).symm
  · rintro ⟨before, after, rfl, hafter⟩
    refine ⟨after.reverse, before.reverse, by simp, fun p hp => ?_⟩
    exact bne_iff_ne.mpr (hafter p (List.mem_reverse.mp hp)).symm

/-- A dictionary is what its list makes again. -/
theorem ofList_toList (d : Dict α) : ofList d.toList = d :=
  Dict.ext (entries_insertAll d.sorted)

/-! ## Equality -/

theorem nodup_entries (d : Dict α) : d.entries.Nodup :=
  d.sorted.imp fun hlt heq => String.ne_of_lt hlt (congrArg Prod.fst heq)

/-- There is one dictionary for each mapping. -/
theorem ext_get? {a b : Dict α} (h : ∀ k, a.get? k = b.get? k) : a = b := by
  have hmem (e : String × α) : e ∈ a.entries ↔ e ∈ b.entries := by
    show e ∈ a.toList ↔ e ∈ b.toList
    rw [mem_toList_iff, mem_toList_iff, h]
  have hperm : a.entries.Perm b.entries :=
    (List.perm_ext_iff_of_nodup a.nodup_entries b.nodup_entries).mpr hmem
  have hantisymm (x y : String × α) (_ : x ∈ a.entries) (_ : y ∈ b.entries) (hxy : x.1 < y.1)
      (hyx : y.1 < x.1) : x = y := absurd hyx (String.lt_asymm hxy)
  exact Dict.ext (hperm.eq_of_pairwise hantisymm a.sorted b.sorted)

theorem map_insert (f : α → β) (d : Dict α) (k : String) (v : α) :
    (d.insert k v).map f = (d.map f).insert k (f v) := by
  refine ext_get? fun k' => ?_
  rw [get?_map, get?_insert, get?_insert, get?_map]
  split
  · rfl
  · rfl

/-- What is there already need not be put there. -/
theorem insert_eq_self {d : Dict α} {k : String} {v : α} (h : d.get? k = some v) :
    d.insert k v = d := by
  refine ext_get? fun k' => ?_
  rw [get?_insert]
  split
  next heq => rw [heq, h]
  next => rfl

end Dict

end JobLauncher
