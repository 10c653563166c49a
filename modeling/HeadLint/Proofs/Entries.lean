import HeadLint.Entries
import Mathlib.Data.List.Induction
import Mathlib.Data.List.Nodup
import Mathlib.Tactic.Tauto

/-!
Mappings that keep the first value of each name.  The attributes of a tag and the ranges of their
values are both kept in this way.
-/

namespace HeadLint.Entries

variable {α : Type}

/-! ## Setting a value -/

theorem put_append_of_mem {key : String} {entries : Entries α} (value : α) (more : Entries α)
    (h : key ∈ keys entries) : put key value (entries ++ more) = put key value entries ++ more := by
  induction entries with
  | nil => cases h
  | cons entry rest ih =>
    obtain ⟨k, v⟩ := entry
    rw [List.cons_append, put, put]
    split
    · rfl
    · rename_i hk
      have hmem : key ∈ keys rest := by
        rcases List.mem_cons.1 h with heq | hmem
        · exact absurd heq.symm hk
        · exact hmem
      rw [ih hmem, List.cons_append]

theorem put_append_of_not_mem {key : String} {entries : Entries α} (value : α) (more : Entries α)
    (h : key ∉ keys entries) : put key value (entries ++ more) = entries ++ put key value more := by
  induction entries with
  | nil => rfl
  | cons entry rest ih =>
    obtain ⟨k, v⟩ := entry
    rw [keys, List.map_cons, List.mem_cons, not_or] at h
    rw [List.cons_append, put, if_neg (Ne.symm h.1), ih h.2, List.cons_append]

-- A look-up finds only what is there.
theorem mem_of_get? {key : String} {value : α} {entries : Entries α}
    (h : get? key entries = some value) : (key, value) ∈ entries := by
  obtain ⟨⟨k, v⟩, hfind, rfl⟩ := Option.map_eq_some_iff.1 h
  have hk : k = key := by simpa using List.find?_some hfind
  rw [← hk]
  exact List.mem_of_find?_eq_some hfind

/-! ## First values -/

/-- Takes an entry in, unless its name is taken. -/
def add (kept : Entries α) (entry : String × α) : Entries α :=
  if has entry.1 kept then kept else kept ++ [entry]

/-- The first entry of each name. -/
def firsts (entries : List (String × α)) : Entries α :=
  entries.foldl add []

theorem add_of_mem {kept : Entries α} {entry : String × α} (h : entry.1 ∈ keys kept) :
    add kept entry = kept := by
  rw [add, if_pos (by rwa [has_iff_mem_keys])]

theorem add_of_not_mem {kept : Entries α} {entry : String × α} (h : entry.1 ∉ keys kept) :
    add kept entry = kept ++ [entry] := by
  rw [add, if_neg (by rwa [has_iff_mem_keys])]

theorem mem_keys_add {k : String} {kept : Entries α} {entry : String × α} :
    k ∈ keys (add kept entry) ↔ k = entry.1 ∨ k ∈ keys kept := by
  by_cases h : entry.1 ∈ keys kept
  · rw [add_of_mem h]
    constructor
    · exact .inr
    · rintro (rfl | hmem)
      · exact h
      · exact hmem
  · rw [add_of_not_mem h]
    simp [keys, or_comm]

theorem mem_keys_foldl_add {k : String} (entries : List (String × α)) (kept : Entries α) :
    k ∈ keys (entries.foldl add kept) ↔ k ∈ entries.map (·.1) ∨ k ∈ keys kept := by
  induction entries generalizing kept with
  | nil => simp
  | cons entry rest ih =>
    rw [List.foldl_cons, ih, mem_keys_add, List.map_cons, List.mem_cons]
    tauto

theorem nodup_keys_firsts (entries : List (String × α)) : (keys (firsts entries)).Nodup := by
  have hstep : ∀ (entries : List (String × α)) (kept : Entries α), (keys kept).Nodup →
      (keys (entries.foldl add kept)).Nodup := by
    intro entries
    induction entries with
    | nil => intro kept h; exact h
    | cons entry rest ih =>
      intro kept h
      rw [List.foldl_cons]
      apply ih
      by_cases hmem : entry.1 ∈ keys kept
      · rwa [add_of_mem hmem]
      · rw [add_of_not_mem hmem, keys, List.map_append]
        exact List.nodup_append_comm.1 (List.nodup_cons.2 ⟨hmem, h⟩)
  exact hstep entries [] List.nodup_nil

-- Entries with distinct names are all kept.
theorem firsts_of_nodup {entries : List (String × α)} (h : (entries.map (·.1)).Nodup) :
    firsts entries = entries := by
  have hstep : ∀ (entries : List (String × α)) (kept : Entries α), (entries.map (·.1)).Nodup →
      (∀ entry ∈ entries, entry.1 ∉ keys kept) → entries.foldl add kept = kept ++ entries := by
    intro entries
    induction entries with
    | nil => simp
    | cons entry rest ih =>
      intro kept hnodup hnew
      rw [List.map_cons, List.nodup_cons] at hnodup
      rw [List.foldl_cons, add_of_not_mem (hnew entry (List.mem_cons_self ..)), ih _ hnodup.2,
        List.append_assoc, List.singleton_append]
      intro other hother
      have hkept := hnew other (List.mem_cons_of_mem _ hother)
      have hne : other.1 ≠ entry.1 := fun heq => hnodup.1 (heq ▸ List.mem_map_of_mem hother)
      simpa [keys, hne] using hkept
  have hall := hstep entries [] h (by simp [keys])
  rwa [List.nil_append] at hall

-- Nothing is kept that is not there.
theorem mem_of_mem_firsts {entry : String × α} {entries : List (String × α)}
    (h : entry ∈ firsts entries) : entry ∈ entries := by
  have hstep : ∀ (entries : List (String × α)) (kept : Entries α),
      entry ∈ entries.foldl add kept → entry ∈ kept ∨ entry ∈ entries := by
    intro entries
    induction entries with
    | nil => intro kept hmem; exact .inl hmem
    | cons other rest ih =>
      intro kept hmem
      rw [List.foldl_cons] at hmem
      rcases ih _ hmem with hkept | hrest
      · by_cases hother : other.1 ∈ keys kept
        · rw [add_of_mem hother] at hkept
          exact .inl hkept
        · rw [add_of_not_mem hother] at hkept
          rcases List.mem_append.1 hkept with hold | hnew
          · exact .inl hold
          · rw [List.mem_singleton.1 hnew]
            exact .inr (List.mem_cons_self ..)
      · exact .inr (List.mem_cons_of_mem _ hrest)
  rcases hstep entries [] h with hnil | hmem
  · cases hnil
  · exact hmem

-- What is kept stands in the order of the entries.
theorem firsts_sublist (entries : List (String × α)) : (firsts entries).Sublist entries := by
  have hstep : ∀ (entries : List (String × α)) (kept : Entries α),
      (entries.foldl add kept).Sublist (kept ++ entries) := by
    intro entries
    induction entries with
    | nil => intro kept; rw [List.append_nil]; exact List.Sublist.refl kept
    | cons entry rest ih =>
      intro kept
      rw [List.foldl_cons]
      by_cases hmem : entry.1 ∈ keys kept
      · rw [add_of_mem hmem]
        exact (ih kept).trans (List.Sublist.append_left (List.sublist_cons_self entry rest) kept)
      · have hrest := ih (kept ++ [entry])
        rwa [List.append_assoc, List.singleton_append, ← add_of_not_mem hmem] at hrest
  exact hstep entries []

theorem get?_append (key : String) (entries more : Entries α) :
    get? key (entries ++ more) = (get? key entries).or (get? key more) := by
  simp only [get?, List.find?_append, Option.map_or]

theorem get?_eq_none_iff {key : String} {entries : Entries α} :
    get? key entries = none ↔ key ∉ entries.map (·.1) := by
  simp only [get?, Option.map_eq_none_iff, List.find?_eq_none, beq_iff_eq, List.mem_map, not_exists,
    not_and]

theorem has_eq_isSome (key : String) (entries : Entries α) :
    has key entries = (get? key entries).isSome := by
  rw [get?, Option.isSome_map, List.isSome_find?, has]

-- A look-up finds the first entry of a name anyway.
theorem get?_firsts (key : String) (entries : List (String × α)) :
    get? key (firsts entries) = get? key entries := by
  have hadd : ∀ (kept : Entries α) (entry : String × α),
      get? key (add kept entry) = get? key (kept ++ [entry]) := by
    intro kept entry
    by_cases hmem : entry.1 ∈ keys kept
    · rw [add_of_mem hmem, get?_append]
      by_cases hkey : entry.1 = key
      · rw [hkey] at hmem
        cases hget : get? key kept with
        | none => exact absurd hmem (get?_eq_none_iff.1 hget)
        | some value => rfl
      · have hnone : get? key [entry] = none := get?_eq_none_iff.2 (by simpa using Ne.symm hkey)
        rw [hnone, Option.or_none]
    · rw [add_of_not_mem hmem]
  have hfold : ∀ (entries : List (String × α)) (kept : Entries α),
      get? key (entries.foldl add kept) = get? key (kept ++ entries) := by
    intro entries
    induction entries with
    | nil => intro kept; rw [List.foldl_nil, List.append_nil]
    | cons entry rest ih =>
      intro kept
      rw [List.foldl_cons, ih, get?_append, hadd, ← get?_append, List.append_assoc,
        List.singleton_append]
  exact hfold entries []

-- With distinct names every entry is found.
theorem get?_of_mem {key : String} {value : α} {entries : Entries α}
    (hnodup : (keys entries).Nodup) (h : (key, value) ∈ entries) :
    get? key entries = some value := by
  obtain ⟨before, behind, rfl⟩ := List.append_of_mem h
  have hbefore : key ∉ before.map (·.1) := by
    intro hmem
    rw [keys, List.map_append, List.map_cons] at hnodup
    exact (List.nodup_append.1 hnodup).2.2 key hmem key (List.mem_cons_self ..) rfl
  rw [get?_append, get?_eq_none_iff.2 hbefore, Option.none_or]
  simp [get?]

/-! ## Changed values -/

theorem get?_map {β : Type} (f : α → β) (key : String) (entries : Entries α) :
    get? key (entries.map fun entry => (entry.1, f entry.2)) = (get? key entries).map f := by
  simp only [get?, List.find?_map, Option.map_map]
  rfl

-- Which entries are kept depends on the names alone.
theorem firsts_map {β : Type} (f : α → β) (entries : List (String × α)) :
    firsts (entries.map fun entry => (entry.1, f entry.2)) =
      (firsts entries).map fun entry => (entry.1, f entry.2) := by
  have hkeys : ∀ kept : Entries α, keys (kept.map fun entry => (entry.1, f entry.2)) = keys kept :=
    fun kept => by simp only [keys, List.map_map, Function.comp_def]
  have hadd : ∀ (kept : Entries α) (entry : String × α),
      add (kept.map fun entry => (entry.1, f entry.2)) (entry.1, f entry.2) =
        (add kept entry).map fun entry => (entry.1, f entry.2) := by
    intro kept entry
    by_cases hmem : entry.1 ∈ keys kept
    · rw [add_of_mem hmem, add_of_mem (by rwa [hkeys])]
    · rw [add_of_not_mem hmem, add_of_not_mem (by rwa [hkeys]), List.map_append,
        List.map_singleton]
  have hfold : ∀ (entries : List (String × α)) (kept : Entries α),
      (entries.map fun entry => (entry.1, f entry.2)).foldl add
          (kept.map fun entry => (entry.1, f entry.2)) =
        (entries.foldl add kept).map fun entry => (entry.1, f entry.2) := by
    intro entries
    induction entries with
    | nil => intro kept; rfl
    | cons entry rest ih => intro kept; rw [List.map_cons, List.foldl_cons, hadd, ih]; rfl
  exact hfold entries []

theorem add_put {key : String} {value : α} {kept : Entries α} (h : key ∈ keys kept)
    (entry : String × α) : add (put key value kept) entry = put key value (add kept entry) := by
  have hkeys : entry.1 ∈ keys (put key value kept) ↔ entry.1 ∈ keys kept := by
    rw [mem_keys_put]
    constructor
    · rintro (heq | hmem)
      · rwa [heq]
      · exact hmem
    · exact .inr
  by_cases hmem : entry.1 ∈ keys kept
  · rw [add_of_mem hmem, add_of_mem (hkeys.2 hmem)]
  · rw [add_of_not_mem hmem, add_of_not_mem (fun hput => hmem (hkeys.1 hput)),
      put_append_of_mem value _ h]

theorem foldl_add_put {key : String} {value : α} (entries : List (String × α)) {kept : Entries α}
    (h : key ∈ keys kept) :
    entries.foldl add (put key value kept) = put key value (entries.foldl add kept) := by
  induction entries generalizing kept with
  | nil => rfl
  | cons entry rest ih =>
    rw [List.foldl_cons, List.foldl_cons, add_put h, ih (mem_keys_add.2 (.inr h))]

/-- A change of the first entry of a name changes the value that is kept. -/
theorem firsts_put {key : String} {value : α} {before : List (String × α)} (old : α)
    (behind : List (String × α)) (h : key ∉ before.map (·.1)) :
    firsts (before ++ (key, value) :: behind) =
      put key value (firsts (before ++ (key, old) :: behind)) := by
  have hnew : key ∉ keys (before.foldl add []) := by
    rw [mem_keys_foldl_add]
    simpa [keys] using h
  have hput : before.foldl add [] ++ [(key, value)] =
      put key value (before.foldl add [] ++ [(key, old)]) := by
    rw [put_append_of_not_mem value _ hnew, put, if_pos rfl]
  have hone : ∀ found : α, add (before.foldl add []) (key, found) =
      before.foldl add [] ++ [(key, found)] := fun _ => add_of_not_mem hnew
  simp only [firsts, List.foldl_append, List.foldl_cons, hone]
  rw [hput, foldl_add_put]
  simp [keys]

/-! ## Membership -/

-- An entry is the one that was put last, or it was there before.
theorem mem_put {key : String} {value : α} {entries : Entries α} {entry : String × α}
    (h : entry ∈ put key value entries) : entry = (key, value) ∨ entry ∈ entries := by
  induction entries with
  | nil => exact .inl (List.mem_singleton.1 h)
  | cons first rest ih =>
    obtain ⟨k, v⟩ := first
    by_cases hk : k = key
    · subst hk
      simp only [put, if_true, List.mem_cons] at h
      exact h.imp_right (List.mem_cons_of_mem _)
    · simp only [put, if_neg hk, List.mem_cons] at h
      rcases h with rfl | h
      · exact .inr (List.mem_cons_self ..)
      · exact (ih h).imp_right (List.mem_cons_of_mem _)

-- Pairs with distinct keys are entries already.
theorem ofPairs_of_nodup {pairs : List (String × α)} (h : (pairs.map (·.1)).Nodup) :
    ofPairs pairs = pairs := by
  have hstep : ∀ (pairs : List (String × α)) (entries : Entries α),
      (pairs.map (·.1)).Nodup → (∀ pair ∈ pairs, pair.1 ∉ keys entries) →
        pairs.foldl (fun entries pair => put pair.1 pair.2 entries) entries = entries ++ pairs := by
    intro pairs
    induction pairs with
    | nil => intro entries _ _; rw [List.foldl_nil, List.append_nil]
    | cons pair rest ih =>
      intro entries hnodup hnew
      rw [List.map_cons, List.nodup_cons] at hnodup
      have hput : put pair.1 pair.2 entries = entries ++ [pair] := by
        have happend := put_append_of_not_mem pair.2 [] (hnew pair (List.mem_cons_self ..))
        rwa [List.append_nil, put] at happend
      rw [List.foldl_cons, hput, ih _ hnodup.2, List.append_assoc, List.singleton_append]
      intro other hother
      have hne : other.1 ≠ pair.1 := fun heq => hnodup.1 (heq ▸ List.mem_map_of_mem hother)
      simpa [keys, hne] using hnew other (List.mem_cons_of_mem _ hother)
  have hall := hstep pairs [] h (by simp [keys])
  rwa [List.nil_append] at hall

theorem mem_of_mem_ofPairs {entry : String × α} {pairs : List (String × α)}
    (h : entry ∈ ofPairs pairs) : entry ∈ pairs := by
  induction pairs using List.reverseRecOn with
  | nil => cases h
  | append_singleton pairs pair ih =>
    rw [ofPairs, List.foldl_append, List.foldl_cons, List.foldl_nil, ← ofPairs] at h
    rcases mem_put h with rfl | hmem
    · exact List.mem_append_right _ (List.mem_singleton.2 rfl)
    · exact List.mem_append_left _ (ih hmem)

-- The names are those of the pairs.
theorem mem_keys_ofPairs {key : String} {pairs : List (String × α)} :
    key ∈ keys (ofPairs pairs) ↔ key ∈ pairs.map (·.1) := by
  induction pairs using List.reverseRecOn with
  | nil => rfl
  | append_singleton pairs pair ih =>
    rw [ofPairs, List.foldl_append, List.foldl_cons, List.foldl_nil, ← ofPairs, mem_keys_put, ih,
      List.map_append, List.mem_append, List.map_singleton, List.mem_singleton, or_comm]

/-! ## Leaving out a key -/

/-- The mapping without a key; all other entries stay in their places. -/
def without (key : String) (entries : Entries α) : Entries α :=
  entries.filter fun entry => entry.1 != key

theorem without_put (absent key : String) (value : α) (entries : Entries α) :
    without absent (put key value entries) =
      if key = absent then without absent entries else put key value (without absent entries) := by
  induction entries with
  | nil => by_cases h : key = absent <;> simp [put, without, h]
  | cons entry rest ih =>
    obtain ⟨k, v⟩ := entry
    rw [put]
    by_cases hkey : k = key
    · subst hkey
      by_cases h : k = absent <;> simp [without, put, h]
    · rw [if_neg hkey, without, List.filter_cons, ← without, ih]
      by_cases hk : k = absent
      · subst hk
        simp [without, Ne.symm hkey]
      · by_cases h : key = absent <;> simp [without, put, hk, hkey, h]

theorem get?_without (absent key : String) (entries : Entries α) :
    get? key (without absent entries) = if key = absent then none else get? key entries := by
  by_cases h : key = absent
  · subst h
    rw [if_pos rfl, get?_eq_none_iff]
    simp [without]
  · rw [if_neg h, get?, get?, without, List.find?_filter]
    congr 2
    funext entry
    by_cases hentry : entry.1 = key <;> simp [hentry, h]

theorem keys_without (absent : String) (entries : Entries α) :
    keys (without absent entries) = (keys entries).filter fun key => key != absent := by
  rw [keys, keys, without, List.filter_map]
  rfl

-- It makes no difference whether the pairs of a key are left out before or after.
theorem ofPairs_filter (absent : String) (pairs : List (String × α)) :
    ofPairs (pairs.filter fun pair => pair.1 != absent) = without absent (ofPairs pairs) := by
  have hstep : ∀ (pairs : List (String × α)) (entries : Entries α),
      (pairs.filter fun pair => pair.1 != absent).foldl
          (fun entries pair => put pair.1 pair.2 entries) (without absent entries) =
        without absent (pairs.foldl (fun entries pair => put pair.1 pair.2 entries) entries) := by
    intro pairs
    induction pairs with
    | nil => intro entries; rfl
    | cons pair rest ih =>
      intro entries
      rw [List.foldl_cons, ← ih, without_put]
      by_cases h : pair.1 = absent
      · rw [if_pos h, List.filter_cons_of_neg (by simpa using h)]
      · rw [if_neg h, List.filter_cons_of_pos (by simpa using h), List.foldl_cons]
  exact hstep pairs []

end HeadLint.Entries
