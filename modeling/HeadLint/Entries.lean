/-!
Mappings that remember order: a key keeps the place at which it was first put, and the value that
was put last.
-/

namespace HeadLint

/-- A mapping from names, as its list of entries in order. -/
abbrev Entries (α : Type) := List (String × α)

namespace Entries

variable {α : Type}

/-- Sets the value of a key: in its place if the key is there, at the end otherwise. -/
def put (key : String) (value : α) : Entries α → Entries α
  | [] => [(key, value)]
  | (k, v) :: rest => if k = key then (k, value) :: rest else (k, v) :: put key value rest

/-- The value of a key. -/
def get? (key : String) (entries : Entries α) : Option α :=
  (entries.find? fun entry => entry.1 == key).map (·.2)

/-- Whether a key is present. -/
def has (key : String) (entries : Entries α) : Bool :=
  entries.any fun entry => entry.1 == key

/-- The keys in order. -/
def keys (entries : Entries α) : List String :=
  entries.map (·.1)

/-- Puts one pair after the other into an empty mapping. -/
def ofPairs (pairs : List (String × α)) : Entries α :=
  pairs.foldl (fun entries pair => put pair.1 pair.2 entries) []

/-- Putting a value adds at most its own key. -/
theorem mem_keys_put (key k : String) (value : α) (entries : Entries α) :
    k ∈ keys (put key value entries) ↔ k = key ∨ k ∈ keys entries := by
  induction entries with
  | nil => simp [put, keys]
  | cons entry rest ih =>
    obtain ⟨k', v'⟩ := entry
    by_cases h : k' = key
    · simp [put, keys, h]
    · simp only [put, h, if_false]
      simp only [keys, List.map_cons, List.mem_cons] at ih ⊢
      rw [ih]
      exact or_left_comm

/-- Putting a value repeats no key. -/
theorem nodup_keys_put (key : String) (value : α) (entries : Entries α)
    (h : (keys entries).Nodup) : (keys (put key value entries)).Nodup := by
  induction entries with
  | nil => simp [put, keys]
  | cons entry rest ih =>
    obtain ⟨k', v'⟩ := entry
    simp only [keys, List.map_cons, List.nodup_cons] at h
    by_cases hk : k' = key
    · subst hk
      simpa only [put, if_true, keys, List.map_cons, List.nodup_cons] using h
    · simp only [put, hk, if_false, keys, List.map_cons, List.nodup_cons]
      refine ⟨fun hmem => ?_, ih h.2⟩
      rcases (mem_keys_put key k' value rest).1 hmem with rfl | hin
      · exact hk rfl
      · exact h.1 hin

/-- A look-up after putting a value: the key has the new value, every other key what it had. -/
theorem get?_put (key k : String) (value : α) (entries : Entries α) :
    get? k (put key value entries) = if k = key then some value else get? k entries := by
  induction entries with
  | nil =>
    by_cases h : k = key
    · simp [put, get?, h]
    · simp [put, get?, h, Ne.symm h]
  | cons entry rest ih =>
    obtain ⟨k', v'⟩ := entry
    by_cases hk : k' = key
    · subst hk
      by_cases h : k = k'
      · simp [put, get?, h]
      · simp [put, get?, h, Ne.symm h]
    · simp only [put, hk, if_false]
      by_cases h : k' = k
      · subst h
        simp [get?, hk]
      · simp only [get?, List.find?_cons, beq_eq_false_iff_ne.2 h] at ih ⊢
        exact ih

/-- A key is present exactly when it is one of the keys. -/
theorem has_iff_mem_keys (key : String) (entries : Entries α) :
    has key entries = true ↔ key ∈ keys entries := by
  simp [has, keys]

/-- Pairs put one after the other repeat no key. -/
theorem nodup_keys_ofPairs (pairs : List (String × α)) : (keys (ofPairs pairs)).Nodup := by
  have step : ∀ (pairs : List (String × α)) (entries : Entries α), (keys entries).Nodup →
      (keys (pairs.foldl (fun entries pair => put pair.1 pair.2 entries) entries)).Nodup := by
    intro pairs
    induction pairs with
    | nil => intro entries h; exact h
    | cons pair rest ih => intro entries h; exact ih _ (nodup_keys_put _ _ _ h)
  exact step pairs [] List.nodup_nil

end Entries

end HeadLint
