import HeadLint.Check.Preload
import HeadLint.Proofs.Check.Census
import HeadLint.Proofs.Entries
import Mathlib.Data.List.FinRange

/-!
Preloads without effect.  A preload is reported exactly when some child of the head loads the same
resource, wherever it stands; so the order of the children does not matter, and a head from which
the reported preloads are taken has none left.  Of normal forms only two facts are used: without an
address there is none, and none is empty.
-/

namespace HeadLint

open Text

/-! ## Normal forms of addresses -/

namespace Url

theorem render_ne_nil {u : Url} (h : u.path ≠ []) : render u ≠ [] := by
  unfold render
  dsimp only
  intro hnil
  simp only [List.append_eq_nil_iff] at hnil
  have hpath := hnil.1.1.2
  split at hpath
  · cases hpath
  · exact h hpath

-- A normal form has a path at least.
theorem normalize?_ne_nil {s t : List Char} (h : normalize? s = some t) : t ≠ [] := by
  unfold normalize? at h
  dsimp only at h
  split at h
  · cases h
  · obtain ⟨resolved, -, hresolved⟩ := Option.bind_eq_some_iff.1 h
    obtain ⟨u, -, hu⟩ := Option.bind_eq_some_iff.1 hresolved
    obtain rfl := Option.some.inj hu
    apply render_ne_nil
    dsimp only
    split
    · simp
    · rename_i hpath
      simpa using hpath

theorem normalized?_none : normalized? none = none :=
  rfl

theorem normalized?_ne_empty {address : Option String} {url : String}
    (h : normalized? address = some url) : url.isEmpty = false := by
  obtain ⟨t, ht, rfl⟩ := Option.map_eq_some_iff.1 h
  obtain ⟨s, -, hs⟩ := Option.bind_eq_some_iff.1 ht
  have hne := normalize?_ne_nil hs
  rw [← Bool.not_eq_true, String.isEmpty_iff]
  intro hempty
  apply hne
  rw [← String.toList_ofList (l := t), hempty]
  rfl

end Url

namespace Preload

/-- What is relied on of a normal form: without an address there is none, and none is empty. -/
structure Sound (normal : NormalForm) : Prop where
  none : normal none = none
  ne_empty : ∀ {address url}, normal address = some url → url.isEmpty = false

theorem sound_normalized? : Sound Url.normalized? :=
  ⟨Url.normalized?_none, Url.normalized?_ne_empty⟩

/-! ## What the children load -/

/-- The normal form of the address that an element loads, with the name of the element. -/
def loaded? (normal : NormalForm) (e : Element) : Option (String × String) :=
  (normal e.resourceUrl?).map fun url => (url, e.name)

/-- Whether an element loads an address in normal form. -/
def loads (url : String) (e : Element) (normal : NormalForm := Url.normalized?) : Bool :=
  normal e.resourceUrl? == some url

/-- A preload of an address that some child loads anyway. -/
def redundant (children : List Element) (e : Element)
    (normal : NormalForm := Url.normalized?) : Bool :=
  e.isPreload && (normal (e.attribute? "href")).any fun url => children.any (loads url · normal)

/-- A problem that names the address of a preload, and the first child that loads it. -/
def Names (children : List Element) (e : Element) (p : Problem)
    (normal : NormalForm := Url.normalized?) : Prop :=
  ∃ href url c, e.attribute? "href" = some href ∧ normal (some href) = some url ∧
    children.find? (loads url · normal) = some c ∧
    p.data = [("href", .str href), ("tagName", .str c.name)]

section Reported

variable {normal : NormalForm}

theorem loads_eq_any (url : String) (e : Element) :
    loads url e normal = (loaded? normal e).any fun entry => entry.1 == url := by
  unfold loads loaded?
  cases normal e.resourceUrl? <;> rfl

-- More children make no preload more useful.
theorem redundant_mono {children more : List Element} (h : children ⊆ more) {e : Element}
    (hredundant : redundant children e normal = true) : redundant more e normal = true := by
  unfold redundant at *
  rw [Bool.and_eq_true, Option.any_eq_true] at *
  obtain ⟨hpreload, url, hurl, hany⟩ := hredundant
  obtain ⟨c, hc, hloads⟩ := List.any_eq_true.1 hany
  exact ⟨hpreload, url, hurl, List.any_eq_true.2 ⟨c, h hc, hloads⟩⟩

theorem problem?_of_mem_find {children : List Element} {i : Nat} {e : Element} {p : Problem}
    (h : (i, e, p) ∈ find children normal) :
    problem? (discoverable children normal) e normal = some p := by
  obtain ⟨⟨e', i'⟩, -, hsome⟩ := List.mem_filterMap.1 h
  obtain ⟨p', hp, heq⟩ := Option.map_eq_some_iff.1 hsome
  obtain ⟨rfl, hpair⟩ := Prod.mk.inj heq
  obtain ⟨rfl, rfl⟩ := Prod.mk.inj hpair
  exact hp

variable (hnormal : Sound normal)
include hnormal

-- The index keeps the first element for each address.
theorem discoverable_eq_firsts (children : List Element) :
    discoverable children normal = Entries.firsts (children.filterMap (loaded? normal)) := by
  unfold discoverable Entries.firsts
  rw [List.foldl_filterMap]
  congr 1
  funext found e
  unfold loaded? Entries.add
  cases hurl : normal e.resourceUrl? with
  | none => rfl
  | some url =>
    have hne := hnormal.ne_empty hurl
    simp [hne]

theorem get?_discoverable (children : List Element) (url : String) :
    Entries.get? url (discoverable children normal) =
      (children.find? (loads url · normal)).map Element.name := by
  have hloads : (fun e => (loaded? normal e).any fun entry => entry.1 == url) =
      (loads url · normal) := by
    funext e
    exact (loads_eq_any url e).symm
  rw [discoverable_eq_firsts hnormal, Entries.get?_firsts, Entries.get?, List.find?_filterMap,
    hloads]
  cases hfind : children.find? (loads url · normal) with
  | none => rfl
  | some c =>
    have hfound := List.find?_some hfind
    have hc : normal c.resourceUrl? = some url := eq_of_beq hfound
    simp [loaded?, hc]

/-! ## Reported children -/

theorem isSome_problem? (children : List Element) (e : Element) :
    (problem? (discoverable children normal) e normal).isSome = redundant children e normal := by
  unfold problem? redundant
  by_cases hpreload : e.isPreload = true
  · rw [if_pos hpreload, hpreload, Bool.true_and]
    cases normal (e.attribute? "href") with
    | none => rfl
    | some url =>
      have hany : children.any (loads url · normal) =
          (children.find? (loads url · normal)).isSome := by
        rw [Bool.eq_iff_iff, List.find?_isSome, List.any_eq_true]
      rw [Option.any_some, hany]
      simp only [bind, Option.bind, get?_discoverable hnormal]
      cases children.find? (loads url · normal) <;> rfl
  · rw [if_neg hpreload, Bool.eq_false_iff.2 hpreload]
    rfl

theorem names_of_problem? {children : List Element} {e : Element} {p : Problem}
    (h : problem? (discoverable children normal) e normal = some p) :
    Names children e p normal := by
  unfold problem? at h
  split at h
  · obtain ⟨url, hurl, hbind⟩ := Option.bind_eq_some_iff.1 h
    obtain ⟨tagName, hname, hp⟩ := Option.bind_eq_some_iff.1 hbind
    rw [get?_discoverable hnormal] at hname
    obtain ⟨c, hc, hcname⟩ := Option.map_eq_some_iff.1 hname
    obtain rfl := Option.some.inj hp
    cases hhref : e.attribute? "href" with
    | none =>
      rw [hhref, hnormal.none] at hurl
      cases hurl
    | some href =>
      rw [hhref] at hurl
      refine ⟨href, url, c, hhref, hurl, hc, ?_⟩
      rw [hcname]
      rfl
  · cases h

-- The reported children with their positions.
theorem map_find (children : List Element) :
    ((find children normal).map fun (i, e, _) => (e, i)) =
      children.zipIdx.filter fun child => redundant children child.1 normal := by
  unfold find
  dsimp only
  rw [List.map_filterMap, ← List.filterMap_eq_filter]
  congr 1
  funext child
  have hsome := isSome_problem? hnormal children child.1
  cases hproblem : problem? (discoverable children normal) child.1 normal with
  | none =>
    rw [hproblem] at hsome
    simp [Option.guard, ← hsome]
  | some p =>
    rw [hproblem] at hsome
    simp [Option.guard, ← hsome]

end Reported

/-! ## Other orders, and what is left -/

/-- The positions of the reported children. -/
def reported (children : List Element) (normal : NormalForm := Url.normalized?) : List Nat :=
  (find children normal).map (·.1)

/-- The children that are not reported. -/
def remaining (children : List Element) (normal : NormalForm := Url.normalized?) :
    List Element :=
  (children.zipIdx.filter fun child => !(reported children normal).contains child.2).map (·.1)

/-- The children in another order: what a permutation says stands at each position. -/
def shuffled (children : List Element) (order : Equiv.Perm (Fin children.length)) : List Element :=
  List.ofFn fun i => children.get (order i)

theorem shuffled_perm (children : List Element) (order : Equiv.Perm (Fin children.length)) :
    (shuffled children order).Perm children := by
  have hperm := Equiv.Perm.ofFn_comp_perm order children.get
  rw [List.ofFn_get] at hperm
  exact hperm

theorem getElem?_shuffled (children : List Element) (order : Equiv.Perm (Fin children.length))
    (i : Fin children.length) :
    (shuffled children order)[(i : Nat)]? = children[(order i : Nat)]? := by
  simp [shuffled]

section Remaining

variable {normal : NormalForm} (hnormal : Sound normal)
include hnormal

theorem mem_reported_iff {children : List Element} {i : Nat} :
    i ∈ reported children normal ↔
      ∃ e, children[i]? = some e ∧ redundant children e normal = true := by
  have hnumbers : reported children normal =
      numbersOf (redundant children · normal) children.zipIdx := by
    unfold reported numbersOf
    rw [← map_find hnormal, List.map_map]
    rfl
  rw [hnumbers]
  exact (positions_numbersOf _ _).mem_iff i

theorem mem_reported_shuffled (children : List Element)
    (order : Equiv.Perm (Fin children.length)) (i : Fin children.length) :
    (i : Nat) ∈ reported (shuffled children order) normal ↔
      (order i : Nat) ∈ reported children normal := by
  have hperm := shuffled_perm children order
  rw [mem_reported_iff hnormal, mem_reported_iff hnormal, getElem?_shuffled]
  constructor
  · rintro ⟨e, hget, hredundant⟩
    exact ⟨e, hget, redundant_mono hperm.subset hredundant⟩
  · rintro ⟨e, hget, hredundant⟩
    exact ⟨e, hget, redundant_mono hperm.symm.subset hredundant⟩

theorem find_remaining (children : List Element) :
    find (remaining children normal) normal = [] := by
  have hremaining : ∀ e ∈ remaining children normal,
      e ∈ children ∧ redundant children e normal = false := by
    intro e he
    obtain ⟨⟨e', i⟩, hmem, rfl⟩ := List.mem_map.1 he
    obtain ⟨hchild, hkept⟩ := List.mem_filter.1 hmem
    have hget := List.mem_zipIdx_iff_getElem?.1 hchild
    refine ⟨List.mem_of_getElem? hget, ?_⟩
    rw [← Bool.not_eq_true]
    intro hredundant
    have hreported := (mem_reported_iff hnormal).2 ⟨e', hget, hredundant⟩
    simp [hreported] at hkept
  have hnone : (remaining children normal).zipIdx.filter
      (fun child => redundant (remaining children normal) child.1 normal) = [] := by
    rw [List.filter_eq_nil_iff]
    intro child hchild hredundant
    have he := hremaining _ (List.fst_mem_of_mem_zipIdx hchild)
    have hmono := redundant_mono (fun e hmem => (hremaining e hmem).1) hredundant
    rw [he.2] at hmono
    cases hmono
  rw [← map_find hnormal, List.map_eq_nil_iff] at hnone
  exact hnone

end Remaining

/-- `Redundancy normal children`: by their normal forms, the redundant preloads are reported, each
with the first child that loads the resource, in whatever order the children stand; and once they
are taken out nothing is reported. -/
structure Redundancy (normal : NormalForm) (children : List Element) : Prop where
  found : ((find children normal).map fun (i, e, _) => (e, i)) =
    children.zipIdx.filter fun child => redundant children child.1 normal
  names : ∀ i e p, (i, e, p) ∈ find children normal → Names children e p normal
  shuffled : ∀ (order : Equiv.Perm (Fin children.length)) (i : Fin children.length),
    (i : Nat) ∈ reported (shuffled children order) normal ↔
      (order i : Nat) ∈ reported children normal
  remaining : find (remaining children normal) normal = []

/-- What is found does not hang on how addresses are brought into their normal form. -/
theorem redundancy {normal : NormalForm} (hnormal : Sound normal) (children : List Element) :
    Redundancy normal children where
  found := map_find hnormal children
  names := fun _ _ _ h => names_of_problem? hnormal (problem?_of_mem_find h)
  shuffled := mem_reported_shuffled hnormal children
  remaining := find_remaining hnormal children

/-- The reported children are the redundant preloads, in document order; each report names the first
child that loads the resource.  In another order the same children are reported, and once they are
taken out nothing is reported. -/
theorem find_redundant (children : List Element) :
    ((find children).map fun (i, e, _) => (e, i)) =
        (children.zipIdx.filter fun child => redundant children child.1) ∧
      (∀ i e p, (i, e, p) ∈ find children → Names children e p) ∧
      (∀ (order : Equiv.Perm (Fin children.length)) (i : Fin children.length),
        (i : Nat) ∈ reported (shuffled children order) ↔ (order i : Nat) ∈ reported children) ∧
      find (remaining children) = [] := by
  have h := redundancy sound_normalized? children
  exact ⟨h.found, h.names, h.shuffled, h.remaining⟩

/-- Two preloads, of which the script before them loads one. -/
def preloadedScript : List Element := [
  { tag := "script", attrs := [("src", some "./app.js")] },
  { tag := "link", attrs := [("rel", some "preload"), ("href", some "/app.js#main")] },
  { tag := "link", attrs := [("rel", some "preload"), ("href", some "font.woff2")] }]

theorem find_redundant_preloadedScript :
    reported preloadedScript = [1] ∧ find (remaining preloadedScript) = [] ∧
      ∃ e p, (1, e, p) ∈ find preloadedScript ∧ Names preloadedScript e p := by
  have hreported : reported preloadedScript = [1] := by decide +kernel
  obtain ⟨-, hnames, -, hremaining⟩ := find_redundant preloadedScript
  have hmem : 1 ∈ reported preloadedScript := by
    rw [hreported]
    exact List.mem_cons_self ..
  obtain ⟨⟨i, e, p⟩, hfind, rfl⟩ := List.mem_map.1 hmem
  exact ⟨hreported, hremaining, e, p, hfind, hnames _ e p hfind⟩

end Preload

end HeadLint
