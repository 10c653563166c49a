import HeadLint.Proofs.Text.Pieces
import HeadLint.Url.Origin

/-!
The two relations between origins.  To have the same origin is an equivalence among the addresses
that have an origin at all.  To be a subdomain is decided by the end of a text, but is a strict
order on the lists of labels of the hosts.  The laws hold however origins are read from addresses.
-/

namespace HeadLint.Origin

open Text

/-! ## Subdomains -/

/-- The labels of the host, which stand between its dots. -/
def labels (o : Origin) : List (List Char) :=
  splitWhere (· == '.') o.host.toList

/-- `p.Above o`: at the same port, the host of `o` is that of `p` with a dot and something more in
front of it. -/
def Above (p o : Origin) : Prop :=
  p.port = o.port ∧ ∃ front, o.host.toList = front ++ '.' :: p.host.toList

theorem not_above_self (o : Origin) : ¬ o.Above o := by
  rintro ⟨-, front, hhost⟩
  have hlength := congrArg List.length hhost
  simp only [List.length_append, List.length_cons] at hlength
  omega

theorem Above.trans {p q o : Origin} (hpq : p.Above q) (hqo : q.Above o) : p.Above o := by
  obtain ⟨hport, front, hhost⟩ := hpq
  obtain ⟨hport', front', hhost'⟩ := hqo
  refine ⟨hport.trans hport', front' ++ '.' :: front, ?_⟩
  rw [hhost', hhost, List.append_assoc, List.cons_append]

-- The labels of a host determine it.
theorem host_of_labels {o : Origin} {s : List Char}
    (h : o.labels = splitWhere (· == '.') s) : o.host.toList = s := by
  rw [← intercalate_splitWhere '.' o.host.toList, ← labels, h, intercalate_splitWhere]

/-- An origin is above another one exactly when its labels are the last ones of the other's, but not
all of them. -/
theorem above_iff_labels (p o : Origin) :
    p.Above o ↔ p.port = o.port ∧ p.labels <:+ o.labels ∧ p.labels ≠ o.labels := by
  refine and_congr_right fun _ => ?_
  constructor
  · rintro ⟨front, hhost⟩
    have hlabels : o.labels = splitWhere (· == '.') front ++ p.labels := by
      rw [labels, hhost, splitWhere_append_mark, labels]
    refine ⟨⟨_, hlabels.symm⟩, fun heq => ?_⟩
    rw [← heq] at hlabels
    exact splitWhere_ne_nil _ front (List.self_eq_append_left.1 hlabels)
  · rintro ⟨⟨front, hlabels⟩, hne⟩
    have hfront : front ≠ [] := by
      rintro rfl
      exact hne hlabels
    have hdots : ∀ piece ∈ front, '.' ∉ piece := by
      intro piece hpiece
      apply not_mem_of_mem_splitWhere (s := o.host.toList)
      rw [← labels, ← hlabels]
      exact List.mem_append_left _ hpiece
    refine ⟨List.intercalate ['.'] front, host_of_labels ?_⟩
    rw [splitWhere_append_mark, splitWhere_intercalate hfront hdots, ← labels, hlabels]

/-! ## Addresses -/

section Reader

variable {read : String → Option Origin} {a b c : String}

theorem same_iff : same a b read = true ↔ ∃ o, read a = some o ∧ read b = some o := by
  unfold same
  cases read a with
  | none => simp
  | some x =>
    cases read b with
    | none => simp
    | some y =>
      constructor
      · intro h
        obtain rfl : x = y := eq_of_beq h
        exact ⟨x, rfl, rfl⟩
      · rintro ⟨o, hx, hy⟩
        rw [Option.some.inj hx, Option.some.inj hy]
        exact beq_self_eq_true o

theorem isSubdomain_iff :
    isSubdomain a b read = true ↔ ∃ p o, read a = some p ∧ read b = some o ∧ p.Above o := by
  unfold isSubdomain
  cases read a with
  | none => simp
  | some p =>
    cases read b with
    | none => simp
    | some o =>
      simp only [Bool.and_eq_true, beq_iff_eq, List.isSuffixOf_iff_suffix, Option.some.injEq,
        exists_and_left, exists_eq_left', Above]
      refine and_congr_right fun _ => ?_
      exact exists_congr fun front => eq_comm

theorem read_eq_of_same (h : same a b read = true) : read a = read b := by
  obtain ⟨o, ha, hb⟩ := same_iff.1 h
  rw [ha, hb]

theorem same_symm (h : same a b read = true) : same b a read = true := by
  obtain ⟨o, ha, hb⟩ := same_iff.1 h
  exact same_iff.2 ⟨o, hb, ha⟩

theorem same_trans (hab : same a b read = true) (hbc : same b c read = true) :
    same a c read = true := by
  obtain ⟨o, ha, -⟩ := same_iff.1 hab
  rw [same_iff, ← read_eq_of_same hbc, ← read_eq_of_same hab]
  exact ⟨o, ha, ha⟩

theorem same_self_iff : same a a read = true ↔ read a ≠ none := by
  rw [same_iff, Option.ne_none_iff_exists']
  exact exists_congr fun o => and_self_iff

theorem isSubdomain_self (a : String) : isSubdomain a a read = false := by
  rw [← Bool.not_eq_true, isSubdomain_iff]
  rintro ⟨p, o, hp, ho, habove⟩
  obtain rfl := Option.some.inj (hp.symm.trans ho)
  exact not_above_self p habove

theorem isSubdomain_trans (hab : isSubdomain a b read = true)
    (hbc : isSubdomain b c read = true) : isSubdomain a c read = true := by
  obtain ⟨p, q, hp, hq, hpq⟩ := isSubdomain_iff.1 hab
  obtain ⟨q', o, hq', ho, hqo⟩ := isSubdomain_iff.1 hbc
  obtain rfl := Option.some.inj (hq.symm.trans hq')
  exact isSubdomain_iff.2 ⟨p, o, hp, ho, hpq.trans hqo⟩

theorem isSubdomain_asymm (h : isSubdomain a b read = true) : isSubdomain b a read = false := by
  rw [← Bool.not_eq_true]
  intro h'
  have hself := isSubdomain_trans h h'
  rw [isSubdomain_self] at hself
  cases hself

-- Only the origins matter.
theorem isSubdomain_congr {a' b' : String} (ha : read a = read a') (hb : read b = read b') :
    isSubdomain a b read = isSubdomain a' b' read := by
  rw [isSubdomain, isSubdomain, ha, hb]

theorem isSubdomain_of_same (h : same a b read = true) : isSubdomain a b read = false := by
  rw [isSubdomain_congr (read_eq_of_same h) rfl, isSubdomain_self]

end Reader

/-- The laws of the two relations, as origins are read. -/
structure Laws (read : String → Option Origin) (a b c : String) : Prop where
  same_symm : same a b read = true → same b a read = true
  same_trans : same a b read = true → same b c read = true → same a c read = true
  same_self_iff : same a a read = true ↔ read a ≠ none
  irrefl : isSubdomain a a read = false
  asymm : isSubdomain a b read = true → isSubdomain b a read = false
  trans : isSubdomain a b read = true → isSubdomain b c read = true → isSubdomain a c read = true
  excludes : same a b read = true → isSubdomain a b read = false
  congr : same a b read = true →
    isSubdomain a c read = isSubdomain b c read ∧ isSubdomain c a read = isSubdomain c b read
  iff_labels : isSubdomain a b read = true ↔ ∃ p o, read a = some p ∧ read b = some o ∧
    p.port = o.port ∧ p.labels <:+ o.labels ∧ p.labels ≠ o.labels

/-- The laws do not hang on how an origin is read from an address. -/
theorem laws (read : String → Option Origin) (a b c : String) : Laws read a b c where
  same_symm := same_symm
  same_trans := same_trans
  same_self_iff := same_self_iff
  irrefl := isSubdomain_self a
  asymm := isSubdomain_asymm
  trans := isSubdomain_trans
  excludes := isSubdomain_of_same
  congr h := ⟨isSubdomain_congr (read_eq_of_same h) rfl, isSubdomain_congr rfl (read_eq_of_same h)⟩
  iff_labels := by simp only [isSubdomain_iff, above_iff_labels]

/-- To have the same origin is symmetric and transitive, and holds of an address and itself when it
has an origin.  To be a subdomain is a strict order, which excludes the same origin and does not
tell addresses of the same origin apart; it holds when both addresses have origins, at the same
port, and the labels of the one are the last labels of the other, but not all of them. -/
theorem same_isSubdomain_laws (a b c : String) :
    (same a b = true → same b a = true) ∧
    (same a b = true → same b c = true → same a c = true) ∧
    (same a a = true ↔ ofText? a ≠ none) ∧
    isSubdomain a a = false ∧
    (isSubdomain a b = true → isSubdomain b a = false) ∧
    (isSubdomain a b = true → isSubdomain b c = true → isSubdomain a c = true) ∧
    (same a b = true → isSubdomain a b = false) ∧
    (same a b = true →
      isSubdomain a c = isSubdomain b c ∧ isSubdomain c a = isSubdomain c b) ∧
    (isSubdomain a b = true ↔ ∃ p o, ofText? a = some p ∧ ofText? b = some o ∧
      p.port = o.port ∧ p.labels <:+ o.labels ∧ p.labels ≠ o.labels) := by
  have h := laws ofText? a b c
  exact ⟨h.same_symm, h.same_trans, h.same_self_iff, h.irrefl, h.asymm, h.trans, h.excludes,
    h.congr, h.iff_labels⟩

/-- Another spelling of an address, and hosts one and two labels below it. -/
theorem same_isSubdomain_exampleHosts :
    same "https://example.com" "HTTPS://Example.COM:443/x" = true ∧
      same "HTTPS://Example.COM:443/x" "https://example.com" = true ∧
      isSubdomain "https://example.com" "wss://a.example.com" = true ∧
      isSubdomain "wss://a.example.com" "https://b.a.example.com" = true ∧
      isSubdomain "https://b.a.example.com" "wss://a.example.com" = false ∧
      isSubdomain "HTTPS://Example.COM:443/x" "https://b.a.example.com" = true := by
  have hsame : same "https://example.com" "HTTPS://Example.COM:443/x" = true := by decide +kernel
  have hone : isSubdomain "https://example.com" "wss://a.example.com" = true := by decide +kernel
  have htwo : isSubdomain "wss://a.example.com" "https://b.a.example.com" = true := by
    decide +kernel
  obtain ⟨hsymm, -, -, -, -, -, -, hcongr, -⟩ := same_isSubdomain_laws "https://example.com"
    "HTTPS://Example.COM:443/x" "https://b.a.example.com"
  obtain ⟨-, -, -, -, -, htrans, -⟩ := same_isSubdomain_laws "https://example.com"
    "wss://a.example.com" "https://b.a.example.com"
  obtain ⟨-, -, -, -, hasymm, -⟩ := same_isSubdomain_laws "wss://a.example.com"
    "https://b.a.example.com" "https://example.com"
  exact ⟨hsame, hsymm hsame, hone, htwo, hasymm htwo,
    (hcongr hsame).1.symm.trans (htrans hone htwo)⟩

end HeadLint.Origin
