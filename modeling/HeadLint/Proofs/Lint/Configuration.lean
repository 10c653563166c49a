import HeadLint.Proofs.Lint.Registration
import HeadLint.Proofs.Text.Runs

/-!
Linters from configurations.  Severities come from a configured preset or from the preset of all
rules, and from overrides.  A linter is made exactly when all severities exist and every override is
for a rule that is registered; the rules that are active then follow from the severity of each rule.
-/

namespace HeadLint

open Text

/-! ## Severities by name -/

namespace Severity

/-- The names of all severities. -/
def names : List String := ["error", "warn", "off"]

/-- The severity of a name that is one. -/
def ofName (name : String) : Severity :=
  (ofName? name).getD .off

theorem ofName?_of_mem {s : String} (h : s ∈ names) :
    ofName? s = some (ofName s) ∧ (ofName s).name = s := by
  simp only [names, List.mem_cons, List.not_mem_nil, or_false] at h
  rcases h with rfl | rfl | rfl <;> decide

theorem ofName?_of_not_mem {s : String} (h : s ∉ names) : ofName? s = none := by
  simp only [names, List.mem_cons, List.not_mem_nil, or_false, not_or] at h
  obtain ⟨herror, hwarn, hoff⟩ := h
  simp [ofName?, name, Ne.symm herror, Ne.symm hwarn, Ne.symm hoff]

theorem name_inj {a b : Severity} : a.name = b.name ↔ a = b := by
  cases a <;> cases b <;> decide

end Severity

/-- Severities by name that all exist. -/
def Rated (rows : Entries String) : Prop :=
  ∀ row ∈ rows, row.2 ∈ Severity.names

instance (rows : Entries String) : Decidable (Rated rows) :=
  inferInstanceAs (Decidable (∀ row ∈ rows, _))

/-- The severities that are named. -/
def severitiesOf (rows : Entries String) : Entries Severity :=
  rows.map fun row => (row.1, Severity.ofName row.2)

/-- A mapping of texts as pairs of values. -/
def Json.ofTexts (rows : Entries String) : List (Json × Json) :=
  rows.map fun row => (.str row.1, .str row.2)

theorem Json.putKey_ofTexts (key value : String) (rows : Entries String) :
    putKey (.str key) (.str value) (ofTexts rows) = ofTexts (Entries.put key value rows) := by
  induction rows with
  | nil => rfl
  | cons row rest ih =>
    show (if same (.str row.1) (.str key) then _ else _) = _
    have hsame : same (.str row.1) (.str key) = (row.1 == key) := by simp [same]
    rw [hsame, Entries.put]
    by_cases hkey : row.1 = key
    · rw [if_pos (beq_iff_eq.2 hkey), if_pos hkey]
      rfl
    · rw [if_neg (by simpa using hkey), if_neg hkey]
      exact congrArg _ ih

theorem Json.ofPairs_ofTexts (rows : List (String × String)) :
    ofPairs (ofTexts rows) = ofTexts (Entries.ofPairs rows) := by
  induction rows using List.reverseRecOn with
  | nil => rfl
  | append_singleton rows row ih =>
    unfold ofPairs Entries.ofPairs at ih ⊢
    rw [ofTexts, List.map_append, List.foldl_append, List.foldl_append, ← ofTexts, ih]
    exact putKey_ofTexts row.1 row.2 _

/-! ## Presets -/

namespace Preset

/-- A preset as an object of texts. -/
def rowsOf (rows : Entries String) : Json :=
  .obj (rows.map fun row => (row.1, .str row.2))

/-- Presets as an object of objects of texts. -/
def tableOf (tables : Entries (Entries String)) : Json :=
  .obj (tables.map fun preset => (preset.1, rowsOf preset.2))

/-- A preset that can be used: that of all rules, or a configured one whose severities exist. -/
def Usable (tables : Entries (Entries String)) (preset : String) : Prop :=
  preset = "all" ∨ ∃ rows, Entries.get? preset tables = some rows ∧ Rated rows

end Preset

/-- A fault in the choice of a preset. -/
def ConfigFault.OfPreset (preset : String) : ConfigFault → Prop
  | .unknownPreset name _ => name = .str preset
  | .presetSeverity name _ _ => name = .str preset
  | _ => False

/-- A fault in an override. -/
def ConfigFault.OfOverride (override : String × String) : ConfigFault → Prop
  | .unknownRule rule => rule = .str override.1
  | .ruleSeverity severity rule => severity = .str override.2 ∧ rule = .str override.1
  | _ => False

namespace Preset

theorem readSeverities_of_rated (preset : Json) {rows : Entries String} (h : Rated rows) :
    readSeverities preset (Json.ofTexts rows) = .ok { rules := severitiesOf rows } := by
  induction rows with
  | nil => rfl
  | cons row rest ih =>
    obtain ⟨hrow, hrest⟩ := List.forall_mem_cons.1 h
    show readSeverities preset ((.str row.1, .str row.2) :: Json.ofTexts rest) = _
    have hvalue : Severity.ofJson? (.str row.2) = some (Severity.ofName row.2) :=
      (Severity.ofName?_of_mem hrow).1
    rw [readSeverities, hvalue, ih hrest]
    rfl

theorem readSeverities_of_not_rated (preset : Json) {rows : Entries String} (h : ¬ Rated rows) :
    ∃ severity rule, readSeverities preset (Json.ofTexts rows) =
      .error (.presetSeverity preset severity rule) := by
  induction rows with
  | nil => exact absurd (List.forall_mem_nil _) h
  | cons row rest ih =>
    show ∃ severity rule,
      readSeverities preset ((.str row.1, .str row.2) :: Json.ofTexts rest) = _
    by_cases hrow : row.2 ∈ Severity.names
    · have hvalue : Severity.ofJson? (.str row.2) = some (Severity.ofName row.2) :=
        (Severity.ofName?_of_mem hrow).1
      obtain ⟨severity, rule, hrest⟩ := ih fun hrest => h (List.forall_mem_cons.2 ⟨hrow, hrest⟩)
      refine ⟨severity, rule, ?_⟩
      rw [readSeverities, hvalue, hrest]
      rfl
    · have hvalue : Severity.ofJson? (.str row.2) = none := Severity.ofName?_of_not_mem hrow
      refine ⟨.str row.2, .str row.1, ?_⟩
      rw [readSeverities, hvalue]

section Configured

variable {config : Json} {tables : Entries (Entries String)}
  (hconfig : Config.get? config "presets" = some (tableOf tables))
include hconfig

theorem severities_eq (preset : String) :
    severities config (.str preset) =
      match Entries.get? preset tables with
      | none => .error (.fault (.unknownPreset (.str preset)
          ((Entries.keys tables).mergeSort textLe)))
      | some rows => (readSeverities (.str preset) (Json.ofTexts rows)).mapError .fault := by
  have htable : table config = tableOf tables := by rw [table, hconfig]; rfl
  have hget : Entries.get? preset (tables.map fun preset => (preset.1, rowsOf preset.2)) =
      (Entries.get? preset tables).map rowsOf := Entries.get?_map ..
  have hin : isIn (.str preset) (tableOf tables) = .ok (Entries.get? preset tables).isSome := by
    show Except.ok (Entries.has preset _) = _
    rw [Entries.has_eq_isSome, hget, Option.isSome_map]
  have hentry : ∀ rows, Entries.get? preset tables = some rows →
      entry (.str preset) (tableOf tables) = .ok (rowsOf rows) := by
    intro rows hrows
    simp only [tableOf, entry, Json.str?, Option.bind_some, hget, hrows, Option.map_some]
  have havailable : available (tableOf tables) =
      .ok ((Entries.keys tables).mergeSort textLe) := by
    show Except.ok ((Entries.keys (tables.map _)).mergeSort textLe) = _
    rw [Entries.keys, List.map_map]
    rfl
  rw [severities, htable, hin, havailable]
  cases hrows : Entries.get? preset tables with
  | none => rfl
  | some rows =>
    rw [hentry rows hrows]
    have hmapping : mapping (rowsOf rows) = .ok (Json.ofTexts rows) := by
      show Except.ok (List.map _ (List.map _ rows)) = _
      rw [List.map_map]
      rfl
    show ((mapping (rowsOf rows)).bind fun pairs =>
      (readSeverities (.str preset) pairs).mapError .fault) = _
    rw [hmapping]
    rfl

end Configured

end Preset

namespace Linter

/-- The name of the severity that a rule has from a preset. -/
def presetSeverity (tables : Entries (Entries String)) (preset : String) (rule : Rule) : String :=
  if preset = "all" then if rule.kind = "problem" then "error" else "warn"
  else ((Entries.get? preset tables).bind (Entries.get? rule.name)).getD "off"

/-- The name of the severity that a rule has in the end: from an override, or from the preset. -/
def effectiveSeverity (tables : Entries (Entries String)) (preset : String)
    (overrides : Entries String) (rule : Rule) : String :=
  (Entries.get? rule.name overrides).getD (presetSeverity tables preset rule)

section Configured

variable {config : Json} {tables : Entries (Entries String)} {preset : String} {catalog : Catalog}

theorem isAll_str : isAll (.str preset) = decide (preset = "all") := by
  show (some preset == some "all") = _
  by_cases h : preset = "all" <;> simp [h]

theorem get?_all (hcatalog : catalog.Indexed) {rule : Rule} (hrule : rule ∈ catalog.all) :
    Entries.get? rule.name (catalog.all.map fun rule => (rule.name, severityOfKind rule.kind)) =
      some (severityOfKind rule.kind) := by
  apply Entries.get?_of_mem
  · rw [Entries.keys, List.map_map]
    exact hcatalog.nodup_names
  · exact List.mem_map_of_mem hrule

theorem exists_presetSeverities
    (hconfig : Config.get? config "presets" = some (Preset.tableOf tables))
    (hcatalog : catalog.Indexed) (h : Preset.Usable tables preset) :
    ∃ base, presetSeverities catalog config (.str preset) = .ok base ∧
      ∀ rule ∈ catalog.all, ((Entries.get? rule.name base.rules).getD .off).name =
        presetSeverity tables preset rule := by
  unfold presetSeverities presetSeverity
  rw [isAll_str]
  by_cases hall : preset = "all"
  · refine ⟨_, if_pos (by simpa using hall), fun rule hrule => ?_⟩
    rw [if_pos hall, get?_all hcatalog hrule, Option.getD_some, severityOfKind]
    by_cases hkind : rule.kind = "problem" <;> simp [hkind, Severity.name]
  · obtain ⟨rows, hrows, hrated⟩ := h.resolve_left hall
    refine ⟨{ rules := severitiesOf rows }, ?_, fun rule hrule => ?_⟩
    · rw [if_neg (by simpa using hall), Preset.severities_eq hconfig, hrows]
      simp only [Preset.readSeverities_of_rated _ hrated]
      rfl
    · rw [if_neg hall, hrows, Option.bind_some, severitiesOf, Entries.get?_map]
      cases hget : Entries.get? rule.name rows with
      | none => rfl
      | some severity =>
        exact (Severity.ofName?_of_mem (hrated _ (Entries.mem_of_get? hget))).2

theorem presetSeverities_of_not_usable (catalog : Catalog)
    (hconfig : Config.get? config "presets" = some (Preset.tableOf tables))
    (h : ¬ Preset.Usable tables preset) :
    ∃ fault, presetSeverities catalog config (.str preset) = .error (.fault fault) ∧
      fault.OfPreset preset := by
  rw [Preset.Usable, not_or, not_exists] at h
  obtain ⟨hall, hrows⟩ := h
  rw [presetSeverities, isAll_str, if_neg (by simpa using hall), Preset.severities_eq hconfig]
  cases hget : Entries.get? preset tables with
  | none => exact ⟨_, rfl, rfl⟩
  | some rows =>
    obtain ⟨severity, rule, hread⟩ := Preset.readSeverities_of_not_rated (.str preset)
      fun hrated => hrows rows ⟨hget, hrated⟩
    simp only [hread]
    exact ⟨_, rfl, rfl⟩

end Configured

/-! ## Overrides -/

/-- An override of a rule that is registered, by a severity that exists. -/
def Fits (catalog : Catalog) (override : String × String) : Prop :=
  (catalog.rule? override.1).isSome = true ∧ override.2 ∈ Severity.names

instance (catalog : Catalog) (override : String × String) : Decidable (Fits catalog override) :=
  inferInstanceAs (Decidable (_ ∧ _))

section Overrides

variable {catalog : Catalog} {severities : Entries Severity} {first : String × String}
  {overrides : Entries String}

theorem override_cons (h : Fits catalog first) :
    override catalog severities (Json.ofTexts (first :: overrides)) =
      override catalog (Entries.put first.1 (Severity.ofName first.2) severities)
        (Json.ofTexts overrides) := by
  show override catalog severities ((.str first.1, .str first.2) :: Json.ofTexts overrides) = _
  have hkey : ((Json.str first.1).str?.filter fun name => (catalog.rule? name).isSome) =
      some first.1 := Option.filter_some_pos h.1
  have hvalue : Severity.ofJson? (.str first.2) = some (Severity.ofName first.2) :=
    (Severity.ofName?_of_mem h.2).1
  rw [override, hkey, hvalue]

theorem override_cons_of_not_fits (h : ¬ Fits catalog first) :
    ∃ fault, override catalog severities (Json.ofTexts (first :: overrides)) = .error fault ∧
      fault.OfOverride first := by
  show ∃ fault,
    override catalog severities ((.str first.1, .str first.2) :: Json.ofTexts overrides) = _ ∧ _
  rw [override]
  by_cases hrule : (catalog.rule? first.1).isSome = true
  · have hkey : ((Json.str first.1).str?.filter fun name => (catalog.rule? name).isSome) =
        some first.1 := Option.filter_some_pos hrule
    have hvalue : Severity.ofJson? (.str first.2) = none :=
      Severity.ofName?_of_not_mem fun hmem => h ⟨hrule, hmem⟩
    rw [hkey, hvalue]
    exact ⟨_, rfl, rfl, rfl⟩
  · have hkey : ((Json.str first.1).str?.filter fun name => (catalog.rule? name).isSome) = none :=
      Option.filter_some_neg (Bool.eq_false_iff.2 hrule)
    rw [hkey]
    exact ⟨_, rfl, rfl⟩

-- The first override that does not fit is at fault, whatever stands behind it.
theorem override_append_of_not_fits (severities : Entries Severity) {before : Entries String}
    (behind : Entries String) (hbefore : ∀ override ∈ before, Fits catalog override)
    (h : ¬ Fits catalog first) :
    ∃ fault, override catalog severities (Json.ofTexts (before ++ first :: behind)) =
      .error fault ∧ fault.OfOverride first := by
  induction before generalizing severities with
  | nil => exact override_cons_of_not_fits h
  | cons other before ih =>
    obtain ⟨hother, hrest⟩ := List.forall_mem_cons.1 hbefore
    rw [List.cons_append, override_cons hother]
    exact ih _ hrest

theorem exists_first_not_fits (h : ¬ ∀ override ∈ overrides, Fits catalog override) :
    ∃ before first behind, overrides = before ++ first :: behind ∧
      (∀ override ∈ before, Fits catalog override) ∧ ¬ Fits catalog first := by
  obtain ⟨before, rest, rfl, hbefore, hrest, -, -⟩ :=
    exists_run (fun override => decide (Fits catalog override)) overrides
  simp only [decide_eq_true_eq] at hbefore
  cases rest with
  | nil =>
    rw [List.append_nil] at h
    exact absurd hbefore h
  | cons first behind =>
    have hfirst : decide (Fits catalog first) = false := hrest first rfl
    exact ⟨before, first, behind, rfl, hbefore, of_decide_eq_false hfirst⟩

-- Overrides of different rules do not touch each other.
theorem exists_override (severities : Entries Severity)
    (hnodup : (Entries.keys overrides).Nodup) (h : ∀ override ∈ overrides, Fits catalog override) :
    ∃ rules, override catalog severities (Json.ofTexts overrides) = .ok rules ∧
      ∀ name, Entries.get? name rules =
        ((Entries.get? name overrides).map Severity.ofName).or (Entries.get? name severities) := by
  induction overrides generalizing severities with
  | nil => exact ⟨severities, rfl, fun _ => rfl⟩
  | cons first rest ih =>
    obtain ⟨hfirst, hrest⟩ := List.forall_mem_cons.1 h
    obtain ⟨hnew, hnodup⟩ := List.nodup_cons.1 hnodup
    obtain ⟨rules, hrules, hget⟩ :=
      ih (Entries.put first.1 (Severity.ofName first.2) severities) hnodup hrest
    refine ⟨rules, (override_cons hfirst).trans hrules, fun name => ?_⟩
    rw [hget, Entries.get?_put]
    by_cases hname : name = first.1
    · subst hname
      have hnone : Entries.get? first.1 rest = none := Entries.get?_eq_none_iff.2 hnew
      have hsome : Entries.get? first.1 (first :: rest) = some first.2 := by simp [Entries.get?]
      rw [hnone, hsome, if_pos rfl]
      rfl
    · have hskip : Entries.get? name (first :: rest) = Entries.get? name rest := by
        simp [Entries.get?, Ne.symm hname]
      rw [hskip, if_neg hname]

end Overrides

/-! ## Linters -/

/-- The linter for a preset and overrides that are given as texts. -/
def ofTexts (catalog : Catalog) (config : Json) (preset : String) (overrides : Entries String) :
    Except ConfigFailure Linter :=
  make catalog config (.str preset) (Json.ofTexts overrides)

theorem ofTexts_eq {catalog : Catalog} {config : Json} {preset : String}
    {overrides : Entries String} (hpreset : preset ≠ "")
    (hoverrides : (Entries.keys overrides).Nodup) :
    ofTexts catalog config preset overrides =
      (presetSeverities catalog config (.str preset)).bind fun base =>
        ((override catalog base.rules (Json.ofTexts overrides)).mapError .fault).bind fun rules =>
          .ok ⟨.str preset, { base with rules }, activeRules catalog rules⟩ := by
  have hname : presetName config (.str preset) = .str preset := by
    have hempty : ¬ (Json.str preset).isNothing = true := by
      simpa [Json.isNothing] using hpreset
    rw [presetName, if_neg hempty]
  have hpairs : Json.ofPairs (Json.ofTexts overrides) = Json.ofTexts overrides := by
    rw [Json.ofPairs_ofTexts, Entries.ofPairs_of_nodup hoverrides]
  rw [ofTexts, make, hname, hpairs]
  rfl

/-- `Activates catalog severity active`: by name, the rules of a catalog that are not off, each with
its severity. -/
structure Activates (catalog : Catalog) (severity : Rule → String)
    (active : List (Rule × Severity)) : Prop where
  increasing : active.Pairwise fun a b => a.1.name < b.1.name
  mem_iff : ∀ rule s, (rule, s) ∈ active ↔ rule ∈ catalog.all ∧ s ≠ .off ∧ s.name = severity rule

theorem activates_activeRules {catalog : Catalog} (hcatalog : catalog.Indexed)
    {severities : Entries Severity} {severity : Rule → String}
    (h : ∀ rule ∈ catalog.all,
      ((Entries.get? rule.name severities).getD .off).name = severity rule) :
    Activates catalog severity (activeRules catalog severities) := by
  constructor
  · have hnames := hcatalog.pairwise_all.sublist (map_activeRules_sublist catalog severities)
    rwa [List.pairwise_map] at hnames
  · intro rule s
    rw [mem_activeRules_iff]
    refine and_congr_right fun hrule => ?_
    rw [← h rule hrule, Severity.name_inj]
    cases Entries.get? rule.name severities with
    | none => simp +contextual
    | some found => simp [and_comm, eq_comm]

section Made

variable {rules : List Rule} {config : Json} {tables : Entries (Entries String)} {preset : String}
  {overrides : Entries String}
  (hconfig : Config.get? config "presets" = some (Preset.tableOf tables)) (hpreset : preset ≠ "")
  (hoverrides : (Entries.keys overrides).Nodup)
include hconfig hpreset hoverrides

theorem ofTexts_of_not_usable (h : ¬ Preset.Usable tables preset) :
    ∃ fault, ofTexts (.ofRules rules) config preset overrides = .error (.fault fault) ∧
      fault.OfPreset preset := by
  obtain ⟨fault, hfault, hof⟩ :=
    presetSeverities_of_not_usable (.ofRules rules) hconfig h
  refine ⟨fault, ?_, hof⟩
  rw [ofTexts_eq hpreset hoverrides, hfault]
  rfl

theorem ofTexts_of_not_fits (h : Preset.Usable tables preset) {before behind : Entries String}
    {first : String × String} (heq : overrides = before ++ first :: behind)
    (hbefore : ∀ override ∈ before, Fits (.ofRules rules) override)
    (hfirst : ¬ Fits (.ofRules rules) first) :
    ∃ fault, ofTexts (.ofRules rules) config preset overrides = .error (.fault fault) ∧
      fault.OfOverride first := by
  obtain ⟨base, hbase, -⟩ := exists_presetSeverities hconfig (Catalog.indexed_ofRules rules) h
  obtain ⟨fault, hfault, hof⟩ := override_append_of_not_fits base.rules behind hbefore hfirst
  rw [← heq] at hfault
  refine ⟨fault, ?_, hof⟩
  rw [ofTexts_eq hpreset hoverrides, hbase, Except.bind, hfault]
  rfl

theorem exists_ofTexts (h : Preset.Usable tables preset)
    (hfits : ∀ override ∈ overrides, Fits (.ofRules rules) override) :
    ∃ linter, ofTexts (.ofRules rules) config preset overrides = .ok linter ∧
      Activates (.ofRules rules) (effectiveSeverity tables preset overrides) linter.active := by
  have hcatalog := Catalog.indexed_ofRules rules
  obtain ⟨base, hbase, hpresetSeverity⟩ := exists_presetSeverities hconfig hcatalog h
  obtain ⟨severities, hseverities, hget⟩ :=
    exists_override base.rules hoverrides hfits
  refine ⟨⟨.str preset, { base with rules := severities }, activeRules (.ofRules rules) severities⟩,
    ?_, activates_activeRules hcatalog fun rule hrule => ?_⟩
  · rw [ofTexts_eq hpreset hoverrides, hbase, Except.bind, hseverities]
    rfl
  · rw [hget, effectiveSeverity]
    cases hoverride : Entries.get? rule.name overrides with
    | none => exact hpresetSeverity rule hrule
    | some severity =>
      exact (Severity.ofName?_of_mem (hfits _ (Entries.mem_of_get? hoverride)).2).2

end Made

/-- A linter is made exactly when the preset can be used and every override fits.  If the preset
cannot be used it is at fault, and otherwise the first override that does not fit.  The active rules
of a linter are those registered rules that are not off: by an override, or else by the preset, in
which a rule that is not there is off. -/
theorem activates_ofTexts (rules : List Rule) {config : Json} {tables : Entries (Entries String)}
    (hconfig : Config.get? config "presets" = some (Preset.tableOf tables)) (preset : String)
    (hpreset : preset ≠ "") (overrides : Entries String)
    (hoverrides : (Entries.keys overrides).Nodup) :
    ((∃ linter, ofTexts (.ofRules rules) config preset overrides = .ok linter) ↔
      Preset.Usable tables preset ∧ ∀ override ∈ overrides, Fits (.ofRules rules) override) ∧
    (¬ Preset.Usable tables preset →
      ∃ fault, ofTexts (.ofRules rules) config preset overrides = .error (.fault fault) ∧
        fault.OfPreset preset) ∧
    (Preset.Usable tables preset → ∀ before first behind, overrides = before ++ first :: behind →
      (∀ override ∈ before, Fits (.ofRules rules) override) → ¬ Fits (.ofRules rules) first →
      ∃ fault, ofTexts (.ofRules rules) config preset overrides = .error (.fault fault) ∧
        fault.OfOverride first) ∧
    ∀ linter, ofTexts (.ofRules rules) config preset overrides = .ok linter →
      Activates (.ofRules rules) (effectiveSeverity tables preset overrides) linter.active := by
  have hmade : ∀ linter, ofTexts (.ofRules rules) config preset overrides = .ok linter →
      Preset.Usable tables preset ∧ ∀ override ∈ overrides, Fits (.ofRules rules) override := by
    intro linter hlinter
    have husable : Preset.Usable tables preset := by
      by_contra hnot
      obtain ⟨fault, hfault, -⟩ := ofTexts_of_not_usable hconfig hpreset hoverrides hnot
      rw [hlinter] at hfault
      cases hfault
    refine ⟨husable, ?_⟩
    by_contra hnot
    obtain ⟨before, first, behind, heq, hbefore, hfirst⟩ := exists_first_not_fits hnot
    obtain ⟨fault, hfault, -⟩ :=
      ofTexts_of_not_fits hconfig hpreset hoverrides husable heq hbefore hfirst
    rw [hlinter] at hfault
    cases hfault
  refine ⟨⟨?_, ?_⟩, ofTexts_of_not_usable hconfig hpreset hoverrides, ?_, ?_⟩
  · rintro ⟨linter, hlinter⟩
    exact hmade linter hlinter
  · rintro ⟨husable, hfits⟩
    obtain ⟨linter, hlinter, -⟩ := exists_ofTexts hconfig hpreset hoverrides husable hfits
    exact ⟨linter, hlinter⟩
  · intro husable before first behind heq hbefore hfirst
    exact ofTexts_of_not_fits hconfig hpreset hoverrides husable heq hbefore hfirst
  · intro linter hlinter
    obtain ⟨husable, hfits⟩ := hmade linter hlinter
    obtain ⟨other, hother, hactive⟩ := exists_ofTexts hconfig hpreset hoverrides husable hfits
    rw [hlinter] at hother
    rwa [Except.ok.inj hother]

/-- Two rules, of which the second is no problem. -/
def siteRules : List Rule := [{ name := "title" }, { name := "order", kind := "layout" }]

/-- Presets with a rule that does not exist, and with a severity that does not exist. -/
def siteTables : Entries (Entries String) :=
  [("site", [("order", "warn"), ("ghost", "error")]), ("all", [("title", "loud")]),
    ("draft", [("title", "loud")])]

/-- A configuration with these presets. -/
def siteConfig : Json := .obj [("presets", Preset.tableOf siteTables)]

theorem activates_ofTexts_siteRules :
    (∃ linter, ofTexts (.ofRules siteRules) siteConfig "site" [("title", "error")] = .ok linter ∧
      Activates (.ofRules siteRules) (effectiveSeverity siteTables "site" [("title", "error")])
        linter.active ∧
      ({ name := "order", kind := "layout" }, .warn) ∈ linter.active ∧
      ({ name := "title" }, .error) ∈ linter.active) ∧
    (∃ linter, ofTexts (.ofRules siteRules) siteConfig "all" [] = .ok linter) ∧
    (∃ fault, ofTexts (.ofRules siteRules) siteConfig "draft" [("ghost", "off")] =
      .error (.fault fault) ∧ fault.OfPreset "draft") ∧
    ∃ fault, ofTexts (.ofRules siteRules) siteConfig "site"
        [("title", "off"), ("ghost", "off"), ("order", "loud")] = .error (.fault fault) ∧
      fault.OfOverride ("ghost", "off") := by
  have hconfig : Config.get? siteConfig "presets" = some (Preset.tableOf siteTables) := rfl
  have hsite : Preset.Usable siteTables "site" :=
    .inr ⟨[("order", "warn"), ("ghost", "error")], by decide, by decide⟩
  have hdraft : ¬ Preset.Usable siteTables "draft" := by
    rintro (hall | ⟨rows, hrows, hrated⟩)
    · exact absurd hall (by decide)
    · obtain rfl : [("title", "loud")] = rows := Option.some.inj hrows
      exact absurd hrated (by decide)
  obtain ⟨hiff, -, -, hactive⟩ := activates_ofTexts siteRules hconfig "site" (by decide)
    [("title", "error")] (by decide)
  obtain ⟨hiffAll, -⟩ := activates_ofTexts siteRules hconfig "all" (by decide) [] (by decide)
  obtain ⟨-, hpreset, -⟩ := activates_ofTexts siteRules hconfig "draft" (by decide)
    [("ghost", "off")] (by decide)
  obtain ⟨-, -, hoverride, -⟩ := activates_ofTexts siteRules hconfig "site" (by decide)
    [("title", "off"), ("ghost", "off"), ("order", "loud")] (by decide)
  obtain ⟨linter, hlinter⟩ := hiff.2 ⟨hsite, by decide⟩
  have hmember := (hactive linter hlinter).mem_iff
  have horder := (hmember { name := "order", kind := "layout" } .warn).2
    ⟨List.mem_mergeSort.2 (List.mem_of_getElem? (i := 1) rfl), by decide, rfl⟩
  have htitle := (hmember { name := "title" } .error).2
    ⟨List.mem_mergeSort.2 (List.mem_of_getElem? (i := 0) rfl), by decide, rfl⟩
  refine ⟨⟨linter, hlinter, hactive linter hlinter, horder, htitle⟩,
    hiffAll.2 ⟨.inl rfl, by decide⟩, hpreset hdraft, ?_⟩
  exact hoverride hsite [("title", "off")] ("ghost", "off") [("order", "loud")] rfl (by decide)
    (by decide)

end Linter

end HeadLint
