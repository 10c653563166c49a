import HeadLint.Lint.Batch
import HeadLint.Proofs.Entries
import Mathlib.Algebra.BigOperators.Group.List.Basic
import Mathlib.Algebra.Ring.Nat
import Mathlib.Data.String.Basic

/-!
The books of a batch.  Each run drops what an earlier one has left; while it goes on, the reports
and the counts are kept apart, and they still agree when a document ends the run early.
-/

namespace HeadLint

-- Putting a value replaces what its key had in a sum over all values.
theorem Entries.sum_put {α : Type} (f : α → Nat) (key : String) (value : α) (entries : Entries α) :
    ((put key value entries).map fun entry => f entry.2).sum + ((get? key entries).map f).getD 0 =
      (entries.map fun entry => f entry.2).sum + f value := by
  induction entries with
  | nil => simp [put, get?]
  | cons entry rest ih =>
    obtain ⟨k, v⟩ := entry
    by_cases hk : k = key
    · simp [put, get?, hk, Nat.add_comm, Nat.add_left_comm]
    · have hget : get? key ((k, v) :: rest) = get? key rest := by
        simp [get?, hk]
      simp only [put, if_neg hk, hget, List.map_cons, List.sum_cons]
      omega

/-- The order of the lines of a breakdown. -/
def CodeCount.Before (a b : CodeCount) : Prop :=
  a.rule < b.rule ∨ a.rule = b.rule ∧ a.code < b.code

namespace Batch

open Entries (keys get? put)

/-! ## Counts -/

/-- How often a code of a rule was counted. -/
def countOf (counts : Entries (Entries Nat)) (rule code : String) : Nat :=
  (get? code ((get? rule counts).getD [])).getD 0

/-- All counts together. -/
def total (counts : Entries (Entries Nat)) : Nat :=
  (counts.map fun entry => (entry.2.map (·.2)).sum).sum

/-- Whether a report has a rule and a code. -/
def isOf (rule code : String) (d : Diagnostic) : Bool :=
  d.rule == rule && d.code == code

/-- Counts are those of some reports: every rule and every code has one entry, no entry is empty,
and each says how many of the reports have that rule and that code. -/
structure Tallies (found : List Diagnostic) (counts : Entries (Entries Nat)) : Prop where
  rules : (keys counts).Nodup
  codes : ∀ entry ∈ counts, (keys entry.2).Nodup
  positive : ∀ entry ∈ counts, ∀ line ∈ entry.2, 1 ≤ line.2
  count : ∀ rule code, countOf counts rule code = found.countP (isOf rule code)
  total : total counts = found.length

theorem countOf_tally (counts : Entries (Entries Nat)) (d : Diagnostic) (rule code : String) :
    countOf (tally counts d) rule code =
      countOf counts rule code + if isOf rule code d then 1 else 0 := by
  unfold countOf tally
  by_cases hrule : rule = d.rule
  · subst hrule
    by_cases hcode : code = d.code
    · subst hcode
      simp [Entries.get?_put, isOf]
    · simp [Entries.get?_put, isOf, hcode, Ne.symm hcode]
  · simp [Entries.get?_put, isOf, hrule, Ne.symm hrule]

theorem total_tally (counts : Entries (Entries Nat)) (d : Diagnostic) :
    total (tally counts d) = total counts + 1 := by
  have hrules := Entries.sum_put (fun codes => (codes.map (·.2)).sum) d.rule
    (put d.code ((get? d.code ((get? d.rule counts).getD [])).getD 0 + 1)
      ((get? d.rule counts).getD [])) counts
  have hcodes := Entries.sum_put id d.code
    ((get? d.code ((get? d.rule counts).getD [])).getD 0 + 1) ((get? d.rule counts).getD [])
  have hold : ((get? d.rule counts).map fun codes => (codes.map (·.2)).sum).getD 0 =
      (((get? d.rule counts).getD []).map (·.2)).sum := by
    cases get? d.rule counts <;> rfl
  simp only [id_eq, Option.map_id_fun] at hcodes
  unfold total tally
  dsimp only at hrules ⊢
  omega

-- The step: one report more is counted.
theorem Tallies.tally {found : List Diagnostic} {counts : Entries (Entries Nat)}
    (h : Tallies found counts) (d : Diagnostic) : Tallies (found ++ [d]) (tally counts d) := by
  have hcodes : (keys ((get? d.rule counts).getD [])).Nodup := by
    cases hget : get? d.rule counts with
    | none => exact List.nodup_nil
    | some codes => exact h.codes _ (Entries.mem_of_get? hget)
  have hpositive : ∀ line ∈ (get? d.rule counts).getD [], 1 ≤ line.2 := by
    cases hget : get? d.rule counts with
    | none => exact fun line hline => absurd hline (List.not_mem_nil)
    | some codes => exact h.positive _ (Entries.mem_of_get? hget)
  refine ⟨Entries.nodup_keys_put _ _ _ h.rules, ?_, ?_, ?_, ?_⟩
  · intro entry hentry
    rcases Entries.mem_put hentry with rfl | hentry
    · exact Entries.nodup_keys_put _ _ _ hcodes
    · exact h.codes entry hentry
  · intro entry hentry line hline
    rcases Entries.mem_put hentry with rfl | hentry
    · rcases Entries.mem_put hline with rfl | hline
      · exact Nat.le_add_left 1 _
      · exact hpositive line hline
    · exact h.positive entry hentry line hline
  · intro rule code
    rw [countOf_tally, h.count, List.countP_append, List.countP_singleton]
  · rw [total_tally, h.total, List.length_append, List.length_singleton]

-- The run over the reports on a document.
theorem Tallies.foldl_tally {counts : Entries (Entries Nat)} {found : List Diagnostic}
    (h : Tallies found counts) (more : List Diagnostic) :
    Tallies (found ++ more) (more.foldl Batch.tally counts) := by
  induction more generalizing found counts with
  | nil => simpa using h
  | cons d more ih => simpa using ih (h.tally d)

theorem tallies_nil : Tallies [] [] :=
  ⟨List.nodup_nil, nofun, nofun, fun _ _ => rfl, rfl⟩

/-! ## The breakdown -/

theorem pairwise_sortEntries {α : Type} {entries : Entries α} (h : (keys entries).Nodup) :
    (sortEntries entries).Pairwise fun a b => a.1 < b.1 := by
  have htrans : ∀ a b c : String × α, textLe a.1 b.1 = true → textLe b.1 c.1 = true →
      textLe a.1 c.1 = true := fun a b c => textLe_trans a.1 b.1 c.1
  have htotal : ∀ a b : String × α, (textLe a.1 b.1 || textLe b.1 a.1) = true := fun a b =>
    textLe_total a.1 b.1
  have hsorted := List.pairwise_mergeSort htrans htotal entries
  have hkeys : (sortEntries entries).Pairwise fun a b => a.1 ≠ b.1 := by
    have hperm : (keys (sortEntries entries)).Perm (keys entries) :=
      (List.mergeSort_perm entries _).map _
    exact List.pairwise_map.1 (hperm.nodup_iff.2 h)
  refine hsorted.imp₂ (fun a b hle hne => ?_) hkeys
  simp only [textLe, Bool.not_eq_true', decide_eq_false_iff_not] at hle
  exact lt_of_le_of_ne (String.not_lt.1 hle) hne

theorem mem_breakdown_iff {batch : Batch} {line : CodeCount} :
    line ∈ batch.breakdown ↔
      ∃ codes, (line.rule, codes) ∈ batch.counts ∧ (line.code, line.count) ∈ codes := by
  simp only [breakdown, sortEntries, List.mem_flatMap, List.mem_map, List.mem_mergeSort]
  constructor
  · rintro ⟨entry, hentry, code, hcode, rfl⟩
    exact ⟨_, hentry, hcode⟩
  · rintro ⟨codes, hcodes, hcode⟩
    exact ⟨_, hcodes, _, hcode, rfl⟩

theorem pairwise_breakdown {batch : Batch} {found : List Diagnostic}
    (h : Tallies found batch.counts) : batch.breakdown.Pairwise CodeCount.Before := by
  refine List.pairwise_flatMap.2 ⟨?_, ?_⟩
  · intro entry hentry
    refine List.pairwise_map.2 ?_
    refine (pairwise_sortEntries (h.codes entry (List.mem_mergeSort.1 hentry))).imp ?_
    exact fun hlt => .inr ⟨rfl, hlt⟩
  · refine (pairwise_sortEntries h.rules).imp ?_
    rintro a b hlt _ hx _ hy
    obtain ⟨_, -, rfl⟩ := List.mem_map.1 hx
    obtain ⟨_, -, rfl⟩ := List.mem_map.1 hy
    exact .inl hlt

theorem sum_breakdown (batch : Batch) :
    (batch.breakdown.map (·.count)).sum = total batch.counts := by
  have hcodes : ∀ codes : Entries Nat,
      ((sortEntries codes).map (·.2)).sum = (codes.map (·.2)).sum := fun codes =>
    ((List.mergeSort_perm codes _).map _).sum_eq
  have hrules := ((List.mergeSort_perm batch.counts fun a b => textLe a.1 b.1).map
    fun entry => (entry.2.map (·.2)).sum).sum_eq
  rw [total, ← hrules]
  rw [breakdown, List.map_flatMap, List.flatMap_def, List.sum_flatten, List.map_map]
  refine congrArg List.sum (List.map_congr_left fun entry _ => ?_)
  rw [Function.comp_apply, List.map_map]
  exact hcodes entry.2

theorem count_of_mem_breakdown {batch : Batch} {found : List Diagnostic}
    (h : Tallies found batch.counts) {line : CodeCount} (hline : line ∈ batch.breakdown) :
    1 ≤ line.count ∧ line.count = countOf batch.counts line.rule line.code := by
  obtain ⟨codes, hcodes, hcode⟩ := mem_breakdown_iff.1 hline
  refine ⟨h.positive _ hcodes _ hcode, ?_⟩
  rw [countOf, Entries.get?_of_mem h.rules hcodes, Option.getD_some,
    Entries.get?_of_mem (h.codes _ hcodes) hcode, Option.getD_some]

/-! ## Runs -/

/-- All reports with the documents that they are about, document by document. -/
def located (batch : Batch) : List (String × Diagnostic) :=
  batch.reports.flatMap fun entry => entry.2.map (entry.1, ·)

/-- All reports, document by document. -/
def allReports (batch : Batch) : List Diagnostic :=
  batch.reports.flatMap (·.2)

/-- Whether a document has reports. -/
def isReported (entry : String × List Diagnostic) : Bool :=
  !entry.2.isEmpty

/-- The entry of a document holds what the linter says about this document alone. -/
def Linted (linter : Linter) (source : OptionSource) (document : String × String)
    (entry : String × List Diagnostic) : Prop :=
  entry.1 = document.1 ∧ linter.lint source document.2 = .ok entry.2

/-- The documents of a run: all of them are done when it returns; when it fails, the next one is to
blame. -/
def StopsAt (linter : Linter) (source : OptionSource) {α : Type} (rest : Entries String) :
    Except LintFailure α → Prop
  | .ok _ => rest = []
  | .error failure =>
    ∃ name html more, rest = (name, html) :: more ∧ linter.lint source html = .error failure

/-- What documents add to a batch. -/
def withAll (batch : Batch) (entries : Entries (List Diagnostic)) : Batch :=
  { reports := batch.reports ++ entries
    counts := (entries.flatMap (·.2)).foldl tally batch.counts }

theorem add_of_not_mem {batch : Batch} {name : String} (h : name ∉ keys batch.reports)
    (found : List Diagnostic) : batch.add name found = batch.withAll [(name, found)] := by
  have hput := Entries.put_append_of_not_mem found [] h
  rw [List.append_nil] at hput
  simp [add, withAll, hput, put]

theorem withAll_withAll (batch : Batch) (entries more : Entries (List Diagnostic)) :
    (batch.withAll entries).withAll more = batch.withAll (entries ++ more) := by
  simp [withAll]

-- The loop: some documents are done, in order, and the first that fails ends it.
theorem addAll_eq (linter : Linter) (source : OptionSource) {documents : Entries String}
    {batch : Batch} (withReports : Nat) (hkeys : (keys documents).Nodup)
    (hfresh : ∀ name ∈ keys documents, name ∉ keys batch.reports) :
    ∃ done rest entries answer, documents = done ++ rest ∧
      List.Forall₂ (Linted linter source) done entries ∧ StopsAt linter source rest answer ∧
      addAll linter source batch withReports documents =
        (batch.withAll entries, answer.map fun () =>
          withReports + entries.countP isReported) := by
  induction documents generalizing batch withReports with
  | nil => exact ⟨[], [], [], .ok (), rfl, .nil, rfl, by simp [addAll, withAll, Except.map]⟩
  | cons document more ih =>
    obtain ⟨name, html⟩ := document
    obtain ⟨hname, hmore⟩ := List.nodup_cons.1 hkeys
    cases hlint : linter.lint source html with
    | error failure =>
      exact ⟨[], (name, html) :: more, [], .error failure, rfl, .nil,
        ⟨name, html, more, rfl, hlint⟩, by simp [addAll, hlint, withAll, Except.map]⟩
    | ok found =>
      have hadd := add_of_not_mem (hfresh name (List.mem_cons_self ..)) found
      have hfresh' : ∀ other ∈ keys more, other ∉ keys (batch.withAll [(name, found)]).reports := by
        intro other hother hmem
        simp only [withAll, keys, List.map_append, List.map_cons, List.map_nil, List.mem_append,
          List.mem_singleton] at hmem
        rcases hmem with hmem | rfl
        · exact hfresh other (List.mem_cons_of_mem _ hother) hmem
        · exact hname hother
      obtain ⟨done, rest, entries, answer, rfl, hdone, hstop, hrun⟩ := ih
        (if found.isEmpty then withReports else withReports + 1) hmore hfresh'
      refine ⟨(name, html) :: done, rest, (name, found) :: entries, answer, rfl,
        .cons ⟨rfl, hlint⟩ hdone, hstop, ?_⟩
      rw [addAll, hlint]
      dsimp only
      rw [hadd, hrun, withAll_withAll, List.singleton_append]
      cases hfound : found.isEmpty <;>
        simp [isReported, hfound, Nat.add_comm, Nat.add_left_comm]

/-- The row of a report on a document. -/
def RowOf (report : String × Diagnostic) (row : ExportRow) : Prop :=
  row.document = report.1 ∧ row.rule = report.2.rule ∧ row.code = report.2.code ∧
    row.severity = report.2.severity ∧ row.line = report.2.span.map (·.line) ∧
    row.message = report.2.message

/-- A summary agrees with the batch that it is about. -/
structure Summarizes (summary : BatchSummary) (documents : Entries String) (batch : Batch) :
    Prop where
  documents : summary.documents = documents.length
  withReports : summary.documentsWithReports = batch.reports.countP isReported
  rows : summary.totalReports = batch.rows.length
  sum : summary.totalReports = (summary.breakdown.map (·.count)).sum
  sorted : summary.breakdown.Pairwise CodeCount.Before
  counts : ∀ line ∈ summary.breakdown,
    1 ≤ line.count ∧ line.count = countOf batch.counts line.rule line.code

/-- The books are in order after a run on some documents. -/
structure InOrder (linter : Linter) (source : OptionSource) (documents : Entries String)
    (outcome : Batch × Except LintFailure BatchSummary) : Prop where
  counts : ∀ rule code,
    countOf outcome.1.counts rule code = outcome.1.allReports.countP (isOf rule code)
  reports : ∃ done rest, documents = done ++ rest ∧
    List.Forall₂ (Linted linter source) done outcome.1.reports ∧
    StopsAt linter source rest outcome.2
  rows : List.Forall₂ RowOf outcome.1.located outcome.1.rows
  summary : ∀ summary, outcome.2 = .ok summary → Summarizes summary documents outcome.1

theorem forall₂_rows (batch : Batch) : List.Forall₂ RowOf batch.located batch.rows := by
  unfold located rows
  induction batch.reports with
  | nil => exact .nil
  | cons entry rest ih =>
    simp only [List.flatMap_cons]
    refine List.rel_append ?_ ih
    rw [List.forall₂_map_left_iff, List.forall₂_map_right_iff]
    exact List.forall₂_same.2 fun d _ => ⟨rfl, rfl, rfl, rfl, rfl, rfl⟩

theorem length_rows (batch : Batch) : batch.rows.length = batch.allReports.length := by
  simp [rows, allReports, List.length_flatMap]

theorem foldl_length (reports : Entries (List Diagnostic)) (n : Nat) :
    reports.foldl (fun total entry => total + entry.2.length) n =
      n + (reports.flatMap (·.2)).length := by
  induction reports generalizing n with
  | nil => rfl
  | cons entry rest ih =>
    rw [List.foldl_cons, ih, List.flatMap_cons, List.length_append]
    omega

theorem summarizes_summary {batch : Batch} (documents : Entries String)
    (h : Tallies batch.allReports batch.counts) :
    Summarizes (batch.summary documents.length (batch.reports.countP isReported)) documents
      batch := by
  have htotal : batch.reports.foldl (fun total entry => total + entry.2.length) 0 =
      batch.allReports.length := by
    rw [foldl_length, Nat.zero_add, allReports]
  refine ⟨rfl, rfl, ?_, ?_, pairwise_breakdown h, fun line => count_of_mem_breakdown h⟩
  · rw [length_rows]
    exact htotal
  · calc batch.reports.foldl (fun total entry => total + entry.2.length) 0
        = batch.allReports.length := htotal
      _ = total batch.counts := h.total.symm
      _ = (batch.breakdown.map (·.count)).sum := (sum_breakdown batch).symm

-- One run, whatever was left before.
theorem inOrder_run (linter : Linter) (source : OptionSource) {documents : Entries String}
    (hkeys : (keys documents).Nodup) (earlier : Batch) :
    InOrder linter source documents (run linter source documents earlier) := by
  have hfresh : ∀ name ∈ keys documents, name ∉ keys earlier.clear.reports :=
    fun _ _ => List.not_mem_nil
  obtain ⟨done, rest, entries, answer, hdocuments, hdone, hstop, hrun⟩ :=
    addAll_eq linter source 0 hkeys hfresh
  have htallies : Tallies (earlier.clear.withAll entries).allReports
      (earlier.clear.withAll entries).counts := by
    simpa [withAll, clear, allReports] using tallies_nil.foldl_tally (entries.flatMap (·.2))
  cases answer with
  | error failure =>
    have houtcome : run linter source documents earlier =
        (earlier.clear.withAll entries, .error failure) := by
      rw [run, hrun]
      rfl
    rw [houtcome]
    exact ⟨htallies.count, ⟨done, rest, hdocuments, hdone, hstop⟩, forall₂_rows _, nofun⟩
  | ok =>
    have houtcome : run linter source documents earlier = (earlier.clear.withAll entries,
        .ok ((earlier.clear.withAll entries).summary documents.length
          ((earlier.clear.withAll entries).reports.countP isReported))) := by
      rw [run, hrun]
      simp [Except.map, withAll, clear]
    rw [houtcome]
    refine ⟨htallies.count, ⟨done, rest, hdocuments, hdone, hstop⟩, forall₂_rows _, ?_⟩
    rintro _ ⟨⟩
    exact summarizes_summary documents htallies

/-- The batch and the answer after each of several runs, one after the other on one batch. -/
def runAll (linter : Linter) (source : OptionSource) (batch : Batch) :
    List (Entries String) → List (Batch × Except LintFailure BatchSummary)
  | [] => []
  | documents :: rest =>
    let outcome := run linter source documents batch
    outcome :: runAll linter source outcome.1 rest

/-- After each of any number of runs on one batch, whether the run returned or not, the books are in
order for the documents of that run. -/
theorem inOrder_runAll (linter : Linter) (source : OptionSource) (batch : Batch)
    {calls : List (Entries String)} (hkeys : ∀ documents ∈ calls, (keys documents).Nodup) :
    List.Forall₂ (InOrder linter source) calls (runAll linter source batch calls) := by
  induction calls generalizing batch with
  | nil => exact .nil
  | cons documents rest ih =>
    refine .cons (inOrder_run linter source (hkeys _ (List.mem_cons_self ..)) batch) ?_
    exact ih _ fun documents hdocuments => hkeys documents (List.mem_cons_of_mem _ hdocuments)

/-- A linter with one rule. -/
def baseLinter : Linter :=
  ⟨.null, {}, [(Rules.noDuplicateBase, .error)]⟩

/-- Options without an origin. -/
def baseSource : OptionSource :=
  .given { now := ⟨0⟩ }

/-- A document with one report. -/
def twoBases : String := "<head><base><base></head>"

/-- A document that cannot be read. -/
def openSection : String := "<![x>"

/-- The rules and codes of what one rule finds in a document with one head. -/
def signatures (rule : Rule) (options : Options) (html : String) :
    Option (List (String × String)) :=
  match Document.parse html with
  | .ok ⟨_, [head]⟩ =>
    match rule.check (Head.of head) options with
    | .ok found => some (found.map fun d => (d.rule, d.code))
    | .error _ => none
  | _ => none

theorem lint_twoBases : ∃ d, baseLinter.lint baseSource twoBases = .ok [d] ∧
    d.rule = "no-duplicate-base" ∧ d.code = "duplicateBase" := by
  have hsignatures : signatures Rules.noDuplicateBase { now := ⟨0⟩ } twoBases =
      some [("no-duplicate-base", "duplicateBase")] := by
    decide +kernel
  unfold signatures at hsignatures
  split at hsignatures
  · rename_i source head hparse
    split at hsignatures
    · rename_i found hcheck
      obtain ⟨d, rfl, hd⟩ := List.map_eq_singleton_iff.1 (Option.some.inj hsignatures)
      obtain ⟨hrule, hcode⟩ := Prod.mk.inj hd
      refine ⟨{ d with severity := some "error" }, ?_, hrule, hcode⟩
      simp [Linter.lint, hparse, Linter.lintHeads, Linter.lintHeadFrom, Linter.lintHead,
        baseSource, OptionSource.options, baseLinter, Linter.reports, hcheck, Except.map,
        Severity.name]
    · cases hsignatures
  · cases hsignatures

theorem lint_openSection :
    ∃ fault, baseLinter.lint baseSource openSection = .error (.markup fault) := by
  have hfault : (Document.parse openSection).toOption.isNone = true := by
    decide +kernel
  unfold Linter.lint
  cases hparse : Document.parse openSection with
  | ok document => rw [hparse] at hfault; cases hfault
  | error fault => exact ⟨fault, rfl⟩

/-- A run that ends at its second document, and one that returns. -/
def twoCalls : List (Entries String) :=
  [[("a", twoBases), ("b", openSection), ("c", twoBases)], [("b", twoBases), ("d", twoBases)]]

-- What the two runs do, document by document.
theorem addAll_twoCalls {d : Diagnostic} {failure : LintFailure}
    (hlint : baseLinter.lint baseSource twoBases = .ok [d])
    (hfailure : baseLinter.lint baseSource openSection = .error failure) (batch : Batch) :
    addAll baseLinter baseSource batch 0
        [("a", twoBases), ("b", openSection), ("c", twoBases)] =
      (batch.add "a" [d], .error failure) ∧
    addAll baseLinter baseSource batch 0 [("b", twoBases), ("d", twoBases)] =
      ((batch.add "b" [d]).add "d" [d], .ok 2) := by
  simp [addAll, hlint, hfailure]

theorem inOrder_runAll_twoCalls :
    ∃ first second failure summary d,
      runAll baseLinter baseSource {} twoCalls = [(first, .error failure), (second, .ok summary)] ∧
      first.reports = [("a", [d])] ∧
      countOf first.counts "no-duplicate-base" "duplicateBase" = 1 ∧
      second.reports = [("b", [d]), ("d", [d])] ∧
      countOf second.counts "no-duplicate-base" "duplicateBase" = 2 ∧
      summary.documents = 2 ∧ summary.documentsWithReports = 2 ∧ second.rows.length = 2 ∧
      (summary.breakdown.map (·.count)).sum = 2 := by
  obtain ⟨d, hlint, hrule, hcode⟩ := lint_twoBases
  obtain ⟨fault, hfault⟩ := lint_openSection
  have hruns : runAll baseLinter baseSource {} twoCalls =
      [(add {} "a" [d], .error (.markup fault)), ((add {} "b" [d]).add "d" [d],
        .ok (((add {} "b" [d]).add "d" [d]).summary 2 2))] := by
    simp only [runAll, twoCalls, run, clear, addAll_twoCalls hlint hfault, List.length_cons,
      List.length_nil]
  have hisOf : isOf "no-duplicate-base" "duplicateBase" d = true := by
    simp [isOf, hrule, hcode]
  have hkeys : ∀ documents ∈ twoCalls, (keys documents).Nodup := by
    decide
  have hinOrder := inOrder_runAll baseLinter baseSource {} hkeys
  rw [hruns] at hinOrder
  obtain _ | ⟨hfirst, _ | ⟨hsecond, _ | _⟩⟩ := hinOrder
  have hsummary := hsecond.summary _ rfl
  have hrows : ((add {} "b" [d]).add "d" [d]).rows.length = 2 := by
    simp [add, rows, put]
  refine ⟨_, _, _, _, d, hruns, ?_, ?_, ?_, ?_, rfl, rfl, hrows, ?_⟩
  · simp [add, put]
  · rw [hfirst.counts]
    simp [allReports, add, put, hisOf]
  · simp [add, put]
  · rw [hsecond.counts]
    simp [allReports, add, put, hisOf]
  · rw [← hsummary.sum, hsummary.rows, hrows]

end Batch

end HeadLint
