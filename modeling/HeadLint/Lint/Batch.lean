import HeadLint.Lint.Linter

/-!
Linting several documents in one run, with counts of what was found.
-/

namespace HeadLint

/-- The results of a run so far: the reports on each document, and how often each code of each rule
was reported. -/
structure Batch where
  reports : Entries (List Diagnostic) := []
  counts : Entries (Entries Nat) := []

/-- One line of the breakdown. -/
structure CodeCount where
  rule : String
  code : String
  count : Nat
deriving DecidableEq

/-- The summary of a run. -/
structure BatchSummary where
  documents : Nat
  documentsWithReports : Nat
  totalReports : Nat
  breakdown : List CodeCount
deriving DecidableEq

/-- One row of the export. -/
structure ExportRow where
  document : String
  rule : String
  code : String
  severity : Option String
  line : Option Int
  message : String
deriving DecidableEq

namespace Batch

/-- Counts one report. -/
def tally (counts : Entries (Entries Nat)) (d : Diagnostic) : Entries (Entries Nat) :=
  let codes := (Entries.get? d.rule counts).getD []
  Entries.put d.rule (Entries.put d.code ((Entries.get? d.code codes).getD 0 + 1) codes) counts

/-- Takes the reports on a document in. -/
def add (batch : Batch) (name : String) (found : List Diagnostic) : Batch :=
  { reports := Entries.put name found batch.reports
    counts := found.foldl tally batch.counts }

/-- Entries in the order of their keys. -/
def sortEntries {α : Type} (entries : Entries α) : Entries α :=
  entries.mergeSort fun a b => textLe a.1 b.1

/-- The counts in the order of rules and codes. -/
def breakdown (batch : Batch) : List CodeCount :=
  (sortEntries batch.counts).flatMap fun (rule, codes) =>
    (sortEntries codes).map fun (code, count) => ⟨rule, code, count⟩

/-- Lints documents one after the other and counts those with reports; the batch keeps what was done
before a failure. -/
def addAll (linter : Linter) (source : OptionSource) (batch : Batch) (withReports : Nat) :
    Entries String → Batch × Except LintFailure Nat
  | [] => (batch, .ok withReports)
  | (name, html) :: rest =>
    match linter.lint source html with
    | .error failure => (batch, .error failure)
    | .ok found =>
      addAll linter source (batch.add name found)
        (if found.isEmpty then withReports else withReports + 1) rest

/-- The summary of a batch over so many documents, some of them with reports. -/
def summary (batch : Batch) (documents withReports : Nat) : BatchSummary :=
  { documents
    documentsWithReports := withReports
    totalReports := batch.reports.foldl (fun total entry => total + entry.2.length) 0
    breakdown := batch.breakdown }

/-- Drops all results. -/
def clear (batch : Batch) : Batch :=
  { batch with reports := [], counts := [] }

/-- Starts over, whatever an earlier run has left, and lints all documents. -/
def run (linter : Linter) (source : OptionSource) (documents : Entries String)
    (earlier : Batch := {}) : Batch × Except LintFailure BatchSummary :=
  match addAll linter source earlier.clear 0 documents with
  | (batch, .error failure) => (batch, .error failure)
  | (batch, .ok withReports) => (batch, .ok (batch.summary documents.length withReports))

/-- The reports on one document. -/
def reportsOn (batch : Batch) (name : String) : List Diagnostic :=
  (Entries.get? name batch.reports).getD []

/-- All reports as rows, document by document. -/
def rows (batch : Batch) : List ExportRow :=
  batch.reports.flatMap fun (document, found) =>
    found.map fun d =>
      ⟨document, d.rule, d.code, d.severity, d.span.map (·.line), d.message⟩

end Batch

end HeadLint
