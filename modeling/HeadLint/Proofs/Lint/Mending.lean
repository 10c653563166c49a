import HeadLint.Lint.Fixing
import HeadLint.Proofs.Lint.Declarations
import HeadLint.Proofs.Lint.Removal
import HeadLint.Proofs.Lint.Replacement
import HeadLint.Proofs.Markup.Position
import Mathlib.Logic.Relation

/-!
Repeated mending comes to an end.  An edit that is made without asking takes one element out of the
text, and with it the less-than sign that opens it.  What is left is read anew and may hold elements
that were not there before, but every round leaves fewer of these signs than the one before.
-/

namespace HeadLint

open Markup

/-! ## Automatic edits -/

/-- A report whose automatic edit, if it has one, is its only edit and removes an element with
nothing around it. -/
def Diagnostic.Mends (d : Diagnostic) : Prop :=
  ∀ edit ∈ d.edits, edit.automatic = true →
    d.edits = [edit] ∧ edit.action = .removeElement ∧ edit.includeLine = false

theorem Rules.mends_reportTrial {options : Options} {e : Element} {found : List Diagnostic}
    (h : reportTrial options e = .ok found) : ∀ d ∈ found, d.Mends := by
  have hremoval : ∀ code data,
      (noInvalidOriginTrialInfo.report code e data [trialRemoval e]).Mends := by
    intro code data edit hedit _
    obtain rfl := List.mem_singleton.1 hedit
    exact ⟨rfl, rfl, rfl⟩
  rcases reportTrial_cases h with ⟨-, rfl⟩ | ⟨-, rfl⟩ | ⟨content, verdict, -, -, hreport⟩
  · exact List.forall_mem_singleton.2 (hremoval _ _)
  · simp
  · rcases hreport with ⟨-, rfl⟩ | ⟨code, -, rfl⟩
    · simp
    · refine List.forall_mem_singleton.2 ?_
      split
      · exact hremoval _ _
      · intro edit hedit
        cases hedit

theorem Catalog.mends_builtin {rule : Rule} (hrule : rule ∈ Catalog.builtin.all) {head : Head}
    {options : Options} {own : List Diagnostic} (h : rule.check head options = .ok own) :
    ∀ d ∈ own, d.Mends := by
  rcases Catalog.advisory_builtin rule hrule with hadvisory | rfl
  · intro d hd edit hedit hautomatic
    rw [(hadvisory head options own h d hd).asks edit hedit] at hautomatic
    cases hautomatic
  · exact Rules.forall_mem_reportTrials (fun _ _ => Rules.mends_reportTrial) h

/-! ## Texts with a range taken out -/

/-- The text with one range taken out of it, which opens with a less-than sign. -/
def Shortened (before after : List Char) : Prop :=
  ∃ front range behind, before = front ++ '<' :: range ++ behind ∧ after = front ++ behind

theorem Shortened.count_lt {before after : List Char} (h : Shortened before after) :
    after.count '<' < before.count '<' := by
  obtain ⟨front, range, behind, rfl, rfl⟩ := h
  simp only [List.count_append, List.count_cons_self]
  omega

-- The removal of what an element covers.
theorem Element.Covers.exists_shortened {source : List Char} {e : Element} {span : Span}
    (h : e.Covers source span) {edit : Edit} (hspan : edit.span = some span)
    (haction : edit.action = .removeElement) (hline : edit.includeLine = false) :
    ∃ text, edit.applied source = .ok text ∧ Shortened source text := by
  obtain ⟨start, hstart⟩ := Int.eq_ofNat_of_zero_le h.start_nonneg
  have hlt := h.start_lt
  have hle := h.stop_le
  obtain ⟨stop, hstop⟩ : ∃ stop : Nat, span.stop = stop := Int.eq_ofNat_of_zero_le (by omega)
  have hbounds : edit.bounds? span source = some ((start : Int), (stop : Int)) := by
    rw [Edit.bounds?, hline, if_neg (by simp), hstart, hstop]
  have happlied : edit.applied source = .ok (source.take start ++ source.drop stop) := by
    simp only [Edit.applied, hspan, hbounds, Edit.insertion, haction, Edit.splice, List.append_nil,
      Edit.place_of_le (show start ≤ source.length by omega),
      Edit.place_of_le (show stop ≤ source.length by omega)]
  refine ⟨_, happlied, ?_⟩
  have hopens := h.opens
  rw [hstart, Int.toNat_natCast] at hopens
  obtain ⟨hlength, hsign⟩ := List.getElem?_eq_some_iff.1 hopens
  refine ⟨source.take start, (source.drop (start + 1)).take (stop - (start + 1)),
    source.drop stop, ?_, rfl⟩
  have hbehind : source.drop stop = (source.drop (start + 1)).drop (stop - (start + 1)) := by
    rw [List.drop_drop]
    congr 1
    omega
  rw [List.append_assoc, List.cons_append, hbehind, List.take_append_drop, ← hsign,
    ← List.drop_eq_getElem_cons hlength, List.take_append_drop]

-- An element of a document that was read covers its range.
theorem Document.covers_of_parse {html : String} {doc : Document} (h : parse html = .ok doc)
    {head e : Element} (hhead : head ∈ doc.heads) (he : e = head ∨ e ∈ head.children) {span : Span}
    (hspan : e.span = some span) : e.Covers html.toList span := by
  obtain ⟨tokens, -, rfl⟩ := parse_eq_ok_iff.1 h
  rw [locateNodes_eq_map] at hhead
  obtain ⟨n, -, rfl⟩ := List.mem_map.1 hhead
  have hcontains : (locateNode html.toList (markLength html.toList) n).Contains e := by
    rcases he with rfl | hchild
    · exact .self _
    · exact .inner hchild (.self e)
  obtain ⟨m, rfl, -⟩ := exists_node_of_contains hcontains rfl
  have hplaced := wellPlaced_locateNode html.toList (markLength html.toList) m
  rwa [Element.WellPlaced, hspan] at hplaced

namespace Linter

/-! ## One round -/

theorem exists_lintHeadFrom_of_lintHeads {linter : Linter} {source : OptionSource}
    {heads : List Element} {found : List Diagnostic}
    (h : linter.lintHeads source heads = .ok found) :
    ∀ d ∈ found, ∃ head ∈ heads, ∃ own, linter.lintHeadFrom source head = .ok own ∧ d ∈ own := by
  induction heads generalizing found with
  | nil =>
    obtain rfl := Except.ok.inj h
    simp
  | cons head rest ih =>
    rw [lintHeads] at h
    split at h
    · cases h
    · rename_i own hown
      cases hrest : linter.lintHeads source rest with
      | error failure => rw [hrest] at h; cases h
      | ok more =>
        rw [hrest] at h
        obtain rfl := Except.ok.inj h
        intro d hd
        rcases List.mem_append.1 hd with hfirst | hmore
        · exact ⟨head, List.mem_cons_self .., own, hown, hfirst⟩
        · obtain ⟨head', hhead', hreport⟩ := ih hrest d hmore
          exact ⟨head', List.mem_cons_of_mem _ hhead', hreport⟩

section Made

variable {config preset : Json} {overrides : List (Json × Json)} {linter : Linter}
  (hmake : make .builtin config preset overrides = .ok linter)
include hmake

theorem mends_of_lint {source : OptionSource} {html : String} {found : List Diagnostic}
    (hlint : linter.lint source html = .ok found) : ∀ d ∈ found, d.Mends := by
  unfold lint at hlint
  split at hlint
  · cases hlint
  · intro d hd
    obtain ⟨head, -, own, hown, hmem⟩ := exists_lintHeadFrom_of_lintHeads hlint d hd
    obtain ⟨options, -, hlintHead⟩ := lintHeadFrom_eq_ok_iff.1 hown
    obtain ⟨unsorted, hreports, rfl⟩ := lintHead_eq_ok_iff.1 hlintHead
    obtain ⟨rule, severity, hactive, reports, hcheck, d', hd', rfl⟩ :=
      exists_check_of_reports hreports d (List.mem_mergeSort.1 hmem)
    exact Catalog.mends_builtin (mem_all_of_make hmake _ hactive) hcheck d' hd'

/-- An automatic edit with a range can be made, and takes a range out of the text. -/
theorem exists_shortened_of_automatic {source : OptionSource} {html : String}
    {found : List Diagnostic} (hlint : linter.lint source html = .ok found) {d : Diagnostic}
    (hd : d ∈ found) {edit : Edit} (hedit : edit ∈ d.edits) (hautomatic : edit.automatic = true)
    (hspan : edit.span.isSome = true) :
    ∃ text, edit.applied html.toList = .ok text ∧ Shortened html.toList text := by
  obtain ⟨-, haction, hline⟩ := mends_of_lint hmake hlint d hd edit hedit hautomatic
  obtain ⟨span, hspan⟩ := Option.isSome_iff_exists.1 hspan
  obtain ⟨doc, hparse, head, hhead, e, he, hconcerns⟩ := exists_concerns_of_lint hmake hlint hd
  have hsame := hconcerns.edits edit hedit
  rw [Edit.Concerns, haction] at hsame
  have hcovers := Document.covers_of_parse hparse hhead he (hsame.symm.trans hspan)
  exact hcovers.exists_shortened hspan haction hline

end Made

theorem exists_of_firstEdit? {found : List Diagnostic} {edit : Edit}
    (h : firstEdit? true found = some edit) :
    ∃ d ∈ found, edit ∈ d.edits ∧ edit.automatic = true ∧ edit.span.isSome = true := by
  unfold firstEdit? at h
  have hspan := List.find?_some h
  obtain ⟨d, hd, hmem⟩ := List.mem_flatMap.1 (List.mem_of_find?_eq_some h)
  have hfix : d.fix? = some edit := by simpa [candidates] using hmem
  exact ⟨d, hd, List.mem_of_find?_eq_some hfix, List.find?_some hfix, hspan⟩

theorem span_of_firstEdit?_eq_none {found : List Diagnostic} (h : firstEdit? true found = none)
    {d : Diagnostic} (hd : d ∈ found) {edit : Edit} (hfix : d.fix? = some edit) :
    edit.span = none := by
  have hmem : edit ∈ found.flatMap (candidates true) :=
    List.mem_flatMap.2 ⟨d, hd, by simp [candidates, hfix]⟩
  simpa using List.find?_eq_none.1 h edit hmem

/-- Nothing is left to be mended without asking: there are reports on the text, but none has an
automatic edit with a range. -/
def AtRest (linter : Linter) (source : OptionSource) (html : String) : Prop :=
  ∃ found, linter.lint source html = .ok found ∧
    ∀ d ∈ found, ∀ edit ∈ d.edits, edit.automatic = true → edit.span = none

/-- One round: the first automatic edit with a range is made. -/
def Turn (linter : Linter) (source : OptionSource) (before after : String) : Prop :=
  ∃ found edit, linter.lint source before = .ok found ∧ firstEdit? true found = some edit ∧
    edit.applied before.toList = .ok after.toList

theorem rounds_of_none {linter : Linter} {source : OptionSource} {automatic : Bool} {html : String}
    {found : List Diagnostic} (hlint : linter.lint source html = .ok found)
    (hfirst : firstEdit? automatic found = none) (count : Nat) :
    linter.rounds source automatic (count + 1) html = .ok [⟨found.map (·.code), none, html⟩] := by
  simp [rounds, hlint, hfirst]

theorem rounds_of_some {linter : Linter} {source : OptionSource} {automatic : Bool} {html : String}
    {found : List Diagnostic} (hlint : linter.lint source html = .ok found) {edit : Edit}
    (hfirst : firstEdit? automatic found = some edit) {text : List Char}
    (happlied : edit.applied html.toList = .ok text) (count : Nat) :
    linter.rounds source automatic (count + 1) html =
      (linter.rounds source automatic count (String.ofList text)).map
        (⟨found.map (·.code), some edit.id, String.ofList text⟩ :: ·) := by
  simp [rounds, hlint, hfirst, happlied, Except.toOption]

/-! ## Runs -/

/-- Rounds that come to rest: each takes a range out of the text that the one before it left, and
after the last there is nothing to be mended. -/
inductive Settles (linter : Linter) (source : OptionSource) : String → List Round → Prop where
  | rest {html : String} (codes : List String) (h : linter.AtRest source html) :
      Settles linter source html [⟨codes, none, html⟩]
  | turn {html next : String} {rounds : List Round} (codes : List String) (id : String)
      (hturn : linter.Turn source html next) (hshort : Shortened html.toList next.toList)
      (h : Settles linter source next rounds) :
      Settles linter source html (⟨codes, some id, next⟩ :: rounds)

/-- As long as there are reports on every text on the way, repeated mending comes to rest.  It makes
at most as many edits as the text has less-than signs, and every edit takes out a range that opens
with one. -/
theorem rounds_settle {config preset : Json} {overrides : List (Json × Json)} {linter : Linter}
    (hmake : make .builtin config preset overrides = .ok linter) (source : OptionSource)
    (html : String)
    (hlint : ∀ text, Relation.ReflTransGen (linter.Turn source) html text →
      ∃ found, linter.lint source text = .ok found) :
    ∃ rounds, linter.Settles source html rounds ∧
      rounds.length ≤ html.toList.count '<' + 1 ∧
      ∀ count, html.toList.count '<' < count →
        linter.rounds source true count html = .ok rounds := by
  -- The signs that are left bound the rounds that are still to come.
  generalize hsigns : html.toList.count '<' = signs
  induction signs using Nat.strong_induction_on generalizing html with
  | h signs ih =>
    obtain ⟨found, hfound⟩ := hlint html .refl
    cases hfirst : firstEdit? true found with
    | none =>
      refine ⟨[⟨found.map (·.code), none, html⟩], .rest _ ⟨found, hfound, ?_⟩, by simp, ?_⟩
      · intro d hd edit hedit hautomatic
        obtain ⟨honly, -⟩ := mends_of_lint hmake hfound d hd edit hedit hautomatic
        refine span_of_firstEdit?_eq_none hfirst hd ?_
        rw [Diagnostic.fix?, honly, List.find?_cons_of_pos hautomatic]
      · intro count hcount
        obtain ⟨count, rfl⟩ := Nat.exists_eq_add_one_of_ne_zero (Nat.ne_zero_of_lt hcount)
        exact rounds_of_none hfound hfirst count
    | some edit =>
      obtain ⟨d, hd, hedit, hautomatic, hspan⟩ := exists_of_firstEdit? hfirst
      obtain ⟨text, happlied, hshort⟩ :=
        exists_shortened_of_automatic hmake hfound hd hedit hautomatic hspan
      have hnext : (String.ofList text).toList = text := String.toList_ofList
      have hturn : linter.Turn source html (String.ofList text) :=
        ⟨found, edit, hfound, hfirst, hnext.symm ▸ happlied⟩
      have hless := hshort.count_lt
      obtain ⟨rounds, hsettles, hlength, hrounds⟩ := ih (text.count '<') (hsigns ▸ hless)
        (String.ofList text) (fun text' hreached => hlint text' (.head hturn hreached))
        (by rw [hnext])
      refine ⟨⟨found.map (·.code), some edit.id, String.ofList text⟩ :: rounds,
        .turn _ _ hturn (hnext.symm ▸ hshort) hsettles, ?_, ?_⟩
      · rw [List.length_cons]
        omega
      · intro count hcount
        obtain ⟨count, rfl⟩ := Nat.exists_eq_add_one_of_ne_zero (Nat.ne_zero_of_lt hcount)
        rw [rounds_of_some hfound hfirst happlied, hrounds count (by omega)]
        rfl

/-! ## A removal that makes a new tag -/

/-- The next text of a document with one head that has at most one report of the rule on tokens:
the text that the edit leaves, if there is one to make. -/
def mended? (html : String) : Option (Option (List Char)) :=
  match Document.parse html with
  | .ok ⟨_, [head]⟩ =>
    match Rules.noInvalidOriginTrial.check (Head.of head) noOptions with
    | .ok [] => some none
    | .ok [d] => some ((firstEdit? true [d]).bind fun edit => (edit.applied html.toList).toOption)
    | _ => none
  | _ => none

theorem lint_of_active {linter : Linter} {rule : Rule} {severity : Severity} {html source : String}
    {head : Element} {own : List Diagnostic} (hactive : linter.active = [(rule, severity)])
    (hparse : Document.parse html = .ok ⟨source, [head]⟩)
    (hown : rule.check (Head.of head) noOptions = .ok own) :
    linter.lint (.given noOptions) html = .ok (inOrder (own.map (Diagnostic.rated severity))) := by
  have hreports : reports (Head.of head) noOptions linter.active =
      .ok (own.map (Diagnostic.rated severity)) := by
    rw [hactive]
    exact reports_cons_eq_ok_iff.2 ⟨own, [], hown, rfl, (List.append_nil _).symm⟩
  have hhead : linter.lintHeadFrom (.given noOptions) head =
      .ok (inOrder (own.map (Diagnostic.rated severity))) :=
    lintHeadFrom_eq_ok_iff.2 ⟨noOptions, rfl, lintHead_eq_ok_iff.2 ⟨_, hreports, rfl⟩⟩
  simp [lint, hparse, lintHeads, hhead, Except.map]

theorem lint_of_mended? {linter : Linter} {severity : Severity}
    (hactive : linter.active = [(Rules.noInvalidOriginTrial, severity)]) {html : String}
    {next : Option (List Char)} (h : mended? html = some next) :
    ∃ found, linter.lint (.given noOptions) html = .ok found ∧
      next = (firstEdit? true found).bind fun edit => (edit.applied html.toList).toOption := by
  unfold mended? at h
  split at h
  · rename_i hparse
    split at h
    · rename_i hown
      obtain rfl := Option.some.inj h
      refine ⟨_, lint_of_active hactive hparse hown, ?_⟩
      rw [List.map_nil, inOrder, List.mergeSort_nil]
      rfl
    · rename_i hown
      obtain rfl := Option.some.inj h
      refine ⟨_, lint_of_active hactive hparse hown, ?_⟩
      rw [List.map_singleton, inOrder, List.mergeSort_singleton]
      rfl
    · cases h
  · cases h

theorem alone_noInvalidOriginTrial :
    Alone "no-invalid-origin-trial" Rules.noInvalidOriginTrial :=
  ⟨by decide +kernel, rfl⟩

/-- A trial without a token inside the tag of another one. -/
def nestedTrial : String :=
  "<head><<meta http-equiv=origin-trial>meta http-equiv=origin-trial></head>"

/-- What is left when the inner one is taken out. -/
def singleTrial : String := "<head><meta http-equiv=origin-trial></head>"

def noTrial : String := "<head></head>"

theorem exists_lint_of_turns_nestedTrial {linter : Linter} {severity : Severity}
    (hactive : linter.active = [(Rules.noInvalidOriginTrial, severity)]) {text : String}
    (h : Relation.ReflTransGen (linter.Turn (.given noOptions)) nestedTrial text) :
    ∃ found, linter.lint (.given noOptions) text = .ok found := by
  have hnested : mended? nestedTrial = some (some singleTrial.toList) := by decide +kernel
  have hsingle : mended? singleTrial = some (some noTrial.toList) := by decide +kernel
  have hno : mended? noTrial = some none := by decide +kernel
  have hnext : ∀ {before after : String} {next : Option (List Char)},
      mended? before = some next → linter.Turn (.given noOptions) before after →
      next = some after.toList := by
    rintro before after next hmended ⟨found, edit, hlint, hfirst, happlied⟩
    obtain ⟨found', hlint', rfl⟩ := lint_of_mended? hactive hmended
    obtain rfl := Except.ok.inj (hlint'.symm.trans hlint)
    rw [hfirst, Option.bind_some, happlied]
    rfl
  -- The three texts are closed under rounds.
  have hreached : text = nestedTrial ∨ text = singleTrial ∨ text = noTrial := by
    induction h with
    | refl => exact .inl rfl
    | tail _ hturn ih =>
      rcases ih with rfl | rfl | rfl
      · exact .inr (.inl (String.toList_inj.1 (Option.some.inj (hnext hnested hturn))).symm)
      · exact .inr (.inr (String.toList_inj.1 (Option.some.inj (hnext hsingle hturn))).symm)
      · cases hnext hno hturn
  obtain ⟨next, hmended⟩ : ∃ next, mended? text = some next := by
    rcases hreached with rfl | rfl | rfl
    · exact ⟨_, hnested⟩
    · exact ⟨_, hsingle⟩
    · exact ⟨_, hno⟩
  obtain ⟨found, hfound, -⟩ := lint_of_mended? hactive hmended
  exact ⟨found, hfound⟩

theorem rounds_settle_nestedTrial :
    ∃ linter rounds, make .builtin (soleRule "no-invalid-origin-trial") (.str "sole") [] =
        .ok linter ∧
      linter.rounds (.given noOptions) true 5 nestedTrial = .ok rounds ∧
      linter.Settles (.given noOptions) nestedTrial rounds := by
  obtain ⟨linter, hmake, hactive⟩ := alone_noInvalidOriginTrial.exists_make
  obtain ⟨rounds, hsettles, -, hrounds⟩ :=
    rounds_settle hmake (.given noOptions) nestedTrial fun _ hreached =>
      exists_lint_of_turns_nestedTrial hactive hreached
  exact ⟨linter, rounds, hmake, hrounds 5 (by decide), hsettles⟩

end Linter

end HeadLint
