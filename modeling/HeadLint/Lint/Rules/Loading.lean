import HeadLint.Check.Preload
import HeadLint.Lint.Rule
import HeadLint.LoadOrder.Inversion

/-!
Rules on what a head loads, and when.
-/

namespace HeadLint.Rules

/-- The identity and the messages of `headElementOrder`. -/
def headElementOrderInfo : RuleInfo :=
  { name := "head-element-order"
    category := "Performance"
    kind := "suggestion"
    description := "Enforce optimal ordering of head elements for performance"
    codes := ["wrongOrder"]
    messages := [("wrongOrder",
      "Element order suboptimal: {current} (weight {currentWeight}) " ++
        "should come after {next} (weight {nextWeight}).")] }

/-- The children of a head stand in order of loading priority. -/
def headElementOrder : Rule :=
  { headElementOrderInfo with
    check := fun head _ =>
      .ok ((inversions head.children).flatMap fun v =>
        (head.select [v.position]).map fun e =>
          headElementOrderInfo.report "wrongOrder" e [
            ("current", .str v.current.label), ("currentWeight", .int v.current.weight),
            ("next", .str v.next.label), ("nextWeight", .int v.next.weight)]) }

/-- The identity and the messages of `noUnnecessaryPreload`. -/
def noUnnecessaryPreloadInfo : RuleInfo :=
  { name := "no-unnecessary-preload"
    category := "Performance"
    kind := "suggestion"
    description := "Disallow preload links for resources already discoverable by other elements"
    codes := ["unnecessaryPreload"]
    messages := [
      ("unnecessaryPreload",
        "This preload has little to no effect. \"{href}\" is already discoverable by a " ++
          "<{tagName}> element."),
      ("removePreload", "Remove this unnecessary preload")] }

/-- A preload is of no use when the same head loads the resource anyway. -/
def noUnnecessaryPreload : Rule :=
  { noUnnecessaryPreloadInfo with
    check := fun head _ =>
      .ok ((Preload.find head.children).map fun (_, e, p) =>
        noUnnecessaryPreloadInfo.report p.code e p.data
          [noUnnecessaryPreloadInfo.removeElement "removePreload" e]) }

end HeadLint.Rules
