import HeadLint.Check.Problem
import HeadLint.Element.Basic

/-!
The preferred style sheet.
-/

namespace HeadLint.DefaultStyle

/-- The problems of an element that names the preferred style sheet: it may lack the name, and it
always delays the styles. -/
def check (e : Element) : List Problem :=
  (match e.filled? "content" with
  | none =>
    [{ code := "missingContent"
       message :=
         "This has no effect. The content attribute must be set to a valid stylesheet title." }]
  | some _ => []) ++
  [{ code := "flashOfUnstyledContent"
     message :=
       "Even when used correctly, the default-style method of setting a preferred stylesheet " ++
         "results in a flash of unstyled content. Use modern CSS features like @media rules " ++
         "instead." }]

end HeadLint.DefaultStyle
