import ExtensionAudit.Rule.Catalogue.Deprecated
import ExtensionAudit.Rule.Catalogue.Migration
import ExtensionAudit.Rule.Catalogue.Preferences
import ExtensionAudit.Rule.Catalogue.Security
import ExtensionAudit.Rule.Catalogue.Style
import ExtensionAudit.Rule.Catalogue.WebApis

/-!
# The catalogue of rules

The rules that every extension is held to, in the order in which they are applied.
-/

namespace ExtensionAudit.Rule

/-- The rules of the catalogue. -/
def catalogue : List Rule :=
  (Catalogue.web ++ Catalogue.deprecated ++ Catalogue.security ++ Catalogue.preferences ++
    Catalogue.style ++ Catalogue.migration).map Standard.rule

end ExtensionAudit.Rule
