import RequestKey.Criteria
import RequestKey.Run

/-!
# Criteria of a query

The criteria of a query write the parameters that a rule selects.  Reading the
query reports every piece that is left out.
-/

namespace RequestKey
namespace Query

/-- Read the query of a URI and report the pieces that are left out. -/
def read (uri : Text) : Run Query := do
  Run.report (ofUri uri).warnings
  return ofUri uri

/-- The criteria of the parameters that a rule selects. -/
def criteria
    (query : Query)
    (rule : Rule)
    (selection : Rule.Selection) : Text :=
  (query.selected rule selection).criteria queryMarker

/-- The criteria of a URI under a rule for its parameters. -/
def criteriaOf
    (rule : Rule)
    (selection : Rule.Selection)
    (uri : Text) : Run Text := do
  let query <- read uri
  return query.criteria rule selection

/-- The rule that lists the parameters of a URI. -/
def ruleOf (uri : Text) : Run Rule := do
  let query <- read uri
  return query.rule

end Query
end RequestKey
