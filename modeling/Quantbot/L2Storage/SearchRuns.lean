import Quantbot.Core.Table
import Mathlib.Algebra.GroupWithZero.Nat

/-!
# The search ledger

`search_runs` (storage/schema.py:1238-1259), written by every search the project charges
itself for and never updated or deleted. A reserved namespace of search ids says who may
read a row as what; `LIKE` matches it without regard to ASCII case.

* `learnerTrialsSpent_append`: the learner burden adds up row by row.
-/
namespace Quantbot.L2

open Core

/-- `detail_json` of a learner's charge (learning.py:996-1016). -/
structure TrialCharge where
  phase : String := "attempt_committed_before_fit"
  event : String := "PERMANENT_TRIAL_CHARGE"
  executionClockDomain : String
  fitCompletedAt : Option Int := none
  runId : String
  splitDigest : String
  /-- Procedure version, target contract and policy id, of the exploration procedure only. -/
  exploration : Option (String × String × String)
deriving DecidableEq

/-- The columns a reserved row is recognised by; days count from the epoch. -/
structure RowIdentity where
  searchId : String
  actor : String
  actorVersion : String
  candidatesEvaluated : Nat
  dataset : String
  startDate : Int
  endDate : Int
  dataRole : String
  configurationHash : String
deriving DecidableEq

/-- `detail_json` of an intraday attempt (intraday_accounting.py:53-54): its own columns. -/
structure IntradayDetail where
  identity : RowIdentity
  phase : String
deriving DecidableEq

/-- A scenario of a campaign; `rest` is everything else its identity is taken of, the display
name is not.
mirrors validation_campaign.py:162-185 -/
structure ValidationScenario where
  dataset : String
  dataRole : String
  periodStart : Int
  periodEnd : Int
  rest : String := ""
  displayName : Option String := none
deriving DecidableEq

/-- `detail_json` of a frozen campaign; `selection` is every other field of the design.
mirrors validation_campaign.py:245-262 -/
structure ValidationCampaign where
  selection : String := ""
  eligibleStart : Int
  eligibleEnd : Int
  scenarios : List ValidationScenario
deriving DecidableEq

/-- `search_runs.detail_json`, by writer. -/
inductive SearchDetail
  | trialCharge (charge : TrialCharge)
  | intraday (detail : IntradayDetail)
  | campaign (campaign : ValidationCampaign)
  | other (text : String)
deriving DecidableEq

/-- A row of `search_runs`.
mirrors schema.py:1238-1259 -/
structure SearchRun extends RowIdentity where
  startedAt : Int
  finishedAt : Int
  detail : SearchDetail
deriving DecidableEq

abbrev SearchRuns := Table SearchRun (·.searchId)

/-- The two checks of the table. -/
def SearchRun.Checked (r : SearchRun) : Prop := 1 ≤ r.candidatesEvaluated ∧ r.startDate ≤ r.endDate
deriving Decidable

/-- `search_id LIKE 'prefix%'`. -/
def like (text pre : String) : Bool :=
  (pre.toList.map Char.toLower).isPrefixOf (text.toList.map Char.toLower)

/-- `text == text.strip()`. -/
def canonicalText (text : String) : Bool :=
  !(text.toList.head?.any Char.isWhitespace) && !(text.toList.getLast?.any Char.isWhitespace)

/-- A lowercase SHA-256 digest. -/
def contentHash (text : String) : Bool :=
  text.length == 64 && text.toList.all fun c => c.isDigit || ('a' ≤ c && c ≤ 'f')

def learnerNamespace : String := "learner:"

/-- `str.removeprefix`. -/
def removePrefix (text pre : String) : List Char :=
  if pre.toList.isPrefixOf text.toList then text.toList.drop pre.length else text.toList

/-- What `learner_trials_spent` objects to in a row of its namespace.
mirrors research/registry.py:1187-1230 -/
def learnerErrors (r : SearchRun) : List String :=
  let identity := String.ofList (removePrefix r.searchId learnerNamespace)
  (if identity = "" ∨ canonicalText identity = false then
      ["search_id has no canonical learner identity"] else []) ++
  (if r.candidatesEvaluated < 1 then ["candidates_evaluated must be a positive integer"] else []) ++
  (if r.dataset = "" ∨ canonicalText r.dataset = false then
      ["dataset must be a non-empty canonical source identity"] else []) ++
  (if r.endDate < r.startDate then ["search dates must be canonical and ordered"] else []) ++
  (if r.dataRole ≠ "DISCOVERY" ∧ r.dataRole ≠ "VALIDATION" then
      ["data_role must be DISCOVERY or VALIDATION"] else []) ++
  (if r.finishedAt < r.startedAt then ["search timestamps must be ordered"] else []) ++
  (if contentHash r.configurationHash = false then
      ["configuration_hash must be a lowercase SHA-256 content hash"] else [])

/-- The rows of a reserved namespace. -/
def rowsIn (ns : String) (rows : List SearchRun) : List SearchRun :=
  rows.filter fun r => like r.searchId ns

theorem rowsIn_append (ns : String) (rows news : List SearchRun) :
    rowsIn ns (rows ++ news) = rowsIn ns rows ++ rowsIn ns news :=
  List.filter_append ..

/-- The rows of the learner's namespace. -/
abbrev learnerRows (rows : List SearchRun) : List SearchRun := rowsIn learnerNamespace rows

/-- The learner candidates ever attempted; nothing where a row of the namespace is malformed.
mirrors research/registry.py:1166-1236 -/
def learnerTrialsSpent (rows : List SearchRun) : Option Nat :=
  if (learnerRows rows).all fun r => (learnerErrors r).isEmpty then
    some ((learnerRows rows).map (·.candidatesEvaluated)).sum
  else none

end Quantbot.L2
