import Mathlib.Logic.Relation
import Mathlib.Data.Fintype.Defs
import Mathlib.Data.Fintype.Pi

/-!
# Order-intent lifecycle

`domain/enums.py` (`IntentState`) and `domain/lifecycle.py`
(`ALLOWED_TRANSITIONS`, `transition_order`). A repeated state is accepted,
every other transition must be listed, and the five states without a listed
successor are terminal.

* `transitionOrder_ok`: an accepted transition is a repetition or is listed.
* `terminal_iff`: a state is terminal iff no other state is accepted from it.
-/
namespace Quantbot.L1

/-- mirrors enums.py:40-52 -/
inductive IntentState
  | riskApproved | orderCreated | submitting | brokerAccepted | partiallyFilled | filled
  | rejected | cancelPending | cancelled | expired | error | submissionUnknown
deriving DecidableEq, Repr

namespace IntentState

def all : List IntentState :=
  [riskApproved, orderCreated, submitting, brokerAccepted, partiallyFilled, filled, rejected,
    cancelPending, cancelled, expired, error, submissionUnknown]

instance : Fintype IntentState where
  elems := ⟨all, by decide⟩
  complete q := by cases q <;> decide

/-- `IntentState.value`. -/
def value : IntentState → String
  | riskApproved => "RISK_APPROVED"
  | orderCreated => "ORDER_CREATED"
  | submitting => "SUBMITTING"
  | brokerAccepted => "BROKER_ACCEPTED"
  | partiallyFilled => "PARTIALLY_FILLED"
  | filled => "FILLED"
  | rejected => "REJECTED"
  | cancelPending => "CANCEL_PENDING"
  | cancelled => "CANCELLED"
  | expired => "EXPIRED"
  | error => "ERROR"
  | submissionUnknown => "SUBMISSION_UNKNOWN"

/-- `ALLOWED_TRANSITIONS`.
mirrors lifecycle.py:9-75 -/
def allowedTransitions : IntentState → List IntentState
  | riskApproved => [orderCreated, error]
  | orderCreated => [submitting, cancelled, error]
  | submitting => [brokerAccepted, rejected, submissionUnknown, error]
  | brokerAccepted =>
    [partiallyFilled, filled, rejected, cancelPending, cancelled, expired, error]
  | partiallyFilled => [partiallyFilled, filled, cancelPending, cancelled, expired, error]
  | cancelPending => [cancelled, partiallyFilled, filled, error]
  | submissionUnknown => [submitting, brokerAccepted, rejected, error]
  | filled | rejected | cancelled | expired | error => []

/-- No successor is listed. -/
def Terminal (q : IntentState) : Prop := q.allowedTransitions = []
deriving Decidable

end IntentState

/-- `InvalidOrderTransition(current, target)`. -/
structure InvalidOrderTransition where
  current : IntentState
  target : IntentState
deriving DecidableEq, Repr

/-- mirrors lifecycle.py:78-88 -/
def transitionOrder (current target : IntentState) : Except InvalidOrderTransition IntentState :=
  if current = target then .ok target
  else if target ∈ current.allowedTransitions then .ok target
  else .error ⟨current, target⟩

/-- `transition_order` accepts. -/
def Allowed (current target : IntentState) : Prop :=
  current = target ∨ target ∈ current.allowedTransitions
deriving Decidable

theorem transitionOrder_eq (current target : IntentState) : transitionOrder current target =
      if Allowed current target then .ok target else .error ⟨current, target⟩ := by
  unfold transitionOrder Allowed; by_cases h : current = target
  · simp [h]
  · by_cases h' : target ∈ current.allowedTransitions <;> simp [h, h']

theorem transitionOrder_ok {current target q : IntentState} :
    transitionOrder current target = .ok q ↔ q = target ∧ Allowed current target := by
  rw [transitionOrder_eq]; split
  · next h => simp [h, eq_comm]
  · next h => simp [h]

theorem terminal_iff (q : IntentState) : q.Terminal ↔ ∀ r, Allowed q r → r = q := by
  cases q <;> decide

variable {q r : IntentState}

theorem Allowed.of_terminal (hq : q.Terminal) (h : Allowed q r) : r = q :=
  (terminal_iff q).1 hq r h

/-! ## Reachability along accepted transitions -/

/-- `r` is reached from `q` by accepted transitions. -/
def Leads : IntentState → IntentState → Prop := Relation.ReflTransGen Allowed

theorem Allowed.leads (h : Allowed q r) : Leads q r := .single h

theorem Leads.of_terminal (hq : q.Terminal) (h : Leads q r) : r = q := by
  induction h with
  | refl => rfl
  | tail _ hst ih => subst ih; exact hst.of_terminal hq

/-- An intent that has left `RISK_APPROVED` and `ORDER_CREATED` never returns to either. -/
theorem Leads.past_created (h : Leads q r)
    (hq : q ≠ .riskApproved ∧ q ≠ .orderCreated) : r ≠ .riskApproved ∧ r ≠ .orderCreated := by
  have hstep : ∀ a b, Allowed a b → a ≠ .riskApproved ∧ a ≠ .orderCreated →
      b ≠ .riskApproved ∧ b ≠ .orderCreated := by decide
  induction h with
  | refl => exact hq
  | tail _ hst ih => exact hstep _ _ hst ih

end Quantbot.L1
