import Mathlib.Tactic.Linarith
import Quantbot.L4PaperCore.Contracts

/-!
# Provider time

`paper_core/time_evidence.py`: two samples of the provider's clock, each between two
reads of the local clocks, and the interval a later read of the local clocks projects
them to. Seconds are rational, and what a read returns is given: the local clocks and
the broker answer whatever they answer.

A `Timeline` says what the clocks show at each instant. The stamp of a sample was
`Read` between the reads around it, up to an error `ρ` of the stamp itself: a stamp cut
to a resolution `ρ` is within `ρ` of the provider's time.

* `projection_sound`: one honest sample is enough. While the provider's offset from the
  wall clock stands, a projection without objection encloses the provider's time; where
  the wall clock may have stepped since the acquisition and the provider kept the pace
  of the monotonic clock, it does so within the tolerance of the discontinuity check.
-/
namespace Quantbot.L4.TimeEvidence

/-! ## Readings and samples -/

/-- mirrors time_evidence.py:36-37 -/
structure Reading where
  wall : ℚ
  mono : ℚ
deriving DecidableEq

/-- `resolution` is missing for a float that is not finite.
mirrors time_evidence.py:44-51 -/
structure BrokerTime where
  timestamp : ℚ
  accountId : String
  provider : String
  sessionId : String
  sessionOpen : ℚ
  sessionClose : ℚ
  resolution : Option ℚ
deriving DecidableEq

/-- mirrors time_evidence.py:61-68 -/
structure TimeSample where
  provider : BrokerTime
  wallStart : ℚ
  wallEnd : ℚ
  monoStart : ℚ
  monoEnd : ℚ
  offsetLower : ℚ
  offsetUpper : ℚ
deriving DecidableEq

/-- The sample of a stamp between two reads.
mirrors time_evidence.py:98-108 -/
def TimeSample.between (before : Reading) (p : BrokerTime) (after : Reading) : TimeSample where
  provider := p
  wallStart := before.wall
  wallEnd := after.wall
  monoStart := before.mono
  monoEnd := after.mono
  offsetLower := p.timestamp - after.wall
  offsetUpper := p.timestamp - before.wall

inductive Objection
  | acquisitionRetryable | protocolInvalid | acquisitionBudget | discontinuity
  | skewOutOfBounds | samplesIncomplete | samplesNotAdvancing | identityChanged
  | samplesDisagree | processChanged | evidenceExpired
deriving DecidableEq, Repr

def Objection.text : Objection → String
  | .acquisitionRetryable => "TIME_ACQUISITION_RETRYABLE"
  | .protocolInvalid => "TIME_PROTOCOL_INVALID"
  | .acquisitionBudget => "TIME_ACQUISITION_BUDGET"
  | .discontinuity => "TIME_DISCONTINUITY"
  | .skewOutOfBounds => "TIME_SKEW_OUT_OF_BOUNDS"
  | .samplesIncomplete => "TIME_SAMPLES_INCOMPLETE"
  | .samplesNotAdvancing => "TIME_SAMPLES_NOT_ADVANCING"
  | .identityChanged => "TIME_IDENTITY_CHANGED"
  | .samplesDisagree => "TIME_SAMPLES_DISAGREE"
  | .processChanged => "TIME_PROCESS_CHANGED"
  | .evidenceExpired => "TIME_EVIDENCE_EXPIRED"

/-- The two clocks may part by this much between two reads. -/
def tolerance : ℚ := 50000001 / 1000000000

/-- The objection, where the condition holds. -/
def objectIf (c : Prop) [Decidable c] (o : Objection) : List Objection := if c then [o] else []

@[simp] theorem objectIf_eq_nil {c : Prop} [Decidable c] {o : Objection} :
    objectIf c o = [] ↔ ¬ c := by
  unfold objectIf; split <;> simp_all

/-! ## Acquisition -/

/-- The loop's body: a sample, an error one of the two clauses catches, or another. -/
inductive Poll
  | sampled (before : Reading) (p : BrokerTime) (after : Reading)
  | retryable
  | protocol
  | raised
deriving DecidableEq

/-- The samples up to the first error, with its reason; nothing when it is not caught.
mirrors time_evidence.py:94-112 -/
def collect : List Poll → Option (List TimeSample × List Objection)
  | [] => some ([], [])
  | .sampled before p after :: polls =>
    (collect polls).map fun r => (.between before p after :: r.1, r.2)
  | .retryable :: _ => some ([], [.acquisitionRetryable])
  | .protocol :: _ => some ([], [.protocolInvalid])
  | .raised :: _ => none

/-- The account and provider of the broker, and the id of the process. -/
structure Provenance where
  accountId : String
  provider : String
  processId : String
deriving DecidableEq

/-- mirrors time_evidence.py:118-138 -/
def sampleObjections (broker : Provenance) (s : TimeSample) : List Objection :=
  objectIf (s.monoEnd < s.monoStart ∨
      tolerance < |(s.wallEnd - s.wallStart) - (s.monoEnd - s.monoStart)|) .discontinuity ++
  objectIf (s.offsetLower < -2 ∨ 2 < s.offsetUpper) .skewOutOfBounds ++
  objectIf (s.provider.accountId ≠ broker.accountId ∨ s.provider.provider ≠ broker.provider ∨
      ¬ s.provider.sessionOpen < s.provider.sessionClose ∨
      ¬ ∃ r ∈ s.provider.resolution, 0 < r) .protocolInvalid

/-- What the two samples must agree on. -/
def BrokerTime.identity (p : BrokerTime) : String × String × String × ℚ × ℚ :=
  (p.accountId, p.provider, p.sessionId, p.sessionOpen, p.sessionClose)

/-- mirrors time_evidence.py:139-160 -/
def pairObjections : List TimeSample → List Objection
  | [first, second] =>
    objectIf (second.provider.timestamp ≤ first.provider.timestamp) .samplesNotAdvancing ++
    objectIf (first.provider.identity ≠ second.provider.identity) .identityChanged ++
    objectIf (min first.offsetUpper second.offsetUpper < max first.offsetLower second.offsetLower)
      .samplesDisagree
  | _ => [.samplesIncomplete]

/-- The envelope a context labels: its release, lane and the reference to it. -/
structure Label where
  releaseId : String := "m1-synthetic-fixture"
  evidenceLane : EvidenceLane := .syntheticTest
  sourceRefs : List String := []
deriving DecidableEq

/-- mirrors time_evidence.py:71-79 -/
structure Evidence where
  label : Label
  recordedAt : ℚ
  processId : String
  samples : List TimeSample
  acquiredMonotonic : ℚ
  wallAnchor : ℚ
  offsetLower : ℚ
  offsetUpper : ℚ
  objections : List Objection
deriving DecidableEq

inductive AcquireError
  | accountMismatch
  | raised
deriving DecidableEq

/-- The reads of an acquisition: at its start, around each sample, at its end.
mirrors time_evidence.py:82-180 -/
def acquire (configId : CoreConfig → String) (context : Option CoreConfig) (broker : Provenance)
    (start : Reading) (first second : Poll) (last : Reading) : Except AcquireError Evidence :=
  if ∃ c ∈ context, c.accountId ≠ broker.accountId then .error .accountMismatch
  else match collect [first, second] with
    | none => .error .raised
    | some (samples, failures) => .ok
      { label := match context with
          | none => {}
          | some c => ⟨c.releaseId, c.evidenceLane, [configId c]⟩
        recordedAt := last.wall
        processId := broker.processId
        samples := samples
        acquiredMonotonic := last.mono
        wallAnchor := last.wall
        offsetLower := (samples.map (·.offsetLower)).min?.getD 0
        offsetUpper := (samples.map (·.offsetUpper)).max?.getD 0
        objections := (failures ++
          objectIf (last.mono < start.mono ∨ 5 < last.mono - start.mono) .acquisitionBudget ++
          objectIf (tolerance < |(last.wall - start.wall) - (last.mono - start.mono)|)
            .discontinuity ++
          samples.flatMap (sampleObjections broker) ++ pairObjections samples).eraseDups }

/-! ## Projection -/

/-- mirrors contracts.py:483-492 -/
structure TimeProjection where
  evidenceId : String
  processId : String
  wallAt : ℚ
  monotonicAt : ℚ
  providerEarliest : ℚ
  providerLatest : ℚ
  objections : List Objection
deriving DecidableEq

/-- mirrors time_evidence.py:183-202 -/
def projectionAt (evidenceId : Evidence → String) (e : Evidence) (now : Reading)
    (processId : String) : TimeProjection where
  evidenceId := evidenceId e
  processId := processId
  wallAt := now.wall
  monotonicAt := now.mono
  providerEarliest := now.wall + e.offsetLower
  providerLatest := now.wall + e.offsetUpper
  objections := (e.objections ++
    objectIf (processId ≠ e.processId) .processChanged ++
    objectIf (now.mono - e.acquiredMonotonic < 0 ∨ 120 < now.mono - e.acquiredMonotonic)
      .evidenceExpired ++
    objectIf (tolerance < |(now.wall - e.wallAnchor) - (now.mono - e.acquiredMonotonic)|)
      .discontinuity).eraseDups

theorem eraseDups_eq_nil {l : List Objection} : l.eraseDups = [] ↔ l = [] := by
  constructor
  · intro h; refine List.eq_nil_iff_forall_not_mem.2 fun o ho => ?_
    have hmem := List.mem_eraseDups.2 ho; rw [h] at hmem; cases hmem
  · rintro rfl; rfl

theorem clear_pace {evidenceId : Evidence → String} {e : Evidence} {now : Reading}
    {processId : String} (h : (projectionAt evidenceId e now processId).objections = []) :
    |(now.wall - e.wallAnchor) - (now.mono - e.acquiredMonotonic)| ≤ tolerance := by
  have hnil := eraseDups_eq_nil.1 h
  exact not_lt.1 (objectIf_eq_nil.1 (List.append_eq_nil_iff.1 hnil).2)

/-! ## What an acquisition holds -/

/-- The offsets of a sample are those of its stamp and its reads. -/
def Bracketed (s : TimeSample) : Prop :=
  s.offsetLower = s.provider.timestamp - s.wallEnd ∧
    s.offsetUpper = s.provider.timestamp - s.wallStart

theorem collect_bracketed {polls : List Poll} {samples : List TimeSample}
    {failures : List Objection} (h : collect polls = some (samples, failures)) :
    ∀ s ∈ samples, Bracketed s := by
  induction polls generalizing samples failures with
  | nil =>
    cases h; intro s hs; cases hs
  | cons poll polls ih =>
    cases poll with
    | sampled before p after =>
      obtain ⟨⟨rest, fs⟩, hrest, heq⟩ := Option.map_eq_some_iff.1 h; cases heq
      intro s hs; rcases List.mem_cons.1 hs with rfl | hs
      · exact ⟨rfl, rfl⟩
      · exact ih hrest s hs
    | retryable | protocol =>
      cases h; intro s hs; cases hs
    | raised => cases h

/-- The evidence spans the offsets of each of its samples. -/
structure Spans (e : Evidence) (s : TimeSample) : Prop where
  bracketed : Bracketed s
  lower : e.offsetLower ≤ s.offsetLower
  upper : s.offsetUpper ≤ e.offsetUpper

theorem min_getD_le {l : List ℚ} {x : ℚ} (hx : x ∈ l) : l.min?.getD 0 ≤ x := by
  obtain ⟨m, hm⟩ := Option.isSome_iff_exists.1 (List.isSome_min?_of_mem hx)
  rw [hm]; exact (List.min?_eq_some_iff.1 hm).2 x hx

theorem le_max_getD {l : List ℚ} {x : ℚ} (hx : x ∈ l) : x ≤ l.max?.getD 0 := by
  obtain ⟨m, hm⟩ := Option.isSome_iff_exists.1 (List.isSome_max?_of_mem hx)
  rw [hm]; exact (List.max?_eq_some_iff.1 hm).2 x hx

variable {configId : CoreConfig → String} {context : Option CoreConfig} {broker : Provenance}
  {start last : Reading} {first second : Poll} {e : Evidence}

theorem acquire_ok (h : acquire configId context broker start first second last = .ok e) :
    e.wallAnchor = last.wall ∧ e.acquiredMonotonic = last.mono ∧ ∀ s ∈ e.samples, Spans e s := by
  unfold acquire at h; split at h
  · cases h
  split at h
  · cases h
  next samples failures hcollect =>
  cases h
  refine ⟨rfl, rfl, fun s hs => ⟨collect_bracketed hcollect s hs, ?_, ?_⟩⟩
  · exact min_getD_le (List.mem_map_of_mem hs)
  · exact le_max_getD (List.mem_map_of_mem hs)

/-! ## Soundness -/

/-- What the clocks show at each instant; the provider's time does not go back. -/
structure Timeline (T : Type*) [Preorder T] where
  wall : T → ℚ
  mono : T → ℚ
  provider : T → ℚ
  provider_mono : Monotone provider

section Soundness

variable {T : Type*} [Preorder T] (c : Timeline T)

/-- What a read of the local clocks returns at an instant. -/
def Timeline.read (t : T) : Reading := ⟨c.wall t, c.mono t⟩

/-- Up to an instant the provider's clock is at one distance from the wall clock. -/
def Timeline.Offset (a : T) (δ : ℚ) : Prop := ∀ t ≤ a, c.provider t = c.wall t + δ

/-- The stamp of a sample is the provider's time between the sample's two reads, up to
an error `ρ`. -/
def Timeline.StampRead (a : T) (ρ : ℚ) (s : TimeSample) : Prop :=
  ∃ t₀ τ t₁, t₀ ≤ τ ∧ τ ≤ t₁ ∧ t₁ ≤ a ∧ s.wallStart = c.wall t₀ ∧ s.wallEnd = c.wall t₁ ∧
    |s.provider.timestamp - c.provider τ| ≤ ρ

variable {c} {a t : T} {δ ρ : ℚ} {s : TimeSample}

theorem offset_enclosed (hoffset : c.Offset a δ) (hs : Bracketed s) (hstamp : c.StampRead a ρ s) :
    s.offsetLower - ρ ≤ δ ∧ δ ≤ s.offsetUpper + ρ := by
  obtain ⟨t₀, τ, t₁, h₀, h₁, ha, hstart, hend, herror⟩ := hstamp
  obtain ⟨hlow, hhigh⟩ := abs_le.1 herror; have hprovider₀ := c.provider_mono h₀
  have hprovider₁ := c.provider_mono h₁
  have hoffset₀ := hoffset t₀ (le_trans h₀ (le_trans h₁ ha))
  have hoffset₁ := hoffset t₁ ha; rw [hs.1, hs.2, hstart, hend]
  constructor <;> linarith

/-- **Soundness of the projection.** One honest sample among the evidence, its stamp within
`ρ` of the provider's time at the moment of the stamp, and a projection without
objection. Where the provider's offset from the wall clock still is what it was up to
the acquisition, the provider's time is inside the interval, up to `ρ`; where the
provider has kept the pace of the monotonic clock instead, it is inside up to `ρ` and the
tolerance of the discontinuity check. -/
theorem projection_sound
    (he : acquire configId context broker start first second (c.read a) = .ok e)
    (hoffset : c.Offset a δ) (hs : s ∈ e.samples) (hstamp : c.StampRead a ρ s)
    (evidenceId : Evidence → String) (processId : String)
    (hclear : (projectionAt evidenceId e (c.read t) processId).objections = []) :
    (c.provider t = c.wall t + δ →
      (projectionAt evidenceId e (c.read t) processId).providerEarliest - ρ ≤ c.provider t ∧
      c.provider t ≤ (projectionAt evidenceId e (c.read t) processId).providerLatest + ρ) ∧
    (c.provider t - c.provider a = c.mono t - c.mono a →
      (projectionAt evidenceId e (c.read t) processId).providerEarliest - ρ - tolerance ≤
        c.provider t ∧ c.provider t ≤
        (projectionAt evidenceId e (c.read t) processId).providerLatest + ρ + tolerance) := by
  obtain ⟨hanchor, hmono, hspans⟩ := acquire_ok he; have hspan := hspans s hs
  obtain ⟨hlow, hhigh⟩ := offset_enclosed hoffset hspan.bracketed hstamp
  have hlower := hspan.lower; have hupper := hspan.upper
  have hpace := clear_pace hclear
  obtain ⟨hpaceLow, hpaceHigh⟩ := abs_le.1 hpace
  have hstart := hoffset a le_rfl; simp only [projectionAt, Timeline.read] at *
  refine ⟨fun hsame => ?_, fun hkept => ?_⟩
  · constructor <;> linarith
  · constructor <;> linarith

end Soundness

/-! ## A session's clock -/

/-- The provider is half a second ahead of the wall clock. -/
def halfAhead : Timeline ℚ where
  wall t := t
  mono t := t + 1000
  provider t := t + 1 / 2
  provider_mono := fun _ _ h => by simpa using h

def stampedAt (timestamp : ℚ) : BrokerTime :=
  ⟨timestamp, "PA1", "alpaca", "2026-01-05", 0, 23400, some (1 / 1000)⟩

/-- Stamps cut to milliseconds, the first of them read at 0.2004 seconds. -/
def acquired : Except AcquireError Evidence :=
  acquire (fun _ => "config") none ⟨"PA1", "alpaca", "p1"⟩ (halfAhead.read 0)
    (.sampled (halfAhead.read (1 / 10)) (stampedAt (700 / 1000)) (halfAhead.read (3 / 10)))
    (.sampled (halfAhead.read (4 / 10)) (stampedAt 1) (halfAhead.read (6 / 10)))
    (halfAhead.read (7 / 10))

def firstSample : TimeSample :=
  .between (halfAhead.read (1 / 10)) (stampedAt (700 / 1000)) (halfAhead.read (3 / 10))

/-- Half a minute later the provider shows 30.5 seconds. -/
theorem projection_sound_later : ∃ e, acquired = .ok e ∧
      (projectionAt (fun _ => "evidence") e (halfAhead.read 30) "p1").providerEarliest - 1 / 1000 ≤
        30 + 1 / 2 ∧ 30 + 1 / 2 ≤
        (projectionAt (fun _ => "evidence") e (halfAhead.read 30) "p1").providerLatest + 1 / 1000 := by
  obtain ⟨e, he, hs, hclear⟩ : ∃ e, acquired = .ok e ∧ firstSample ∈ e.samples ∧
      (projectionAt (fun _ => "evidence") e (halfAhead.read 30) "p1").objections = [] :=
    ⟨_, rfl, by decide +kernel, by decide +kernel⟩
  have hstamp : halfAhead.StampRead (7 / 10) (1 / 1000) firstSample :=
    ⟨1 / 10, 2004 / 10000, 3 / 10, by decide +kernel, by decide +kernel, by decide +kernel, rfl, rfl,
      by decide +kernel⟩
  exact ⟨e, he, (projection_sound he (fun _ _ => rfl) hs hstamp _ "p1" hclear).1 rfl⟩

end Quantbot.L4.TimeEvidence
