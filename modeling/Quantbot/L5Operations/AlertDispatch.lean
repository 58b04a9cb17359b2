import Quantbot.Core.LTS
import Mathlib.Data.List.Basic

/-!
# Alert delivery: the envelope, the queue and its processes

`operations/alert_delivery.py` (the wire envelope) and `operations/alert_dispatch.py`
(`DeliveryQueue`, `dispatch_one`, `GitHubTransport`). A queue is one SQLite file that
several processes open: `ingest` classifies the events of an alert database, `enqueue`
takes a single event, `dispatch_one` posts the oldest unsent delivery.

A process stops between any two statements of its call, so each call is a chain of
phases and `fires` is one statement of one process:

* `ingest`: the checks, the `INSERT OR IGNORE` of the source, the cursor, the rows of the
  source, then one write transaction for each row;
* `initialize_source`: the read of the source, then one write transaction;
* `enqueue`: the checks with the read of the old row, then the `INSERT OR IGNORE`;
* `dispatch_one`: `BEGIN IMMEDIATE` with the read of the pending row, `find`, `post`,
  `sent`; the write lock is held from the first to the last.

A crash ends a call at any phase and frees the lock. A write of another process while the
lock is held ends that call (`database is locked`).

A wire text is compared as a whole and read by `json.loads`, so texts are any type `W` with
`dumps` and `loads` (`EnvelopeFormat`); a timestamp is the instant it denotes. The server
keeps the comments it made, in order; other people's comments arrive at any time.
-/
namespace Quantbot.L5.AlertDispatch

open Core

/-! ## The envelope -/

/-- A `uuid.UUID`; its canonical text is its value. -/
structure Uuid where
  value : Nat
  version : Nat
deriving DecidableEq, Repr

/-- The reviewed static texts of one alert code. -/
structure CatalogEntry where
  subsystem : String
  category : String
  action : String
deriving DecidableEq, Repr

/-- The document under the wire prefix.
mirrors alert_delivery.py:21-32 -/
structure Envelope where
  deliveryId : Uuid
  event : String
  code : String
  severity : String
  subsystem : String
  category : String
  firstSeen : Int
  emittedAt : Int
  action : String
deriving DecidableEq, Repr

/-- A source alert document. `none` is a field that is absent, null or not a string. -/
structure SourceEvent where
  code : Option String
  event : Option String
  severity : Option String
  firstSeen : Option String
  resolvedAt : Option String
  acknowledgedAt : Option String
deriving DecidableEq, Repr

/-- The catalogue, the timestamp reader and the canonical JSON text with its prefix. -/
structure EnvelopeFormat (W : Type) where
  catalog : String → Option CatalogEntry
  timestamp : String → Option Int
  dumps : Envelope → W
  loads : W → Option Envelope
  length : W → Nat
  loads_dumps : ∀ document, loads (dumps document) = some document

/-- mirrors alert_delivery.py:33-40 -/
def EVENTS : List (String × String) :=
  [("CANARY", "CANARY"), ("OPENED", "NEW"), ("SEVERITY_CHANGED", "NEW"),
   ("REMINDER", "REMINDER"), ("RECOVERED", "RECOVERED"), ("ACKNOWLEDGED", "ACKNOWLEDGED")]

section Envelope

variable {W : Type} (F : EnvelopeFormat W)

/-- mirrors alert_delivery.py:135-174 -/
def validate (document : Envelope) : Bool :=
  match F.catalog document.code with
  | none => false
  | some entry =>
    (decide (document.code = "DELIVERY_CANARY") == decide (document.event = "CANARY")) &&
    (decide (document.code ≠ "DELIVERY_CANARY") || decide (document.severity = "INFO")) &&
    decide (document.subsystem = entry.subsystem) &&
    decide (document.category = entry.category) &&
    decide (document.action = entry.action) &&
    decide (document.severity ∈ ["INFO", "WARNING", "CRITICAL"]) &&
    decide (document.event ∈ EVENTS.map Prod.snd) &&
    decide (document.deliveryId.version = 4) &&
    decide (document.firstSeen ≤ document.emittedAt)

/-- mirrors alert_delivery.py:177-199 -/
def encodeDocument (source : SourceEvent) (deliveryId : Uuid) (emittedAt : Int) :
    Option Envelope := do
  let code ← source.code
  let entry ← F.catalog code
  let event ← source.event.bind fun name => List.lookup name EVENTS
  let severity ← source.severity
  let firstSeen ← source.firstSeen.bind F.timestamp
  let document : Envelope :=
    { deliveryId, event, code, severity, subsystem := entry.subsystem,
      category := entry.category, firstSeen, emittedAt, action := entry.action }
  if validate F document then some document else none

def encodeEvent (source : SourceEvent) (deliveryId : Uuid) (emittedAt : Int) : Option W :=
  (encodeDocument F source deliveryId emittedAt).map F.dumps

/-- mirrors alert_delivery.py:211-222 -/
def parseComment (text : W) : Option Envelope :=
  if 4096 < F.length text then none
  else (F.loads text).filter (validate F)

theorem encodeDocument_deliveryId {source : SourceEvent} {i : Uuid} {now : Int} {d : Envelope}
    (h : encodeDocument F source i now = some d) : d.deliveryId = i := by
  unfold encodeDocument at h
  simp only [Option.bind_eq_bind, Option.bind_eq_some_iff] at h
  obtain ⟨code, -, entry, -, event, -, severity, -, firstSeen, -, h⟩ := h
  split at h
  · cases h; rfl
  · cases h

theorem parseComment_encodeEvent {source : SourceEvent} {i : Uuid} {now : Int} {wire : W}
    {d : Envelope} (h : encodeEvent F source i now = some wire)
    (hp : parseComment F wire = some d) : d.deliveryId = i := by
  obtain ⟨document, hdoc, rfl⟩ := Option.map_eq_some_iff.1 h
  unfold parseComment at hp; split at hp
  · cases hp
  rw [F.loads_dumps] at hp
  have hd : document = d := (Option.filter_eq_some_iff.1 hp).1 |> Option.some.inj
  rw [← hd]; exact encodeDocument_deliveryId F hdoc

end Envelope

/-! ## The queue -/

structure Delivery (W : Type) where
  id : Uuid
  wire : W
  url : Option String := none
deriving DecidableEq, Repr

inductive Status | baseline | filtered | queued | envelopeRefused
deriving DecidableEq, Repr

structure Ingested where
  eventId : Nat
  status : Status
deriving DecidableEq, Repr

/-- The three tables, each in insertion order.
mirrors alert_dispatch.py:28-56 -/
structure DeliveryQueue (W : Type) where
  deliveries : List (Delivery W) := []
  source : Option String := none
  canaryReceipt : Option Uuid := none
  ingested : List Ingested := []
deriving DecidableEq, Repr

/-- One row of the source's `events`; `none` is a document `json.loads` or `.get` refuses. -/
structure SourceRow where
  id : Nat
  document : Option SourceEvent
deriving DecidableEq, Repr

/-- An alert database. -/
structure Source where
  events : List SourceRow := []
  alerts : List (Option SourceEvent) := []
deriving DecidableEq, Repr

section Queue

variable {W : Type} (F : EnvelopeFormat W) (q : DeliveryQueue W)

/-- mirrors alert_dispatch.py:82-86 -/
def DeliveryQueue.pending : Option (Delivery W) := q.deliveries.find? fun d => d.url.isNone

def DeliveryQueue.find (i : Uuid) : Option (Delivery W) := q.deliveries.find? fun d => d.id = i

/-- mirrors alert_dispatch.py:97-101 -/
def DeliveryQueue.confirmed : Bool := q.canaryReceipt.isSome

/-- `INSERT OR IGNORE INTO deliveries`. -/
def DeliveryQueue.insertOrIgnore (i : Uuid) (wire : W) : DeliveryQueue W :=
  if (q.find i).isSome then q else { q with deliveries := q.deliveries ++ [⟨i, wire, none⟩] }

/-- `INSERT INTO deliveries`; `none` is the primary key's refusal. -/
def DeliveryQueue.insertDelivery (i : Uuid) (wire : W) : Option (DeliveryQueue W) :=
  if (q.find i).isSome then none
  else some { q with deliveries := q.deliveries ++ [⟨i, wire, none⟩] }

/-- `INSERT INTO ingested`; `none` is the primary key's refusal. -/
def DeliveryQueue.insertIngested (n : Nat) (status : Status) : Option (DeliveryQueue W) :=
  if n ∈ q.ingested.map (·.eventId) then none
  else some { q with ingested := q.ingested ++ [⟨n, status⟩] }

/-- `SELECT COALESCE(MAX(event_id), 0) FROM ingested`. -/
def DeliveryQueue.cursor : Nat := (q.ingested.map (·.eventId)).foldl max 0

/-- mirrors alert_dispatch.py:88-90; the numeral after the last dash. -/
def originAccepted (url : String) : Bool :=
  "https://github.com/jfhutchi/project_elrond/pull/255#issuecomment-".toList.isPrefixOf
    url.toList &&
  let suffix := (url.toList.reverse.takeWhile (· ≠ '-'))
  !suffix.isEmpty && suffix.all fun c => c.toNat < 128 && c.isDigit

/-- The `UPDATE` of `sent`.
mirrors alert_dispatch.py:94-95 -/
def DeliveryQueue.setUrl (i : Uuid) (url : String) : DeliveryQueue W :=
  { q with deliveries := q.deliveries.map fun d =>
      if d.id = i then { d with url := some url } else d }

/-- mirrors alert_dispatch.py:103-113 -/
def DeliveryQueue.confirmCanary (i : Uuid) : DeliveryQueue W :=
  match q.find i with
  | none => q
  | some row =>
    if row.url.isSome ∧ (parseComment F row.wire).any (·.code = "DELIVERY_CANARY") then
      { q with canaryReceipt := some i }
    else q

/-- The events an operator is told about.
mirrors alert_dispatch.py:139-143 -/
def SourceEvent.wanted (event : SourceEvent) : Bool :=
  (event.severity == some "WARNING" || event.severity == some "CRITICAL") &&
    event.event != some "ACKNOWLEDGED"

/-- What one event becomes: its status, and the delivery when it is queued.
mirrors alert_dispatch.py:137-151 -/
def classify (document : Option SourceEvent) (i : Uuid) (now : Int) :
    Status × Option (Uuid × W) :=
  match document with
  | none => (.envelopeRefused, none)
  | some event =>
    if event.wanted then
      match encodeEvent F event i now with
      | none => (.envelopeRefused, none)
      | some wire =>
        match parseComment F wire with
        | none => (.envelopeRefused, none)
        | some envelope => (.queued, some (envelope.deliveryId, wire))
    else (.filtered, none)

/-- The write transaction of one event; `none` is a primary key's refusal, which rolls it
back and ends the call.
mirrors alert_dispatch.py:136-152 -/
def DeliveryQueue.ingestRow (row : SourceRow) (i : Uuid) (now : Int) :
    Option (DeliveryQueue W) :=
  match classify F row.document i now with
  | (status, none) => q.insertIngested row.id status
  | (status, some (j, wire)) => (q.insertDelivery j wire).bind (·.insertIngested row.id status)

/-- A current condition: neither recovered nor acknowledged.
mirrors alert_dispatch.py:177-179 -/
def SourceEvent.active (event : SourceEvent) : Bool :=
  event.resolvedAt.isNone && event.acknowledgedAt.isNone &&
    (event.severity == some "WARNING" || event.severity == some "CRITICAL")

/-- One alert of the baseline; `none` is an error, which rolls everything back.
mirrors alert_dispatch.py:175-186 -/
def commissionAlert (now : Int) (q : DeliveryQueue W) (alert : Option SourceEvent × Uuid) :
    Option (DeliveryQueue W) :=
  match alert.1 with
  | none => none
  | some event =>
    if event.active then
      (encodeEvent F { event with event := some "OPENED" } alert.2 now).bind fun wire =>
        (parseComment F wire).bind fun envelope => q.insertDelivery envelope.deliveryId wire
    else some q

/-- The write transaction of `initialize_source`.
mirrors alert_dispatch.py:171-191 -/
def DeliveryQueue.commission (path : String) (cursor : Nat)
    (alerts : List (Option SourceEvent × Uuid)) (now : Int) : Option (DeliveryQueue W) :=
  if q.source.isSome then none
  else
    (alerts.foldlM (commissionAlert F now) q).bind fun q' =>
      if cursor = 0 then some { q' with source := some path }
      else { q' with source := some path }.insertIngested cursor .baseline

end Queue

/-! ## The transport -/

structure Comment (W : Type) where
  body : W
  login : String
  userType : String
  htmlUrl : String
deriving DecidableEq, Repr

section Transport

variable {W : Type} [DecidableEq W] (F : EnvelopeFormat W)

/-- mirrors alert_delivery.py:225-251 -/
def acceptComment (comment : Comment W) : Option Envelope :=
  if comment.login = "jfhutchi" ∧ comment.userType = "User" then parseComment F comment.body
  else none

/-- What `find` answers. -/
inductive Found
  | url (url : String)
  | absent
  | contentDrift
  | scanBound
deriving DecidableEq, Repr

/-- The comments of one page, first match first; `none` goes on with the next page. -/
def scanPage (i : Uuid) (wire : W) : List (Comment W) → Option Found
  | [] => none
  | comment :: rest =>
    if (acceptComment F comment).any (·.deliveryId = i) then
      if comment.body = wire then some (.url comment.htmlUrl) else some .contentDrift
    else scanPage i wire rest

/-- `pages` more pages of a hundred comments.
mirrors alert_dispatch.py:276-301 -/
def scanPages (i : Uuid) (wire : W) : Nat → List (Comment W) → Found
  | 0, _ => .scanBound
  | pages + 1, comments =>
    match scanPage F i wire (comments.take 100) with
    | some found => found
    | none =>
      if (comments.take 100).length < 100 then .absent
      else scanPages i wire pages (comments.drop 100)

def findComment (i : Uuid) (wire : W) (comments : List (Comment W)) : Found :=
  scanPages F i wire 3 comments

/-- What `post` returns for the comment in the server's reply.
mirrors alert_dispatch.py:308-318 -/
def postReply (wire : W) (reply : Comment W) : Option String :=
  if (acceptComment F reply).isSome ∧ reply.body = wire then some reply.htmlUrl else none

end Transport

/-! ## Processes -/

/-- Where a process stands in its call. -/
inductive Phase (W : Type)
  | idle
  | enqueueing (i : Uuid) (wire : W)
  | ingesting (path : String) (now : Int)
  | bound (path : String) (now : Int)
  | positioned (path : String) (cursor : Nat) (now : Int)
  | classifying (path : String) (rows : List SourceRow) (now : Int)
  | commissioning (path : String) (cursor : Nat) (alerts : List (Option SourceEvent)) (now : Int)
  | locked (i : Uuid) (wire : W)
  | unfound (i : Uuid) (wire : W)
  | addressed (i : Uuid) (wire : W) (url : String)
deriving DecidableEq, Repr

/-- The queue, the alert databases, the server's comments, the holder of the write lock and
the processes. `posts` (the comments the dispatchers made, with the delivery each was made
for) and `raised` (the queued events with their deliveries) are kept for the statements. -/
structure System (W : Type) where
  queue : DeliveryQueue W := {}
  sources : String → Source := fun _ => {}
  comments : List (Comment W) := []
  lock : Option Nat := none
  phase : Nat → Phase W := fun _ => .idle
  posts : List (Uuid × W) := []
  raised : List (Nat × Uuid) := []

/-- What the server does with a post: nothing, or a comment under `url` with a reply. The
reply is one of its comments, by number, or an error. -/
inductive PostOutcome
  | lost
  | created (url : String) (reply : Option Nat)
deriving DecidableEq, Repr

inductive Label (W : Type)
  | append (path : String) (row : SourceRow)
  | alerts (path : String) (alerts : List (Option SourceEvent))
  | comment (comment : Comment W)
  | enqueue (p : Nat) (source : SourceEvent) (i : Uuid) (now : Int)
  | insert (p : Nat)
  | confirmCanary (i : Uuid)
  | ingest (p : Nat) (path : String) (now : Int)
  | bind (p : Nat)
  | position (p : Nat)
  | readRows (p : Nat)
  | classify (p : Nat) (i : Uuid)
  | initializeSource (p : Nat) (path : String) (now : Int)
  | commission (p : Nat) (ids : List Uuid)
  | dispatch (p : Nat)
  | find (p : Nat) (answered : Bool)
  | post (p : Nat) (outcome : PostOutcome)
  | sent (p : Nat)
  | crash (p : Nat)
deriving DecidableEq, Repr

namespace System

variable {W : Type} [DecidableEq W] (F : EnvelopeFormat W) (s : System W)

def setSource (path : String) (source : Source) : System W :=
  { s with sources := fun r => if r = path then source else s.sources r }

/-- The process moves on. -/
def goto (p : Nat) (ph : Phase W) : System W :=
  { s with phase := fun r => if r = p then ph else s.phase r }

/-- The call ends: an error, a return or a crash. A lock it holds is freed. -/
def leave (p : Nat) : System W :=
  { s.goto p .idle with lock := if s.lock = some p then none else s.lock }

/-- A write transaction of `p` outside `dispatch_one`: refused while the lock is held, and
ended by an error of its own. -/
def writes (p : Nat) (transaction : Option (DeliveryQueue W)) (next : Phase W) : System W :=
  if s.lock.isSome then s.leave p
  else match transaction with
    | none => s.leave p
    | some q => { s.goto p next with queue := q }

/-- mirrors alert_dispatch.py:64-80 -/
def enqueue (p : Nat) (source : SourceEvent) (i : Uuid) (now : Int) : System W :=
  if source.code ≠ some "DELIVERY_CANARY" ∧ ¬ s.queue.confirmed then s
  else match encodeEvent F source i now with
    | none => s
    | some wire =>
      if (s.queue.find i).any (·.wire ≠ wire) then s else s.goto p (.enqueueing i wire)

/-- mirrors alert_dispatch.py:115-123 -/
def ingest (p : Nat) (path : String) (now : Int) : System W :=
  if ¬ s.queue.confirmed then s
  else if s.queue.source.any (· ≠ path) then s
  else s.goto p (.ingesting path now)

/-- `INSERT OR IGNORE INTO state VALUES ('source', …)`. -/
def bindSource (path : String) : DeliveryQueue W :=
  { s.queue with source := some (s.queue.source.getD path) }

/-- `SELECT id, document FROM events WHERE id>? ORDER BY id LIMIT 20`. -/
def rowsAfter (path : String) (cursor : Nat) : List SourceRow :=
  ((s.sources path).events.filter fun row => cursor < row.id).take 20

/-- The next row of an `ingest`, or its end.
mirrors alert_dispatch.py:135-152 -/
def classifyRow (p : Nat) (i : Uuid) : System W :=
  match s.phase p with
  | .classifying path (row :: rest) now =>
    let s' := s.writes p (s.queue.ingestRow F row i now) (.classifying path rest now)
    match s.lock, s.queue.ingestRow F row i now, classify F row.document i now with
    | none, some _, (_, some (j, _)) => { s' with raised := s.raised ++ [(row.id, j)] }
    | _, _, _ => s'
  | _ => s.leave p

/-- mirrors alert_dispatch.py:154-170 -/
def initializeSource (p : Nat) (path : String) (now : Int) : System W :=
  if ¬ s.queue.confirmed then s
  else if 20 < (s.sources path).alerts.length then s
  else
    s.goto p (.commissioning path (((s.sources path).events.map (·.id)).foldl max 0)
      (s.sources path).alerts now)

/-- mirrors alert_dispatch.py:194-209 -/
def dispatch (p : Nat) : System W :=
  if s.lock.isSome then s
  else match s.queue.pending with
    | none => s
    | some row =>
      if (parseComment F row.wire).isNone then s
      else { s.goto p (.locked row.id row.wire) with lock := some p }

/-- mirrors alert_dispatch.py:210 -/
def find (p : Nat) (i : Uuid) (wire : W) (answered : Bool) : System W :=
  if ¬ answered then s.leave p
  else match findComment F i wire s.comments with
    | .url url => s.goto p (.addressed i wire url)
    | .absent => s.goto p (.unfound i wire)
    | _ => s.leave p

/-- mirrors alert_dispatch.py:212, 303-318 -/
def post (p : Nat) (i : Uuid) (wire : W) (outcome : PostOutcome) : System W :=
  match outcome with
  | .lost => s.leave p
  | .created url reply =>
    let s' := { s with
      comments := s.comments ++ [(⟨wire, "jfhutchi", "User", url⟩ : Comment W)]
      posts := s.posts ++ [(i, wire)] }
    match (reply.bind fun n => s'.comments[n]?).bind (postReply F wire) with
    | none => s'.leave p
    | some url' => s'.goto p (.addressed i wire url')

/-- mirrors alert_dispatch.py:88-95, 213 -/
def sent (p : Nat) (i : Uuid) (url : String) : System W :=
  if originAccepted url then { s.leave p with queue := s.queue.setUrl i url } else s.leave p

end System

section Runs

variable {W : Type} [DecidableEq W] (F : EnvelopeFormat W)

/-- One statement of one process, or of its surroundings. A label that does not fit the
process's phase is no step. -/
def fires (s : System W) : Label W → Option (System W)
  | .append path row =>
    if ∀ e ∈ (s.sources path).events, e.id < row.id then
      if 0 < row.id then
        some (s.setSource path
          { s.sources path with events := (s.sources path).events ++ [row] })
      else none
    else none
  | .alerts path alerts =>
    some (s.setSource path { s.sources path with alerts := alerts })
  | .comment comment => some { s with comments := s.comments ++ [comment] }
  | .enqueue p source i now =>
    match s.phase p with
    | .idle => some (s.enqueue F p source i now)
    | _ => none
  | .insert p =>
    match s.phase p with
    | .enqueueing i wire => some (s.writes p (some (s.queue.insertOrIgnore i wire)) .idle)
    | _ => none
  | .confirmCanary i =>
    if s.lock.isSome then none else some { s with queue := s.queue.confirmCanary F i }
  | .ingest p path now =>
    match s.phase p with
    | .idle => some (s.ingest p path now)
    | _ => none
  | .bind p =>
    match s.phase p with
    | .ingesting path now => some (s.writes p (some (s.bindSource path)) (.bound path now))
    | _ => none
  | .position p =>
    match s.phase p with
    | .bound path now => some (s.goto p (.positioned path s.queue.cursor now))
    | _ => none
  | .readRows p =>
    match s.phase p with
    | .positioned path cursor now =>
      some (s.goto p (.classifying path (s.rowsAfter path cursor) now))
    | _ => none
  | .classify p i =>
    match s.phase p with
    | .classifying .. => some (s.classifyRow F p i)
    | _ => none
  | .initializeSource p path now =>
    match s.phase p with
    | .idle => some (s.initializeSource p path now)
    | _ => none
  | .commission p ids =>
    match s.phase p with
    | .commissioning path cursor alerts now =>
      if ids.length = alerts.length then
        some (s.writes p (s.queue.commission F path cursor (alerts.zip ids) now) .idle)
      else none
    | _ => none
  | .dispatch p =>
    match s.phase p with
    | .idle => some (s.dispatch F p)
    | _ => none
  | .find p answered =>
    match s.phase p with
    | .locked i wire => some (s.find F p i wire answered)
    | _ => none
  | .post p outcome =>
    match s.phase p with
    | .unfound i wire => some (s.post F p i wire outcome)
    | _ => none
  | .sent p =>
    match s.phase p with
    | .addressed i _ url => some (s.sent p i url)
    | _ => none
  | .crash p => some (s.leave p)

/-- Any alert databases with positive ascending event ids, any comments of other people, an
empty queue and no call under way. -/
def Fresh (s : System W) : Prop :=
  s.queue = {} ∧ s.lock = none ∧ (∀ p, s.phase p = .idle) ∧ s.posts = [] ∧ s.raised = [] ∧
    ∀ path, ((s.sources path).events.map (·.id)).Pairwise (· < ·) ∧
      ∀ row ∈ (s.sources path).events, 0 < row.id

def alertRuns : LTS (System W) (Label W) where
  init := Fresh
  step s l s' := fires F s l = some s'

end Runs

end Quantbot.L5.AlertDispatch
