import EventPlatform.Clock.ClockSync
import EventPlatform.Lib.Dict

/-! # Clock synchronisation in the browser

`ClockSyncClient` asks for the server's time a number of times in a cycle.  The requests
that have no answer yet are kept by their timestamp; those with equal timestamps are
answered first come, first served. -/

namespace EventPlatform.Clock

open EventPlatform.Lib

/-! ## The client -/

structure SampleOffset where
  offsetMs : ℚ
  rttMs : ℚ
deriving DecidableEq

def computeSampleOffset (clientSendMs serverMs clientReceiveMs : ℚ) : SampleOffset where
  rttMs := max 0 (clientReceiveMs - clientSendMs)
  offsetMs := serverMs - (clientSendMs + clientReceiveMs) / 2

structure ClientSample extends SampleOffset where
  monotonicRtt : ℚ

/-- `pending` has the monotonic times at which the requests with a timestamp were sent. -/
structure ClockSyncClient where
  sampleCount : Nat
  maxRttMs : ℚ
  minSamples : Nat
  samples : List ClientSample
  offsetMs : Option ℚ
  rttMs : Option ℚ
  status : ClockStatus
  pending : Dict ℚ (List ℚ)

/-- The defaults of the constructor. -/
def ClockSyncClient.fresh : ClockSyncClient := ⟨5, 2000, 3, [], none, none, .unsynchronised, []⟩

/-- A `server.clock_sync` message with the clock readings when it is handled.  An echo
    that is no number is the key of no request, as one that is missing. -/
structure Delivery where
  clientTsEcho : Option ℚ
  serverTs : ℚ
  now : ℚ
  monotonicNow : ℚ
deriving DecidableEq

/-- `Math.round`: a tie goes up. -/
def mathRound (x : ℚ) : Int := ⌊x + 1 / 2⌋

namespace ClockSyncClient

/-- The caller's clock reading is passed in. -/
def estimatedServerNowMs (client : ClockSyncClient) (clientNowMs : Int) : Option Int :=
  client.offsetMs.map fun offset => mathRound (clientNowMs + offset)

/-- One request; whether it reaches the server shows in the deliveries. -/
def sendSample (client : ClockSyncClient) (ts monotonicNow : ℚ) : ClockSyncClient :=
  let queue := (client.pending.get? ts).getD []
  { client with pending := client.pending.set ts (queue ++ [monotonicNow]) }

/-- `readings` are what the two clocks show at each request. -/
def runCycle (client : ClockSyncClient) (readings : Nat → ℚ × ℚ) : ClockSyncClient :=
  (List.range client.sampleCount).foldl (fun client i => client.sendSample (readings i).1 (readings i).2)
    { client with samples := [], pending := [] }

/-- Whether the response is accepted, and the client after it. -/
def handleResponse (client : ClockSyncClient) (payload : Delivery) : Bool × ClockSyncClient :=
  match payload.clientTsEcho with
  | none => (false, client)
  | some clientTsEcho =>
    match client.pending.get? clientTsEcho with
    | none => (false, client)
    | some [] => (false, client)
    | some (sentMonotonic :: queue) =>
      let pending :=
        if queue = [] then client.pending.delete clientTsEcho else client.pending.set clientTsEcho queue
      let client := { client with pending := pending }
      let sample := computeSampleOffset clientTsEcho payload.serverTs payload.now
      if sample.rttMs < 0 ∨ client.maxRttMs < sample.rttMs then (false, client)
      else
        (true, { client with samples := client.samples ++ [⟨sample, payload.monotonicNow - sentMonotonic⟩] })

/-- `server.hello` gives a sample of its own. -/
def applyHelloOffset (client : ClockSyncClient) (clientTs serverTs clientReceiveMs : ℚ) : ClockSyncClient :=
  let sample := computeSampleOffset clientTs serverTs clientReceiveMs
  if sample.rttMs ≤ client.maxRttMs then { client with samples := client.samples ++ [⟨sample, sample.rttMs⟩] }
  else client

def finalizeBatch (client : ClockSyncClient) : ClockSyncClient :=
  if client.samples = [] then { client with status := .unsynchronised, offsetMs := none, rttMs := none }
  else
    { client with
      offsetMs := some (median (client.samples.map (·.offsetMs)))
      rttMs := some (median (client.samples.map (·.rttMs)))
      status := if client.minSamples ≤ client.samples.length then .synchronised else .insufficient }

def onSampleReceived (client : ClockSyncClient) (payload : Delivery) : Bool × ClockSyncClient :=
  match client.handleResponse payload with
  | (true, client) => (true, if client.sampleCount ≤ client.samples.length then client.finalizeBatch else client)
  | (false, client) => (false, client)

/-- A message is handled. -/
def deliver (client : ClockSyncClient) (payload : Delivery) : ClockSyncClient := (client.onSampleReceived payload).2

end ClockSyncClient

/-! ## Requests without an answer -/

/-- The client has a request in its queues for each timestamp of `sent`. -/
def Awaits (client : ClockSyncClient) (sent : List ℚ) : Prop :=
  ∀ ts, ((client.pending.get? ts).getD []).length = sent.count ts

variable {client : ClockSyncClient} {sent : List ℚ} {payload : Delivery}

theorem Awaits.sendSample (awaits : Awaits client sent) (ts monotonicNow : ℚ) :
    Awaits (client.sendSample ts monotonicNow) (sent ++ [ts]) := by
  intro other
  rw [List.count_append, ← awaits other]
  by_cases same : other = ts
  · subst same
    simp [ClockSyncClient.sendSample]
  · simp [ClockSyncClient.sendSample, Dict.get?_set_of_ne _ same, Ne.symm same]

/-- The timestamps of a cycle. -/
def sentIn (sampleCount : Nat) (readings : Nat → ℚ × ℚ) : List ℚ := (List.range sampleCount).map fun i => (readings i).1

theorem length_sentIn (sampleCount : Nat) (readings : Nat → ℚ × ℚ) : (sentIn sampleCount readings).length = sampleCount := by
  simp [sentIn]

/-- Only the queues change while the requests are sent. -/
structure Sent (before after : ClockSyncClient) (sent : List ℚ) : Prop where
  awaits : Awaits after sent
  same : ∃ pending, after = { before with samples := [], pending := pending }

theorem Sent.sendSample {before after : ClockSyncClient} (done : Sent before after sent) (ts monotonicNow : ℚ) :
    Sent before (after.sendSample ts monotonicNow) (sent ++ [ts]) := by
  refine ⟨done.awaits.sendSample ts monotonicNow, ?_⟩
  obtain ⟨pending, rfl⟩ := done.same
  exact ⟨_, rfl⟩

theorem sent_runCycle (client : ClockSyncClient) (readings : Nat → ℚ × ℚ) :
    Sent client (client.runCycle readings) (sentIn client.sampleCount readings) := by
  suffices first : ∀ n, Sent client
      ((List.range n).foldl (fun client i => client.sendSample (readings i).1 (readings i).2)
        { client with samples := [], pending := [] }) (sentIn n readings) from first client.sampleCount
  intro n
  induction n with
  | zero => exact ⟨fun ts => by simp [sentIn], [], rfl⟩
  | succ n ih =>
    rw [List.range_succ, List.foldl_append, sentIn, List.range_succ, List.map_append]
    exact ih.sendSample (readings n).1 (readings n).2

/-- The sample of the hello message is gone when the cycle begins. -/
theorem runCycle_applyHelloOffset (client : ClockSyncClient) (clientTs serverTs clientReceiveMs : ℚ)
    (readings : Nat → ℚ × ℚ) :
    (client.applyHelloOffset clientTs serverTs clientReceiveMs).runCycle readings = client.runCycle readings := by
  simp only [ClockSyncClient.applyHelloOffset]
  split <;> rfl

/-! ## One response -/

def Delivery.sample (payload : Delivery) : SampleOffset :=
  computeSampleOffset (payload.clientTsEcho.getD 0) payload.serverTs payload.now

/-- The response is not too slow. -/
def Delivery.InTime (maxRttMs : ℚ) (payload : Delivery) : Prop := payload.sample.rttMs ≤ maxRttMs

instance (maxRttMs : ℚ) : DecidablePred (Delivery.InTime maxRttMs) :=
  fun payload => inferInstanceAs (Decidable (payload.sample.rttMs ≤ maxRttMs))

/-- A request with the timestamp of the response has no answer yet. -/
def Delivery.Answers (sent : List ℚ) (payload : Delivery) : Prop := ∃ ts ∈ payload.clientTsEcho, ts ∈ sent

instance (sent : List ℚ) : DecidablePred (Delivery.Answers sent) :=
  fun payload => inferInstanceAs (Decidable (∃ ts ∈ payload.clientTsEcho, ts ∈ sent))

theorem computeSampleOffset_nonneg (clientSendMs serverMs clientReceiveMs : ℚ) :
    0 ≤ (computeSampleOffset clientSendMs serverMs clientReceiveMs).rttMs := le_max_left _ _

/-- A response that answers no request is ignored. -/
theorem handleResponse_unasked (awaits : Awaits client sent) (unasked : ¬ payload.Answers sent) :
    client.handleResponse payload = (false, client) := by
  simp only [ClockSyncClient.handleResponse]
  cases echo : payload.clientTsEcho with
  | none => rfl
  | some ts =>
    have absent : ts ∉ sent := fun member => unasked ⟨ts, echo, member⟩
    have empty := awaits ts
    rw [List.count_eq_zero.mpr absent, List.length_eq_zero_iff] at empty
    cases queue : client.pending.get? ts with
    | none => simp only [queue]
    | some times =>
      rw [queue, Option.getD_some] at empty
      subst empty
      simp only [queue]

/-- A response answers one request, and gives a sample if it is in time. -/
structure Handled (client : ClockSyncClient) (sent : List ℚ) (payload : Delivery) (answer : Bool × ClockSyncClient) :
    Prop where
  accepted : answer.1 = true ↔ payload.InTime client.maxRttMs
  awaits : Awaits answer.2 sent
  samples : ∃ added, answer.2.samples = client.samples ++ added ∧
    added.map (·.toSampleOffset) = if payload.InTime client.maxRttMs then [payload.sample] else []
  same : answer.2 = { client with samples := answer.2.samples, pending := answer.2.pending }

theorem handled_of_answers {ts : ℚ} (awaits : Awaits client sent) (echo : payload.clientTsEcho = some ts)
    (member : ts ∈ sent) : Handled client (sent.erase ts) payload (client.handleResponse payload) := by
  have waiting := awaits ts
  have asked : 0 < sent.count ts := List.count_pos_iff.mpr member
  cases found : client.pending.get? ts with
  | none =>
    rw [found, Option.getD_none, List.length_nil] at waiting
    omega
  | some times =>
    cases times with
    | nil =>
      rw [found, Option.getD_some, List.length_nil] at waiting
      omega
    | cons sentMonotonic queue =>
      rw [found, Option.getD_some, List.length_cons] at waiting
      let pending := if queue = [] then client.pending.delete ts else client.pending.set ts queue
      have shorter : ∀ other, ((pending.get? other).getD []).length = (sent.erase ts).count other := by
        intro other
        simp only [pending]
        by_cases here : other = ts
        · subst here
          rw [List.count_erase_self]
          by_cases last : queue = []
          · simp only [if_pos last, Dict.get?_delete, if_true, Option.getD_none, List.length_nil]
            simp only [last, List.length_nil] at waiting
            omega
          · simp only [if_neg last, Dict.get?_set_self, Option.getD_some]
            omega
        · rw [List.count_erase_of_ne here, ← awaits other]
          split
          · rw [Dict.get?_delete, if_neg here]
          · rw [Dict.get?_set_of_ne _ here]
      have sample : payload.sample = computeSampleOffset ts payload.serverTs payload.now := by
        rw [Delivery.sample, echo, Option.getD_some]
      have nonneg := computeSampleOffset_nonneg ts payload.serverTs payload.now
      simp only [ClockSyncClient.handleResponse, echo, found]
      by_cases inTime : payload.InTime client.maxRttMs
      · have kept : ¬ ((computeSampleOffset ts payload.serverTs payload.now).rttMs < 0 ∨
            client.maxRttMs < (computeSampleOffset ts payload.serverTs payload.now).rttMs) := by
          rw [not_or, not_lt, not_lt, ← sample]
          exact ⟨sample ▸ nonneg, inTime⟩
        rw [if_neg kept]
        exact ⟨by simp [inTime], shorter, ⟨_, rfl, by simp [inTime, sample]⟩, rfl⟩
      · have rejected : (computeSampleOffset ts payload.serverTs payload.now).rttMs < 0 ∨
            client.maxRttMs < (computeSampleOffset ts payload.serverTs payload.now).rttMs := by
          rw [← sample]
          exact .inr (not_le.mp inTime)
        rw [if_pos rejected]
        exact ⟨by simp [inTime], shorter, ⟨[], (List.append_nil _).symm, by simp [inTime]⟩, rfl⟩

end EventPlatform.Clock
