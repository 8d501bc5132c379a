import EventPlatform.Clock.ClockSyncClient
import EventPlatform.Lib.Runs

/-! # When a cycle synchronises the browser

The batch is finalised by the response that brings the number of samples up to the number
of requests.  A response that is lost or too slow is never made up for: the batch is then
not finalised at all, however many samples it has. -/

namespace EventPlatform.Clock

open EventPlatform.Lib

/-! ## What a batch amounts to -/

/-- The status and the offset that the samples give. -/
def batchResult (minSamples : Nat) (samples : List SampleOffset) : ClockStatus × Option ℚ :=
  if samples = [] then (.unsynchronised, none)
  else
    (if minSamples ≤ samples.length then .synchronised else .insufficient, some (median (samples.map (·.offsetMs))))

def Delivery.clockSample (payload : Delivery) : ClockSample where
  clientSendMs := payload.clientTsEcho.getD 0
  serverMs := payload.serverTs
  clientReceiveMs := payload.now
  rttMs := payload.sample.rttMs
  offsetMs := payload.sample.offsetMs

/-- `ClockSyncState` with the same samples. -/
def referenceState (accepted : List Delivery) : ClockSyncState :=
  { ClockSyncState.fresh with samples := accepted.map Delivery.clockSample }

variable {client final : ClockSyncClient} {sent : List ℚ} {payload : Delivery} {accepted : List Delivery}
  {minSamples : Nat}

theorem finalizeBatch_result (client : ClockSyncClient) :
    (client.finalizeBatch.status, client.finalizeBatch.offsetMs) =
      batchResult client.minSamples (client.samples.map (·.toSampleOffset)) := by
  simp only [ClockSyncClient.finalizeBatch, batchResult, List.map_eq_nil_iff, List.length_map, List.map_map]
  split <;> rfl

theorem referenceState_result (minSamples : Nat) (accepted : List Delivery) :
    (((referenceState accepted).finalize minSamples).status, ((referenceState accepted).finalize minSamples).offsetMs) =
      batchResult minSamples (accepted.map Delivery.sample) := by
  simp only [ClockSyncState.finalize, referenceState, batchResult, List.map_eq_nil_iff, List.length_map, List.map_map]
  split <;> rfl

/-- With enough samples the client is synchronised to their median, and else it is not. -/
structure Synchronises (minSamples : Nat) (accepted : List Delivery) (final : ClockSyncClient) : Prop where
  enough : minSamples ≤ accepted.length →
    final.status = .synchronised ∧ final.offsetMs = some (median (accepted.map (·.sample.offsetMs)))
  few : accepted.length < minSamples → final.status ≠ .synchronised

theorem batchResult_enough (positive : 0 < minSamples) (enough : minSamples ≤ accepted.length) :
    batchResult minSamples (accepted.map Delivery.sample) =
      (.synchronised, some (median (accepted.map (·.sample.offsetMs)))) := by
  have some_ : accepted.map Delivery.sample ≠ [] := by
    intro empty
    rw [List.map_eq_nil_iff] at empty
    rw [empty, List.length_nil] at enough
    omega
  simp only [batchResult, if_neg some_, List.length_map, if_pos enough, List.map_map, Function.comp_def]

theorem batchResult_few (few : accepted.length < minSamples) :
    (batchResult minSamples (accepted.map Delivery.sample)).1 ≠ .synchronised := by
  simp only [batchResult, List.length_map]
  split
  · simp
  · simp [Nat.not_le.mpr few]

theorem synchronises_of_result (positive : 0 < minSamples)
    (result : (final.status, final.offsetMs) = batchResult minSamples (accepted.map Delivery.sample)) :
    Synchronises minSamples accepted final := by
  constructor
  · intro enough
    rw [batchResult_enough positive enough] at result
    exact ⟨congrArg Prod.fst result, congrArg Prod.snd result⟩
  · intro few
    have status := congrArg Prod.fst result
    dsimp only at status
    rw [status]
    exact batchResult_few few

/-- The client is synchronised when the reference would be, and to the same offset. -/
theorem synchronises_iff_reference (positive : 0 < minSamples) :
    Synchronises minSamples accepted final ↔
      if ((referenceState accepted).finalize minSamples).status = .synchronised then
        final.status = .synchronised ∧ final.offsetMs = ((referenceState accepted).finalize minSamples).offsetMs
      else final.status ≠ .synchronised := by
  have reference := referenceState_result minSamples accepted
  rw [Prod.ext_iff] at reference
  obtain ⟨status, offset⟩ := reference
  dsimp only at status offset
  rw [status, offset]
  by_cases enough : minSamples ≤ accepted.length
  · rw [batchResult_enough positive enough, if_pos rfl]
    exact ⟨fun synchronises => synchronises.enough enough,
      fun done => ⟨fun _ => done, fun few => absurd enough (Nat.not_le.mpr few)⟩⟩
  · have few := Nat.not_le.mp enough
    rw [if_neg (batchResult_few few)]
    exact ⟨fun synchronises => synchronises.few few, fun apart => ⟨fun more => absurd more enough, fun _ => apart⟩⟩

/-! ## The accepted responses -/

/-- The deliveries that answer a request: each takes up one with its timestamp. -/
def answering : List ℚ → List Delivery → List Delivery
  | _, [] => []
  | sent, payload :: rest =>
    if payload.Answers sent then payload :: answering (sent.erase (payload.clientTsEcho.getD 0)) rest
    else answering sent rest

def acceptedOf (maxRttMs : ℚ) (sent : List ℚ) (deliveries : List Delivery) : List Delivery :=
  (answering sent deliveries).filter (·.InTime maxRttMs)

theorem answering_nil (deliveries : List Delivery) : answering [] deliveries = [] := by
  induction deliveries with
  | nil => rfl
  | cons payload rest ih =>
    have unasked : ¬ payload.Answers [] := by
      rintro ⟨ts, -, member⟩
      cases member
    rw [answering, if_neg unasked, ih]

theorem acceptedOf_unasked {maxRttMs : ℚ} (unasked : ¬ payload.Answers sent) (rest : List Delivery) :
    acceptedOf maxRttMs sent (payload :: rest) = acceptedOf maxRttMs sent rest := by
  rw [acceptedOf, answering, if_neg unasked, acceptedOf]

theorem acceptedOf_answers {maxRttMs ts : ℚ} (echo : payload.clientTsEcho = some ts) (member : ts ∈ sent)
    (rest : List Delivery) : acceptedOf maxRttMs sent (payload :: rest) =
      (if payload.InTime maxRttMs then [payload] else []) ++ acceptedOf maxRttMs (sent.erase ts) rest := by
  have answers : payload.Answers sent := ⟨ts, echo, member⟩
  rw [acceptedOf, answering, if_pos answers, echo, Option.getD_some, acceptedOf]
  by_cases inTime : payload.InTime maxRttMs
  · rw [List.filter_cons_of_pos (by simpa using inTime), if_pos inTime, List.singleton_append]
  · rw [List.filter_cons_of_neg (by simpa using inTime), if_neg inTime, List.nil_append]

/-! ## The whole batch -/

/-- The samples are those of the accepted responses, and the batch is finalised by the one
    that makes them as many as the requests. -/
structure Batch (client : ClockSyncClient) (accepted : List Delivery) (final : ClockSyncClient) : Prop where
  samples : final.samples.map (·.toSampleOffset) =
    client.samples.map (·.toSampleOffset) ++ accepted.map Delivery.sample
  result : (final.status, final.offsetMs) =
    if accepted ≠ [] ∧ client.samples.length + accepted.length = client.sampleCount then
      batchResult client.minSamples (client.samples.map (·.toSampleOffset) ++ accepted.map Delivery.sample)
    else (client.status, client.offsetMs)

/-- A client whose samples and queues alone have changed. -/
def ClockSyncClient.withBatch (client : ClockSyncClient) (samples : List ClientSample) (pending : Dict ℚ (List ℚ)) :
    ClockSyncClient :=
  { client with samples := samples, pending := pending }

theorem Awaits.finalizeBatch (awaits : Awaits client sent) : Awaits client.finalizeBatch sent := by
  intro ts
  rw [← awaits ts]
  simp only [ClockSyncClient.finalizeBatch]
  split <;> rfl

theorem finalizeBatch_samples (client : ClockSyncClient) : client.finalizeBatch.samples = client.samples := by
  simp only [ClockSyncClient.finalizeBatch]
  split <;> rfl

/-- What a delivery does: nothing, or it answers a request too late, or it adds a sample and
    finalises the batch if that was the last one. -/
inductive Delivers (client : ClockSyncClient) (sent : List ℚ) (payload : Delivery) : ClockSyncClient → Prop where
  | ignored : ¬ payload.Answers sent → Delivers client sent payload client
  | late (ts : ℚ) (pending : Dict ℚ (List ℚ)) : payload.clientTsEcho = some ts → ts ∈ sent →
      ¬ payload.InTime client.maxRttMs → Awaits (client.withBatch client.samples pending) (sent.erase ts) →
      Delivers client sent payload (client.withBatch client.samples pending)
  | taken (ts : ℚ) (samples : List ClientSample) (pending : Dict ℚ (List ℚ)) : payload.clientTsEcho = some ts →
      ts ∈ sent → payload.InTime client.maxRttMs → Awaits (client.withBatch samples pending) (sent.erase ts) →
      samples.map (·.toSampleOffset) = client.samples.map (·.toSampleOffset) ++ [payload.sample] →
      Delivers client sent payload
        (if client.sampleCount ≤ samples.length then (client.withBatch samples pending).finalizeBatch
        else client.withBatch samples pending)

theorem delivers (awaits : Awaits client sent) (payload : Delivery) :
    Delivers client sent payload (client.deliver payload) := by
  have delivered : client.deliver payload = (client.onSampleReceived payload).2 := rfl
  rw [delivered, ClockSyncClient.onSampleReceived]
  by_cases answers : payload.Answers sent
  · obtain ⟨ts, echo, member⟩ := answers
    have handled := handled_of_answers awaits echo member
    cases answer : client.handleResponse payload with
    | mk accepts middle =>
      rw [answer] at handled
      obtain ⟨accepted, remaining, ⟨added, samples, offsets⟩, same⟩ := handled
      dsimp only at accepted remaining samples offsets same
      -- the response has changed nothing but the samples and the queues
      have shape : middle = client.withBatch middle.samples middle.pending := same
      cases accepts with
      | true =>
        have inTime := accepted.mp rfl
        rw [if_pos inTime] at offsets
        rw [shape] at remaining ⊢
        refine .taken ts middle.samples middle.pending echo member inTime remaining ?_
        rw [samples, List.map_append, offsets]
      | false =>
        have late : ¬ payload.InTime client.maxRttMs := fun inTime => by
          have contrary := accepted.mpr inTime
          cases contrary
        rw [if_neg late, List.map_eq_nil_iff] at offsets
        rw [offsets, List.append_nil] at samples
        rw [shape, samples] at remaining ⊢
        exact .late ts middle.pending echo member late remaining
  · rw [handleResponse_unasked awaits answers]
    exact .ignored answers

/-! ## All responses -/

/-- Once all requests have been answered nothing changes the client. -/
theorem foldl_deliver_nil (awaits : Awaits client []) (deliveries : List Delivery) :
    deliveries.foldl ClockSyncClient.deliver client = client := by
  induction deliveries with
  | nil => rfl
  | cons payload rest ih =>
    have unasked : ¬ payload.Answers [] := by
      rintro ⟨_, -, member⟩
      cases member
    have ignored : client.deliver payload = client := by
      rw [ClockSyncClient.deliver, ClockSyncClient.onSampleReceived, handleResponse_unasked awaits unasked]
    rw [List.foldl_cons, ignored]
    exact ih

/-- A sample that leaves requests open puts off the end of the batch. -/
theorem Batch.taken {samples : List ClientSample} {pending : Dict ℚ (List ℚ)}
    (later : Batch (client.withBatch samples pending) accepted final)
    (added : samples.map (·.toSampleOffset) = client.samples.map (·.toSampleOffset) ++ [payload.sample])
    (open_ : samples.length < client.sampleCount) : Batch client (payload :: accepted) final := by
  have lengths := congrArg List.length added
  simp only [List.length_append, List.length_map, List.length_singleton] at lengths
  obtain ⟨all, result⟩ := later
  simp only [ClockSyncClient.withBatch, added, List.append_assoc, List.singleton_append] at all result
  refine ⟨all, ?_⟩
  rw [result, List.map_cons]
  refine if_congr ⟨?_, ?_⟩ rfl rfl
  · rintro ⟨-, total⟩
    refine ⟨List.cons_ne_nil _ _, ?_⟩
    rw [List.length_cons]
    omega
  · rintro ⟨-, total⟩
    rw [List.length_cons] at total
    refine ⟨?_, by omega⟩
    rintro rfl
    rw [List.length_nil] at total
    omega

theorem Batch.last {samples : List ClientSample} {pending : Dict ℚ (List ℚ)}
    (added : samples.map (·.toSampleOffset) = client.samples.map (·.toSampleOffset) ++ [payload.sample])
    (total : client.samples.length + 1 = client.sampleCount) :
    Batch client [payload] (client.withBatch samples pending).finalizeBatch := by
  refine ⟨?_, ?_⟩
  · rw [finalizeBatch_samples]
    exact added
  · rw [finalizeBatch_result, if_pos ⟨List.cons_ne_nil _ _, total⟩, List.map_singleton, ← added]
    rfl

theorem batch_deliveries (awaits : Awaits client sent) (room : client.samples.length + sent.length ≤ client.sampleCount)
    (deliveries : List Delivery) :
    Batch client (acceptedOf client.maxRttMs sent deliveries) (deliveries.foldl ClockSyncClient.deliver client) := by
  induction deliveries generalizing client sent with
  | nil => exact ⟨by simp [acceptedOf, answering], by simp [acceptedOf, answering]⟩
  | cons payload rest ih =>
    rw [List.foldl_cons]
    have step := delivers awaits payload
    generalize client.deliver payload = next at step
    cases step with
    | ignored unasked =>
      rw [acceptedOf_unasked unasked]
      exact ih awaits room
    | late ts pending echo member late remaining =>
      have shorter := List.length_erase_add_one member
      rw [acceptedOf_answers echo member, if_neg late, List.nil_append]
      obtain ⟨samples, result⟩ := ih remaining (by simp only [ClockSyncClient.withBatch]; omega)
      exact ⟨samples, result⟩
    | taken ts samples pending echo member inTime remaining added =>
      have shorter := List.length_erase_add_one member
      have lengths := congrArg List.length added
      simp only [List.length_append, List.length_map, List.length_singleton] at lengths
      rw [acceptedOf_answers echo member, if_pos inTime, List.singleton_append]
      by_cases full : client.sampleCount ≤ samples.length
      · -- that was the last request, and whatever else comes is ignored
        have all : sent.erase ts = [] := List.eq_nil_of_length_eq_zero (by omega)
        rw [all] at remaining ⊢
        rw [if_pos full, foldl_deliver_nil remaining.finalizeBatch, acceptedOf, answering_nil, List.filter_nil]
        exact .last added (by omega)
      · rw [if_neg full]
        exact (ih remaining (by simp only [ClockSyncClient.withBatch]; omega)).taken added (Nat.not_le.mp full)

theorem deliver_maxRttMs (awaits : Awaits client sent) (payload : Delivery) :
    (client.deliver payload).maxRttMs = client.maxRttMs := by
  have step := delivers awaits payload
  generalize client.deliver payload = next at step
  cases step with
  | ignored => rfl
  | late => rfl
  | taken =>
    split
    · simp only [ClockSyncClient.finalizeBatch]
      split <;> rfl
    · rfl

/-- `acceptedOf` are the responses for which `onSampleReceived` returns `true`. -/
theorem acceptedOf_visited (awaits : Awaits client sent) (deliveries : List Delivery) :
    ((visited ClockSyncClient.deliver client deliveries).filter fun v => (v.1.onSampleReceived v.2).1).map (·.2) =
      acceptedOf client.maxRttMs sent deliveries := by
  induction deliveries generalizing client sent with
  | nil => simp [visited, acceptedOf, answering]
  | cons payload rest ih =>
    have flag : (client.onSampleReceived payload).1 = (client.handleResponse payload).1 := by
      rw [ClockSyncClient.onSampleReceived]
      cases answer : client.handleResponse payload with
      | mk accepts middle => cases accepts <;> rfl
    have limits := deliver_maxRttMs awaits payload
    have step := delivers awaits payload
    rw [visited]
    by_cases answers : payload.Answers sent
    · obtain ⟨ts, echo, member⟩ := answers
      have accepts := (handled_of_answers awaits echo member).accepted
      -- in time or not, the response uses up one request with its timestamp
      have remaining : Awaits (client.deliver payload) (sent.erase ts) := by
        have same : ∀ ts', payload.clientTsEcho = some ts' → ts' = ts := fun ts' echo' =>
          Option.some.inj (echo'.symm.trans echo)
        generalize client.deliver payload = next at step
        cases step with
        | ignored unasked => exact absurd ⟨ts, echo, member⟩ unasked
        | late ts' pending echo' member' late open_ => exact same ts' echo' ▸ open_
        | taken ts' samples pending echo' member' inTime open_ added =>
          rw [same ts' echo'] at open_
          split
          · exact open_.finalizeBatch
          · exact open_
      rw [acceptedOf_answers echo member, ← limits, ← ih remaining, limits]
      by_cases inTime : payload.InTime client.maxRttMs
      · rw [List.filter_cons_of_pos (by rw [flag]; exact accepts.mpr inTime), if_pos inTime]
        rfl
      · rw [List.filter_cons_of_neg (by rw [flag]; exact fun accepted => inTime (accepts.mp accepted)), if_neg inTime,
          List.nil_append]
    · have refused : ¬ (client.onSampleReceived payload).1 = true := by
        rw [flag, handleResponse_unasked awaits answers]
        simp
      -- with no request to answer the client stays as it is, and the list too
      have ignored : client.deliver payload = client := by
        rw [ClockSyncClient.deliver, ClockSyncClient.onSampleReceived, handleResponse_unasked awaits answers]
      rw [List.filter_cons, if_neg refused, ignored, acceptedOf_unasked answers]
      exact ih awaits

/-- After a cycle the client is as synchronised as the reference exactly when every request has
    been answered in time; or else when too few have and it was not synchronised before, or
    enough have and it happened to have their median from before. -/
theorem synchronises_iff (client : ClockSyncClient) (readings : Nat → ℚ × ℚ) (deliveries : List Delivery)
    (positive : 0 < client.minSamples) :
    let accepted := acceptedOf client.maxRttMs (sentIn client.sampleCount readings) deliveries
    Synchronises client.minSamples accepted (deliveries.foldl ClockSyncClient.deliver (client.runCycle readings)) ↔
      (accepted ≠ [] ∧ accepted.length = client.sampleCount) ∨
      (accepted.length < client.minSamples ∧ client.status ≠ .synchronised) ∨
      (client.minSamples ≤ accepted.length ∧ client.status = .synchronised ∧
        client.offsetMs = some (median (accepted.map (·.sample.offsetMs)))) := by
  intro accepted
  obtain ⟨awaits, pending, same⟩ := sent_runCycle client readings
  have batch : Batch (client.runCycle readings) accepted
      (deliveries.foldl ClockSyncClient.deliver (client.runCycle readings)) := by
    have whole := batch_deliveries awaits (by rw [same]; simp [length_sentIn]) deliveries
    have limits : (client.runCycle readings).maxRttMs = client.maxRttMs := by rw [same]
    rwa [limits] at whole
  obtain ⟨-, result⟩ := batch
  generalize deliveries.foldl ClockSyncClient.deliver (client.runCycle readings) = final at result ⊢
  rw [same] at result
  simp only [List.length_nil, Nat.zero_add, List.map_nil, List.nil_append] at result
  by_cases all : accepted ≠ [] ∧ accepted.length = client.sampleCount
  · rw [if_pos all] at result
    exact iff_of_true (synchronises_of_result positive result) (.inl all)
  · rw [if_neg all] at result
    obtain ⟨status, offset⟩ := Prod.ext_iff.mp result
    dsimp only at status offset
    constructor
    -- no batch was finalised, so the client reports what it reported before the cycle
    · rintro ⟨enough, few⟩
      rw [status] at enough few
      rw [offset] at enough
      by_cases many : client.minSamples ≤ accepted.length
      · exact .inr (.inr ⟨many, enough many⟩)
      · exact .inr (.inl ⟨Nat.not_le.mp many, few (Nat.not_le.mp many)⟩)
    · rintro (finalised | ⟨less, apart⟩ | ⟨many, before⟩)
      · exact absurd finalised all
      · exact ⟨fun many => absurd many (Nat.not_le.mpr less), fun _ => status ▸ apart⟩
      · exact ⟨fun _ => ⟨status ▸ before.1, offset ▸ before.2⟩, fun less => absurd many (Nat.not_le.mpr less)⟩

/-- Five requests in one millisecond. -/
def sameMillisecond : Nat → ℚ × ℚ := fun i => (1700000000000, 10 + i / 10)

/-- An answer after 40 ms, from a server that is ahead by `offset`. -/
def answerAhead (offset : ℚ) : Delivery where
  clientTsEcho := some 1700000000000
  serverTs := 1700000000020 + offset
  now := 1700000000040
  monotonicNow := 50

/-- All five are answered, and one of the answers comes twice. -/
theorem synchronises_all_answered :
    Synchronises 3 ([100, 110, 105, 1000, 95].map answerAhead)
      (([100, 110, 105, 1000, 95, 95].map answerAhead).foldl ClockSyncClient.deliver
        (ClockSyncClient.fresh.runCycle sameMillisecond)) := by
  have accepted : acceptedOf ClockSyncClient.fresh.maxRttMs (sentIn ClockSyncClient.fresh.sampleCount sameMillisecond)
      ([100, 110, 105, 1000, 95, 95].map answerAhead) = [100, 110, 105, 1000, 95].map answerAhead := by decide +kernel
  have synchronises := synchronises_iff .fresh sameMillisecond ([100, 110, 105, 1000, 95, 95].map answerAhead) (by decide)
  rw [accepted] at synchronises
  exact synchronises.mpr (.inl ⟨by simp, by decide⟩)

/-- One answer is lost: four samples are enough for the reference, and the client stays as it was. -/
theorem unsynchronised_one_lost :
    acceptedOf 2000 (sentIn 5 sameMillisecond) ([100, 110, 105, 95].map answerAhead) =
        [100, 110, 105, 95].map answerAhead ∧
      ¬ Synchronises 3 ([100, 110, 105, 95].map answerAhead)
        (([100, 110, 105, 95].map answerAhead).foldl ClockSyncClient.deliver
          (ClockSyncClient.fresh.runCycle sameMillisecond)) := by
  refine ⟨by decide +kernel, fun synchronises => ?_⟩
  have status := (synchronises.enough (by decide)).1
  have never : (([100, 110, 105, 95].map answerAhead).foldl ClockSyncClient.deliver
      (ClockSyncClient.fresh.runCycle sameMillisecond)).status = .unsynchronised := by decide +kernel
  rw [never] at status
  cases status

end EventPlatform.Clock
