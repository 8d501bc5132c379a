import EventPlatform.CallRoom.Page
import EventPlatform.Lib.Runs
import EventPlatform.Protocol.Messages

/-! # The model and the page

The model and the page handle the same messages.  A message for which both make
the same of what they keep leaves them agreed, any other one does not. -/

namespace EventPlatform.CallRoom

open EventPlatform.Lib EventPlatform.Operator EventPlatform.Orchestrator EventPlatform.Protocol

/-! ## Messages with valid payloads -/

def roomTypes : List MessageType :=
  [.serverPairing, .serverRoundStart, .serverRoundWarning, .serverRoundEnd, .serverEventEnd, .serverPartnerState]

/-- The protocol accepts the payload; an operator's is the one its action sends. -/
def Valid : RoomMessage → Prop
  | .envelope message => message.type ∈ roomTypes ∧ validatePayload message.type message.payload = .ok ()
  | .operator _ => True

/-- A message, and the transport that the page has when it handles it. -/
structure Heard where
  message : RoomMessage
  negotiator : Option FailoverMediaTransport
  valid : Valid message

/-! ## Agreement -/

def PartnerInfo.ids (partner : PartnerInfo) : String × String := (partner.partnerId, partner.roomId)

def PagePartner.ids (partner : PagePartner) : String × String := (partner.partnerId, partner.roomId)

structure Agree (s : CallRoomState) (page : CallRoomPage) : Prop where
  phase : s.phase = page.phase
  roundNumber : s.roundNumber = page.roundNumber
  roundEndTs : s.roundEndTs.map (fun ts : Int => Number.finite ts) = page.roundEndTs
  serverWarningActive : s.serverWarningActive = page.serverWarningActive
  isPaused : s.isPaused = page.isPaused
  partner : s.partner.map PartnerInfo.ids = page.partner.map PagePartner.ids
  partnerPresence : s.partnerPresence.map PartnerPresence.value = page.partnerPresence

/-- The instant in milliseconds, as far as doubles carry it. -/
def doubleMs (t : Int) : ℚ := toDouble (toDouble ((t : ℚ) / 1000000) * 1000)

/-- The doubles stay in the millisecond that the instant is in, or come to its start from
    below, as before 1970 the digits behind it are cut off upwards. -/
def KeepsMillisecond (t : Int) : Prop :=
  let ms : Int := t / 1000
  (0 ≤ doubleMs t ∧ ms ≤ doubleMs t ∧ doubleMs t < ms + 1) ∨ (doubleMs t < 0 ∧ ms - 1 < doubleMs t ∧ doubleMs t ≤ ms)

instance (t : Int) : Decidable (KeepsMillisecond t) := inferInstanceAs (Decidable (_ ∨ _))

namespace CallRoomPage

/-- What the page keeps of a message, the model keeps as well. -/
def Mirrored (coerced : Json → Option String) (page : CallRoomPage)
    (negotiator : Option FailoverMediaTransport) : RoomMessage → Prop
  | .envelope message =>
    match message.type with
    | .serverPairing =>
      (page.sameAssignment negotiator (parsePairingPayload message.payload) = true →
        page.phase = .preconnecting) ∧ Number.IsDouble (getInt message.payload "round_end_ts" 0)
    | .serverRoundWarning =>
      page.roundNumber = message.roundNumber ∧ Number.IsDouble (getInt message.payload "round_end_ts" 0)
    | .serverRoundEnd => page.partnerPresence = none
    | .serverEventEnd => page.partner = none ∧ page.serverWarningActive = false ∧ page.partnerPresence = none
    | .serverPartnerState =>
      page.ignores coerced message.payload = true →
        page.partnerPresence = partnerPresenceFromProtocol message.payload
    | _ => True
  | .operator (.pause roundNumber _ _) => page.roundNumber = some (roundNumber : Int)
  | .operator (.resume roundNumber _ endsAt _) =>
    page.roundNumber = some (roundNumber : Int) ∧ page.serverWarningActive = false ∧ KeepsMillisecond endsAt
  | .operator (.extend roundNumber _ endsAt) =>
    page.roundNumber = some (roundNumber : Int) ∧ KeepsMillisecond endsAt

end CallRoomPage

/-! ## Valid payloads -/

variable {s : CallRoomState} {page : CallRoomPage} {payload : Payload} {coerced : Json → Option String}
  {negotiator : Option FailoverMediaTransport}

theorem dateParse_eq_iff {t : Int} :
    Number.finite (datetimeToUnixMs t) = dateParse t ↔ KeepsMillisecond t := by
  have cut : datetimeToUnixMs t = t / 1000 ↔ KeepsMillisecond t := truncate_eq_iff
  rw [← cut, dateParse, Number.finite.injEq, Int.cast_inj]

/-- Up to the year 2106 the doubles may only leave the millisecond that an instant begins. -/
theorem keepsMillisecond_of_part {t : Int} (nonneg : 0 ≤ t) (before : t < 2 ^ 32 * 1000000)
    (part : ¬ 1000 ∣ t) : KeepsMillisecond t := by
  have low : ((t / 1000 : Int) : ℚ) + 1 / 1000 ≤ t / 1000 := by
    have rest : 1000 * (t / 1000) + 1 ≤ t := by omega
    have rest : (1000 : ℚ) * ((t / 1000 : Int) : ℚ) + 1 ≤ t := by exact_mod_cast rest
    linarith
  have high : (t : ℚ) / 1000 + 1 / 1000 ≤ ((t / 1000 : Int) : ℚ) + 1 := by
    have rest : t + 1 ≤ 1000 * (t / 1000) + 1000 := by omega
    have rest : (t : ℚ) + 1 ≤ 1000 * ((t / 1000 : Int) : ℚ) + 1000 := by exact_mod_cast rest
    linarith
  have nonneg : (0 : ℚ) ≤ t := by exact_mod_cast nonneg
  have before : (t : ℚ) < 2 ^ 32 * 1000000 := by exact_mod_cast before
  -- neither rounding changes the instant by half a microsecond
  have nonneg : 0 ≤ (t : ℚ) / 1000000 := by linarith
  have nonneg' : 0 ≤ toDouble ((t : ℚ) / 1000000) * 1000 := mul_nonneg (toDouble_nonneg nonneg) (by norm_num)
  have timestamp := toDouble_bounds nonneg
  have product := toDouble_bounds nonneg'
  have close : (t : ℚ) / 1000 - 1 / 1000 < doubleMs t ∧ doubleMs t < (t : ℚ) / 1000 + 1 / 1000 := by
    unfold doubleMs
    constructor <;> linarith
  exact .inl ⟨toDouble_nonneg nonneg', by linarith, by linarith⟩

/-- An instant of 2039 of which the model makes the millisecond before. -/
example : ¬ KeepsMillisecond 2180073940094000 := by decide +kernel

/-- Both read the same partner's ids out of a pairing. -/
theorem parsePairing_valid (valid : validatePayload .serverPairing payload = .ok ()) :
    ∃ partner, parsePairingPayload payload = some partner ∧
      partner.ids = (CallRoomPage.parsePairingPayload payload).ids ∧
      partner.roundNumber = (CallRoomPage.parsePairingPayload payload).roundNumber ∧
      partner.roundEndTs = getInt payload "round_end_ts" 0 ∧
      (CallRoomPage.parsePairingPayload payload).roundEndTs = .ofExact (getInt payload "round_end_ts" 0 : Int) := by
  obtain ⟨⟨_, roundNumber, _⟩, ⟨_, roomId, _⟩, ⟨_, partnerId, _⟩, _, ⟨_, startTs, _⟩, ⟨_, endTs, _⟩, _⟩ :=
    validateServerPairing_ok.mp valid
  simp only [Protocol.Holds] at roundNumber roomId partnerId startTs endTs
  simp [parsePairingPayload, CallRoomPage.parsePairingPayload, PartnerInfo.ids, PagePartner.ids, getInt, getNumber,
    roundNumber, roomId, partnerId, startTs, endTs, Json.readInt, Json.readStr]

theorem warning_valid (valid : validatePayload .serverRoundWarning payload = .ok ()) :
    ∃ roundNumber roundEndTs, payload.get? "round_number" = some (.int roundNumber) ∧
      payload.get? "round_end_ts" = some (.int roundEndTs) ∧ roundEndTs ≠ 0 := by
  obtain ⟨required, _⟩ := (validatePayload_ok _ _).mp valid
  simp only [schema, List.forall_mem_cons, Has, admits_int, Protocol.Holds] at required
  obtain ⟨⟨_, number, roundNumber, rfl, _⟩, _, _, ⟨_, stamp, roundEndTs, rfl, positive, _⟩, _⟩ := required
  have later : 1 ≤ roundEndTs := positive 1 rfl
  exact ⟨roundNumber, roundEndTs, number, stamp, by omega⟩

/-- Both take the same presence from the state of a partner. -/
theorem partnerState_valid (valid : validatePayload .serverPartnerState payload = .ok ()) :
    ∃ presence, partnerPresenceFromProtocol payload = some presence ∧
      CallRoomPage.partnerPresenceFromProtocol payload = some presence.value := by
  obtain ⟨required, _⟩ := (validatePayload_ok _ _).mp valid
  simp only [schema, List.forall_mem_cons, Has, admits_member, Protocol.Holds, partnerStates] at required
  obtain ⟨_, ⟨_, held, state, rfl, known⟩, _⟩ := required
  have nonempty : state ≠ "" := by rintro rfl; simp at known
  have first : firstText payload presenceFields = some state := by
    simp [firstText, presenceFields, held, Json.readStr, Option.filter, nonempty]
  have lower : lowerCase state = state := by
    simp only [List.mem_cons, List.not_mem_nil, or_false] at known
    rcases known with rfl | rfl | rfl <;> decide
  simp only [List.mem_cons, List.not_mem_nil, or_false] at known
  rcases known with rfl | rfl | rfl
  · exact ⟨.connected, by simp [partnerPresenceFromProtocol, first, lower],
      by simp [CallRoomPage.partnerPresenceFromProtocol, first, lower, PartnerPresence.value]⟩
  · exact ⟨.gone, by simp [partnerPresenceFromProtocol, first, lower],
      by simp [CallRoomPage.partnerPresenceFromProtocol, first, lower, PartnerPresence.value]⟩
  · exact ⟨.reconnecting, by simp [partnerPresenceFromProtocol, first, lower],
      by simp [CallRoomPage.partnerPresenceFromProtocol, first, lower, PartnerPresence.value]⟩

/-! ## One message -/

theorem agree_onPairing (valid : validatePayload .serverPairing payload = .ok ()) :
    Agree ((CallRoomState.onPairing payload).getD s) (page.onPairing negotiator payload) ↔
      (page.sameAssignment negotiator (CallRoomPage.parsePairingPayload payload) = true →
        page.phase = .preconnecting) ∧ Number.IsDouble (getInt payload "round_end_ts" 0) := by
  obtain ⟨partner, parsed, ids, roundNumber, modelled, shown⟩ := parsePairing_valid valid
  have next : CallRoomState.onPairing payload = some
      { phase := .preconnecting, roundNumber := some partner.roundNumber, roundEndTs := some partner.roundEndTs,
        partner := some partner, partnerPresence := some .connected } := by
    simp [CallRoomState.onPairing, parsed]
  rw [next, Option.getD_some, ← Number.ofExact_intCast_iff, ← shown, ← modelled]
  constructor
  · intro agree
    refine ⟨fun same => ?_, (Option.some.inj agree.roundEndTs).symm⟩
    have phase := agree.phase
    simp only [CallRoomPage.onPairing, same, if_true] at phase
    exact phase.symm
  · rintro ⟨early, kept⟩
    refine ⟨?_, congrArg some roundNumber, congrArg some kept.symm, rfl, rfl, congrArg some ids, rfl⟩
    simp only [CallRoomPage.onPairing]
    split
    next same => exact (early same).symm
    next => rfl

theorem agree_onRoundStart (agree : Agree s page) : Agree (s.onRoundStart payload) (page.onRoundStart payload) :=
  ⟨rfl, by simp only [CallRoomState.onRoundStart, CallRoomPage.onRoundStart, agree.roundNumber],
    agree.roundEndTs, rfl, rfl, agree.partner, agree.partnerPresence⟩

theorem agree_onRoundWarning (agree : Agree s page) (valid : validatePayload .serverRoundWarning payload = .ok ()) :
    Agree (s.onRoundWarning payload) (page.onRoundWarning payload) ↔
      page.roundNumber = (payload.get? "round_number").bind Json.readInt ∧
        Number.IsDouble (getInt payload "round_end_ts" 0) := by
  obtain ⟨roundNumber, roundEndTs, number, stamp, nonzero⟩ := warning_valid valid
  have counted : (s.onRoundWarning payload).roundNumber = some roundNumber := by
    simp [CallRoomState.onRoundWarning, getInt, number, Json.readInt]
  have modelled : (s.onRoundWarning payload).roundEndTs = some roundEndTs := by
    simp [CallRoomState.onRoundWarning, getInt, stamp, Json.readInt, nonzero]
  have shown : (page.onRoundWarning payload).roundEndTs = some (.ofExact roundEndTs) := by
    simp [CallRoomPage.onRoundWarning, stamp, Json.readInt, nonzero, Option.filter]
  have named : getInt payload "round_end_ts" 0 = roundEndTs := by
    simp [getInt, stamp, Json.readInt]
  rw [number, Option.bind_some, Json.readInt, named, ← Number.ofExact_intCast_iff]
  constructor
  · intro agreed
    have kept := agreed.roundEndTs
    rw [modelled, shown, Option.map_some] at kept
    exact ⟨agreed.roundNumber.symm.trans counted, (Option.some.inj kept).symm⟩
  · rintro ⟨same, kept⟩
    refine ⟨agree.phase, counted.trans same.symm, ?_, rfl, agree.isPaused, agree.partner, agree.partnerPresence⟩
    rw [modelled, shown, Option.map_some, kept]

theorem agree_onRoundEnd (agree : Agree s page) :
    Agree (s.onRoundEnd payload) (page.onRoundEnd payload) ↔ page.partnerPresence = none := by
  constructor
  · exact fun agreed => agreed.partnerPresence.symm
  · intro absent
    exact ⟨rfl, by simp only [CallRoomState.onRoundEnd, CallRoomPage.onRoundEnd, agree.roundNumber],
      agree.roundEndTs, rfl, rfl, rfl, absent.symm⟩

theorem agree_onEventEnd (agree : Agree s page) :
    Agree (s.onEventEnd payload) (page.onEventEnd payload) ↔
      page.partner = none ∧ page.serverWarningActive = false ∧ page.partnerPresence = none := by
  constructor
  · intro agreed
    exact ⟨Option.map_eq_none_iff.mp agreed.partner.symm, agreed.serverWarningActive.symm,
      agreed.partnerPresence.symm⟩
  · rintro ⟨alone, quiet, absent⟩
    exact ⟨rfl, agree.roundNumber, agree.roundEndTs, quiet.symm, rfl,
      (Option.map_eq_none_iff.mpr alone).symm, absent.symm⟩

theorem agree_onPartnerState (agree : Agree s page)
    (valid : validatePayload .serverPartnerState payload = .ok ()) :
    Agree (s.onPartnerState payload) (page.onPartnerState coerced payload) ↔
      (page.ignores coerced payload = true →
        page.partnerPresence = CallRoomPage.partnerPresenceFromProtocol payload) := by
  obtain ⟨presence, modelled, shown⟩ := partnerState_valid valid
  have next : (s.onPartnerState payload).partnerPresence.map PartnerPresence.value = some presence.value := by
    simp [CallRoomState.onPartnerState, modelled]
  by_cases ignored : page.ignores coerced payload = true
  · simp only [CallRoomPage.onPartnerState, ignored, if_true, true_implies, shown]
    constructor
    · exact fun agreed => agreed.partnerPresence.symm.trans next
    · intro already
      exact ⟨agree.phase, agree.roundNumber, agree.roundEndTs, agree.serverWarningActive, agree.isPaused,
        agree.partner, next.trans already.symm⟩
  · simp only [CallRoomPage.onPartnerState, ignored, if_false, false_implies, iff_true, shown, Option.getD_some,
      Bool.false_eq_true]
    exact ⟨agree.phase, agree.roundNumber, agree.roundEndTs, agree.serverWarningActive, agree.isPaused,
      agree.partner, next⟩

theorem agree_operator (agree : Agree s page) (payload : ActionPayload) :
    Agree (s.receive (.operator payload)) (page.handleMessage coerced negotiator (.operator payload)) ↔
      page.Mirrored coerced negotiator (.operator payload) := by
  -- the room takes the fields of the message as they are, the page what it makes of them
  cases payload with
  | pause roundNumber remainingSeconds pausedAt =>
    constructor
    · exact fun agreed => agreed.roundNumber.symm
    · intro named
      exact ⟨agree.phase, named.symm, agree.roundEndTs, agree.serverWarningActive, rfl, agree.partner,
        agree.partnerPresence⟩
  | resume roundNumber resumedAt endsAt remainingSeconds =>
    constructor
    · intro agreed
      exact ⟨agreed.roundNumber.symm, agreed.serverWarningActive.symm,
        dateParse_eq_iff.mp (Option.some.inj agreed.roundEndTs)⟩
    · rintro ⟨named, quiet, whole⟩
      exact ⟨agree.phase, named.symm, congrArg some (dateParse_eq_iff.mpr whole), quiet.symm, rfl,
        agree.partner, agree.partnerPresence⟩
  | extend roundNumber extendedBySeconds endsAt =>
    constructor
    · intro agreed
      exact ⟨agreed.roundNumber.symm, dateParse_eq_iff.mp (Option.some.inj agreed.roundEndTs)⟩
    · rintro ⟨named, whole⟩
      exact ⟨agree.phase, named.symm, congrArg some (dateParse_eq_iff.mpr whole), agree.serverWarningActive,
        agree.isPaused, agree.partner, agree.partnerPresence⟩

/-- One message leaves the two agreed exactly when the model mirrors the page. -/
theorem agree_handleMessage (agree : Agree s page) {message : RoomMessage} (valid : Valid message) :
    Agree (s.handleMessage message) (page.handleMessage coerced negotiator message) ↔
      page.Mirrored coerced negotiator message := by
  cases message with
  | operator payload => exact agree_operator agree payload
  | envelope message =>
    obtain ⟨type, version, payload⟩ := message
    obtain ⟨known, valid⟩ := valid
    simp only [roomTypes, List.mem_cons, List.not_mem_nil, or_false] at known
    rcases known with rfl | rfl | rfl | rfl | rfl | rfl
    · exact agree_onPairing valid
    · exact iff_of_true (agree_onRoundStart agree) trivial
    · exact agree_onRoundWarning agree valid
    · exact agree_onRoundEnd agree
    · exact agree_onEventEnd agree
    · exact agree_onPartnerState agree valid

/-! ## Runs -/

/-- The model and the page handle the same message. -/
def handleBoth (coerced : Json → Option String) (both : CallRoomState × CallRoomPage) (heard : Heard) :
    CallRoomState × CallRoomPage :=
  (both.1.handleMessage heard.message, both.2.handleMessage coerced heard.negotiator heard.message)

/-- The model agrees with the page after every message of a run exactly when it mirrors the
    page at each of them. -/
theorem agree_iff_mirrored (coerced : Json → Option String) (heard : List Heard) :
    (∀ n, Agree ((heard.take n).foldl (handleBoth coerced) ({}, {})).1
      ((heard.take n).foldl (handleBoth coerced) ({}, {})).2) ↔
      ∀ v ∈ visited (handleBoth coerced) ({}, {}) heard,
        v.1.2.Mirrored coerced v.2.negotiator v.2.message := by
  have kept : ∀ (both : CallRoomState × CallRoomPage) (a : Heard), Agree both.1 both.2 →
      (Agree (handleBoth coerced both a).1 (handleBoth coerced both a).2 ↔
        ¬ ¬ both.2.Mirrored coerced a.negotiator a.message) := by
    intro both a agree
    rw [not_not]
    exact agree_handleMessage agree a.valid
  have start : Agree {} {} := ⟨rfl, rfl, rfl, rfl, rfl, rfl, rfl⟩
  have whole := @foldl_take_iff _ _ (handleBoth coerced) (fun both => Agree both.1 both.2) _ kept ({}, {}) heard start
  simpa only [not_not] using whole

def paired : Heard where
  message := .envelope ⟨.serverPairing, 1, pairingPayload 1 "room-1" "bob" 1000 2000 true none none⟩
  negotiator := none
  valid := ⟨by decide, rfl⟩

def ended : Heard where
  message := .envelope ⟨.serverRoundEnd, 1, [("round_number", .int 1), ("server_ts", .int 2000)]⟩
  negotiator := none
  valid := ⟨by decide, rfl⟩

/-- After its first round the page still shows the partner as connected. -/
theorem disagree_after_roundEnd :
    ¬ Agree ([paired, ended].foldl (handleBoth fun _ => none) ({}, {})).1
      ([paired, ended].foldl (handleBoth fun _ => none) ({}, {})).2 := by
  intro agree
  have presence := agree.partnerPresence
  revert presence
  decide

end EventPlatform.CallRoom
