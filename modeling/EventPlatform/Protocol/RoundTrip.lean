import EventPlatform.Protocol.Messages

/-! # Builders against the validator of frames

What a builder returns is accepted when it comes back as text, and every error that
`validate_message` raises can be sent as a `server.error`. -/

namespace EventPlatform.Protocol

open EventPlatform.Lib

/-- The dict that `build_message` returns. -/
def Envelope.json (message : Envelope) : Json :=
  .dict [("type", .str message.type.value), ("version", .int message.version),
    ("payload", .dict message.payload)]

/-- `error_from_protocol_error`; an empty detail is left out. -/
def errorFromProtocolError (exc : ProtocolError) : Checked Envelope :=
  buildServerError exc.code.value exc.message exc.originalType
    (if exc.detail.isEmpty then none else some exc.detail)

section

variable {loads : String → Except String Json} {msgType : MessageType} {payload : Payload}
  {message : Envelope}

theorem proper_built (proper : (Json.dict payload).Proper) (built : buildMessage msgType payload = .ok message) :
    message.json.Proper := by
  obtain ⟨_, rfl⟩ := buildMessage_ok.mp built
  simp only [Envelope.json, Json.Proper, properFields, List.map_cons, List.map_nil, true_and, and_true]
  exact ⟨by decide, proper⟩

/-- A built message is read back as its type and its payload. -/
theorem validateMessage_built (built : buildMessage msgType payload = .ok message)
    (readsBack : loads (dumps message.json) = .ok message.json) :
    validateMessage loads (.text (dumps message.json)) = .ok (msgType, payload) := by
  obtain ⟨valid, rfl⟩ := buildMessage_ok.mp built
  refine ((validateMessage_decides loads _).1 msgType payload).mpr ⟨⟨_, readsBack, ?_, rfl, rfl⟩, ?_⟩
  · exact ⟨protocolVersion, rfl, by decide⟩
  · exact (validatePayload_ok msgType payload).mp valid

/-- The payload of the `server.error` for an exception. -/
def errorPayload (exc : ProtocolError) : Payload :=
  [("code", .str exc.code.value), ("message", .str exc.message)]
    ++ (exc.originalType.map fun text => ("original_type", Json.str text)).toList
    ++ ((if exc.detail.isEmpty then none else some exc.detail).map fun fields => ("detail", Json.dict fields)).toList

theorem proper_errorPayload {exc : ProtocolError} (sendable : exc.Sendable) :
    (Json.dict (errorPayload exc)).Proper := by
  have detail := sendable.detail
  simp only [errorPayload]
  cases exc.originalType <;> split <;>
  simp [Json.Proper, properFields] <;> exact detail

theorem isBlank_code (code : ErrorCode) : isBlank code.value = false := by
  cases code <;> decide

/-- An error that can be sent is sent, and comes back with its code and the type it is about. -/
theorem error_comes_back {exc : ProtocolError} (sendable : exc.Sendable) :
    ∃ message, errorFromProtocolError exc = .ok message ∧ message.json.Proper ∧
      (loads (dumps message.json) = .ok message.json →
        ∃ payload, validateMessage loads (.text (dumps message.json)) = .ok (.serverError, payload) ∧
          payload.get? "code" = some (.str exc.code.value) ∧
          payload.get? "original_type" = exc.originalType.map .str) := by
  obtain ⟨message, built⟩ := buildServerError_ok.mpr ⟨isBlank_code exc.code, sendable.message⟩
  refine ⟨message, built, proper_built (proper_errorPayload sendable) built,
    fun readsBack => ⟨errorPayload exc, validateMessage_built built readsBack, ?_, ?_⟩⟩
  · simp [errorPayload, Dict.get?_cons]
  · simp only [errorPayload]
    cases exc.originalType <;> split <;> simp [Dict.get?_cons]

end

/-- Building and reading agree, for every `loads` that reads back what has been written.  What is
    written is proper JSON. -/
theorem encoder_decoder_agree (loads : String → Except String Json) :
    (∀ msgType (payload : Payload), (Json.dict payload).Proper → payload.get? "msg_type" = none →
      (∀ message, buildMessage msgType payload = .ok message → message.json.Proper ∧
        (loads (dumps message.json) = .ok message.json →
          validateMessage loads (.text (dumps message.json)) = .ok (msgType, payload))) ∧
      ((∃ raw, validateMessage loads raw = .ok (msgType, payload)) →
        ∃ message, buildMessage msgType payload = .ok message)) ∧
    ∀ raw exc, validateMessage loads raw = .error (.protocol exc) →
      ∃ message, errorFromProtocolError exc = .ok message ∧ message.json.Proper ∧
        (loads (dumps message.json) = .ok message.json →
          ∃ payload, validateMessage loads (.text (dumps message.json)) = .ok (.serverError, payload) ∧
            payload.get? "code" = some (.str exc.code.value) ∧
            payload.get? "original_type" = exc.originalType.map .str) := by
  refine ⟨fun msgType payload proper _ => ⟨fun message built => ?_, ?_⟩, fun raw exc raised => ?_⟩
  · exact ⟨proper_built proper built, validateMessage_built built⟩
  · rintro ⟨raw, returned⟩
    have conforms := ((validateMessage_decides loads raw).1 msgType payload).mp returned
    exact ⟨_, buildMessage_ok.mpr ⟨(validatePayload_ok msgType payload).mpr conforms.accepted, rfl⟩⟩
  · rcases validateMessage_cases loads raw with ⟨_, _, returned, _⟩ | ⟨error, raised', sendable, _⟩
    · rw [raised] at returned
      cases returned
    · cases raised.symm.trans raised'
      exact error_comes_back sendable

/-- A ping comes back, and so does the error about a frame without a version. -/
theorem ping_and_error_come_back :
    (∃ message, buildMessage .clientPing [("client_ts", .int 1)] = .ok message ∧
      validateMessage loads (.text (dumps message.json)) = .ok (.clientPing, [("client_ts", .int 1)])) ∧
    ∃ message, errorFromProtocolError (malformed "Missing required envelope field: 'version'" none) =
      .ok message ∧ ∃ payload, validateMessage loads (.text (dumps message.json)) = .ok (.serverError, payload) ∧
        payload.get? "code" = some (.str "ERR_INVALID_MESSAGE") ∧ payload.get? "original_type" = none := by
  have agree := encoder_decoder_agree loads
  have proper : (Json.dict [("client_ts", .int 1)]).Proper := by simp [Json.Proper, properFields]
  obtain ⟨written, comesBack⟩ := (agree.1 .clientPing _ proper rfl).1 _ rfl
  refine ⟨⟨_, rfl, comesBack (loads_dumps written)⟩, ?_⟩
  -- an empty object is such a frame
  obtain ⟨message, sent, written, comesBack⟩ :=
    agree.2 (.text "\x7b\x7d") (malformed "Missing required envelope field: 'version'" none) rfl
  exact ⟨message, sent, comesBack (loads_dumps written)⟩

end EventPlatform.Protocol
