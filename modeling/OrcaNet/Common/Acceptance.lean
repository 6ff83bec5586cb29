import OrcaNet.Common.Wire

/-! # What a peer accepts

    The other direction of the wire format: which bytes `handle_stream_req` takes
    for a message.  The format has no redundancy, so a buffer is read as a
    message exactly if it starts with the bytes that the message is written as.

    Hence no message is a strict beginning of another one, and a stream that
    breaks off is never taken for a message, whichever it was cut from. -/

namespace OrcaNet

open Bincode

/-! ## Section 1: Structs -/

theorem PaymentNotification.accepts :
    Accepts [] PaymentNotification.deserialize PaymentNotification.serialize := by
  refine accepts_string.bind fun sender_address => ?_
  refine accepts_string.bind fun receiver_address => ?_
  refine accepts_f64.bind fun amount_transferred => ?_
  refine accepts_string.bind fun tx_id => ?_
  refine accepts_string.bind fun payment_reference => ?_
  exact .pure (by simp [serialize, fields])

theorem HTTPProxyMetadata.accepts :
    Accepts [] HTTPProxyMetadata.deserialize HTTPProxyMetadata.serialize := by
  refine accepts_string.bind fun proxy_address => ?_
  refine accepts_f64.bind fun fee_rate_per_kb => ?_
  refine accepts_string.bind fun recipient_address => ?_
  exact .pure (by simp [serialize, fields])

theorem FileMetadata.accepts : Accepts [] FileMetadata.deserialize FileMetadata.serialize := by
  refine accepts_string.bind fun file_id => ?_
  refine accepts_string.bind fun file_name => ?_
  refine accepts_f64.bind fun fee_rate_per_kb => ?_
  refine accepts_string.bind fun recipient_address => ?_
  exact .pure (by simp [serialize, fields])

theorem PaymentRequest.accepts :
    Accepts [] PaymentRequest.deserialize PaymentRequest.serialize := by
  refine accepts_f64.bind fun amount_to_send => ?_
  refine accepts_string.bind fun payment_reference => ?_
  refine accepts_string.bind fun recipient_address => ?_
  exact .pure (by simp [serialize, fields])

/-! ## Section 2: Enums -/

theorem PrePaymentResponse.accepts :
    Accepts [] PrePaymentResponse.deserialize PrePaymentResponse.serialize := by
  refine (accepts_variant 4).bind fun variant => ?_
  match variant with
  | 0 => exact PaymentRequest.accepts.bind fun _ => .pure (by simp [serialize, fields])
  | 1 => exact .pure (by simp [serialize, fields])
  | 2 => exact .pure (by simp [serialize, fields])
  | 3 => exact PaymentRequest.accepts.bind fun _ => .pure (by simp [serialize, fields])

theorem OrcaNetRequest.accepts :
    Accepts [] OrcaNetRequest.deserialize OrcaNetRequest.serialize := by
  refine (accepts_variant 6).bind fun variant => ?_
  match variant with
  | 0 => exact accepts_string.bind fun _ => .pure (by simp [serialize, fields])
  | 1 => exact accepts_string.bind fun _ => .pure (by simp [serialize, fields])
  | 2 => exact .pure (by simp [serialize, fields])
  | 3 => exact .pure (by simp [serialize, fields])
  | 4 =>
    refine accepts_string.bind fun client_id => ?_
    refine accepts_string.bind fun auth_token => ?_
    refine accepts_f64.bind fun data_transferred_kb => ?_
    refine accepts_f64.bind fun fee_owed => ?_
    exact .pure (by simp [serialize, fields])
  | 5 =>
    refine accepts_string.bind fun client_id => ?_
    refine accepts_string.bind fun auth_token => ?_
    refine PaymentNotification.accepts.bind fun payment_notification => ?_
    exact .pure (by simp [serialize, fields])

theorem accepts_tag (seed : TagSeed) (n : ℕ) :
    Accepts [] (deserialize_tag seed n) serialize_variant := by
  cases seed with
  | Identifier => exact accepts_identifier
  | Variant => exact accepts_variant n

/-- A variant without content is not accepted at all. -/
theorem accepts_unit {taken : List UInt8} (e : OrcaNetError) (h : taken = e.serialize) :
    Accepts taken ((fun _ : Unit => e) <$> deserialize_any) OrcaNetError.serialize := by
  have hany : Accepts [] (deserialize_any : Deserializer Unit) fun _ => [] := accepts_any
  exact hany.map fun _ => by rw [h, List.append_nil]

theorem OrcaNetError.accepts (seed : TagSeed) :
    Accepts [] (OrcaNetError.deserialize seed) OrcaNetError.serialize := by
  refine (accepts_tag seed 5).bind fun variant => ?_
  match variant with
  | 0 => exact accepts_string.bind fun _ => .pure (by simp [serialize, fields])
  | 1 => exact accepts_string.bind fun _ => .pure (by simp [serialize, fields])
  | 2 => exact accepts_string.bind fun _ => .pure (by simp [serialize, fields])
  -- a variant without content is never accepted
  | 3 => exact accepts_unit _ rfl
  | 4 => exact accepts_unit _ rfl

theorem OrcaNetResponse.accepts (seed : TagSeed) :
    Accepts [] (OrcaNetResponse.deserialize seed) OrcaNetResponse.serialize := by
  refine (accepts_variant 7).bind fun variant => ?_
  match variant with
  | 0 => exact FileMetadata.accepts.bind fun _ => .pure (by simp [serialize, fields])
  | 1 =>
    refine FileMetadata.accepts.bind fun metadata => ?_
    refine accepts_bytes.bind fun content => ?_
    exact .pure (by simp [serialize, fields])
  | 2 => exact HTTPProxyMetadata.accepts.bind fun _ => .pure (by simp [serialize, fields])
  | 3 =>
    refine HTTPProxyMetadata.accepts.bind fun metadata => ?_
    refine accepts_string.bind fun client_id => ?_
    refine accepts_string.bind fun auth_token => ?_
    exact .pure (by simp [serialize, fields])
  | 4 =>
    refine accepts_f64.bind fun data_transferred_kb => ?_
    refine accepts_f64.bind fun fee_owed => ?_
    refine PrePaymentResponse.accepts.bind fun pre_payment_response => ?_
    exact .pure (by simp [serialize, fields])
  | 5 => exact (OrcaNetError.accepts seed).map fun _ => by simp [serialize, fields]
  | 6 => exact .pure (by simp [serialize, fields])

/-! ## Section 3: Messages -/

theorem StreamData.accepts (seed : TagSeed) :
    Accepts [] (StreamData.deserialize seed) StreamData.serialize := by
  refine (accepts_variant 2).bind fun variant => ?_
  match variant with
  | 0 => exact OrcaNetRequest.accepts.bind fun _ => .pure (by simp [serialize, fields])
  | 1 => exact (OrcaNetResponse.accepts seed).map fun _ => by simp [serialize, fields]

namespace StreamReq

theorem accepts (seed : TagSeed) : Accepts [] (deserialize seed) serialize := by
  refine accepts_string.bind fun request_id => ?_
  exact (StreamData.accepts seed).map fun _ => by simp [serialize, fields]

/-- A buffer is read as the message that it starts with. -/
theorem of_buffer_of_starts {seed : TagSeed} {m : StreamReq UInt64} {buffer : List UInt8}
    (hlen : buffer.length < usize_bound) (h : m.content_bytes <+: buffer) :
    of_buffer seed buffer = m.received seed := by
  obtain ⟨rest, rfl⟩ := h
  rw [List.length_append] at hlen
  have hrun := m.yields seed (lt_of_le_of_lt (Nat.le_add_right _ _) hlen) rest
  rw [of_buffer, Bincode.deserialize, content_bytes, hrun]
  cases m.received seed with
  | ok a => rfl
  | error e => rfl

/-- **Acceptance.**  A buffer is read as a message if and only if it starts with
    what the message is written as, and the message can be read back at all. -/
theorem of_buffer_eq_ok_iff (seed : TagSeed) (buffer : List UInt8)
    (hlen : buffer.length < usize_bound) (m : StreamReq UInt64) :
    of_buffer seed buffer = .ok m ↔ m.content_bytes <+: buffer ∧ m.Readable seed := by
  constructor
  · intro h
    have hstarts : m.content_bytes <+: buffer := (accepts seed).deserialize_eq_ok h
    rw [of_buffer_of_starts hlen hstarts, received_eq_ok_iff] at h
    exact ⟨hstarts, h⟩
  · rintro ⟨hstarts, hreadable⟩
    rw [of_buffer_of_starts hlen hstarts]
    exact (received_eq_ok_iff seed m).mpr hreadable

/-- A request as a client writes it. -/
def metadataRequest : StreamReq UInt64 := ⟨"7", .Request .HTTPProxyMetadataRequest⟩

theorem readable_metadataRequest : metadataRequest.Readable .Identifier := nofun

theorem length_content_bytes_metadataRequest : metadataRequest.content_bytes.length = 17 := by
  with_unfolding_all decide

/-- What follows the message in the buffer is ignored. -/
theorem of_buffer_metadataRequest_append :
    of_buffer .Identifier (metadataRequest.content_bytes ++ [0]) = .ok metadataRequest := by
  have hlen : (metadataRequest.content_bytes ++ [0]).length < usize_bound := by
    rw [List.length_append, length_content_bytes_metadataRequest]
    decide
  exact (of_buffer_eq_ok_iff .Identifier _ hlen metadataRequest).mpr
    ⟨List.prefix_append _ _, readable_metadataRequest⟩

/-- What is read from a whole message is the message or an error. -/
theorem eq_of_received {seed : TagSeed} {m m' : StreamReq UInt64} (h : m.received seed = .ok m') :
    m' = m := by
  obtain ⟨request_id, request | response⟩ := m
  · exact (Except.ok.inj h).symm
  · cases response with
    | Error error =>
      cases seed with
      | Identifier => cases h
      | Variant =>
        by_cases hcontent : error.HasContent
        · have hreadable : (⟨request_id, .Response (.Error error)⟩ : StreamReq UInt64).Readable
              .Variant := by
            intro e he
            cases he
            exact ⟨rfl, hcontent⟩
          rw [(received_eq_ok_iff _ _).mpr hreadable] at h
          exact (Except.ok.inj h).symm
        · simp [received, StreamData.received, OrcaNetResponse.received, OrcaNetError.received,
            hcontent, Except.map] at h
    | _ => exact (Except.ok.inj h).symm

/-- **Broken streams.**  Of what a peer wrote, only the whole message is ever read:
    if a beginning of it is accepted, nothing of it is missing, and what is
    accepted is the message itself. -/
theorem of_buffer_take_eq_ok (seed : TagSeed) (m m' : StreamReq UInt64)
    (hlen : m.content_bytes.length < usize_bound) (n : ℕ)
    (h : of_buffer seed (m.content_bytes.take n) = .ok m') :
    m' = m ∧ m.content_bytes.length ≤ n := by
  have htake : m.content_bytes.take n <+: m.content_bytes := List.take_prefix n m.content_bytes
  have hlen' : (m.content_bytes.take n).length < usize_bound := htake.length_le.trans_lt hlen
  obtain ⟨hstarts, hreadable⟩ := (of_buffer_eq_ok_iff seed _ hlen' m').mp h
  -- the whole of what was written starts with the accepted message, too
  have hwhole : of_buffer seed m.content_bytes = .ok m' :=
    (of_buffer_eq_ok_iff seed _ hlen m').mpr ⟨hstarts.trans htake, hreadable⟩
  rw [of_buffer_of_starts hlen (List.prefix_refl _)] at hwhole
  obtain rfl := eq_of_received hwhole
  have hle := hstarts.length_le
  rw [List.length_take] at hle
  exact ⟨rfl, (Nat.le_min.mp hle).1⟩

theorem of_buffer_take_metadataRequest :
    metadataRequest = metadataRequest ∧ metadataRequest.content_bytes.length ≤ 17 := by
  have hlen : metadataRequest.content_bytes.length < usize_bound := by
    rw [length_content_bytes_metadataRequest]
    decide
  refine of_buffer_take_eq_ok .Identifier _ _ hlen 17 ?_
  rw [List.take_of_length_le length_content_bytes_metadataRequest.le,
    of_buffer_of_starts hlen (List.prefix_refl _)]
  exact (received_eq_ok_iff _ _).mpr readable_metadataRequest

end StreamReq

end OrcaNet
