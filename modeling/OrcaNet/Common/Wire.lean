import OrcaNet.Common.Types
import OrcaNet.Framework.Bincode

/-! # Wire format of messages

    The bytes of a `StreamReq`: what the derived `Serialize` and `Deserialize`
    of `common/types.rs` do over bincode.  An `f64` is its bit pattern here.

    All types but one have the derived representation.  `OrcaNetError` is
    tagged (`tag = "type"`, `content = "message"`): it is written as its tag
    and, when the variant has one, its content; it is read as a sequence of
    the two, and the content of a variant without fields is whatever
    `deserialize_any` finds.  A peer therefore reads back every message but
    some errors. -/

namespace OrcaNet

open Bincode

/-! ## Section 1: Structs -/

def PaymentNotification.serialize (n : PaymentNotification UInt64) : List UInt8 :=
  fields [serialize_str n.sender_address, serialize_str n.receiver_address,
    serialize_f64 n.amount_transferred, serialize_str n.tx_id, serialize_str n.payment_reference]

def PaymentNotification.deserialize : Deserializer (PaymentNotification UInt64) := do
  let sender_address ← deserialize_string
  let receiver_address ← deserialize_string
  let amount_transferred ← deserialize_f64
  let tx_id ← deserialize_string
  let payment_reference ← deserialize_string
  return { sender_address, receiver_address, amount_transferred, tx_id, payment_reference }

theorem PaymentNotification.yields (n : PaymentNotification UInt64) :
    Yields PaymentNotification.deserialize n.serialize (.ok n) := by
  apply Yields.cons (yields_string _)
  apply Yields.cons (yields_string _)
  apply Yields.cons (yields_f64 _)
  apply Yields.cons (yields_string _)
  apply Yields.cons (yields_string _)
  exact .nil _

def HTTPProxyMetadata.serialize (m : HTTPProxyMetadata UInt64) : List UInt8 :=
  fields [serialize_str m.proxy_address, serialize_f64 m.fee_rate_per_kb,
    serialize_str m.recipient_address]

def HTTPProxyMetadata.deserialize : Deserializer (HTTPProxyMetadata UInt64) := do
  let proxy_address ← deserialize_string
  let fee_rate_per_kb ← deserialize_f64
  let recipient_address ← deserialize_string
  return { proxy_address, fee_rate_per_kb, recipient_address }

theorem HTTPProxyMetadata.yields (m : HTTPProxyMetadata UInt64) :
    Yields HTTPProxyMetadata.deserialize m.serialize (.ok m) := by
  apply Yields.cons (yields_string _)
  apply Yields.cons (yields_f64 _)
  apply Yields.cons (yields_string _)
  exact .nil _

def FileMetadata.serialize (m : FileMetadata UInt64) : List UInt8 :=
  fields [serialize_str m.file_id, serialize_str m.file_name, serialize_f64 m.fee_rate_per_kb,
    serialize_str m.recipient_address]

def FileMetadata.deserialize : Deserializer (FileMetadata UInt64) := do
  let file_id ← deserialize_string
  let file_name ← deserialize_string
  let fee_rate_per_kb ← deserialize_f64
  let recipient_address ← deserialize_string
  return { file_id, file_name, fee_rate_per_kb, recipient_address }

theorem FileMetadata.yields (m : FileMetadata UInt64) :
    Yields FileMetadata.deserialize m.serialize (.ok m) := by
  apply Yields.cons (yields_string _)
  apply Yields.cons (yields_string _)
  apply Yields.cons (yields_f64 _)
  apply Yields.cons (yields_string _)
  exact .nil _

def PaymentRequest.serialize (r : PaymentRequest UInt64) : List UInt8 :=
  fields [serialize_f64 r.amount_to_send, serialize_str r.payment_reference,
    serialize_str r.recipient_address]

def PaymentRequest.deserialize : Deserializer (PaymentRequest UInt64) := do
  let amount_to_send ← deserialize_f64
  let payment_reference ← deserialize_string
  let recipient_address ← deserialize_string
  return { amount_to_send, payment_reference, recipient_address }

theorem PaymentRequest.yields (r : PaymentRequest UInt64) :
    Yields PaymentRequest.deserialize r.serialize (.ok r) := by
  apply Yields.cons (yields_f64 _)
  apply Yields.cons (yields_string _)
  apply Yields.cons (yields_string _)
  exact .nil _

/-! ## Section 2: Enums -/

def PrePaymentResponse.serialize : PrePaymentResponse UInt64 → List UInt8
  | .Accepted payment_request => fields [serialize_variant (0 : Fin 4), payment_request.serialize]
  | .RejectedDataTransferDiffers => fields [serialize_variant (1 : Fin 4)]
  | .RejectedFeeOwedDiffers => fields [serialize_variant (2 : Fin 4)]
  | .ServerTerminatingConnection payment_request =>
    fields [serialize_variant (3 : Fin 4), payment_request.serialize]

def PrePaymentResponse.deserialize : Deserializer (PrePaymentResponse UInt64) := do
  match ← deserialize_variant 4 with
  | 0 => return .Accepted (← PaymentRequest.deserialize)
  | 1 => return .RejectedDataTransferDiffers
  | 2 => return .RejectedFeeOwedDiffers
  | 3 => return .ServerTerminatingConnection (← PaymentRequest.deserialize)

theorem PrePaymentResponse.yields (r : PrePaymentResponse UInt64) :
    Yields PrePaymentResponse.deserialize r.serialize (.ok r) := by
  cases r with
  | Accepted payment_request =>
    apply Yields.cons (yields_variant _ (by decide))
    apply Yields.cons payment_request.yields
    exact .nil _
  | RejectedDataTransferDiffers =>
    apply Yields.cons (yields_variant _ (by decide))
    exact .nil _
  | RejectedFeeOwedDiffers =>
    apply Yields.cons (yields_variant _ (by decide))
    exact .nil _
  | ServerTerminatingConnection payment_request =>
    apply Yields.cons (yields_variant _ (by decide))
    apply Yields.cons payment_request.yields
    exact .nil _

def OrcaNetRequest.serialize : OrcaNetRequest UInt64 → List UInt8
  | .FileMetadataRequest file_id => fields [serialize_variant (0 : Fin 6), serialize_str file_id]
  | .FileContentRequest file_id => fields [serialize_variant (1 : Fin 6), serialize_str file_id]
  | .HTTPProxyMetadataRequest => fields [serialize_variant (2 : Fin 6)]
  | .HTTPProxyProvideRequest => fields [serialize_variant (3 : Fin 6)]
  | .HTTPProxyPrePaymentRequest client_id auth_token data_transferred_kb fee_owed =>
    fields [serialize_variant (4 : Fin 6), serialize_str client_id, serialize_str auth_token,
      serialize_f64 data_transferred_kb, serialize_f64 fee_owed]
  | .HTTPProxyPostPaymentNotification client_id auth_token payment_notification =>
    fields [serialize_variant (5 : Fin 6), serialize_str client_id, serialize_str auth_token,
      payment_notification.serialize]

def OrcaNetRequest.deserialize : Deserializer (OrcaNetRequest UInt64) := do
  match ← deserialize_variant 6 with
  | 0 => return .FileMetadataRequest (← deserialize_string)
  | 1 => return .FileContentRequest (← deserialize_string)
  | 2 => return .HTTPProxyMetadataRequest
  | 3 => return .HTTPProxyProvideRequest
  | 4 =>
    let client_id ← deserialize_string
    let auth_token ← deserialize_string
    let data_transferred_kb ← deserialize_f64
    let fee_owed ← deserialize_f64
    return .HTTPProxyPrePaymentRequest client_id auth_token data_transferred_kb fee_owed
  | 5 =>
    let client_id ← deserialize_string
    let auth_token ← deserialize_string
    let payment_notification ← PaymentNotification.deserialize
    return .HTTPProxyPostPaymentNotification client_id auth_token payment_notification

theorem OrcaNetRequest.yields (r : OrcaNetRequest UInt64) :
    Yields OrcaNetRequest.deserialize r.serialize (.ok r) := by
  -- the tag of the variant, then its fields in order
  cases r with
  | FileMetadataRequest file_id =>
    apply Yields.cons (yields_variant _ (by decide))
    apply Yields.cons (yields_string _)
    exact .nil _
  | FileContentRequest file_id =>
    apply Yields.cons (yields_variant _ (by decide))
    apply Yields.cons (yields_string _)
    exact .nil _
  | HTTPProxyMetadataRequest =>
    apply Yields.cons (yields_variant _ (by decide))
    exact .nil _
  | HTTPProxyProvideRequest =>
    apply Yields.cons (yields_variant _ (by decide))
    exact .nil _
  | HTTPProxyPrePaymentRequest client_id auth_token data_transferred_kb fee_owed =>
    apply Yields.cons (yields_variant _ (by decide))
    apply Yields.cons (yields_string _)
    apply Yields.cons (yields_string _)
    apply Yields.cons (yields_f64 _)
    apply Yields.cons (yields_f64 _)
    exact .nil _
  | HTTPProxyPostPaymentNotification client_id auth_token payment_notification =>
    apply Yields.cons (yields_variant _ (by decide))
    apply Yields.cons (yields_string _)
    apply Yields.cons (yields_string _)
    apply Yields.cons payment_notification.yields
    exact .nil _

/-! ## Section 3: The tagged enum -/

/-- How the generated visitor reads the tag of an adjacently tagged enum when
    it is given a sequence: as an identifier, or as the variant of an enum. -/
inductive TagSeed where
  | Identifier
  | Variant
  deriving DecidableEq, Repr

def deserialize_tag (seed : TagSeed) (n : ℕ) : Deserializer (Fin n) :=
  match seed with
  | .Identifier => deserialize_identifier
  | .Variant => deserialize_variant n

namespace OrcaNetError

/-- The struct has one field when the variant has no content. -/
def serialize : OrcaNetError → List UInt8
  | .AuthorizationFailed message => fields [serialize_variant (0 : Fin 5), serialize_str message]
  | .NotAProvider message => fields [serialize_variant (1 : Fin 5), serialize_str message]
  | .InternalServerError message => fields [serialize_variant (2 : Fin 5), serialize_str message]
  | .PaymentReferenceMismatch => fields [serialize_variant (3 : Fin 5)]
  | .SessionTerminatedByProvider => fields [serialize_variant (4 : Fin 5)]

/-- The sequence always has two elements, the tag and the content. -/
def deserialize (seed : TagSeed) : Deserializer OrcaNetError := do
  match ← deserialize_tag seed 5 with
  | 0 => return .AuthorizationFailed (← deserialize_string)
  | 1 => return .NotAProvider (← deserialize_string)
  | 2 => return .InternalServerError (← deserialize_string)
  -- `UntaggedUnitVisitor`
  | 3 => (fun _ : Unit => .PaymentReferenceMismatch) <$> deserialize_any
  | 4 => (fun _ : Unit => .SessionTerminatedByProvider) <$> deserialize_any

/-- The variants with a message. -/
def HasContent : OrcaNetError → Prop
  | .AuthorizationFailed _ | .NotAProvider _ | .InternalServerError _ => True
  | .PaymentReferenceMismatch | .SessionTerminatedByProvider => False

instance : DecidablePred HasContent
  | .AuthorizationFailed _ | .NotAProvider _ | .InternalServerError _ => isTrue trivial
  | .PaymentReferenceMismatch | .SessionTerminatedByProvider => isFalse id

/-- What the peer makes of an error. -/
def received (seed : TagSeed) (e : OrcaNetError) : Except ErrorKind OrcaNetError :=
  match seed with
  | .Identifier =>
    .error (.Custom "Bincode does not support Deserializer::deserialize_identifier")
  | .Variant => if e.HasContent then .ok e else .error .DeserializeAnyNotSupported

theorem yields (seed : TagSeed) (e : OrcaNetError) :
    Yields (deserialize seed) e.serialize (e.received seed) := by
  -- an identifier is refused at its first byte, whatever the variant
  cases seed with
  | Identifier => cases e <;> exact Yields.bind_error (yields_identifier _)
  | Variant =>
    cases e with
    | AuthorizationFailed message =>
      apply Yields.cons (yields_variant _ (by decide))
      apply Yields.cons (yields_string _)
      exact .nil _
    | NotAProvider message =>
      apply Yields.cons (yields_variant _ (by decide))
      apply Yields.cons (yields_string _)
      exact .nil _
    | InternalServerError message =>
      apply Yields.cons (yields_variant _ (by decide))
      apply Yields.cons (yields_string _)
      exact .nil _
    | PaymentReferenceMismatch =>
      apply Yields.cons (yields_variant _ (by decide))
      exact (yields_any _).map _
    | SessionTerminatedByProvider =>
      apply Yields.cons (yields_variant _ (by decide))
      exact (yields_any _).map _

theorem received_eq_ok_iff (seed : TagSeed) (e : OrcaNetError) :
    e.received seed = .ok e ↔ seed = .Variant ∧ e.HasContent := by
  cases seed with
  | Identifier => simp [received]
  | Variant =>
    by_cases hcontent : e.HasContent
    · simp [received, hcontent]
    · simp [received, hcontent]

end OrcaNetError

/-! ## Section 4: Messages -/

namespace OrcaNetResponse

def serialize : OrcaNetResponse UInt64 → List UInt8
  | .FileMetadataResponse metadata => fields [serialize_variant (0 : Fin 7), metadata.serialize]
  | .FileContentResponse metadata content =>
    fields [serialize_variant (1 : Fin 7), metadata.serialize, serialize_bytes content]
  | .HTTPProxyMetadataResponse metadata =>
    fields [serialize_variant (2 : Fin 7), metadata.serialize]
  | .HTTPProxyProvideResponse metadata client_id auth_token =>
    fields [serialize_variant (3 : Fin 7), metadata.serialize, serialize_str client_id,
      serialize_str auth_token]
  | .HTTPProxyPrePaymentResponse data_transferred_kb fee_owed pre_payment_response =>
    fields [serialize_variant (4 : Fin 7), serialize_f64 data_transferred_kb,
      serialize_f64 fee_owed, pre_payment_response.serialize]
  | .Error error => fields [serialize_variant (5 : Fin 7), error.serialize]
  | .NullResponse => fields [serialize_variant (6 : Fin 7)]

def deserialize (seed : TagSeed) : Deserializer (OrcaNetResponse UInt64) := do
  match ← deserialize_variant 7 with
  | 0 => return .FileMetadataResponse (← FileMetadata.deserialize)
  | 1 =>
    let metadata ← FileMetadata.deserialize
    let content ← deserialize_bytes
    return .FileContentResponse metadata content
  | 2 => return .HTTPProxyMetadataResponse (← HTTPProxyMetadata.deserialize)
  | 3 =>
    let metadata ← HTTPProxyMetadata.deserialize
    let client_id ← deserialize_string
    let auth_token ← deserialize_string
    return .HTTPProxyProvideResponse metadata client_id auth_token
  | 4 =>
    let data_transferred_kb ← deserialize_f64
    let fee_owed ← deserialize_f64
    let pre_payment_response ← PrePaymentResponse.deserialize
    return .HTTPProxyPrePaymentResponse data_transferred_kb fee_owed pre_payment_response
  | 5 => .Error <$> OrcaNetError.deserialize seed
  | 6 => return .NullResponse

def received (seed : TagSeed) : OrcaNetResponse UInt64 → Except ErrorKind (OrcaNetResponse UInt64)
  | .Error error => (error.received seed).map .Error
  | response => .ok response

theorem yields (seed : TagSeed) (r : OrcaNetResponse UInt64) :
    Yields (deserialize seed) r.serialize (r.received seed) := by
  cases r with
  | FileMetadataResponse metadata =>
    apply Yields.cons (yields_variant _ (by decide))
    apply Yields.cons metadata.yields
    exact .nil _
  | FileContentResponse metadata content =>
    apply Yields.cons (yields_variant _ (by decide))
    apply Yields.cons metadata.yields
    apply Yields.cons (yields_bytes _)
    exact .nil _
  | HTTPProxyMetadataResponse metadata =>
    apply Yields.cons (yields_variant _ (by decide))
    apply Yields.cons metadata.yields
    exact .nil _
  | HTTPProxyProvideResponse metadata client_id auth_token =>
    apply Yields.cons (yields_variant _ (by decide))
    apply Yields.cons metadata.yields
    apply Yields.cons (yields_string _)
    apply Yields.cons (yields_string _)
    exact .nil _
  | HTTPProxyPrePaymentResponse data_transferred_kb fee_owed pre_payment_response =>
    apply Yields.cons (yields_variant _ (by decide))
    apply Yields.cons (yields_f64 _)
    apply Yields.cons (yields_f64 _)
    apply Yields.cons pre_payment_response.yields
    exact .nil _
  | Error error =>
    apply Yields.cons (yields_variant _ (by decide))
    exact (error.yields seed).last _
  | NullResponse =>
    apply Yields.cons (yields_variant _ (by decide))
    exact .nil _

end OrcaNetResponse

namespace StreamData

def serialize : StreamData UInt64 → List UInt8
  | .Request request => fields [serialize_variant (0 : Fin 2), request.serialize]
  | .Response response => fields [serialize_variant (1 : Fin 2), response.serialize]

def deserialize (seed : TagSeed) : Deserializer (StreamData UInt64) := do
  match ← deserialize_variant 2 with
  | 0 => return .Request (← OrcaNetRequest.deserialize)
  | 1 => .Response <$> OrcaNetResponse.deserialize seed

def received (seed : TagSeed) : StreamData UInt64 → Except ErrorKind (StreamData UInt64)
  | .Request request => .ok (.Request request)
  | .Response response => (response.received seed).map .Response

theorem yields (seed : TagSeed) (d : StreamData UInt64) :
    Yields (deserialize seed) d.serialize (d.received seed) := by
  cases d with
  | Request request =>
    apply Yields.cons (yields_variant _ (by decide))
    apply Yields.cons request.yields
    exact .nil _
  | Response response =>
    apply Yields.cons (yields_variant _ (by decide))
    exact (response.yields seed).last _

end StreamData

namespace StreamReq

def serialize (m : StreamReq UInt64) : List UInt8 :=
  fields [serialize_str m.request_id, m.stream_data.serialize]

def deserialize (seed : TagSeed) : Deserializer (StreamReq UInt64) := do
  let request_id ← deserialize_string
  StreamReq.mk request_id <$> StreamData.deserialize seed

/-- What the peer makes of a message. -/
def received (seed : TagSeed) (m : StreamReq UInt64) : Except ErrorKind (StreamReq UInt64) :=
  (m.stream_data.received seed).map (StreamReq.mk m.request_id)

theorem yields (seed : TagSeed) (m : StreamReq UInt64) :
    Yields (deserialize seed) m.serialize (m.received seed) := by
  apply Yields.cons (yields_string _)
  exact (m.stream_data.yields seed).last _

/-- `bincode::serialize(&stream_req)`, as `SendInStream` writes it. -/
def content_bytes (m : StreamReq UInt64) : List UInt8 := m.serialize

/-- `bincode::deserialize(buffer)`, as `handle_stream_req` reads it. -/
def of_buffer (seed : TagSeed) (buffer : List UInt8) : Except ErrorKind (StreamReq UInt64) :=
  Bincode.deserialize (deserialize seed) buffer

/-- The message carries no error, or one that can be read back. -/
def Readable (seed : TagSeed) (m : StreamReq UInt64) : Prop :=
  ∀ error, m.stream_data = .Response (.Error error) → seed = .Variant ∧ error.HasContent

theorem received_eq_ok_iff (seed : TagSeed) (m : StreamReq UInt64) :
    m.received seed = .ok m ↔ m.Readable seed := by
  obtain ⟨request_id, stream_data⟩ := m
  cases stream_data with
  | Request request => simp [received, StreamData.received, Readable, Except.map]
  | Response response =>
    cases response with
    | Error error =>
      have hinj : Function.Injective fun e : OrcaNetError =>
          (⟨request_id, .Response (.Error e)⟩ : StreamReq UInt64) := by
        intro e e' he
        simpa using he
      have hreceived : received seed ⟨request_id, .Response (.Error error)⟩ =
          (error.received seed).map fun e => ⟨request_id, .Response (.Error e)⟩ := by
        simp only [received, StreamData.received, OrcaNetResponse.received, map_map]
        rfl
      rw [hreceived, map_eq_ok_iff hinj, error.received_eq_ok_iff]
      simp [Readable]
    | _ => simp [received, StreamData.received, OrcaNetResponse.received, Readable, Except.map]

/-- **The wire format.**  A message is read back as it was written if and only
    if it carries no error, or one whose variant has a message and whose tag
    the visitor can read. -/
theorem of_buffer_content_bytes_iff (seed : TagSeed) (m : StreamReq UInt64)
    (hlen : m.content_bytes.length < usize_bound) :
    of_buffer seed m.content_bytes = .ok m ↔ m.Readable seed := by
  have hreceived : of_buffer seed m.content_bytes = m.received seed :=
    (m.yields seed).deserialize_eq hlen
  rw [hreceived, received_eq_ok_iff]

/-- The answer to a payment with an unknown reference. -/
def mismatchReply : StreamReq UInt64 := ⟨"7", .Response (.Error .PaymentReferenceMismatch)⟩

theorem length_content_bytes_mismatchReply :
    mismatchReply.content_bytes.length < usize_bound := by
  with_unfolding_all decide

/-- However the tag is read, the peer reads an error. -/
theorem of_buffer_mismatchReply_ne :
    of_buffer .Identifier mismatchReply.content_bytes ≠ .ok mismatchReply ∧
      of_buffer .Variant mismatchReply.content_bytes ≠ .ok mismatchReply := by
  have hlen := length_content_bytes_mismatchReply
  constructor
  · rw [of_buffer, content_bytes, (mismatchReply.yields .Identifier).deserialize_eq hlen]
    nofun
  · rw [of_buffer, content_bytes, (mismatchReply.yields .Variant).deserialize_eq hlen]
    nofun

theorem of_buffer_content_bytes_iff_mismatchReply :
    of_buffer .Variant mismatchReply.content_bytes = .ok mismatchReply ↔
      mismatchReply.Readable .Variant :=
  of_buffer_content_bytes_iff .Variant mismatchReply length_content_bytes_mismatchReply

end StreamReq

end OrcaNet
