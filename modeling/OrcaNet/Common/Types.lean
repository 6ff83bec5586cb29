import Mathlib.Data.Rat.Defs

/-! # Messages and events

    The request, response and error types of `common/types.rs`.  Amounts and
    data sizes are `f64` in the source; the messages are generic in the type
    `F` that stands for it, so that the handlers can read it as an exact
    rational and a wire format as a bit pattern. -/

namespace OrcaNet

/-- `f64` as the handlers compute with it: an exact rational. -/
abbrev F64 : Type := ℚ

/-- A libp2p peer id, given by its text (`to_string` is injective). -/
structure PeerId where
  text : String
  deriving DecidableEq, Repr

def PeerId.to_string (p : PeerId) : String := p.text

inductive OrcaNetError where
  | AuthorizationFailed (message : String)
  | NotAProvider (message : String)
  | InternalServerError (message : String)
  | PaymentReferenceMismatch
  | SessionTerminatedByProvider
  deriving DecidableEq, Repr

structure PaymentNotification (F : Type) where
  sender_address : String
  receiver_address : String
  amount_transferred : F
  tx_id : String
  payment_reference : String
  deriving DecidableEq, Repr

inductive OrcaNetRequest (F : Type) where
  | FileMetadataRequest (file_id : String)
  | FileContentRequest (file_id : String)
  | HTTPProxyMetadataRequest
  | HTTPProxyProvideRequest
  | HTTPProxyPrePaymentRequest (client_id auth_token : String) (data_transferred_kb fee_owed : F)
  | HTTPProxyPostPaymentNotification (client_id auth_token : String)
      (payment_notification : PaymentNotification F)
  deriving DecidableEq, Repr

structure HTTPProxyMetadata (F : Type) where
  proxy_address : String
  fee_rate_per_kb : F
  recipient_address : String
  deriving DecidableEq, Repr

structure FileMetadata (F : Type) where
  file_id : String
  file_name : String
  fee_rate_per_kb : F
  recipient_address : String
  deriving DecidableEq, Repr

structure PaymentRequest (F : Type) where
  amount_to_send : F
  payment_reference : String
  recipient_address : String
  deriving DecidableEq, Repr

inductive PrePaymentResponse (F : Type) where
  | Accepted (payment_request : PaymentRequest F)
  | RejectedDataTransferDiffers
  | RejectedFeeOwedDiffers
  | ServerTerminatingConnection (payment_request : PaymentRequest F)
  deriving DecidableEq, Repr

inductive OrcaNetResponse (F : Type) where
  | FileMetadataResponse (metadata : FileMetadata F)
  | FileContentResponse (metadata : FileMetadata F) (content : List UInt8)
  | HTTPProxyMetadataResponse (metadata : HTTPProxyMetadata F)
  | HTTPProxyProvideResponse (metadata : HTTPProxyMetadata F) (client_id auth_token : String)
  | HTTPProxyPrePaymentResponse (data_transferred_kb fee_owed : F)
      (pre_payment_response : PrePaymentResponse F)
  | Error (error : OrcaNetError)
  | NullResponse
  deriving DecidableEq, Repr

/-- What travels in one stream: a request or the response to one. -/
inductive StreamData (F : Type) where
  | Request (request : OrcaNetRequest F)
  | Response (response : OrcaNetResponse F)
  deriving DecidableEq, Repr

structure StreamReq (F : Type) where
  request_id : String
  stream_data : StreamData F
  deriving DecidableEq, Repr

inductive ProxyMode where
  | ProxyProvider
  | ProxyClient (session_id : String)
  deriving DecidableEq, Repr

end OrcaNet
