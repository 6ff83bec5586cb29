import OrcaNet.Common.Utils

/-! # Database rows

    The row types of `db/schema.rs` and the fee computation on them.  The
    `category` and `status` columns hold the text of an enumeration, written
    only through its `to_string`; they are modelled by the enumeration. -/

namespace OrcaNet

structure ProvidedFileInfo where
  file_id : String
  file_path : String
  file_name : String
  downloads_count : ℤ
  status : ℤ
  provide_start_timestamp : Option ℤ
  deriving DecidableEq, Repr

/-- A new provided file; it is active from now on. -/
def ProvidedFileInfo.with_defaults (file_id file_path file_name : String) (now : ℤ) :
    ProvidedFileInfo where
  file_id := file_id
  file_path := file_path
  file_name := file_name
  downloads_count := 0
  status := 1
  provide_start_timestamp := some now

structure DownloadedFileInfo where
  id : String
  file_id : String
  file_path : String
  file_name : String
  file_size_kb : F64
  fee_rate_per_kb : Option F64
  price : Option F64
  payment_tx_id : Option String
  peer_id : String
  download_timestamp : ℤ
  deriving DecidableEq, Repr

structure ProxyClientInfo where
  client_id : String
  auth_token : String
  start_timestamp : ℤ
  data_transferred_kb : F64
  total_fee_received : F64
  total_fee_received_unconfirmed : F64
  fee_rate_per_kb : F64
  client_peer_id : String
  status : ℤ
  deriving DecidableEq, Repr

structure ProxySessionInfo where
  session_id : String
  client_id : String
  auth_token : String
  proxy_address : String
  start_timestamp : ℤ
  end_timestamp : Option ℤ
  data_transferred_kb : F64
  total_fee_sent : F64
  total_fee_sent_unconfirmed : F64
  fee_rate_per_kb : F64
  provider_peer_id : String
  recipient_address : String
  status : ℤ
  deriving DecidableEq, Repr

inductive PaymentStatus where
  | AwaitingClientConfirmation
  | TransactionPending
  | TransactionConfirmed
  deriving DecidableEq, Repr

inductive PaymentCategory where
  | Receive
  | Send
  deriving DecidableEq, Repr

structure PaymentInfo where
  payment_id : String
  tx_id : Option String
  from_address : Option String
  to_address : String
  expected_amount_btc : Option F64
  amount_btc : Option F64
  category : PaymentCategory
  status : PaymentStatus
  payment_reference : Option String
  from_peer : Option String
  to_peer : Option String
  deriving DecidableEq, Repr

inductive ProxySessionStatus where
  | Active
  | TerminatedByClient
  | TerminatedByServer
  deriving DecidableEq, Repr

/-- The `status` column of clients and sessions. -/
def ProxySessionStatus.try_from (value : ℤ) : Option ProxySessionStatus :=
  if value = 0 then some .TerminatedByClient
  else if value = 1 then some .Active
  else if value = 2 then some .TerminatedByServer
  else none

/-! ### Fees -/

namespace ProxyClientInfo

/-- A new client row; the totals default to zero. -/
def with_defaults (client_id auth_token client_peer_id : String) (now : ℤ) (fee_rate : F64) :
    ProxyClientInfo where
  client_id := client_id
  auth_token := auth_token
  start_timestamp := now
  data_transferred_kb := 0
  total_fee_received := 0
  total_fee_received_unconfirmed := 0
  fee_rate_per_kb := fee_rate
  client_peer_id := client_peer_id
  status := 1

def get_fee_owed (c : ProxyClientInfo) : F64 :=
  max (Utils.round
    (c.data_transferred_kb * c.fee_rate_per_kb - c.total_fee_received
      - c.total_fee_received_unconfirmed)
    OrcaNetConfig.BTC_PRECISION) 0

theorem get_fee_owed_nonneg (c : ProxyClientInfo) : 0 ≤ c.get_fee_owed := le_max_right _ _

end ProxyClientInfo

namespace ProxySessionInfo

def get_fee_owed (s : ProxySessionInfo) : F64 :=
  max (Utils.round
    (s.data_transferred_kb * s.fee_rate_per_kb - s.total_fee_sent
      - s.total_fee_sent_unconfirmed)
    OrcaNetConfig.BTC_PRECISION) 0

theorem get_fee_owed_nonneg (s : ProxySessionInfo) : 0 ≤ s.get_fee_owed := le_max_right _ _

/-- A session that saw no more data, at the same rate, and counts at least the
    provider's payments owes at most what the provider computes. -/
theorem get_fee_owed_le {s : ProxySessionInfo} {c : ProxyClientInfo}
    (hrate : s.fee_rate_per_kb = c.fee_rate_per_kb) (hpos : 0 ≤ s.fee_rate_per_kb)
    (hdata : s.data_transferred_kb ≤ c.data_transferred_kb)
    (hconf : c.total_fee_received ≤ s.total_fee_sent)
    (hunconf : c.total_fee_received_unconfirmed ≤ s.total_fee_sent_unconfirmed) :
    s.get_fee_owed ≤ c.get_fee_owed := by
  have hfee : s.data_transferred_kb * s.fee_rate_per_kb
      ≤ c.data_transferred_kb * c.fee_rate_per_kb :=
    hrate ▸ mul_le_mul_of_nonneg_right hdata hpos
  exact max_le_max (Utils.round_mono _ (by linarith)) le_rfl

end ProxySessionInfo

end OrcaNet
