import OrcaNet.Common.Types

/-! # Node configuration

    The constants of `OrcaNetConfig` and the values of the configuration file
    that the request handler reads.  A missing or ill-typed key makes the
    getters of the source panic; the record stands for a file that has them all. -/

namespace OrcaNet

namespace OrcaNetConfig

def NAMESPACE : String := "/orcanet"

def PROXY_PROVIDER_KEY_DHT : String := "http_proxy_providers"

/-- Bitcoin amounts have at most 8 decimals. -/
def BTC_PRECISION : ℕ := 8

def FEE_OWED_PD_ALLOWED : F64 := 300

def DATA_TRANSFER_PD_ALLOWED : F64 := 300

/-- Beyond this percent difference the connection is to be terminated. -/
def PROXY_TERMINATION_PD_THRESHOLD : F64 := 300

end OrcaNetConfig

/-- The configuration file. -/
structure OrcaNetConfig where
  BTCAddress : String
  FileFeeRatePerKB : F64
  ProxyFeeRatePerKB : F64
  ProxyConfig : Option ProxyMode
  ProxyProviderServerAddress : String
  deriving DecidableEq, Repr

namespace OrcaNetConfig

def get_btc_address (cfg : OrcaNetConfig) : String := cfg.BTCAddress

def get_file_fee_rate (cfg : OrcaNetConfig) : F64 := cfg.FileFeeRatePerKB

def get_proxy_fee_rate (cfg : OrcaNetConfig) : F64 := cfg.ProxyFeeRatePerKB

def get_proxy_config (cfg : OrcaNetConfig) : Option ProxyMode := cfg.ProxyConfig

/-- A proxy provider that charges 1 per kilobyte. -/
def sampleConfig : OrcaNetConfig where
  BTCAddress := "address"
  FileFeeRatePerKB := 1
  ProxyFeeRatePerKB := 1
  ProxyConfig := some .ProxyProvider
  ProxyProviderServerAddress := "127.0.0.1:3000"

end OrcaNetConfig

end OrcaNet
