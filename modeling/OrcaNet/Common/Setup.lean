import OrcaNet.Common.ConfigFile

/-! # Node setup

    `setup_config_file` copies a default file and sets five of its keys; from
    then on the node sets `ProxyConfig` only.  The getters of `OrcaNetConfig`
    read the file again on every call, and panic on a missing or ill-typed key.

    The pairs that setup writes come out of a `HashMap`, in any order. -/

namespace OrcaNet

open Json

/-! ## Section 1: Keys and getters -/

inductive ConfigKey where
  | DBPath
  | AppDataPath
  | BTCWalletName
  | BTCAddress
  | FileFeeRatePerKB
  | ProxyFeeRatePerKB
  | NetworkType
  | RunHTTPServer
  | ProxyConfig
  | SecretKeySeed
  /-- For the provider. -/
  | ProxyProviderServerAddress
  deriving DecidableEq, Repr

/-- The text of a key, in the file and in messages. -/
def ConfigKey.to_string : ConfigKey → String
  | .DBPath => "DBPath"
  | .AppDataPath => "AppDataPath"
  | .BTCWalletName => "BTCWalletName"
  | .BTCAddress => "BTCAddress"
  | .FileFeeRatePerKB => "FileFeeRatePerKB"
  | .ProxyFeeRatePerKB => "ProxyFeeRatePerKB"
  | .NetworkType => "NetworkType"
  | .RunHTTPServer => "RunHTTPServer"
  | .ProxyConfig => "ProxyConfig"
  | .SecretKeySeed => "SecretKeySeed"
  | .ProxyProviderServerAddress => "ProxyProviderServerAddress"

namespace OrcaNetConfig

namespace File

def get_from_config (config_key : ConfigKey) (file : Value) : Option Value :=
  file.get config_key.to_string

/-- The error is the message of the panic, as in the getters below. -/
def get_str_from_config (config_key : ConfigKey) (file : Value) : Except String String :=
  match get_from_config config_key file with
  | some (.string s) => .ok s
  | some _ => .error s!"{config_key.to_string} to be valid as a string"
  | none => .error s!"{config_key.to_string} to be present in config"

/-- A getter of an amount. -/
def get_fee_rate (config_key : ConfigKey) (file : Value) : Except String F64 :=
  match (get_from_config config_key file).bind Value.as_f64 with
  | some rate => .ok rate
  | none => .error "Amount to be valid floating point value in BTC"

def get_file_fee_rate (file : Value) : Except String F64 := get_fee_rate .FileFeeRatePerKB file

def get_proxy_fee_rate (file : Value) : Except String F64 := get_fee_rate .ProxyFeeRatePerKB file

def get_btc_address (file : Value) : Except String String := get_str_from_config .BTCAddress file

/-- `modify_config_with_kv_pair`, with the pairs in the order of the `HashMap`. -/
def modify_config_with_kv_pair (kv_pair : List (String × Value)) (file : Value) : Option Value :=
  file.insert_all kv_pair

end File

/-! ## Section 2: Setup -/

/-- The arguments of `setup-node`. -/
structure SetupArgs where
  db_path : String
  app_data_path : String
  btc_wallet_name : String
  btc_address : String
  secret_key_seed : Option UInt64

/-- `assets/default_config.json`. -/
def default_config : Map :=
  [("AppDataPath", .string "<MUST BE MODIFIED DURING SETUP>"),
    ("BTCAddress", .string "<MUST BE MODIFIED DURING SETUP>"),
    ("DBPath", .string "<MUST BE MODIFIED DURING SETUP>"),
    ("FileFeeRatePerKB", .number (25 / 10000)),
    ("ProxyFeeRatePerKB", .number (25 / 10000)),
    ("NetworkType", .string "MainNet"),
    ("ProxyConfig", .null),
    ("RunHTTPServer", .bool true),
    ("SecretKeySeed", .number 6)]

/-- The seed that setup writes; `random` is drawn when none is given. -/
def SetupArgs.seed (setup_args : SetupArgs) (random : UInt64) : UInt64 :=
  setup_args.secret_key_seed.getD random

/-- The pairs that `setup_config_file` sets. -/
def SetupArgs.kv_pair (setup_args : SetupArgs) (random : UInt64) : List (String × Value) :=
  [(ConfigKey.DBPath.to_string, .string setup_args.db_path),
    (ConfigKey.BTCWalletName.to_string, .string setup_args.btc_wallet_name),
    (ConfigKey.BTCAddress.to_string, .string setup_args.btc_address),
    (ConfigKey.SecretKeySeed.to_string, .number (setup_args.seed random).toNat),
    (ConfigKey.AppDataPath.to_string, .string setup_args.app_data_path)]

/-- The file that `setup_config_file` leaves, when the pairs come in the order `kv_pair`. -/
def setup_config_file (kv_pair : List (String × Value)) : Option Value :=
  File.modify_config_with_kv_pair kv_pair (.object default_config)

theorem SetupArgs.nodup_kv_pair (setup_args : SetupArgs) (random : UInt64) :
    ((setup_args.kv_pair random).map Prod.fst).Nodup := by
  simp [SetupArgs.kv_pair, ConfigKey.to_string]

/-- Every key of the file that setup leaves, whatever the order of the pairs. -/
theorem get_setup_config_file {setup_args : SetupArgs} {random : UInt64}
    {kv_pair : List (String × Value)} (hperm : kv_pair.Perm (setup_args.kv_pair random))
    {file : Value} (h : setup_config_file kv_pair = some file) (config_key : ConfigKey) :
    File.get_from_config config_key file =
      (Map.get (setup_args.kv_pair random) config_key.to_string).or
        (Map.get default_config config_key.to_string) := by
  obtain rfl := Option.some.inj h
  have hnodup := setup_args.nodup_kv_pair random
  have hnodup' : (kv_pair.map Prod.fst).Nodup := (hperm.map Prod.fst).nodup_iff.mpr hnodup
  show Map.get (Map.insert_all default_config kv_pair) config_key.to_string = _
  rw [Map.get_insert_all _ hnodup', Map.get_perm hnodup hperm]

/-- The values of the file, apart from the address of the proxy server. -/
structure Holds (file : Value) (cfg : OrcaNetConfig) : Prop where
  btc_address : File.get_btc_address file = .ok cfg.BTCAddress
  file_fee_rate : File.get_file_fee_rate file = .ok cfg.FileFeeRatePerKB
  proxy_fee_rate : File.get_proxy_fee_rate file = .ok cfg.ProxyFeeRatePerKB
  proxy_config : File.get_proxy_config file = cfg.ProxyConfig

/-- The configuration of a node that was set up and runs no proxy. -/
def SetupArgs.config (setup_args : SetupArgs) : OrcaNetConfig where
  BTCAddress := setup_args.btc_address
  FileFeeRatePerKB := 25 / 10000
  ProxyFeeRatePerKB := 25 / 10000
  ProxyConfig := none
  ProxyProviderServerAddress := ""

section setup

variable {setup_args : SetupArgs} {random : UInt64} {kv_pair : List (String × Value)} {file : Value}

theorem holds_setup_config_file (hperm : kv_pair.Perm (setup_args.kv_pair random))
    (h : setup_config_file kv_pair = some file) : Holds file setup_args.config := by
  have hget := get_setup_config_file hperm h
  refine ⟨?_, ?_, ?_, ?_⟩
  · unfold File.get_btc_address File.get_str_from_config
    rw [hget]
    rfl
  · unfold File.get_file_fee_rate File.get_fee_rate
    rw [hget]
    rfl
  · unfold File.get_proxy_fee_rate File.get_fee_rate
    rw [hget]
    rfl
  · have hproxy := hget .ProxyConfig
    unfold File.get_proxy_config
    show (File.get_from_config .ProxyConfig file).bind _ = _
    rw [hproxy]
    rfl

/-- Setup does not write the address of the proxy server. -/
theorem address_setup_config_file (hperm : kv_pair.Perm (setup_args.kv_pair random))
    (h : setup_config_file kv_pair = some file) :
    File.get_from_config .ProxyProviderServerAddress file = none := by
  rw [get_setup_config_file hperm h]
  rfl

end setup

end OrcaNetConfig

end OrcaNet
