import OrcaNet.Common.Config
import OrcaNet.Framework.Json

/-! # Configuration file

    The part of `OrcaNetConfig` that works on the JSON of the file, and the
    serde representation of `ProxyMode`: tagged by `type`, with the fields of a
    variant under `message`. -/

namespace OrcaNet

open Json

/-! ## Section 1: `ProxyMode` in JSON -/

namespace ProxyMode

/-- `#[serde(tag = "type", content = "message")]`. -/
def to_value : ProxyMode → Value
  | .ProxyProvider => .object [("type", .string "ProxyProvider")]
  | .ProxyClient session_id =>
    .object [("message", .object [("session_id", .string session_id)]),
      ("type", .string "ProxyClient")]

/-- A variant with what stands under `message`. -/
def of_content (tag : String) (content : Option Value) : Option ProxyMode :=
  if tag = "ProxyProvider" then
    match content with
    | none | some .null => some .ProxyProvider
    | some _ => none
  else if tag = "ProxyClient" then
    match content.bind fun fields => fields.get "session_id" with
    | some (.string session_id) => some (.ProxyClient session_id)
    | _ => none
  else none

/-- The tag is itself a variant without content: its name, or the name as the
    key of `null`. -/
def of_tag : Value → Option String
  | .string tag => some tag
  | .object [(tag, .null)] => some tag
  | _ => none

/-- `serde_json::from_value(..).ok()`: an object, or the tag and the content. -/
def from_value : Value → Option ProxyMode
  | .object fields => do
    let tag ← (Map.get fields "type").bind of_tag
    of_content tag (Map.get fields "message")
  | .array [type, content] => do
    let tag ← of_tag type
    of_content tag (some content)
  | _ => none

theorem from_value_to_value (mode : ProxyMode) : from_value mode.to_value = some mode := by
  cases mode <;> rfl

theorem from_value_null : from_value .null = none := rfl

end ProxyMode

/-! ## Section 2: The file -/

namespace OrcaNetConfig

/-- `ConfigKey::ProxyConfig.to_string()`. -/
def PROXY_CONFIG_KEY : String := "ProxyConfig"

/-- `json!` of an optional mode. -/
def proxy_config_value (mode : Option ProxyMode) : Value :=
  match mode with
  | some mode => mode.to_value
  | none => .null

namespace File

/-- `OrcaNetConfig::get_proxy_config`. -/
def get_proxy_config (file : Value) : Option ProxyMode :=
  (file.get PROXY_CONFIG_KEY).bind ProxyMode.from_value

/-- `OrcaNetConfig::modify_config`; it panics if the file holds no object. -/
def modify_config (key : String) (value : Value) (file : Value) : Option Value :=
  file.insert key value

/-- The value that was written is read back, and nothing else changed. -/
theorem get_proxy_config_modify_config {file file' : Value} {mode : Option ProxyMode}
    (h : modify_config PROXY_CONFIG_KEY (proxy_config_value mode) file = some file') :
    get_proxy_config file' = mode ∧
      ∀ key ≠ PROXY_CONFIG_KEY, file'.get key = file.get key := by
  obtain ⟨hself, hother⟩ := Value.get_insert h
  refine ⟨?_, hother⟩
  rw [get_proxy_config, hself]
  cases mode with
  | none => exact ProxyMode.from_value_null
  | some mode => exact ProxyMode.from_value_to_value mode

end File

end OrcaNetConfig

end OrcaNet
