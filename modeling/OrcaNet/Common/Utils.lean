import Mathlib.Data.Rat.Floor
import OrcaNet.Common.Config
import OrcaNet.Framework.Decimal

/-! # Helpers

    `Utils::get_percent_diff` and `Utils::round` of `common/utils.rs`, over
    exact rationals, and the key helper of the DHT.  The digest of a file's
    content is a parameter wherever it matters. -/

namespace OrcaNet

namespace Utils

def get_percent_diff (value target : F64) : F64 :=
  if target = 0 then 0 else |(value - target) / target| * 100

/-- Keys of the DHT carry the namespace; one that has it already is kept. -/
def get_key_with_ns (key : String) : String :=
  if key.startsWith OrcaNetConfig.NAMESPACE then key else OrcaNetConfig.NAMESPACE ++ "/" ++ key

/-- Two values of `Utils::sha256_digest`: of `abc`, and of an empty file. -/
def sampleDigest (content : List UInt8) : String :=
  if content = [97, 98, 99] then
    "ba7816bf8f01cfea414140de5dae2223b00361a396177a9cb410ff61f20015ad"
  else "e3b0c44298fc1c149afbf4c8996fb92427ae41e4649b934ca495991b7852b855"

/-- `f64::round` rounds halves away from zero. -/
def round (x : F64) (decimals : ℕ) : F64 := Decimal.roundTo decimals x

theorem round_mono (decimals : ℕ) {x y : F64} (h : x ≤ y) :
    round x decimals ≤ round y decimals :=
  Decimal.roundTo_mono decimals h

/-- A claim between zero and the target is never more than 100 percent off. -/
theorem get_percent_diff_le {value target : F64} (hv : 0 ≤ value) (ht : value ≤ target) :
    get_percent_diff value target ≤ 100 := by
  unfold get_percent_diff
  split
  · norm_num
  · rename_i hne
    have hpos : 0 < target := lt_of_le_of_ne (hv.trans ht) (Ne.symm hne)
    have hratio : |(value - target) / target| ≤ 1 := by
      rw [abs_div, abs_of_pos hpos, div_le_one hpos, abs_le]
      constructor <;> linarith
    linarith

end Utils

end OrcaNet
