import OrcaNet.Framework.Qualified
import OrcaNet.Network.ProviderRecords

/-! # Record keys

    The records of the DHT that commands address.  Five commands pass their key
    through `get_key_with_ns`: a key that starts with the namespace is kept, any
    other is put under it.  The test looks for `/orcanet` alone, the other
    branch adds a slash, so `/orcanetx` is kept and is not under `/orcanet/`.

    Keys whose `/orcanet` is followed by a slash are the ones for which
    everything is as one expects (`get_key_with_ns_sound_iff`).  No two keys collide either
    way (`get_key_with_ns_eq_iff`). -/

namespace OrcaNet

open NetworkEventLoop

namespace RecordKeys

/-! ## Section 1: Keys -/

/-- The key starts with the namespace and the slash after it. -/
def InNamespace (key : String) : Prop := "/orcanet/".toList <+: key.toList

/-- The key does not go on after `/orcanet` with anything but a slash. -/
def Separated (key : String) : Prop :=
  OrcaNetConfig.NAMESPACE.toList <+: key.toList → InNamespace key

instance (key : String) : Decidable (InNamespace key) := inferInstanceAs (Decidable (_ <+: _))

instance (key : String) : Decidable (Separated key) := inferInstanceAs (Decidable (_ → _))

/-- The first key is the namespaced form of the second, which is not namespaced itself. -/
def FormOf (form key : String) : Prop := form = "/orcanet/" ++ key ∧ ¬ InNamespace key

/-- Two keys are equal, or one is the namespaced form of the other. -/
def SameKey (k₁ k₂ : String) : Prop := k₁ = k₂ ∨ FormOf k₁ k₂ ∨ FormOf k₂ k₁

theorem inNamespace_iff {key : String} :
    InNamespace key ↔ Qualified.Inside OrcaNetConfig.NAMESPACE.toList '/' key.toList := Iff.rfl

theorem separated_iff {key : String} :
    Separated key ↔ Qualified.Separated OrcaNetConfig.NAMESPACE.toList '/' key.toList := Iff.rfl

theorem eq_namespaced_iff {form key : String} :
    form = "/orcanet/" ++ key ↔
      form.toList = OrcaNetConfig.NAMESPACE.toList ++ '/' :: key.toList := by
  rw [← String.toList_inj, String.toList_append]
  rfl

theorem toList_get_key_with_ns (key : String) :
    (Utils.get_key_with_ns key).toList =
      Qualified.qualify OrcaNetConfig.NAMESPACE.toList '/' key.toList := by
  unfold Utils.get_key_with_ns Qualified.qualify
  simp only [String.startsWith_string_iff]
  split
  · rfl
  · simp [String.toList_append]

/-- Qualifying a key is idempotent. -/
theorem get_key_with_ns_idem (key : String) :
    Utils.get_key_with_ns (Utils.get_key_with_ns key) = Utils.get_key_with_ns key := by
  rw [← String.toList_inj]
  simp only [toList_get_key_with_ns, Qualified.qualify_qualify]

theorem inNamespace_get_key_with_ns_iff (key : String) :
    InNamespace (Utils.get_key_with_ns key) ↔ Separated key := by
  rw [inNamespace_iff, toList_get_key_with_ns, Qualified.inside_qualify_iff, separated_iff]

/-- Two keys share a record only when one of them is the other under the
    namespace; here the test is the one of the code. -/
theorem get_key_with_ns_eq_iff (k₁ k₂ : String) :
    Utils.get_key_with_ns k₁ = Utils.get_key_with_ns k₂ ↔
      k₁ = k₂ ∨ (k₁ = "/orcanet/" ++ k₂ ∧ k₂.startsWith OrcaNetConfig.NAMESPACE = false) ∨
        (k₂ = "/orcanet/" ++ k₁ ∧ k₁.startsWith OrcaNetConfig.NAMESPACE = false) := by
  rw [← String.toList_inj, toList_get_key_with_ns, toList_get_key_with_ns,
    Qualified.qualify_eq_qualify_iff, String.toList_inj, ← eq_namespaced_iff, ← eq_namespaced_iff]
  simp only [← String.startsWith_string_iff, Bool.not_eq_true]

theorem get_key_with_ns_eq_iff_sameKey {k₁ k₂ : String} (h₁ : Separated k₁) (h₂ : Separated k₂) :
    Utils.get_key_with_ns k₁ = Utils.get_key_with_ns k₂ ↔ SameKey k₁ k₂ := by
  rw [← String.toList_inj, toList_get_key_with_ns, toList_get_key_with_ns,
    Qualified.qualify_eq_qualify_iff_of_separated (separated_iff.mp h₁) (separated_iff.mp h₂),
    String.toList_inj, ← eq_namespaced_iff, ← eq_namespaced_iff, ← inNamespace_iff,
    ← inNamespace_iff]
  rfl

/-! ## Section 2: Records -/

/-- The key of a command that addresses a record. -/
def key : NetworkCommand → Option String
  | .StartProviding key _ | .StopProviding key | .GetProviders key _ | .PutKV key _ _
  | .GetValue key _ => some key
  | _ => none

/-- The record that a call to libp2p addresses. -/
def record : SwarmCall → Option String
  | .start_providing key | .stop_providing key | .get_providers key | .put_record key _
  | .get_record key => some key
  | _ => none

/-- A command with a key addresses one record, any other addresses none. -/
theorem handle_command_records (alive : Sender → Bool) (s : NetworkEventLoop) (swarm : Swarm)
    (c : NetworkCommand) :
    (handle_command alive s swarm c).calls.filterMap record =
      ((key c).map Utils.get_key_with_ns).toList := by
  cases c with
  | Dial peer_id peer_addr sender =>
    simp only [handle_command]
    split
    · split <;> rfl
    · rfl
  | StartProviding key sender =>
    simp only [handle_command]
    split <;> rfl
  | PutKV key value sender =>
    simp only [handle_command]
    split <;> rfl
  | Respond response channel =>
    simp only [handle_command]
    split <;> rfl
  | _ => rfl

/-- The loop addresses the record when it handles the command: in some state,
    with some callers left, for some answers of libp2p. -/
def Addresses (c : NetworkCommand) (r : String) : Prop :=
  ∃ alive s swarm, ∃ call ∈ (handle_command alive s swarm c).calls, record call = some r

/-- The record does not depend on the state of the loop, nor on the kind of the command. -/
theorem addresses_iff {c : NetworkCommand} {k r : String} (hk : key c = some k) :
    Addresses c r ↔ r = Utils.get_key_with_ns k := by
  have hcall (alive : Sender → Bool) (s : NetworkEventLoop) (swarm : Swarm) :
      (∃ call ∈ (handle_command alive s swarm c).calls, record call = some r) ↔
        r = Utils.get_key_with_ns k := by
    rw [← List.mem_filterMap, handle_command_records, hk]
    simp
  constructor
  · rintro ⟨alive, s, swarm, haddressed⟩
    exact (hcall alive s swarm).mp haddressed
  · intro hr
    exact ⟨fun _ => true, .new, sampleSwarm, (hcall _ _ sampleSwarm).mpr hr⟩

/-! ## Section 3: Soundness -/

/-- What the namespace is for, at two keys. -/
structure Sound (k₁ k₂ : String) : Prop where
  in_namespace : InNamespace (Utils.get_key_with_ns k₁)
  idempotent : Utils.get_key_with_ns (Utils.get_key_with_ns k₁) = Utils.get_key_with_ns k₁
  same_iff : Utils.get_key_with_ns k₁ = Utils.get_key_with_ns k₂ ↔ SameKey k₁ k₂
  /-- Two commands that carry the keys share a record only if the keys are the
      same, and their records are in the namespace. -/
  commands : ∀ c₁ c₂ r₁ r₂, key c₁ = some k₁ → key c₂ = some k₂ → Addresses c₁ r₁ →
    Addresses c₂ r₂ → (r₁ = r₂ → SameKey k₁ k₂) ∧ InNamespace r₁ ∧ InNamespace r₂

theorem sound_of_separated {k₁ k₂ : String} (h₁ : Separated k₁) (h₂ : Separated k₂) :
    Sound k₁ k₂ where
  in_namespace := (inNamespace_get_key_with_ns_iff k₁).mpr h₁
  idempotent := get_key_with_ns_idem k₁
  same_iff := get_key_with_ns_eq_iff_sameKey h₁ h₂
  commands := by
    intro c₁ c₂ r₁ r₂ hc₁ hc₂ hr₁ hr₂
    rw [addresses_iff hc₁] at hr₁
    rw [addresses_iff hc₂] at hr₂
    subst hr₁ hr₂
    exact ⟨(get_key_with_ns_eq_iff_sameKey h₁ h₂).mp, (inNamespace_get_key_with_ns_iff k₁).mpr h₁,
      (inNamespace_get_key_with_ns_iff k₂).mpr h₂⟩

/-- The namespace does its work exactly on keys that do not run on after
    `/orcanet`. -/
theorem get_key_with_ns_sound_iff (k₁ k₂ : String) : Sound k₁ k₂ ↔ Separated k₁ ∧ Separated k₂ := by
  constructor
  · intro h
    have hrecords := h.commands (.StopProviding k₁) (.StopProviding k₂) _ _ rfl rfl
      ((addresses_iff rfl).mpr rfl) ((addresses_iff rfl).mpr rfl)
    rw [inNamespace_get_key_with_ns_iff, inNamespace_get_key_with_ns_iff] at hrecords
    exact hrecords.2
  · intro h
    exact sound_of_separated h.1 h.2

/-- `/orcanetx` is taken for a key of the namespace and is not in it. -/
theorem get_key_with_ns_not_sound : ¬ Sound "/orcanetx" "/orcanetx" := by
  intro h
  have hkept : Utils.get_key_with_ns "/orcanetx" = "/orcanetx" := by
    with_unfolding_all rfl
  have hin := h.in_namespace
  rw [hkept] at hin
  exact absurd hin (by decide)

end RecordKeys

end OrcaNet
