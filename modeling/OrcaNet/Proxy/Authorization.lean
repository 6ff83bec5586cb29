import OrcaNet.Proxy.HttpProxy
import OrcaNet.Proxy.ProxyHandlers

/-! # Proxy authorization

    Who the provider's proxy serves.  A request carries a token in its
    `Proxy-Authorization` header, the token picks a row of `proxy_clients`, and
    the row's status decides: two statuses are refused and every other one
    passes, among them those that `ProxySessionStatus::try_from` does not know.
    A client with such a session cannot start its end of the proxy
    (`HttpProxy.get_handler`), but the provider serves whoever has its token.

    The status is the integer that Diesel reads from the row. -/

namespace OrcaNet

/-! ## Section 1: Status -/

theorem ProxySessionStatus.try_from_eq_none_iff {value : ℤ} :
    try_from value = none ↔ value ≠ 0 ∧ value ≠ 1 ∧ value ≠ 2 := by
  unfold try_from
  split_ifs <;> simp_all

/-! ## Section 2: Header and row -/

theorem extract_proxy_authtoken_eq_ok_iff {env : Env} {request : ProxyAuthorization}
    {auth_token : String} :
    extract_proxy_authtoken env request = .ok auth_token ↔
      ∃ value, request = some value ∧ env.to_str value = some ("Bearer " ++ auth_token) := by
  cases request with
  | none => simp [extract_proxy_authtoken]
  | some value =>
    simp only [Option.some.injEq, exists_eq_left']
    cases htext : env.to_str value with
    | none => simp [extract_proxy_authtoken, htext]
    | some auth_str =>
      simp only [extract_proxy_authtoken, htext, Option.some.injEq]
      constructor
      · intro h
        split at h
        · rename_i hbearer
          have htoken := Except.ok.inj h
          rw [← String.toList_inj, String.toList_append, ← hbearer, ← htoken,
            String.toList_ofList, List.take_append_drop]
        · cases h
      · rintro rfl
        have hlength : "Bearer ".toList.length = 7 := rfl
        rw [String.toList_append, List.take_left' hlength, List.drop_left' hlength, if_pos rfl,
          String.ofList_toList]

namespace ProxyProvider

/-- The promise of `HeaderValue::to_str`: a text that is read has the bytes of
    the header. -/
def ReadsHeaders (env : Env) : Prop :=
  ∀ value text, env.to_str value = some text → Bincode.utf8 text = value

/-- The header is a text. -/
def IsText (env : Env) (request : ProxyAuthorization) : Prop :=
  ∃ value text, request = some value ∧ env.to_str value = some text

/-- The request carries the token of the client. -/
def Presents (request : ProxyAuthorization) (db : Database) (c : ProxyClientInfo) : Prop :=
  request = some (Bincode.utf8 ("Bearer " ++ c.auth_token)) ∧ c ∈ db.proxy_clients.rows

variable {env : Env} {request : ProxyAuthorization} {db : Database} {c c' : ProxyClientInfo}

/-- A request speaks for one client, since tokens are unique. -/
theorem Presents.unique (h : Presents request db c) (h' : Presents request db c') : c = c' := by
  have hbytes := Option.some.inj (h.1.symm.trans h'.1)
  refine Table.row_unique (c := ProxyClientInfo.auth_token) (by simp) h.2 h'.2 ?_
  exact (String.append_right_inj _).mp (Bincode.utf8_injective hbytes)

/-- The lookup of the code finds the row of the token, if the header is a text. -/
theorem presents_iff (henv : ReadsHeaders env) :
    Presents request db c ∧ IsText env request ↔
      ∃ auth_token, extract_proxy_authtoken env request = .ok auth_token ∧
        db.proxy_clients.find ProxyClientInfo.auth_token auth_token = some c := by
  simp only [extract_proxy_authtoken_eq_ok_iff, Table.find_eq_some_iff
    (c := ProxyClientInfo.auth_token) (List.mem_cons_of_mem _ (List.mem_singleton_self _))]
  constructor
  · rintro ⟨⟨hrequest, hmem⟩, value, text, hvalue, htext⟩
    obtain rfl := Option.some.inj (hrequest.symm.trans hvalue)
    have hbearer := Bincode.utf8_injective (henv _ _ htext)
    exact ⟨c.auth_token, ⟨_, hrequest, hbearer ▸ htext⟩, hmem, rfl⟩
  · rintro ⟨auth_token, ⟨value, hrequest, htext⟩, hmem, rfl⟩
    have hvalue := henv _ _ htext
    exact ⟨⟨hvalue ▸ hrequest, hmem⟩, value, _, hrequest, htext⟩

/-! ## Section 3: Decision -/

/-- The code turns two statuses away and lets every other integer pass. -/
theorem decision_ok_iff {client_info : ProxyClientInfo} {terminated inactive : Response} :
    (match ProxySessionStatus.try_from client_info.status with
      | some .TerminatedByClient => some (Except.error inactive)
      | some .TerminatedByServer => some (.error terminated)
      | _ => some (.ok client_info)) = some (.ok c) ↔
      client_info = c ∧ c.status ≠ 0 ∧ c.status ≠ 2 := by
  unfold ProxySessionStatus.try_from
  split_ifs with h0 h1 h2
  · simp only [Option.some.injEq, reduceCtorEq, false_iff]
    rintro ⟨rfl, hne, -⟩
    exact hne h0
  · simp only [Option.some.injEq, Except.ok.injEq, iff_self_and]
    rintro rfl
    omega
  · simp only [Option.some.injEq, reduceCtorEq, false_iff]
    rintro ⟨rfl, -, hne⟩
    exact hne h2
  · simp only [Option.some.injEq, Except.ok.injEq, iff_self_and]
    rintro rfl
    exact ⟨h0, h2⟩

/-- The row of the header's token is looked at. -/
structure Looks (env : Env) (request : ProxyAuthorization) : Prop where
  text : IsText env request
  query : env.db_fault .get_client_by_auth_token = none

/-- Without a connection the handler panics; without the query it refuses. -/
theorem validate_auth_token_ok_iff (henv : ReadsHeaders env) :
    validate_auth_token env request db = some (.ok c) ↔
      Presents request db c ∧ Looks env request ∧ (c.status ≠ 0 ∧ c.status ≠ 2) ∧
        env.db_fault (.create_sqlite_connection .proxy_clients) = none := by
  constructor
  · intro h
    unfold validate_auth_token at h
    split at h
    · cases h
    · rename_i auth_token htoken
      split at h
      · cases h
      · rename_i hconnect
        split at h
        · cases h
        · rename_i client_info hclient
          obtain ⟨hquery, hfind⟩ := first_eq_ok.mp hclient
          obtain ⟨rfl, hstatus⟩ := decision_ok_iff.mp h
          obtain ⟨hpresents, htext⟩ := (presents_iff henv).mpr ⟨auth_token, htoken, hfind⟩
          exact ⟨hpresents, ⟨htext, hquery⟩, hstatus, hconnect⟩
  · rintro ⟨hpresents, ⟨htext, hquery⟩, hstatus, hconnect⟩
    obtain ⟨auth_token, htoken, hfind⟩ := (presents_iff henv).mp ⟨hpresents, htext⟩
    have hclient : ProxyClientsTable.get_client_by_auth_token env auth_token db = .ok c :=
      first_eq_ok.mpr ⟨hquery, hfind⟩
    unfold validate_auth_token
    simp only [htoken, hconnect, hclient]
    exact decision_ok_iff.mpr ⟨rfl, hstatus⟩

/-- The handler panics if it cannot look for the token that it extracted. -/
theorem validate_auth_token_eq_none_iff :
    validate_auth_token env request db = none ↔
      (∃ auth_token, extract_proxy_authtoken env request = .ok auth_token) ∧
        env.db_fault (.create_sqlite_connection .proxy_clients) ≠ none := by
  unfold validate_auth_token
  cases extract_proxy_authtoken env request with
  | error e => simp
  | ok auth_token =>
    cases env.db_fault (.create_sqlite_connection .proxy_clients) with
    | some e => simp
    | none =>
      simp only [Except.ok.injEq, exists_eq', ne_eq, not_true_eq_false, and_false, iff_false]
      intro h
      split at h
      · cases h
      · split at h <;> cases h

/-- The request is on its way to the destination, on behalf of the client. -/
def Phase.Serves (c : ProxyClientInfo) : Phase → Prop
  | .request client_info | .connect client_info => client_info = c
  | _ => False

theorem handle_request_serves_iff (method : Method) :
    (handle_request env method request db).phase.Serves c ↔
      validate_auth_token env request db = some (.ok c) := by
  unfold handle_request
  cases validate_auth_token env request db with
  | none => simp [Phase.Serves]
  | some result =>
    cases result with
    | error error_response => simp [Phase.Serves]
    | ok client_info => cases method <;> simp [Phase.Serves]

/-! ## Section 4: Exactness -/

/-- Those are authorized who carry the token of an active client; all others are refused. -/
structure Exact (env : Env) (request : ProxyAuthorization) (db : Database) : Prop where
  authorized : ∀ c, validate_auth_token env request db = some (.ok c) ↔
    Presents request db c ∧ c.status = 1
  refused : (∀ c, Presents request db c → c.status ≠ 1) →
    ∃ error_response, validate_auth_token env request db = some (.error error_response)

/-- The header and the database decide as they should: the table can be opened
    if there is a token to look for, and what is looked at is the row of an
    active client rather than one whose status `try_from` does not know. -/
structure Decides (env : Env) (request : ProxyAuthorization) (db : Database) : Prop where
  connection : (∃ auth_token, extract_proxy_authtoken env request = .ok auth_token) →
    env.db_fault (.create_sqlite_connection .proxy_clients) = none
  active : ∀ c, Presents request db c → c.status = 1 → Looks env request
  unknown : ∀ c, Presents request db c → ProxySessionStatus.try_from c.status = none →
    ¬ Looks env request

/-- A client whose row is looked at is extracted by its token. -/
theorem extracts_of_looks (henv : ReadsHeaders env) (hpresents : Presents request db c)
    (hlooks : Looks env request) :
    ∃ auth_token, extract_proxy_authtoken env request = .ok auth_token := by
  obtain ⟨auth_token, htoken, -⟩ := (presents_iff henv).mp ⟨hpresents, hlooks.text⟩
  exact ⟨auth_token, htoken⟩

/-- Authorization is exact if and only if the header and the database decide as
    they should. -/
theorem validate_auth_token_exact_iff (henv : ReadsHeaders env) :
    Exact env request db ↔ Decides env request db := by
  constructor
  · intro h
    have hconnection : (∃ auth_token, extract_proxy_authtoken env request = .ok auth_token) →
        env.db_fault (.create_sqlite_connection .proxy_clients) = none := by
      intro htoken
      by_contra hfault
      have hpanic : validate_auth_token env request db = none :=
        validate_auth_token_eq_none_iff.mpr ⟨htoken, hfault⟩
      -- a panic neither lets an active client pass nor refuses the others
      obtain ⟨error_response, herror⟩ := h.refused fun c hc hactive => by
        cases hpanic.symm.trans ((h.authorized c).mpr ⟨hc, hactive⟩)
      cases hpanic.symm.trans herror
    refine ⟨hconnection, fun c hc hactive => ?_, fun c hc hunknown hlooks => ?_⟩
    · have hok := (h.authorized c).mpr ⟨hc, hactive⟩
      exact ((validate_auth_token_ok_iff henv).mp hok).2.1
    · rw [ProxySessionStatus.try_from_eq_none_iff] at hunknown
      have hok := (validate_auth_token_ok_iff henv).mpr ⟨hc, hlooks,
        ⟨hunknown.1, hunknown.2.2⟩, hconnection (extracts_of_looks henv hc hlooks)⟩
      exact hunknown.2.1 ((h.authorized c).mp hok).2
  · intro h
    have hok (c : ProxyClientInfo) : validate_auth_token env request db = some (.ok c) ↔
        Presents request db c ∧ c.status = 1 := by
      rw [validate_auth_token_ok_iff henv]
      constructor
      · rintro ⟨hc, hlooks, hstatus, -⟩
        have hknown : ProxySessionStatus.try_from c.status ≠ none :=
          fun hunknown => h.unknown c hc hunknown hlooks
        rw [Ne, ProxySessionStatus.try_from_eq_none_iff] at hknown
        exact ⟨hc, by omega⟩
      · rintro ⟨hc, hactive⟩
        have hlooks := h.active c hc hactive
        exact ⟨hc, hlooks, by omega, h.connection (extracts_of_looks henv hc hlooks)⟩
    refine ⟨hok, fun hnone => ?_⟩
    cases hresult : validate_auth_token env request db with
    | none =>
      obtain ⟨htoken, hfault⟩ := validate_auth_token_eq_none_iff.mp hresult
      exact absurd (h.connection htoken) hfault
    | some result =>
      cases result with
      | error error_response => exact ⟨error_response, rfl⟩
      | ok c =>
        obtain ⟨hc, hactive⟩ := (hok c).mp hresult
        exact absurd hactive (hnone c hc)

section samples

theorem utf8EncodeChar_ofNat {b : UInt8} (h : b < 128) :
    String.utf8EncodeChar (Char.ofNat b.toNat) = [b] := by
  have hb : b.toNat < 128 := UInt8.lt_iff_toNat_lt.mp h
  have hval : (Char.ofNat b.toNat).val.toNat = b.toNat := by
    have hvalid : b.toNat.isValidChar := Or.inl (by omega)
    rw [Char.ofNat, dif_pos hvalid]
    rfl
  rw [String.utf8EncodeChar, hval, if_pos (by omega), UInt8.ofNat_toNat]

/-- Visible ASCII characters are the text of their bytes. -/
theorem readsHeaders_working (new_uuid : ℕ → String) : ReadsHeaders (.working new_uuid) := by
  intro value text h
  simp only [Env.working, visible_ascii] at h
  split at h
  · rename_i hvisible
    obtain rfl := Option.some.inj h
    have hbytes : ∀ b ∈ value, String.utf8EncodeChar (Char.ofNat b.toNat) = [b] := by
      intro b hb
      have hb' := List.all_eq_true.mp hvisible b hb
      refine utf8EncodeChar_ofNat ?_
      simp only [Bool.or_eq_true, Bool.and_eq_true, decide_eq_true_eq, beq_iff_eq] at hb'
      grind
    rw [Bincode.utf8, String.toByteArray_ofList, List.utf8Encode, List.data_toByteArray,
      List.flatMap_map, List.flatMap_congr hbytes, List.flatMap_singleton']
  · cases h

def sampleClient (status : ℤ) : ProxyClientInfo :=
  { ProxyClientInfo.with_defaults "client" "token" "peer" 0 1 with status := status }

def sampleClients (status : ℤ) : Database :=
  { Database.empty with proxy_clients := .single (sampleClient status) }

/-- The header with the token of the client. -/
def sampleRequest : ProxyAuthorization := some (Bincode.utf8 "Bearer token")

theorem presents_sampleClient (status : ℤ) :
    Presents sampleRequest (sampleClients status) (sampleClient status) :=
  ⟨rfl, List.mem_singleton_self _⟩

theorem looks_sampleRequest : Looks (.working fun _ => "uuid") sampleRequest :=
  ⟨⟨_, "Bearer token", rfl, rfl⟩, rfl⟩

/-- Exactness for an active client. -/
theorem validate_auth_token_exact_active :
    Exact (.working fun _ => "uuid") sampleRequest (sampleClients 1) := by
  refine (validate_auth_token_exact_iff (readsHeaders_working _)).mpr
    ⟨fun _ => rfl, fun _ _ _ => looks_sampleRequest, fun c hc hunknown => ?_⟩
  rw [hc.unique (presents_sampleClient 1)] at hunknown
  exact absurd hunknown (by decide)

/-- The status -1 stands for a session terminated by the server in a comment of
    the schema; its client is served. -/
theorem validate_auth_token_not_exact :
    ¬ Exact (.working fun _ => "uuid") sampleRequest (sampleClients (-1)) := by
  intro h
  have hserved : validate_auth_token (.working fun _ => "uuid") sampleRequest
      (sampleClients (-1)) = some (.ok (sampleClient (-1))) :=
    (validate_auth_token_ok_iff (readsHeaders_working _)).mpr
      ⟨presents_sampleClient (-1), looks_sampleRequest, ⟨by decide, by decide⟩, rfl⟩
  exact absurd ((h.authorized _).mp hserved).2 (by decide)

end samples

end ProxyProvider

end OrcaNet
