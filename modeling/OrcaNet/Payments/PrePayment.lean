import OrcaNet.Payments.Provider

/-! # Answers to pre-payment requests

    What a client claims in a pre-payment request against what it is billed.
    The bill is computed from the provider's own row, so the claims do not
    change it; and they do not change the answer either, because each of the
    branches that can be reached accepts. -/

namespace OrcaNet

open RequestHandlerLoop OrcaNetConfig

namespace PrePayment

/-- A pre-payment request, with what it is handled with. -/
structure Claim where
  cfg : OrcaNetConfig
  env : Env
  from_peer : PeerId
  client_id : String
  data_transferred_kb : F64
  fee_owed : F64

def Claim.handle (x : Claim) (auth_token : String) (db : Database) :
    EStateM.Result Failure Database (OrcaNetResponse F64) :=
  handle_request x.cfg x.env
    (.HTTPProxyPrePaymentRequest x.client_id auth_token x.data_transferred_kb x.fee_owed)
    x.from_peer db

/-! ## Section 1: The bill -/

/-- What an answer asks the client to pay. -/
def payment_request : PrePaymentResponse F64 → Option (PaymentRequest F64)
  | .Accepted payment_request => some payment_request
  | .ServerTerminatingConnection payment_request => some payment_request
  | .RejectedDataTransferDiffers | .RejectedFeeOwedDiffers => none

/-- No database call fails, and the uuid is new. -/
structure Claim.Works (x : Claim) (db : Database) : Prop where
  no_faults : x.env.NoFaults
  fresh : db.payments.find PaymentInfo.payment_id (x.env.new_uuid 0) = none

/-- The request billed the amount and did nothing else. -/
structure Billed (db : Database) (fee_owed : F64) (answer : PrePaymentResponse F64)
    (db' : Database) : Prop where
  asks : ∀ pr, payment_request answer = some pr → pr.amount_to_send = fee_owed
  clients : db'.proxy_clients = db.proxy_clients
  payments : db'.payments.rows = db.payments.rows ∨
    ∃ r, r.expected_amount_btc = some fee_owed ∧ db'.payments.rows = db.payments.rows ++ [r]

theorem billed_of_works {db : Database} {tok : String} {c : ProxyClientInfo} {x : Claim}
    (hc : db.proxy_clients.find ProxyClientInfo.auth_token tok = some c) (hx : x.Works db) :
    ∃ answer, response (x.handle tok db) = some (.HTTPProxyPrePaymentResponse
        c.data_transferred_kb c.get_fee_owed answer) ∧
      Billed db c.get_fee_owed answer (final (x.handle tok db)) := by
  have hclient : ProxyClientsTable.get_client_by_auth_token x.env tok db = .ok c :=
    first_eq_ok.mpr ⟨hx.no_faults _, hc⟩
  let request : PaymentRequest F64 :=
    ⟨c.get_fee_owed, x.env.new_uuid 0, x.cfg.get_btc_address⟩
  have hasks : ∀ pr, payment_request (.Accepted request) = some pr →
      pr.amount_to_send = c.get_fee_owed := by
    intro pr hpr
    obtain rfl := Option.some.inj hpr
    rfl
  by_cases hover : OverThreshold c x.data_transferred_kb x.fee_owed
  · -- nothing is stored
    have hrun : x.handle tok db = .ok (accepted x.cfg x.env c) db :=
      pre_payment_over (hx.no_faults _) hclient hover
    rw [hrun]
    exact ⟨.Accepted request, rfl, hasks, rfl, Or.inl rfl⟩
  · obtain ⟨t, hinsert, hrun⟩ :
        ∃ t, db.payments.insert (reference_row x.cfg x.env c.get_fee_owed x.from_peer) = some t ∧
          x.handle tok db = .ok (accepted x.cfg x.env c) { db with payments := t } :=
      pre_payment_accepted _ _ _ ⟨hx.no_faults _, hclient⟩ ⟨hx.no_faults _, hx.no_faults _⟩
        hover hx.fresh
    rw [hrun]
    exact ⟨.Accepted request, rfl, hasks, rfl, Or.inr ⟨_, rfl, (Table.insert_eq_some hinsert).2⟩⟩

/-- **One bill.**  Two requests with one token, handled in one state, are
    answered with the same data and fee and billed that fee, whatever they
    claim. -/
theorem same_bill {db : Database} {tok : String} {c : ProxyClientInfo}
    (hc : db.proxy_clients.find ProxyClientInfo.auth_token tok = some c) {x y : Claim}
    (hx : x.Works db) (hy : y.Works db) :
    ∃ data fee answer answer',
      response (x.handle tok db) = some (.HTTPProxyPrePaymentResponse data fee answer) ∧
      response (y.handle tok db) = some (.HTTPProxyPrePaymentResponse data fee answer') ∧
      Billed db c.get_fee_owed answer (final (x.handle tok db)) ∧
      Billed db c.get_fee_owed answer' (final (y.handle tok db)) := by
  obtain ⟨answer, hresp, hbilled⟩ := billed_of_works hc hx
  obtain ⟨answer', hresp', hbilled'⟩ := billed_of_works hc hy
  exact ⟨_, _, answer, answer', hresp, hresp', hbilled, hbilled'⟩

section samples

def sampleClaim (data_transferred_kb fee_owed : F64) : Claim where
  cfg := sampleConfig
  env := .working fun _ => "reference"
  from_peer := ⟨"peer"⟩
  client_id := "client"
  data_transferred_kb := data_transferred_kb
  fee_owed := fee_owed

theorem works_sampleClaim (data_transferred_kb fee_owed : F64) :
    (sampleClaim data_transferred_kb fee_owed).Works Provider.sampleProvider.db :=
  ⟨fun _ => rfl, rfl⟩

/-- The client of 4 kilobytes, used by the samples of this file. -/
theorem find_sampleProvider : ∃ c, c.data_transferred_kb = 4 ∧
    Provider.sampleProvider.db.proxy_clients.find ProxyClientInfo.auth_token "token" = some c :=
  ⟨_, rfl, by with_unfolding_all rfl⟩

/-- An honest claim and one of 100 kilobytes. -/
theorem same_bill_sampleClaim :
    ∃ c, Provider.sampleProvider.db.proxy_clients.find ProxyClientInfo.auth_token "token" =
        some c ∧
      ∃ data fee answer answer',
        response ((sampleClaim 4 4).handle "token" Provider.sampleProvider.db) =
          some (.HTTPProxyPrePaymentResponse data fee answer) ∧
        response ((sampleClaim 100 4).handle "token" Provider.sampleProvider.db) =
          some (.HTTPProxyPrePaymentResponse data fee answer') ∧
        Billed Provider.sampleProvider.db c.get_fee_owed answer
          (final ((sampleClaim 4 4).handle "token" Provider.sampleProvider.db)) ∧
        Billed Provider.sampleProvider.db c.get_fee_owed answer'
          (final ((sampleClaim 100 4).handle "token" Provider.sampleProvider.db)) := by
  obtain ⟨c, -, hc⟩ := find_sampleProvider
  exact ⟨c, hc, same_bill hc (works_sampleClaim 4 4) (works_sampleClaim 100 4)⟩

end samples

/-! ## Section 2: The decision -/

/-- A claim is at most `pd` percent of the own value away from it. -/
def Within (pd claimed own : F64) : Prop := |claimed - own| ≤ pd / 100 * own

/-- Both claims are within their bounds. -/
def Acceptable (x : Claim) (c : ProxyClientInfo) : Prop :=
  Within FEE_OWED_PD_ALLOWED x.fee_owed c.get_fee_owed ∧
    Within DATA_TRANSFER_PD_ALLOWED x.data_transferred_kb c.data_transferred_kb

/-- One of the claims is beyond the threshold of termination. -/
def Excessive (x : Claim) (c : ProxyClientInfo) : Prop :=
  ¬ Within PROXY_TERMINATION_PD_THRESHOLD x.fee_owed c.get_fee_owed ∨
    ¬ Within PROXY_TERMINATION_PD_THRESHOLD x.data_transferred_kb c.data_transferred_kb

/-- An accepted request is acceptable, and an excessive one ends the connection,
    by the row of the client that is found for the token. -/
structure Sound (x : Claim) (tok : String) (db : Database) : Prop where
  accepts : ∀ c, Asks x.env db tok c → ∀ data fee pr, response (x.handle tok db) =
    some (.HTTPProxyPrePaymentResponse data fee (.Accepted pr)) → Acceptable x c
  terminates : ∀ c, Asks x.env db tok c → Excessive x c →
    ∃ data fee pr, response (x.handle tok db) =
      some (.HTTPProxyPrePaymentResponse data fee (.ServerTerminatingConnection pr))

/-- No branch terminates the connection. -/
theorem not_terminating (x : Claim) (tok : String) (db : Database) (data fee : F64)
    (pr : PaymentRequest F64) :
    response (x.handle tok db) ≠
      some (.HTTPProxyPrePaymentResponse data fee (.ServerTerminatingConnection pr)) := by
  intro hresp
  have heff := handle_request_effect x.cfg x.env x.from_peer db
    (.HTTPProxyPrePaymentRequest x.client_id tok x.data_transferred_kb x.fee_owed)
  rw [show response (handle_request x.cfg x.env _ x.from_peer db) = _ from hresp] at heff
  generalize final _ = db' at heff
  generalize hanswer : some (OrcaNetResponse.HTTPProxyPrePaymentResponse data fee
    (.ServerTerminatingConnection pr)) = answer at heff
  cases heff with
  | inert hinert => exact hinert.2.2 _ _ _ hanswer.symm
  | over_threshold hask hover => cases hanswer
  | reference hask hwithin hstores hinsert => cases hanswer

/-- The three bounds are one number. -/
theorem excessive_iff {x : Claim} {c : ProxyClientInfo} : Excessive x c ↔ ¬ Acceptable x c :=
  not_and_or.symm

/-- **Acceptance.**  The decision is sound exactly if the claims are acceptable by
    the row that is found: any other request should end the connection, and is
    accepted. -/
theorem sound_iff (x : Claim) (tok : String) (db : Database) :
    Sound x tok db ↔ ∀ c, Asks x.env db tok c → Acceptable x c := by
  constructor
  · intro h c hask
    by_contra hbeyond
    obtain ⟨data, fee, pr, hresp⟩ := h.terminates c hask (excessive_iff.mpr hbeyond)
    exact not_terminating x tok db data fee pr hresp
  · intro hacceptable
    refine ⟨fun c hask _ _ _ _ => hacceptable c hask, fun c hask hbeyond => ?_⟩
    exact absurd (hacceptable c hask) (excessive_iff.mp hbeyond)

section samples

/-- A provider with a client that used nothing. -/
def newClient : Database :=
  { Database.empty with
    proxy_clients := .single (ProxyClientInfo.with_defaults "client" "token" "peer" 0 1) }

/-- Twenty-five times the data of the record is accepted, and so is any claim
    against an empty one. -/
theorem not_sound_sampleClaim :
    (∃ data fee pr, response ((sampleClaim 100 4).handle "token" Provider.sampleProvider.db) =
      some (.HTTPProxyPrePaymentResponse data fee (.Accepted pr))) ∧
    ¬ Sound (sampleClaim 100 4) "token" Provider.sampleProvider.db ∧
    (∃ data fee pr, response ((sampleClaim 5 5).handle "token" newClient) =
      some (.HTTPProxyPrePaymentResponse data fee (.Accepted pr))) ∧
    ¬ Sound (sampleClaim 5 5) "token" newClient := by
  have hanswer : ∃ data fee pr,
      response ((sampleClaim 100 4).handle "token" Provider.sampleProvider.db) =
        some (.HTTPProxyPrePaymentResponse data fee (.Accepted pr)) :=
    ⟨_, _, _, by with_unfolding_all rfl⟩
  have hanswer' : ∃ data fee pr, response ((sampleClaim 5 5).handle "token" newClient) =
      some (.HTTPProxyPrePaymentResponse data fee (.Accepted pr)) :=
    ⟨_, _, _, by with_unfolding_all rfl⟩
  refine ⟨hanswer, fun h => ?_, hanswer', fun h => ?_⟩
  · obtain ⟨c, hdata, hc⟩ := find_sampleProvider
    obtain ⟨data, fee, pr, hresp⟩ := hanswer
    have hwithin := (h.accepts c ⟨rfl, first_eq_ok.mpr ⟨rfl, hc⟩⟩ data fee pr hresp).2
    rw [hdata] at hwithin
    norm_num [Within, sampleClaim, DATA_TRANSFER_PD_ALLOWED] at hwithin
  · obtain ⟨data, fee, pr, hresp⟩ := hanswer'
    have hask : Asks (sampleClaim 5 5).env newClient "token"
        (ProxyClientInfo.with_defaults "client" "token" "peer" 0 1) := ⟨rfl, rfl⟩
    have hwithin := (h.accepts _ hask data fee pr hresp).2
    norm_num [Within, sampleClaim, DATA_TRANSFER_PD_ALLOWED, ProxyClientInfo.with_defaults]
      at hwithin

end samples

end PrePayment

end OrcaNet
