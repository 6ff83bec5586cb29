import OrcaNet.Files.ProvidedFiles
import OrcaNet.Framework.UnixPath

/-! # Downloads

    `NetworkClient::download_file_from_peer` and
    `Utils::handle_file_content_response`: the response of the serving peer is
    written to disk, paid and recorded.

    Everything that is written, paid and recorded comes from the response.
    Nothing compares it with the request: the file id of the record is the one
    of the metadata, and no digest is taken of the content.  `FollowsResponse`
    lists what a download does. -/

namespace OrcaNet

namespace Downloads

/-! ## Section 1: Saving a response -/

/-- A transaction that `send_to_address` created. -/
structure Transfer where
  address : String
  btc_amount : F64
  comment : String
  tx_id : String
  deriving DecidableEq, Repr

/-- What a download changes. -/
structure Node where
  /-- The bytes under each path. -/
  disk : String → Option (List UInt8)
  /-- Newest first. -/
  transfers : List Transfer
  downloaded_files : DownloadedFiles

/-- What one download draws from outside. -/
structure DownloadEnv where
  AppDataPath : String
  new_uuid : String
  get_unix_timestamp : ℤ
  /-- `std::fs::write`; an error tells what it left under the path. -/
  fs_write : Except (Option (List UInt8)) Unit
  /-- `RPCWrapper::send_to_address`; what is not an address or no amount is an
      error. -/
  send_to_address : String → F64 → Except String String
  /-- The error of `DownloadedFilesTable::new`. -/
  create_sqlite_connection : Option String
  insert_downloaded_file : Option String

/-- The first `n` bytes of a text; a slice that ends inside a character or
    behind the text panics. -/
def first_bytes : ℕ → List Char → Option (List Char)
  | 0, _ => some []
  | _ + 1, [] => none
  | n + 1, c :: cs =>
    if c.utf8Size ≤ n + 1 then (first_bytes (n + 1 - c.utf8Size) cs).map (c :: ·) else none

/-- Where the content goes. -/
def save_path (env : DownloadEnv) (metadata : FileMetadata F64) : Option String → Option String
  | some dest_path => some dest_path
  | none => (first_bytes 16 metadata.file_id.toList).map fun file_id =>
    String.ofList (UnixPath.join env.AppDataPath.toList
      s!"{String.ofList file_id}_{metadata.file_name}".toList)

def size_kb (content : List UInt8) : F64 := content.length / 1000

def cost_btc (metadata : FileMetadata F64) (content : List UInt8) : F64 :=
  Utils.round (metadata.fee_rate_per_kb * size_kb content) OrcaNetConfig.BTC_PRECISION

/-- What is under the path afterwards. -/
def DownloadEnv.written (env : DownloadEnv) (content : List UInt8) : Option (List UInt8) :=
  match env.fs_write with
  | .ok () => some content
  | .error left => left

/-- The result of the write is only logged. -/
def Node.write (n : Node) (env : DownloadEnv) (path : String) (content : List UInt8) : Node :=
  { n with disk := Function.update n.disk path (env.written content) }

/-- The payment, if the wallet makes one, and its transaction id. -/
def Node.send_to_address (n : Node) (env : DownloadEnv) (address : String) (btc_amount : F64)
    (comment : String) : Option String × Node :=
  match env.send_to_address address btc_amount with
  | .ok tx_id =>
    (some tx_id, { n with transfers := ⟨address, btc_amount, comment, tx_id⟩ :: n.transfers })
  | .error _ => (none, n)

def downloaded_file_info (env : DownloadEnv) (peer_id : PeerId) (metadata : FileMetadata F64)
    (content : List UInt8) (path : String) (payment_tx_id : Option String) :
    DownloadedFileInfo where
  id := env.new_uuid
  file_id := metadata.file_id
  file_path := path
  file_name := metadata.file_name
  file_size_kb := size_kb content
  fee_rate_per_kb := some metadata.fee_rate_per_kb
  price := some (cost_btc metadata content)
  payment_tx_id := payment_tx_id
  peer_id := peer_id.to_string
  download_timestamp := env.get_unix_timestamp

/-- How a call ends. -/
inductive Returned where
  | ok
  | err (message : String)
  | panicked (message : String)
  deriving DecidableEq, Repr

def handle_file_content_response (env : DownloadEnv) (peer_id : PeerId)
    (resp : OrcaNetResponse F64) (dest_path : Option String) (n : Node) : Returned × Node :=
  match resp with
  | .FileContentResponse metadata content =>
    match save_path env metadata dest_path with
    | none => (.panicked "byte index 16 is out of bounds or not a char boundary", n)
    | some path =>
      let n := n.write env path content
      let (payment_tx_id, n) := n.send_to_address env metadata.recipient_address
        (cost_btc metadata content) s!"Payment for {metadata.file_id}"
      match env.create_sqlite_connection with
      | some _ => (.panicked "Can't proceed without DB connection", n)
      | none =>
        let info := downloaded_file_info env peer_id metadata content path payment_tx_id
        -- the result of the insert is only logged
        (.ok, { n with downloaded_files :=
          (DownloadedFilesTable.insert_downloaded_file env.insert_downloaded_file info
            n.downloaded_files).2 })
  -- an error and any other response are only logged
  | _ => (.ok, n)

/-- `peer` is the result of `send_stream_request`: what the peer makes of the
    request, if anything. -/
def download_file_from_peer (env : DownloadEnv)
    (peer : OrcaNetRequest F64 → Except String (OrcaNetResponse F64)) (file_id : String)
    (peer_id : PeerId) (dest_path : Option String) (n : Node) : Returned × Node :=
  match peer (.FileContentRequest file_id) with
  | .ok file_response => handle_file_content_response env peer_id file_response dest_path n
  | .error _ => (.err s!"Could not get file from peer {peer_id.to_string}", n)

/-! ## Section 2: What a download does -/

/-- The node got a new record, and no other. -/
def Recorded (n n' : Node) (row : DownloadedFileInfo) : Prop :=
  n'.downloaded_files.rows = n.downloaded_files.rows ++ [row]

/-- The record names the requested file, and the bytes under its path have the
    requested digest. -/
def Genuine (sha256_digest : List UInt8 → String) (file_id : String) (n' : Node)
    (row : DownloadedFileInfo) : Prop :=
  row.file_id = file_id ∧ ∃ bytes, n'.disk row.file_path = some bytes ∧
    sha256_digest bytes = file_id

theorem Recorded.inj {n n' : Node} {row row' : DownloadedFileInfo} (h : Recorded n n' row)
    (h' : Recorded n n' row') : row = row' := by
  have hrows : n.downloaded_files.rows ++ [row] = n.downloaded_files.rows ++ [row'] :=
    h.symm.trans h'
  exact List.singleton_inj.mp (List.append_cancel_left hrows)

theorem not_recorded_of_eq {n n' : Node} {row : DownloadedFileInfo}
    (h : n'.downloaded_files = n.downloaded_files) : ¬ Recorded n n' row := by
  intro hrow
  have hlen := congrArg List.length hrow
  rw [h, List.length_append, List.length_singleton] at hlen
  omega

section follows

variable (sha256_digest : List UInt8 → String) (env : DownloadEnv) (peer_id : PeerId)
  (n : Node)

/-- The node after the payment, whether one was made or not. -/
structure Paid (address : String) (btc_amount : F64) (comment : String) (n' : Node) : Prop where
  disk : n'.disk = n.disk
  downloaded_files : n'.downloaded_files = n.downloaded_files
  transfers : n'.transfers = n.transfers ∨
    ∃ tx_id, n'.transfers = ⟨address, btc_amount, comment, tx_id⟩ :: n.transfers

theorem send_to_address_paid (address : String) (btc_amount : F64) (comment : String) :
    Paid n address btc_amount comment (n.send_to_address env address btc_amount comment).2 := by
  unfold Node.send_to_address
  split
  · exact ⟨rfl, rfl, Or.inr ⟨_, rfl⟩⟩
  · exact ⟨rfl, rfl, Or.inl rfl⟩

/-- Everything that a response with content can do. -/
inductive Saves (dest_path : Option String) (metadata : FileMetadata F64) (content : List UInt8) :
    Returned × Node → Prop where
  | no_path (hpath : save_path env metadata dest_path = none) :
      Saves dest_path metadata content
        (.panicked "byte index 16 is out of bounds or not a char boundary", n)
  /-- Paid, but not recorded. -/
  | no_connection {path e n'} (hpath : save_path env metadata dest_path = some path)
      (hpaid : Paid (n.write env path content) metadata.recipient_address
        (cost_btc metadata content) s!"Payment for {metadata.file_id}" n')
      (hconn : env.create_sqlite_connection = some e) :
      Saves dest_path metadata content (.panicked "Can't proceed without DB connection", n')
  | insert {path payment_tx_id n'} (hpath : save_path env metadata dest_path = some path)
      (hpaid : Paid (n.write env path content) metadata.recipient_address
        (cost_btc metadata content) s!"Payment for {metadata.file_id}" n')
      (hconn : env.create_sqlite_connection = none) :
      Saves dest_path metadata content (.ok, { n' with downloaded_files :=
        (DownloadedFilesTable.insert_downloaded_file env.insert_downloaded_file
          (downloaded_file_info env peer_id metadata content path payment_tx_id)
          n'.downloaded_files).2 })

theorem handle_file_content_response_saves (dest_path : Option String)
    (metadata : FileMetadata F64) (content : List UInt8) :
    Saves env peer_id n dest_path metadata content
      (handle_file_content_response env peer_id (.FileContentResponse metadata content) dest_path
        n) := by
  -- the code does not look at the results of the write and of the payment
  cases hpath : save_path env metadata dest_path with
  | none =>
    simp only [handle_file_content_response, hpath]
    exact .no_path hpath
  | some path =>
    have hpaid := send_to_address_paid env (n.write env path content) metadata.recipient_address
      (cost_btc metadata content) s!"Payment for {metadata.file_id}"
    obtain ⟨payment_tx_id, n', hpayment⟩ : ∃ payment_tx_id n',
        (n.write env path content).send_to_address env metadata.recipient_address
          (cost_btc metadata content) s!"Payment for {metadata.file_id}" = (payment_tx_id, n') :=
      ⟨_, _, rfl⟩
    rw [hpayment] at hpaid
    cases hconn : env.create_sqlite_connection with
    | some e =>
      simp only [handle_file_content_response, hpath, hpayment, hconn]
      exact .no_connection hpath hpaid hconn
    | none =>
      simp only [handle_file_content_response, hpath, hpayment, hconn]
      exact .insert hpath hpaid hconn

section content

variable {env peer_id n} {file_id : String} {dest_path : Option String}
  {metadata : FileMetadata F64} {content : List UInt8} {out : Returned × Node}

end content

/-- Content is recorded, whatever it is, if the database works. -/
theorem handle_file_content_response_recorded (dest_path : Option String)
    (metadata : FileMetadata F64) (content : List UInt8) {path : String}
    (hpath : save_path env metadata dest_path = some path)
    (hconn : env.create_sqlite_connection = none) (hfault : env.insert_downloaded_file = none)
    (hfresh : n.downloaded_files.find DownloadedFileInfo.id env.new_uuid = none) :
    (handle_file_content_response env peer_id (.FileContentResponse metadata content) dest_path
      n).1 = .ok ∧
    ∃ row, Recorded n (handle_file_content_response env peer_id
      (.FileContentResponse metadata content) dest_path n).2 row := by
  have hsaves := handle_file_content_response_saves env peer_id n dest_path metadata content
  generalize handle_file_content_response _ _ _ _ _ = out at hsaves
  cases hsaves with
  | no_path hpath' => cases hpath.symm.trans hpath'
  | no_connection hpath' hpaid hconn' => cases hconn.symm.trans hconn'
  | @insert path payment_tx_id n' hpath' hpaid hconn' =>
    have hfiles : n'.downloaded_files = n.downloaded_files := hpaid.downloaded_files
    -- a fresh id is all that the insert needs
    have hsome : (n'.downloaded_files.insert
        (downloaded_file_info env peer_id metadata content path payment_tx_id)).isSome := by
      rw [Table.insert_isSome_iff, hfiles]
      simpa [downloaded_file_info] using hfresh
    obtain ⟨t, ht⟩ := Option.isSome_iff_exists.mp hsome
    refine ⟨rfl, downloaded_file_info env peer_id metadata content path payment_tx_id, ?_⟩
    simp only [Recorded, DownloadedFilesTable.insert_downloaded_file, hfault, ht]
    rw [(Table.insert_eq_some ht).2, hfiles]

/-- A response without content changes nothing. -/
theorem handle_file_content_response_other {resp : OrcaNetResponse F64}
    (h : ∀ metadata content, resp ≠ .FileContentResponse metadata content)
    (dest_path : Option String) :
    handle_file_content_response env peer_id resp dest_path n = (.ok, n) := by
  unfold handle_file_content_response
  split
  · exact absurd rfl (h _ _)
  · rfl

theorem handle_file_content_response_ne_err (resp : OrcaNetResponse F64)
    (dest_path : Option String) (message : String) :
    (handle_file_content_response env peer_id resp dest_path n).1 ≠ .err message := by
  unfold handle_file_content_response
  (repeat' split) <;> simp

end follows

section samples

def sampleEnv : DownloadEnv where
  AppDataPath := "data"
  new_uuid := "uuid"
  get_unix_timestamp := 0
  fs_write := .ok ()
  send_to_address := fun _ _ => .ok "tx"
  create_sqlite_connection := none
  insert_downloaded_file := none

/-- A node that downloaded nothing yet. -/
def sampleNode : Node := ⟨fun _ => none, [], .empty⟩

/-- A peer that answers every request for content with three bytes. -/
def samplePeer : OrcaNetRequest F64 → Except String (OrcaNetResponse F64)
  | .FileContentRequest file_id =>
    .ok (.FileContentResponse ⟨file_id, "name", 1, "address"⟩ [97, 98, 99])
  | _ => .error "No valid response"

end samples

end Downloads

end OrcaNet
