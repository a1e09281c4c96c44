import NetTools.Library.KeyedTable
import NetTools.Python.Datetime
import NetTools.Python.Value

/-!
# Procedure approvals

`procedure_workflow.py`, with the two tables of the event store that it writes. An HMAC is a term
of its key and its message, and a digest is a function of the payload that is hashed.
-/

namespace NetTools

namespace Procedures

structure ProcedureDefinition where
  name : String
  version : Int
  requiredParameters : List String

def procedureDefinition (name : String) : Option ProcedureDefinition :=
  if name = "collect_device_evidence" then some ⟨"collect_device_evidence", 1, ["device"]⟩
  else none

structure ProcedureProposal where
  procedure : String
  version : Int
  parameters : Dict
  digest : String

/-- What is hashed for a proposal; `execution` is always `dry_run_only`. -/
structure Payload where
  procedure : String
  version : Int
  parameters : Dict

def ProcedureProposal.payload (p : ProcedureProposal) : Payload :=
  ⟨p.procedure, p.version, p.parameters⟩

def ProcedureProposal.create (sha256 : Payload → String) (procedure : String)
    (parameters : Dict) : Except String ProcedureProposal :=
  match procedureDefinition procedure with
  | none => .error "unknown procedure"
  | some definition =>
    if !(parameters.keys.all (· ∈ definition.requiredParameters) &&
        definition.requiredParameters.all (· ∈ parameters.keys)) ||
        parameters.any (fun parameter => !parameter.2.isStr || !parameter.2.truthy) then
      .error "procedure parameters do not match the declared contract"
    else
      .ok ⟨definition.name, definition.version, parameters,
        sha256 ⟨definition.name, definition.version, parameters⟩⟩

/-- The body of a receipt, as it is signed. The text of `expires_at` shows its wall clock and its
offset. -/
structure ReceiptBody where
  proposalDigest : String
  nonce : String
  expiresAt : Datetime
deriving DecidableEq, Repr

inductive Signature where
  | hmac (secret : String) (body : ReceiptBody)
  | text (letters : String)
deriving DecidableEq, Repr

structure ApprovalReceipt where
  proposalDigest : String
  nonce : String
  expiresAt : Datetime
  signature : Signature
deriving DecidableEq, Repr

def receiptBody (proposal : ProcedureProposal) (nonce : String) (expiresAt : Datetime) :
    ReceiptBody :=
  ⟨proposal.digest, nonce, expiresAt⟩

structure SimulationResult where
  proposalDigest : String
  status : String := "not_executed"
  networkActivity : Bool := false
  deviceWrites : Bool := false
  verification : String := "not_executed"

structure ApprovalRow where
  proposalDigest : String
  procedure : String
  version : Int
  parameters : Dict
  nonce : String
  expiresAt : Datetime
  signature : Signature
  approvedAt : Datetime
  consumedAt : Option Datetime := none

structure SimulationRow where
  result : SimulationResult
  recordedAt : Datetime

/-- The tables `procedure_approvals` and `procedure_simulations`. -/
structure ApprovalStore where
  approvals : KeyedTable ApprovalRow.proposalDigest := KeyedTable.empty
  simulations : List SimulationRow := []

/-- The row with a stamp in `consumed_at`. -/
def ApprovalRow.consume (now : Datetime) (row : ApprovalRow) : ApprovalRow :=
  { row with consumedAt := some now }

/-- `_procedure_approval_record`: the row as it is read back. -/
def readBack (row : ApprovalRow) : Except String ApprovalRow :=
  if row.parameters.all (fun parameter => parameter.2.isStr) then .ok row
  else .error "procedure approval has invalid parameters"

namespace ApprovalStore

/-- `record_procedure_approval`. The digest is the primary key, and the nonce is unique. The row is
read back once it is committed. -/
def recordProcedureApproval (store : ApprovalStore) (row : ApprovalRow) :
    ApprovalStore × Except String ApprovalRow :=
  if row.proposalDigest = "" ∨ row.procedure = "" ∨ row.nonce = "" ∨ row.signature = .text "" ∨
      row.version < 1 then
    (store, .error "procedure approval identity is invalid")
  else if (store.approvals.get? row.proposalDigest).isSome ∨
      ∃ other ∈ store.approvals.rows, other.nonce = row.nonce then
    (store, .error "procedure approval receipt already exists")
  else ({ store with approvals := store.approvals.insert row }, readBack row)

def consumeProcedureApproval (store : ApprovalStore) (proposalDigest nonce : String)
    (now : Datetime) : ApprovalStore × Except String ApprovalRow :=
  match (store.approvals.get? proposalDigest).filter (fun row => row.nonce = nonce) with
  | none => (store, .error "procedure approval receipt does not exist")
  | some row =>
    if row.consumedAt.isSome then (store, .error "procedure approval nonce is replayed")
    else if row.expiresAt.le now then (store, .error "procedure approval receipt is expired")
    else
      ({ store with
          approvals := store.approvals.modify proposalDigest (ApprovalRow.consume now)
            (fun _ => rfl) },
        readBack (row.consume now))

def recordProcedureSimulation (store : ApprovalStore) (result : SimulationResult)
    (now : Datetime) : ApprovalStore × Except String SimulationRow :=
  if result.status ≠ "not_executed" ∨ result.networkActivity ∨ result.deviceWrites ∨
      result.verification ≠ "not_executed" then
    (store, .error "procedure simulation violates dry-run contract")
  else if (store.approvals.get? result.proposalDigest).isNone then
    (store, .error "procedure simulation approval does not exist")
  else ({ store with simulations := store.simulations ++ [⟨result, now⟩] }, .ok ⟨result, now⟩)

end ApprovalStore

def MIN_APPROVAL_SECRET_BYTES : Nat := 32

def requireSecret (secret : String) : Option String :=
  if secret.utf8ByteSize < MIN_APPROVAL_SECRET_BYTES then
    some ("approval secret must contain at least " ++ toString MIN_APPROVAL_SECRET_BYTES ++
      " bytes")
  else none

def receiptFor (proposal : ProcedureProposal) (secret nonce : String) (expiresAt : Datetime) :
    ApprovalReceipt :=
  ⟨proposal.digest, nonce, expiresAt, .hmac secret (receiptBody proposal nonce expiresAt)⟩

def rowFor (proposal : ProcedureProposal) (receipt : ApprovalReceipt) (now : Datetime) :
    ApprovalRow where
  proposalDigest := proposal.digest
  procedure := proposal.procedure
  version := proposal.version
  parameters := proposal.parameters
  nonce := receipt.nonce
  expiresAt := receipt.expiresAt
  signature := receipt.signature
  approvedAt := now

def approveProposal (proposal : ProcedureProposal) (secret : String) (now : Datetime)
    (ttlSeconds : Int) (nonce : String) (store : Option ApprovalStore) :
    Option ApprovalStore × Except String ApprovalReceipt :=
  match requireSecret secret with
  | some message => (store, .error message)
  | none =>
    if ttlSeconds < 1 then (store, .error "approval ttl must be positive")
    else
      let receipt := receiptFor proposal secret nonce (now.addSeconds ttlSeconds)
      match store with
      | none => (none, .ok receipt)
      | some store =>
        let (store, recorded) := store.recordProcedureApproval (rowFor proposal receipt now)
        (some store, recorded.map (fun _ => receipt))

/-- `verify_approval`: the nonces that the caller keeps and the store, and the receipt that is
verified. -/
def verifyApproval (proposal : ProcedureProposal) (receipt : ApprovalReceipt) (secret : String)
    (usedNonces : List String) (now : Datetime) (store : Option ApprovalStore) :
    List String × Option ApprovalStore × Except String ApprovalReceipt :=
  match requireSecret secret with
  | some message => (usedNonces, store, .error message)
  | none =>
    if receipt.proposalDigest ≠ proposal.digest then
      (usedNonces, store, .error "approval proposal digest does not match")
    else if receipt.expiresAt.le now then
      (usedNonces, store, .error "approval receipt is expired")
    else if store.isNone && receipt.nonce ∈ usedNonces then
      (usedNonces, store, .error "approval nonce is replayed")
    else if receipt.signature ≠
        .hmac secret (receiptBody proposal receipt.nonce receipt.expiresAt) then
      (usedNonces, store, .error "approval signature is invalid")
    else
      match store with
      | some store =>
        let (store, consumed) := store.consumeProcedureApproval proposal.digest receipt.nonce now
        (usedNonces, some store, consumed.map (fun _ => receipt))
      | none => (receipt.nonce :: usedNonces, none, .ok receipt)

/-- What a caller passes for a verified approval. Only `verify_approval` makes the first kind. -/
inductive Approval where
  | verified (receipt : ApprovalReceipt)
  | other

def simulateApprovedProcedure (proposal : ProcedureProposal) (approval : Approval)
    (store : Option ApprovalStore) (now : Datetime) :
    Option ApprovalStore × Except String SimulationResult :=
  match approval with
  | .other => (store, .error "procedure simulation requires a verified approval")
  | .verified receipt =>
    if receipt.expiresAt.le now then (store, .error "approval receipt is expired")
    else if receipt.proposalDigest ≠ proposal.digest then
      (store, .error "approval proposal digest does not match")
    else
      let result : SimulationResult := { proposalDigest := proposal.digest }
      match store with
      | none => (none, .ok result)
      | some store =>
        let (store, recorded) := store.recordProcedureSimulation result now
        (some store, recorded.map (fun _ => result))

end Procedures

end NetTools
