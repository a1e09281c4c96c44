import NetTools.Library.Runs
import NetTools.Procedures.Workflow

/-!
# One approval, one verification

Any number of processes share a store and make their calls one after another. A caller has the
receipts that were given out, and may change every field of one but its signature, which nobody
can make without the key.
-/

namespace NetTools

namespace Procedures

inductive Call where
  | approve (proposal : ProcedureProposal) (secret : String) (now : Datetime) (ttlSeconds : Int)
      (nonce : String)
  | verify (proposal : ProcedureProposal) (receipt : ApprovalReceipt) (secret : String)
      (usedNonces : List String) (now : Datetime)
  | simulate (proposal : ProcedureProposal) (approval : Approval) (now : Datetime)

def Call.proposal : Call → ProcedureProposal
  | .approve proposal .. => proposal
  | .verify proposal .. => proposal
  | .simulate proposal .. => proposal

/-- The store, with the receipts that were given out and the ones that were verified. -/
structure World where
  store : ApprovalStore := {}
  issued : List ApprovalReceipt := []
  verified : List ApprovalReceipt := []

def World.call (w : World) : Call → World × Option String
  | .approve proposal secret now ttlSeconds nonce =>
    match approveProposal proposal secret now ttlSeconds nonce (some w.store) with
    | (store, .error message) => ({ w with store := store.getD w.store }, some message)
    | (store, .ok receipt) =>
      ({ w with store := store.getD w.store, issued := w.issued ++ [receipt] }, none)
  | .verify proposal receipt secret usedNonces now =>
    match verifyApproval proposal receipt secret usedNonces now (some w.store) with
    | (_, store, .error message) => ({ w with store := store.getD w.store }, some message)
    | (_, store, .ok receipt) =>
      ({ w with store := store.getD w.store, verified := w.verified ++ [receipt] }, none)
  | .simulate proposal approval now =>
    match simulateApprovedProcedure proposal approval (some w.store) now with
    | (store, .error message) => ({ w with store := store.getD w.store }, some message)
    | (store, .ok _) => ({ w with store := store.getD w.store }, none)

def World.step (w : World) (call : Call) : World := (w.call call).1

def World.Accepts (w : World) (call : Call) : Prop := (w.call call).2 = none

/-- What a caller has to make the call with: a signature that is no HMAC or was given out, and an
approval that was verified. -/
def Presentable (w : World) : Call → Prop
  | .approve .. => True
  | .verify _ receipt .. =>
    (∃ letters, receipt.signature = .text letters) ∨
      ∃ issued ∈ w.issued, issued.signature = receipt.signature
  | .simulate _ approval _ => ∀ receipt, approval = .verified receipt → receipt ∈ w.verified

def SameContent (p q : Payload) : Prop :=
  p.procedure = q.procedure ∧ p.version = q.version ∧
    ∀ name, p.parameters.get? name = q.parameters.get? name

def ApprovalRow.payload (row : ApprovalRow) : Payload :=
  ⟨row.procedure, row.version, row.parameters⟩

/-- The receipt is one that was given out under the key, and it is used before it expires. -/
def Genuine (w : World) (receipt : ApprovalReceipt) (secret : String) (now : Datetime) : Prop :=
  receipt ∈ w.issued ∧
    receipt.signature = .hmac secret ⟨receipt.proposalDigest, receipt.nonce, receipt.expiresAt⟩ ∧
    now.micros < receipt.expiresAt.micros

/-- The approval that goes with the digest of the proposal was recorded for its contents. -/
def Bound (w : World) (proposal : ProcedureProposal) : Prop :=
  ∃ row ∈ w.store.approvals.rows, row.proposalDigest = proposal.digest ∧
    SameContent row.payload proposal.payload

/-- What a call shows: one that raises leaves the store, and one that returns had what it takes. -/
structure Sound (w : World) (call : Call) : Prop where
  unchanged : ¬ w.Accepts call → (w.step call).store = w.store
  genuine : ∀ proposal receipt secret usedNonces now,
    call = .verify proposal receipt secret usedNonces now → w.Accepts call →
      Genuine w receipt secret now
  bound : (∀ proposal secret now ttlSeconds nonce,
    call ≠ .approve proposal secret now ttlSeconds nonce) → w.Accepts call →
      Bound w call.proposal

def SingleUse (w : World) : Prop :=
  (w.verified.map ApprovalReceipt.proposalDigest).Nodup ∧
    ∀ receipt ∈ w.verified, ∃ row ∈ w.store.approvals.rows,
      row.proposalDigest = receipt.proposalDigest

def Texts (parameters : Dict) : Prop := ∀ parameter ∈ parameters, parameter.2.isStr = true

/-- The proposals of a run: their parameters are texts, and the ones with one digest have the same
contents. -/
def Intact (calls : List Call) : Prop :=
  (∀ call ∈ calls, Texts call.proposal.parameters) ∧
    ∀ call ∈ calls, ∀ call' ∈ calls, call.proposal.digest = call'.proposal.digest →
      SameContent call.proposal.payload call'.proposal.payload

variable {store : ApprovalStore} {row : ApprovalRow} {now : Datetime} {digest nonce : String}

lemma readBack_of_texts (h : Texts row.parameters) : readBack row = .ok row := by
  rw [readBack, if_pos]
  rw [List.all_eq_true]
  exact h

lemma recordProcedureApproval_cases (h : Texts row.parameters) :
    (∃ message, store.recordProcedureApproval row = (store, .error message)) ∨
      store.approvals.get? row.proposalDigest = none ∧
        store.recordProcedureApproval row =
          ({ store with approvals := store.approvals.insert row }, .ok row) := by
  unfold ApprovalStore.recordProcedureApproval
  split
  · exact .inl ⟨_, rfl⟩
  · split
    · exact .inl ⟨_, rfl⟩
    · rename_i hfree
      rw [not_or, Option.not_isSome_iff_eq_none] at hfree
      rw [readBack_of_texts h]
      exact .inr ⟨hfree.1, rfl⟩

lemma consumeProcedureApproval_cases (h : ∀ row ∈ store.approvals.rows, Texts row.parameters) :
    (∃ message, store.consumeProcedureApproval digest nonce now = (store, .error message)) ∨
      ∃ row, store.approvals.get? digest = some row ∧ row.nonce = nonce ∧ row.consumedAt = none ∧
        store.consumeProcedureApproval digest nonce now =
          ({ store with
              approvals := store.approvals.modify digest (ApprovalRow.consume now)
                (fun _ => rfl) }, .ok (row.consume now)) := by
  unfold ApprovalStore.consumeProcedureApproval
  split
  · exact .inl ⟨_, rfl⟩
  · rename_i row hrow
    rw [Option.filter_eq_some_iff, decide_eq_true_eq] at hrow
    split
    · exact .inl ⟨_, rfl⟩
    · rename_i hfresh
      rw [Option.not_isSome_iff_eq_none] at hfresh
      split
      · exact .inl ⟨_, rfl⟩
      · have htexts : Texts (row.consume now).parameters :=
          h row (KeyedTable.mem_of_get? hrow.1)
        rw [readBack_of_texts htexts]
        exact .inr ⟨row, hrow.1, hrow.2, hfresh, rfl⟩

lemma recordProcedureSimulation_cases (result : SimulationResult) :
    (∃ message, store.recordProcedureSimulation result now = (store, .error message)) ∨
      ∃ row, store.approvals.get? result.proposalDigest = some row ∧
        store.recordProcedureSimulation result now =
          ({ store with simulations := store.simulations ++ [⟨result, now⟩] },
            .ok ⟨result, now⟩) := by
  unfold ApprovalStore.recordProcedureSimulation
  split
  · exact .inl ⟨_, rfl⟩
  · split
    · exact .inl ⟨_, rfl⟩
    · rename_i hsome
      rw [Option.isNone_iff_eq_none] at hsome
      obtain ⟨row, hrow⟩ := Option.ne_none_iff_exists'.mp hsome
      exact .inr ⟨row, hrow, rfl⟩

variable {w : World} {proposal : ProcedureProposal} {receipt : ApprovalReceipt}
  {secret : String} {usedNonces : List String} {ttlSeconds : Int} {approval : Approval}

lemma call_approve (htexts : Texts proposal.parameters) :
    (∃ message, w.call (.approve proposal secret now ttlSeconds nonce) = (w, some message)) ∨
      ∃ receipt, receipt = receiptFor proposal secret nonce (now.addSeconds ttlSeconds) ∧
        w.store.approvals.get? proposal.digest = none ∧
        w.call (.approve proposal secret now ttlSeconds nonce) =
          ({ w with
              store := { w.store with
                approvals := w.store.approvals.insert (rowFor proposal receipt now) }
              issued := w.issued ++ [receipt] }, none) := by
  simp only [World.call, approveProposal]
  cases requireSecret secret with
  | some message => exact .inl ⟨message, rfl⟩
  | none =>
    by_cases httl : ttlSeconds < 1
    · simp only [if_pos httl]
      exact .inl ⟨_, rfl⟩
    · simp only [if_neg httl]
      rcases @recordProcedureApproval_cases w.store
        (rowFor proposal (receiptFor proposal secret nonce (now.addSeconds ttlSeconds)) now) htexts
        with ⟨message, hrecord⟩ | ⟨hfree, hrecord⟩
      · rw [hrecord]
        exact .inl ⟨message, rfl⟩
      · rw [hrecord]
        exact .inr ⟨_, rfl, hfree, rfl⟩

lemma call_verify (htexts : ∀ row ∈ w.store.approvals.rows, Texts row.parameters) :
    (∃ message, w.call (.verify proposal receipt secret usedNonces now) = (w, some message)) ∨
      ∃ row, receipt.proposalDigest = proposal.digest ∧ now.micros < receipt.expiresAt.micros ∧
        receipt.signature = .hmac secret (receiptBody proposal receipt.nonce receipt.expiresAt) ∧
        w.store.approvals.get? proposal.digest = some row ∧ row.consumedAt = none ∧
        w.call (.verify proposal receipt secret usedNonces now) =
          ({ w with
              store := { w.store with
                approvals := w.store.approvals.modify proposal.digest (ApprovalRow.consume now)
                  (fun _ => rfl) }
              verified := w.verified ++ [receipt] }, none) := by
  simp only [World.call, verifyApproval]
  cases requireSecret secret with
  | some message => exact .inl ⟨message, rfl⟩
  | none =>
    by_cases hdigest : receipt.proposalDigest ≠ proposal.digest
    · simp only [if_pos hdigest]
      exact .inl ⟨_, rfl⟩
    by_cases hexpires : receipt.expiresAt.le now = true
    · simp only [if_neg hdigest, if_pos hexpires]
      exact .inl ⟨_, rfl⟩
    by_cases hsignature :
        receipt.signature ≠ .hmac secret (receiptBody proposal receipt.nonce receipt.expiresAt)
    · simp only [if_neg hdigest, if_neg hexpires, if_pos hsignature]
      exact .inl ⟨_, rfl⟩
    simp only [if_neg hdigest, if_neg hexpires, if_neg hsignature, Option.isNone_some,
      Bool.false_and, Bool.false_eq_true, if_false]
    rw [Datetime.le, decide_eq_true_eq, not_le] at hexpires
    rcases @consumeProcedureApproval_cases w.store now proposal.digest receipt.nonce htexts
      with ⟨message, hconsume⟩ | ⟨row, hrow, -, hfresh, hconsume⟩
    · rw [hconsume]
      exact .inl ⟨message, rfl⟩
    · rw [hconsume]
      exact .inr ⟨row, not_not.mp hdigest, hexpires, not_not.mp hsignature, hrow, hfresh, rfl⟩

lemma call_simulate :
    (∃ message, w.call (.simulate proposal approval now) = (w, some message)) ∨
      ∃ row store, w.store.approvals.get? proposal.digest = some row ∧
        store.approvals = w.store.approvals ∧
        w.call (.simulate proposal approval now) = ({ w with store }, none) := by
  simp only [World.call, simulateApprovedProcedure]
  cases approval with
  | other => exact .inl ⟨_, rfl⟩
  | verified receipt =>
    by_cases hexpires : receipt.expiresAt.le now = true
    · simp only [if_pos hexpires]
      exact .inl ⟨_, rfl⟩
    by_cases hdigest : receipt.proposalDigest ≠ proposal.digest
    · simp only [if_neg hexpires, if_pos hdigest]
      exact .inl ⟨_, rfl⟩
    simp only [if_neg hexpires, if_neg hdigest]
    rcases @recordProcedureSimulation_cases w.store now { proposalDigest := proposal.digest }
      with ⟨message, hrecord⟩ | ⟨row, hrow, hrecord⟩
    · rw [hrecord]
      exact .inl ⟨message, rfl⟩
    · rw [hrecord]
      exact .inr ⟨row, { w.store with simulations := w.store.simulations ++ [⟨_, now⟩] }, hrow,
        rfl, rfl⟩

/-- What holds between the calls of a run: the rows come from proposals of the run, the receipts
carry their own HMAC, and the verified ones have stamped rows. -/
structure Inv (calls : List Call) (w : World) : Prop where
  rows : ∀ row ∈ w.store.approvals.rows, ∃ call ∈ calls,
    row.proposalDigest = call.proposal.digest ∧ row.payload = call.proposal.payload
  issued : ∀ receipt ∈ w.issued, ∃ secret, receipt.signature =
    .hmac secret ⟨receipt.proposalDigest, receipt.nonce, receipt.expiresAt⟩
  unique : (w.verified.map ApprovalReceipt.proposalDigest).Nodup
  stamped : ∀ receipt ∈ w.verified, ∃ row ∈ w.store.approvals.rows,
    row.proposalDigest = receipt.proposalDigest ∧ row.consumedAt.isSome = true

variable {calls : List Call} {call : Call}

lemma Inv.texts (h : Inv calls w) (hintact : Intact calls) :
    ∀ row ∈ w.store.approvals.rows, Texts row.parameters := by
  intro row hrow
  obtain ⟨call, hcall, -, hpayload⟩ := h.rows row hrow
  have hparameters : row.parameters = call.proposal.parameters :=
    congrArg Payload.parameters hpayload
  rw [hparameters]
  exact hintact.1 call hcall

lemma Inv.bound (h : Inv calls w) (hintact : Intact calls) (hcall : call ∈ calls)
    (hrow : w.store.approvals.get? call.proposal.digest = some row) : Bound w call.proposal := by
  have hmem := KeyedTable.mem_of_get? hrow
  have hkey := KeyedTable.key_of_get? hrow
  obtain ⟨call', hcall', hdigest, hpayload⟩ := h.rows row hmem
  refine ⟨row, hmem, hkey, ?_⟩
  rw [hpayload]
  exact hintact.2 call' hcall' call hcall (hdigest.symm.trans hkey)

lemma Inv.notMem_verified (h : Inv calls w) (hrow : w.store.approvals.get? digest = some row)
    (hfresh : row.consumedAt = none) :
    digest ∉ w.verified.map ApprovalReceipt.proposalDigest := by
  intro hmem
  obtain ⟨receipt, hreceipt, rfl⟩ := List.mem_map.mp hmem
  obtain ⟨row', hrow', hdigest, hstamped⟩ := h.stamped receipt hreceipt
  have hsame := KeyedTable.get?_of_mem hrow'
  rw [hdigest, hrow] at hsame
  cases hsame
  rw [hfresh] at hstamped
  cases hstamped

theorem Inv.step (hintact : Intact calls) (h : Inv calls w) (hcall : call ∈ calls) :
    Inv calls (w.step call) := by
  cases call with
  | approve proposal secret now ttlSeconds nonce =>
    rcases @call_approve now nonce w proposal secret ttlSeconds (hintact.1 _ hcall) with
      ⟨message, hrun⟩ | ⟨receipt, hreceipt, hfree, hrun⟩
    · rw [World.step, hrun]
      exact h
    · rw [World.step, hrun]
      constructor
      · intro row hrow
        rcases KeyedTable.mem_of_mem_insert hrow with hold | hnew
        · exact h.rows row hold
        · rw [hnew]
          exact ⟨_, hcall, rfl, rfl⟩
      · intro issued hissued
        rcases List.mem_append.mp hissued with hold | hnew
        · exact h.issued issued hold
        · rw [List.mem_singleton.mp hnew, hreceipt]
          exact ⟨secret, rfl⟩
      · exact h.unique
      · intro verified hverified
        obtain ⟨row, hrow, hstamp⟩ := h.stamped verified hverified
        exact ⟨row, KeyedTable.mem_insert_of_mem hrow, hstamp⟩
  | verify proposal receipt secret usedNonces now =>
    rcases @call_verify now w proposal receipt secret usedNonces (h.texts hintact) with
      ⟨message, hrun⟩ | ⟨row, hdigest, hexpires, hsignature, hrow, hfresh, hrun⟩
    · rw [World.step, hrun]
      exact h
    · have hrows : ∀ r, r ∈ (w.store.approvals.modify proposal.digest (ApprovalRow.consume now)
          (fun _ => rfl)).rows ↔ r = row.consume now ∨
            (r ∈ w.store.approvals.rows ∧ r.proposalDigest ≠ proposal.digest) :=
        fun r => KeyedTable.mem_modify hrow
      have hconsumed := (hrows (row.consume now)).mpr (.inl rfl)
      rw [World.step, hrun]
      constructor
      · intro row' hrow'
        rcases (hrows row').mp hrow' with hnew | hold
        · rw [hnew]
          exact h.rows row (KeyedTable.mem_of_get? hrow)
        · exact h.rows row' hold.1
      · exact h.issued
      · rw [List.map_append, List.map_cons, List.map_nil, List.nodup_append]
        refine ⟨h.unique, List.nodup_singleton _, ?_⟩
        rintro d hd d' hd' rfl
        rw [List.mem_singleton.mp hd', hdigest] at hd
        exact h.notMem_verified hrow hfresh hd
      · intro verified hverified
        rcases List.mem_append.mp hverified with hold | hnew
        · obtain ⟨row', hrow', hkey, hstamp⟩ := h.stamped verified hold
          by_cases hsame : row'.proposalDigest = proposal.digest
          · refine ⟨row.consume now, hconsumed, ?_, rfl⟩
            have hrowKey := KeyedTable.key_of_get? hrow
            exact hrowKey.trans (hsame.symm.trans hkey)
          · exact ⟨row', (hrows row').mpr (.inr ⟨hrow', hsame⟩), hkey, hstamp⟩
        · refine ⟨row.consume now, hconsumed, ?_, rfl⟩
          have hkey := KeyedTable.key_of_get? hrow
          rw [List.mem_singleton.mp hnew, hdigest]
          exact hkey
  | simulate proposal approval now =>
    rcases @call_simulate now w proposal approval with
      ⟨message, hrun⟩ | ⟨row, store, hrow, hsame, hrun⟩
    · rw [World.step, hrun]
      exact h
    · rw [World.step, hrun]
      refine ⟨?_, h.issued, h.unique, ?_⟩
      · rw [hsame]
        exact h.rows
      · rw [hsame]
        exact h.stamped

theorem Inv.sound (hintact : Intact calls) (h : Inv calls w) (hcall : call ∈ calls)
    (hpresentable : Presentable w call) : Sound w call := by
  cases call with
  | approve proposal secret now ttlSeconds nonce =>
    rcases @call_approve now nonce w proposal secret ttlSeconds (hintact.1 _ hcall) with
      ⟨message, hrun⟩ | ⟨receipt, hreceipt, hfree, hrun⟩
    · constructor
      · intro _
        rw [World.step, hrun]
      · rintro _ _ _ _ _ ⟨⟩
      · intro hnot
        exact absurd rfl (hnot proposal secret now ttlSeconds nonce)
    · constructor
      · intro hnot
        rw [World.Accepts, hrun] at hnot
        exact absurd rfl hnot
      · rintro _ _ _ _ _ ⟨⟩
      · intro hnot
        exact absurd rfl (hnot proposal secret now ttlSeconds nonce)
  | verify proposal receipt secret usedNonces now =>
    rcases @call_verify now w proposal receipt secret usedNonces (h.texts hintact) with
      ⟨message, hrun⟩ | ⟨row, hdigest, hexpires, hsignature, hrow, hfresh, hrun⟩
    · constructor
      · intro _
        rw [World.step, hrun]
      · rintro _ _ _ _ _ ⟨⟩ haccepts
        rw [World.Accepts, hrun] at haccepts
        cases haccepts
      · intro _ haccepts
        rw [World.Accepts, hrun] at haccepts
        cases haccepts
    · constructor
      · intro hnot
        rw [World.Accepts, hrun] at hnot
        exact absurd rfl hnot
      · rintro _ _ _ _ _ ⟨⟩ -
        rw [receiptBody, ← hdigest] at hsignature
        refine ⟨?_, hsignature, hexpires⟩
        rcases hpresentable with ⟨letters, hletters⟩ | ⟨issued, hissued, hsame⟩
        · rw [hletters] at hsignature
          cases hsignature
        · obtain ⟨secret', hissuedSignature⟩ := h.issued issued hissued
          -- both carry the HMAC of their own fields
          have hfields := hissuedSignature.symm.trans (hsame.trans hsignature)
          simp only [Signature.hmac.injEq, ReceiptBody.mk.injEq] at hfields
          have hreceipt : issued = receipt := by
            cases issued
            cases receipt
            simp only [ApprovalReceipt.mk.injEq]
            exact ⟨hfields.2.1, hfields.2.2.1, hfields.2.2.2, hsame⟩
          rw [← hreceipt]
          exact hissued
      · intro _ _
        exact h.bound hintact hcall hrow
  | simulate proposal approval now =>
    rcases @call_simulate now w proposal approval with
      ⟨message, hrun⟩ | ⟨row, store, hrow, hsame, hrun⟩
    · constructor
      · intro _
        rw [World.step, hrun]
      · rintro _ _ _ _ _ ⟨⟩
      · intro _ haccepts
        rw [World.Accepts, hrun] at haccepts
        cases haccepts
    · constructor
      · intro hnot
        rw [World.Accepts, hrun] at hnot
        exact absurd rfl hnot
      · rintro _ _ _ _ _ ⟨⟩
      · intro _ _
        exact h.bound hintact hcall hrow

lemma allSteps_mem (w : World) (calls rest : List Call) (h : ∀ call ∈ rest, call ∈ calls) :
    Runs.AllSteps World.step (fun _ call => call ∈ calls) w rest := by
  induction rest generalizing w with
  | nil => trivial
  | cons call rest ih =>
    exact ⟨h call List.mem_cons_self, ih _ (fun c hc => h c (List.mem_cons_of_mem call hc))⟩

/-- In a run of intact proposals no approval is used twice, only receipts that were given out are
verified, and what is accepted is what was approved. -/
theorem approvals_singleUse_bound (calls : List Call) (hintact : Intact calls)
    (hpresentable : Runs.AllSteps World.step Presentable {} calls) :
    Runs.AllSteps World.step Sound {} calls ∧
      Runs.AllSteps World.step (fun w call => SingleUse (w.step call)) {} calls := by
  have hguard := Runs.allSteps_and.mpr ⟨allSteps_mem {} calls calls (fun _ h => h), hpresentable⟩
  have hstart : Inv calls {} := by
    constructor
    · intro row hrow
      cases hrow
    · intro receipt hreceipt
      cases hreceipt
    · exact List.nodup_nil
    · intro receipt hreceipt
      cases hreceipt
  have hstep : ∀ w call, Inv calls w → (call ∈ calls ∧ Presentable w call) →
      Inv calls (w.step call) := fun _ _ hinv hcall => hinv.step hintact hcall.1
  constructor
  · exact Runs.allSteps_of_guard hstep (fun _ _ hinv hcall => hinv.sound hintact hcall.1 hcall.2)
      hstart hguard
  · refine Runs.allSteps_of_guard hstep ?_ hstart hguard
    intro w call hinv hcall
    have hnext := hstep w call hinv hcall
    refine ⟨hnext.unique, ?_⟩
    intro receipt hreceipt
    obtain ⟨row, hrow, hdigest, -⟩ := hnext.stamped receipt hreceipt
    exact ⟨row, hrow, hdigest⟩

theorem intact_of_create {sha256 : Payload → String} (hsha256 : Function.Injective sha256)
    (hcreated : ∀ call ∈ calls, ∃ procedure parameters,
      ProcedureProposal.create sha256 procedure parameters = .ok call.proposal) : Intact calls := by
  have hspec : ∀ {procedure parameters p},
      ProcedureProposal.create sha256 procedure parameters = .ok p →
        Texts p.parameters ∧ p.digest = sha256 p.payload := by
    intro procedure parameters p hp
    unfold ProcedureProposal.create at hp
    split at hp
    · cases hp
    · split at hp
      · cases hp
      · rename_i hvalid
        cases hp
        refine ⟨?_, rfl⟩
        rw [Bool.not_eq_true, Bool.or_eq_false_iff] at hvalid
        intro parameter hparameter
        have hgood := List.any_eq_false.mp hvalid.2 parameter hparameter
        rw [Bool.not_eq_true, Bool.or_eq_false_iff, Bool.not_eq_false'] at hgood
        exact hgood.1
  constructor
  · intro call hcall
    obtain ⟨procedure, parameters, hp⟩ := hcreated call hcall
    exact (hspec hp).1
  · intro call hcall call' hcall' hdigest
    obtain ⟨_, _, hp⟩ := hcreated call hcall
    obtain ⟨_, _, hp'⟩ := hcreated call' hcall'
    rw [(hspec hp).2, (hspec hp').2] at hdigest
    rw [hsha256 hdigest]
    exact ⟨rfl, rfl, fun _ => rfl⟩

def proposalFor (device : String) : ProcedureProposal where
  procedure := "collect_device_evidence"
  version := 1
  parameters := [("device", .str device)]
  digest := "e25e22cc385e811f0b4affc86c73550773c21136ab5bf5cd47b0093368b406c7"

def labSecret : String := "lab-approval-secret-0123456789abcdef"

def labReceipt : ApprovalReceipt :=
  receiptFor (proposalFor "PE1") labSecret "6f1d" ((⟨0, 0⟩ : Datetime).addSeconds 300)

def runFor (device : String) : List Call :=
  [.approve (proposalFor "PE1") labSecret ⟨0, 0⟩ 300 "6f1d",
    .verify (proposalFor device) labReceipt labSecret [] ⟨1000000, 0⟩,
    .simulate (proposalFor device) (.verified labReceipt) ⟨2000000, 0⟩]

lemma presentable_runFor (device : String) :
    Runs.AllSteps World.step Presentable {} (runFor device) := by
  have happrove : (World.step {} (.approve (proposalFor "PE1") labSecret ⟨0, 0⟩ 300
      "6f1d")).issued = [labReceipt] := by with_unfolding_all rfl
  have hverify : (World.step (World.step {} (.approve (proposalFor "PE1") labSecret ⟨0, 0⟩ 300
      "6f1d")) (.verify (proposalFor device) labReceipt labSecret [] ⟨1000000, 0⟩)).verified =
        [labReceipt] := by with_unfolding_all rfl
  refine ⟨trivial, ?_, ?_, trivial⟩
  · refine .inr ⟨labReceipt, ?_, rfl⟩
    rw [happrove]
    exact List.mem_cons_self
  · rintro receipt ⟨⟩
    rw [hverify]
    exact List.mem_cons_self

/-- The run for the device that was approved. -/
theorem approvals_singleUse_bound_PE1 :
    Runs.AllSteps World.step Sound {} (runFor "PE1") ∧
      Runs.AllSteps World.step (fun w call => SingleUse (w.step call)) {} (runFor "PE1") := by
  apply approvals_singleUse_bound
  · have hproposal : ∀ call ∈ runFor "PE1", call.proposal = proposalFor "PE1" := by
      intro call hcall
      simp only [runFor, List.mem_cons, List.not_mem_nil, or_false] at hcall
      rcases hcall with rfl | rfl | rfl
      all_goals rfl
    constructor
    · intro call hcall
      rw [hproposal call hcall]
      intro parameter hparameter
      rw [List.mem_singleton.mp hparameter]
      rfl
    · intro call hcall call' hcall' _
      rw [hproposal call hcall, hproposal call' hcall']
      exact ⟨rfl, rfl, fun _ => rfl⟩
  · exact presentable_runFor "PE1"

/-- The proposal for PE1 is approved, then its device is changed to PE2, and it is verified. -/
theorem not_bound_changedDevice :
    Runs.AllSteps World.step Presentable {} (runFor "PE2") ∧
      ¬ Runs.AllSteps World.step Sound {} (runFor "PE2") := by
  refine ⟨presentable_runFor "PE2", ?_⟩
  rintro ⟨-, hsound, -⟩
  obtain ⟨row, hrow, -, -, -, hparameters⟩ := hsound.bound (by rintro _ _ _ _ _ ⟨⟩)
    (by with_unfolding_all rfl)
  have hrows : (World.step {} (.approve (proposalFor "PE1") labSecret ⟨0, 0⟩ 300
      "6f1d")).store.approvals.rows =
        [rowFor (proposalFor "PE1") labReceipt ⟨0, 0⟩] := by with_unfolding_all rfl
  rw [hrows, List.mem_singleton] at hrow
  have hdevice := hparameters "device"
  rw [hrow] at hdevice
  have htexts : some (Value.str "PE1") = some (Value.str "PE2") := hdevice
  simp only [Option.some.injEq, Value.str.injEq] at htexts
  exact absurd htexts (by decide)

end Procedures

end NetTools
