import ArtistNode.Ledger

/-!
# Settled on the node

`settled_on_node` answers for a purchase that the ledger does not hold as paid, in the
status and in the download handler. It compares the kind, the hash and the status of
each record in the node's payment store. It does not look at the direction.
-/

namespace ArtistNode

open Base

/-- A Lightning payment in this direction, for an invoice with this hash, has
    succeeded. -/
structure Succeeded (lib : Crates) (direction : PaymentDirection) (paymentHash : String)
    (payment : PaymentDetails) : Prop where
  direction : payment.direction = direction
  kind : ∃ hash, (payment.kind = .bolt11 hash ∨ payment.kind = .bolt11Jit hash) ∧
    lib.hexEncode hash = paymentHash
  status : payment.status = .succeeded

section Settlement

variable {lib : Crates} {payments : List PaymentDetails} {paymentHash : String}

/-- A settled hash belongs to a payment that came in or to one that went out. -/
theorem settled_iff_direction :
    Settled lib payments paymentHash ↔
      (∃ payment ∈ payments, Succeeded lib .inbound paymentHash payment) ∨
        ∃ payment ∈ payments, Succeeded lib .outbound paymentHash payment := by
  constructor
  · rintro ⟨payment, hmem, hash, hkind, hstatus, hhash⟩
    cases hdirection : payment.direction with
    | inbound => exact Or.inl ⟨payment, hmem, hdirection, ⟨hash, hkind, hhash⟩, hstatus⟩
    | outbound => exact Or.inr ⟨payment, hmem, hdirection, ⟨hash, hkind, hhash⟩, hstatus⟩
  · intro hsome
    rcases hsome with ⟨payment, hmem, hpayment⟩ | ⟨payment, hmem, hpayment⟩
    all_goals
      obtain ⟨hash, hkind, hhash⟩ := hpayment.kind
      exact ⟨payment, hmem, hash, hkind, hpayment.status, hhash⟩

/-- A purchase that is not marked paid counts as paid exactly when its hash is
    settled in the list that the node answers with. -/
theorem paidOrSettled_reaches {h : List DaemonCall} {paid : Bool}
    (hr : Reaches (Gate.paidOrSettled lib false paymentHash) (⟨.listPayments, payments⟩ :: h)
      (.done paid)) :
    paid = true ↔ Settled lib payments paymentHash := by
  simp only [Gate.paidOrSettled, perform_bind, Bool.false_eq_true, if_false] at hr
  obtain ⟨listed, h', heq, hrest⟩ := reaches_call_iff.mp hr
  obtain rfl : payments = listed := by simpa using (List.cons.inj heq).1
  by_cases hsettled : Gate.settledOnNode lib payments paymentHash = true
  · rw [if_pos hsettled] at hrest
    obtain ⟨marked, h'', -, hdone⟩ := reaches_call_iff.mp hrest
    have hpaid : paid = true := Process.done.inj hdone.of_done.2
    exact iff_of_true hpaid (settledOnNode_iff.mp hsettled)
  · rw [if_neg hsettled] at hrest
    have hopen : paid = false := Process.done.inj hrest.of_done.2
    rw [hopen, ← settledOnNode_iff]
    exact iff_of_false Bool.false_ne_true hsettled

/-- What `settled_on_node` says it checks, for one list and one hash: it reports the
    settled inbound payments, and no other record makes a purchase count as paid. -/
structure ReportsReceipts (lib : Crates) (payments : List PaymentDetails)
    (paymentHash : String) : Prop where
  listed : Gate.settledOnNode lib payments paymentHash = true ↔
    ∃ payment ∈ payments, Succeeded lib .inbound paymentHash payment
  counted : ∀ h, Reaches (Gate.paidOrSettled lib false paymentHash)
      (⟨.listPayments, payments⟩ :: h) (.done true) →
    ∃ payment ∈ payments, Succeeded lib .inbound paymentHash payment

/-- The answer is right exactly when no payment with this hash has gone out, unless one
    has come in as well. -/
theorem reportsReceipts_iff :
    ReportsReceipts lib payments paymentHash ↔
      ((∃ payment ∈ payments, Succeeded lib .outbound paymentHash payment) →
        ∃ payment ∈ payments, Succeeded lib .inbound paymentHash payment) := by
  constructor
  · intro hreports hsent
    exact hreports.listed.mp (settledOnNode_iff.mpr (settled_iff_direction.mpr (Or.inr hsent)))
  · intro hcovered
    have hreceived : Settled lib payments paymentHash →
        ∃ payment ∈ payments, Succeeded lib .inbound paymentHash payment := by
      intro hsettled
      rcases settled_iff_direction.mp hsettled with hreceived | hsent
      · exact hreceived
      · exact hcovered hsent
    constructor
    · rw [settledOnNode_iff]
      exact ⟨hreceived, fun h => settled_iff_direction.mpr (Or.inl h)⟩
    · intro h hr
      exact hreceived ((paidOrSettled_reaches hr).mp rfl)

end Settlement

namespace Sample

/-- A payment of the node's own, with the hash of a purchase. -/
def paidOut : PaymentDetails := ⟨.bolt11 paymentHash, .outbound, .succeeded⟩

end Sample

/-- The node has paid an invoice, and the purchase with its hash counts as paid. -/
theorem sent_not_reported :
    Gate.settledOnNode (Sample.crates Sample.upload) [Sample.paidOut]
        ((Sample.crates Sample.upload).hexEncode Sample.paymentHash) = true ∧
      ¬ ReportsReceipts (Sample.crates Sample.upload) [Sample.paidOut]
        ((Sample.crates Sample.upload).hexEncode Sample.paymentHash) := by
  have hsettled : Gate.settledOnNode (Sample.crates Sample.upload) [Sample.paidOut]
      ((Sample.crates Sample.upload).hexEncode Sample.paymentHash) = true := by
    simp [Gate.settledOnNode, Sample.paidOut]
  refine ⟨hsettled, fun hreports => ?_⟩
  obtain ⟨payment, hmem, hpayment⟩ := hreports.listed.mp hsettled
  obtain rfl := List.mem_singleton.mp hmem
  exact absurd hpayment.direction (by decide)

end ArtistNode
