import Payables.Ledger.Load
import Payables.Proofs.Fallible

/-!
# Loading from the ledger

A snapshot is asked for query by query (`snapshot_eq_ok_iff`), and the first query that fails ends
the loading.  Apart from that, an invoice that the ledger has is loaded, and nothing else can happen
to one that it has not than to be named (`snapshot_eq_error`).
-/

namespace Payables.Ledger

variable {α β : Type}

theorem asked_eq_ok_iff {answer : Except LedgerError α} {x : α} :
    asked answer = .ok x ↔ answer = .ok x := by
  cases answer <;> simp [asked]

theorem ledger_of_asked {answer : Except LedgerError α} {e : LoadError}
    (h : asked answer = .error e) : ∃ e', e = .ledger e' := by
  cases answer with
  | error e' =>
    cases h
    exact ⟨e', rfl⟩
  | ok x => cases h

/-- What begins with a query fails with the query, or after its answer. -/
theorem asked_bind_eq_error {answer : Except LedgerError α} {f : α → Except LoadError β}
    {e : LoadError} (h : asked answer >>= f = .error e) :
    (∃ e', e = .ledger e') ∨ ∃ x, answer = .ok x ∧ f x = .error e := by
  rcases bind_eq_error_iff.1 h with h | ⟨x, hx, h⟩
  · exact Or.inl (ledger_of_asked h)
  · exact Or.inr ⟨x, asked_eq_ok_iff.1 hx, h⟩

namespace Tables

variable {t : Tables} {id : String}

/-- The ledger has the header of an invoice. -/
def Has (t : Tables) (id : String) : Prop := ∃ header, t.findInvoice id = .ok (some header)

/-- The answers that a snapshot is put together from. -/
structure Loads (t : Tables) (id : String) (s : Snapshot) : Prop where
  header : t.findInvoice id = .ok (some s.header)
  lines : t.linesOfInvoice id = .ok s.lines
  order : t.orderOf s.header = .ok s.purchaseOrder
  receipts : t.receiptsOf (receiptDocuments s.lines) = .ok s.receipts
  vendor : t.findVendor s.header.vendorId = .ok s.vendor
  posted : t.postedBy s.header.vendorId id = .ok s.posted

/-- **A snapshot is loaded** where every query is answered. -/
theorem snapshot_eq_ok_iff {s : Snapshot} : t.snapshot id = .ok s ↔ t.Loads id s := by
  unfold Tables.snapshot
  rw [bind_eq_ok_iff]
  constructor
  · rintro ⟨header?, hheader, h⟩
    cases header? with
    | none => cases h
    | some header =>
      obtain ⟨lines, hlines, h⟩ := bind_eq_ok_iff.1 h
      obtain ⟨order, horder, h⟩ := bind_eq_ok_iff.1 h
      obtain ⟨receipts, hreceipts, h⟩ := bind_eq_ok_iff.1 h
      obtain ⟨vendor, hvendor, h⟩ := bind_eq_ok_iff.1 h
      obtain ⟨posted, hposted, h⟩ := bind_eq_ok_iff.1 h
      cases h
      exact ⟨asked_eq_ok_iff.1 hheader, asked_eq_ok_iff.1 hlines, asked_eq_ok_iff.1 horder,
        asked_eq_ok_iff.1 hreceipts, asked_eq_ok_iff.1 hvendor, asked_eq_ok_iff.1 hposted⟩
  · intro h
    refine ⟨_, asked_eq_ok_iff.2 h.header, ?_⟩
    refine bind_eq_ok_iff.2 ⟨_, asked_eq_ok_iff.2 h.lines, ?_⟩
    refine bind_eq_ok_iff.2 ⟨_, asked_eq_ok_iff.2 h.order, ?_⟩
    refine bind_eq_ok_iff.2 ⟨_, asked_eq_ok_iff.2 h.receipts, ?_⟩
    refine bind_eq_ok_iff.2 ⟨_, asked_eq_ok_iff.2 h.vendor, ?_⟩
    exact bind_eq_ok_iff.2 ⟨_, asked_eq_ok_iff.2 h.posted, rfl⟩

theorem has_of_snapshot {snapshot : Snapshot} (h : t.snapshot id = .ok snapshot) : t.Has id :=
  ⟨snapshot.header, (snapshot_eq_ok_iff.1 h).header⟩

/-- A snapshot cannot be loaded where the ledger fails or the invoice is not there. -/
theorem snapshot_eq_error {e : LoadError} (h : t.snapshot id = .error e) :
    (∃ e', e = .ledger e') ∨ t.findInvoice id = .ok none ∧ e = .notFound id := by
  unfold Tables.snapshot at h
  rcases asked_bind_eq_error h with hledger | ⟨header?, hfind, h⟩
  · exact Or.inl hledger
  cases header? with
  | none =>
    cases h
    exact Or.inr ⟨hfind, rfl⟩
  | some header =>
    -- once the invoice is there, only a query can fail
    left
    rcases asked_bind_eq_error h with hledger | ⟨_, -, h⟩
    · exact hledger
    rcases asked_bind_eq_error h with hledger | ⟨_, -, h⟩
    · exact hledger
    rcases asked_bind_eq_error h with hledger | ⟨_, -, h⟩
    · exact hledger
    rcases asked_bind_eq_error h with hledger | ⟨_, -, h⟩
    · exact hledger
    rcases asked_bind_eq_error h with hledger | ⟨_, -, h⟩
    · exact hledger
    · cases h

end Tables
end Payables.Ledger
