import Payables.Ledger.Queries
import Payables.Proofs.Fallible
import Payables.Proofs.Order
import Payables.Proofs.Related

/-!
# What queries find

A query that succeeds has read every row that it selects, one record for each (`ReadAs`), and rows
can be read where each of them can (`exists_readAs_iff`).  A record carries the key that its row was
selected by, so selecting records by key is selecting rows (`ReadAs.filter`).

* `receiptsOf_perm`, `linesOfOrders_perm` — the queries for several keys find the rows that carry
  one of these, each one once.
* `linesOfOrders_single` — the lines of one order are found among those of several in the same
  order, since sorting is stable.
* `findOrder_eq_some_iff` — a purchase order is found by its header and its lines.
-/

namespace Payables.Ledger

variable {ρ α : Type}

/-! ## Rows and records -/

/-- The records are read off the rows, one by one. -/
def ReadAs (read? : ρ → Option α) (rows : List ρ) (xs : List α) : Prop :=
  List.Forall₂ (fun r x => read? r = some x) rows xs

section Read

variable {read? : ρ → Option α} {rows : List ρ} {xs : List α}

theorem ReadAs.map_eq (h : ReadAs read? rows xs) : rows.map read? = xs.map some :=
  map_eq_of_related h fun _ _ hx => hx

/-- Records that are selected by what the rows were selected by. -/
theorem ReadAs.filter (h : ReadAs read? rows xs) {p : ρ → Bool} {q : α → Bool}
    (hpq : ∀ r x, read? r = some x → p r = q x) : ReadAs read? (rows.filter p) (xs.filter q) :=
  filter_related h hpq

theorem ReadAs.exists_row (h : ReadAs read? rows xs) {x : α} (hx : x ∈ xs) :
    ∃ r ∈ rows, read? r = some x :=
  exists_of_related (R := fun r x => read? r = some x) h hx

theorem ReadAs.exists_record (h : ReadAs read? rows xs) {r : ρ} (hr : r ∈ rows) :
    ∃ x ∈ xs, read? r = some x := by
  have hmem : read? r ∈ xs.map some := h.map_eq ▸ List.mem_map_of_mem hr
  obtain ⟨x, hx, heq⟩ := List.mem_map.1 hmem
  exact ⟨x, hx, heq.symm⟩

/-- Records that are read and then selected, or selected and then read. -/
theorem filter_filterMap_read {p : ρ → Bool} {q : α → Bool}
    (hpq : ∀ r x, read? r = some x → p r = q x) (rows : List ρ) :
    (rows.filterMap read?).filter q = (rows.filter p).filterMap read? := by
  induction rows with
  | nil => rfl
  | cons r rest ih =>
    rw [List.filter_cons]
    cases hr : read? r with
    | none =>
      rw [List.filterMap_cons_none hr, ih]
      split
      · rw [List.filterMap_cons_none hr]
      · rfl
    | some x =>
      rw [List.filterMap_cons_some hr, List.filter_cons, ih, hpq r x hr]
      split
      · rw [List.filterMap_cons_some hr]
      · rfl

/-- A column that the records carry lists what they carry. -/
theorem ReadAs.filterMap_eq (h : ReadAs read? rows xs) {β : Type} {column : ρ → Option β}
    {key : α → β} (hkey : ∀ r x, read? r = some x → column r = some (key x)) :
    rows.filterMap column = xs.map key := by
  induction h with
  | nil => rfl
  | cons hx _ ih => rw [List.filterMap_cons_some (hkey _ _ hx), List.map_cons, ih]

theorem readRows_eq_ok_iff : readRows read? rows = .ok xs ↔ ReadAs read? rows xs := by
  unfold ReadAs
  induction rows generalizing xs with
  | nil => simp [readRows, eq_comm]
  | cons r rest ih =>
    rw [List.forall₂_cons_left_iff]
    simp only [readRows]
    cases hr : read? r with
    | none => simp
    | some x =>
      cases hrest : readRows read? rest with
      | error e =>
        rw [hrest] at ih
        simp [← ih]
      | ok ys =>
        rw [hrest] at ih
        simp only [Except.ok.injEq, Option.some.injEq, ← ih]
        exact ⟨fun h => ⟨x, ys, rfl, rfl, h.symm⟩, fun ⟨_, _, hx, hys, h⟩ => by rw [h, ← hx, hys]⟩

/-- Rows that can all be read can be read. -/
theorem exists_readAs_iff : (∃ xs, ReadAs read? rows xs) ↔ ∀ r ∈ rows, (read? r).isSome = true := by
  constructor
  · rintro ⟨xs, h⟩ r hr
    obtain ⟨x, -, hx⟩ := h.exists_record hr
    rw [hx]
    rfl
  · intro h
    induction rows with
    | nil => exact ⟨[], .nil⟩
    | cons r rest ih =>
      obtain ⟨hr, hrest⟩ := List.forall_mem_cons.1 h
      obtain ⟨x, hx⟩ := Option.isSome_iff_exists.1 hr
      obtain ⟨xs, hxs⟩ := ih hrest
      exact ⟨x :: xs, .cons hx hxs⟩

end Read

/-! ## Queries of one table -/

section Select

variable {table : Option (List ρ)} {condition : ρ → Bool} {read? : ρ → Option α} {xs : List α}

theorem selectAll_eq_ok_iff :
    selectAll table condition read? = .ok xs ↔
      ∃ rows, table = some rows ∧ ReadAs read? (rows.filter condition) xs := by
  cases table with
  | none => simp [selectAll]
  | some rows => simp [selectAll, readRows_eq_ok_iff]

theorem selectFirst_eq_some_iff {x : α} :
    selectFirst table condition read? = .ok (some x) ↔
      ∃ rows r, table = some rows ∧ rows.find? condition = some r ∧ read? r = some x := by
  cases table with
  | none => simp [selectFirst]
  | some rows =>
    cases hr : rows.find? condition with
    | none => simp [selectFirst, hr]
    | some r => cases hx : read? r <;> simp [selectFirst, hr, hx]

end Select

/-! ## Columns -/

theorem holds_iff {column : Option String} {s : String} :
    holds column s = true ↔ column = some s := by
  simp [holds]

theorem holdsOneOf_iff {column : Option String} {ss : List String} :
    holdsOneOf column ss = true ↔ ∃ s ∈ ss, column = some s := by
  cases column <;> simp [holdsOneOf, eq_comm]

/-- A record that is found by a key carries the key. -/
theorem key_of_selectFirst {table : Option (List ρ)} {column : ρ → Option String}
    {read? : ρ → Option α} {key : α → String}
    (hkey : ∀ r x, read? r = some x → column r = some (key x)) {s : String} {x : α}
    (h : selectFirst table (fun r => holds (column r) s) read? = .ok (some x)) : key x = s := by
  obtain ⟨rows, r, -, hfind, hread⟩ := selectFirst_eq_some_iff.1 h
  have hheld := List.find?_some (p := fun r => holds (column r) s) hfind
  have hcolumn := holds_iff.1 hheld
  rw [hkey r x hread] at hcolumn
  exact Option.some.inj hcolumn

theorem OrderRow.poNumber_of_header? {r : OrderRow} {h : PurchaseOrderHeader}
    (hr : r.header? = some h) : r.poNumber = some h.poNumber := by
  simp only [header?, bind, Option.bind_eq_some_iff, Option.some.injEq] at hr
  obtain ⟨number, hnumber, _, -, _, -, rfl⟩ := hr
  exact hnumber

theorem OrderLineRow.poNumber_of_line? {r : OrderLineRow} {l : PurchaseOrderLine}
    (hr : r.line? = some l) : r.poNumber = some l.poNumber := by
  simp only [line?, bind, Option.bind_eq_some_iff, Option.some.injEq] at hr
  obtain ⟨number, hnumber, _, -, _, -, _, -, _, -, rfl⟩ := hr
  exact hnumber

theorem InvoiceLineRow.invoiceId_of_line? {r : InvoiceLineRow} {l : InvoiceLine}
    (hr : r.line? = some l) : r.invoiceId = some l.invoiceId := by
  simp only [line?, bind, Option.bind_eq_some_iff, Option.some.injEq] at hr
  obtain ⟨id, hid, _, -, _, -, _, -, _, -, _, -, _, -, rfl⟩ := hr
  exact hid

theorem InvoiceRow.invoiceId_of_header? {r : InvoiceRow} {h : InvoiceHeader}
    (hr : r.header? = some h) : r.invoiceId = some h.invoiceId := by
  simp only [header?, bind, Option.bind_eq_some_iff, Option.some.injEq] at hr
  obtain ⟨id, hid, _, -, _, -, _, -, _, -, rfl⟩ := hr
  exact hid

theorem ReceiptRow.document_of_receipt? {r : ReceiptRow} {x : GoodsReceipt}
    (hr : r.receipt? = some x) : r.document = some x.document := by
  simp only [receipt?, bind, Option.bind_eq_some_iff, Option.some.injEq] at hr
  obtain ⟨document, hdocument, _, -, _, -, _, -, rfl⟩ := hr
  exact hdocument

/-! ## Orders of texts and numbers -/

theorem textNumberLe_iff {a b : String × ℤ} : textNumberLe a b = true ↔ toLex a ≤ toLex b := by
  rw [Prod.Lex.toLex_le_toLex, textNumberLe]
  by_cases htext : a.1 = b.1
  · simp [htext, intLe]
  · simp [htext, textLe, le_iff_lt_or_eq]

theorem textNumberLe_total (key : α → String × ℤ) (a b : α) :
    textNumberLe (key a) (key b) = true ∨ textNumberLe (key b) (key a) = true := by
  rw [textNumberLe_iff, textNumberLe_iff]
  exact le_total _ _

theorem textNumberLe_trans (key : α → String × ℤ) (a b c : α)
    (hab : textNumberLe (key a) (key b) = true) (hbc : textNumberLe (key b) (key c) = true) :
    textNumberLe (key a) (key c) = true := by
  rw [textNumberLe_iff] at *
  exact hab.trans hbc

namespace Tables

variable {t : Tables}

/-! ## The queries -/

theorem linesOfOrders_eq_ok_iff {numbers : List String} {ls : List PurchaseOrderLine} :
    t.linesOfOrders numbers = .ok ls ↔
      ∃ rows xs, t.orderLines = some rows ∧
        ReadAs OrderLineRow.line? (rows.filter fun r => holdsOneOf r.poNumber numbers) xs ∧
        ls = sortBy
          (fun a b => textNumberLe (a.poNumber, a.lineNum) (b.poNumber, b.lineNum)) xs := by
  unfold linesOfOrders
  constructor
  · intro h
    split at h
    · cases h
    · rename_i xs hxs
      cases h
      obtain ⟨rows, hrows, hread⟩ := selectAll_eq_ok_iff.1 hxs
      exact ⟨rows, xs, hrows, hread, rfl⟩
  · rintro ⟨rows, xs, hrows, hread, rfl⟩
    rw [selectAll_eq_ok_iff.2 ⟨rows, hrows, hread⟩]

/-- **The lines of one order** are those among the lines of several that carry its number, and they
stand in the same order. -/
theorem linesOfOrders_single {numbers : List String} {ls : List PurchaseOrderLine}
    (h : t.linesOfOrders numbers = .ok ls) {number : String} (hn : number ∈ numbers) :
    t.linesOfOrders [number] = .ok (ls.filter fun l => l.poNumber == number) := by
  obtain ⟨rows, xs, hrows, hread, rfl⟩ := linesOfOrders_eq_ok_iff.1 h
  refine linesOfOrders_eq_ok_iff.2 ⟨rows, _, hrows, ?_, filter_sortBy_le
    (textNumberLe_total fun l : PurchaseOrderLine => (l.poNumber, l.lineNum))
    (textNumberLe_trans fun l : PurchaseOrderLine => (l.poNumber, l.lineNum)) xs _⟩
  have hselect : (rows.filter fun r => holdsOneOf r.poNumber [number]) =
      (rows.filter fun r => holdsOneOf r.poNumber numbers).filter
        fun r => holdsOneOf r.poNumber [number] := by
    rw [List.filter_filter]
    refine List.filter_congr fun r _ => ?_
    rw [Bool.eq_iff_iff, Bool.and_eq_true, holdsOneOf_iff, holdsOneOf_iff]
    constructor
    · rintro ⟨s, hs, hr⟩
      obtain rfl := List.mem_singleton.1 hs
      exact ⟨⟨s, hs, hr⟩, s, hn, hr⟩
    · exact And.left
  rw [hselect]
  refine hread.filter fun r l hl => ?_
  rw [OrderLineRow.poNumber_of_line? hl, Bool.eq_iff_iff]
  simp [holdsOneOf]

/-- What a query for the lines of orders finds are the records of their rows. -/
theorem linesOfOrders_perm {numbers : List String} {ls : List PurchaseOrderLine}
    (h : t.linesOfOrders numbers = .ok ls) {rows : List OrderLineRow}
    (hrows : t.orderLines = some rows) :
    (ls.map some).Perm
      ((rows.filter fun r => holdsOneOf r.poNumber numbers).map OrderLineRow.line?) := by
  obtain ⟨rows', xs, hrows', hread, rfl⟩ := linesOfOrders_eq_ok_iff.1 h
  obtain rfl : rows = rows' := Option.some.inj (hrows.symm.trans hrows')
  rw [hread.map_eq]
  exact (sortBy_perm _ xs).map some

/-- The lines that are found carry a number that was asked for. -/
theorem poNumber_mem_of_linesOfOrders {numbers : List String} {ls : List PurchaseOrderLine}
    (h : t.linesOfOrders numbers = .ok ls) {l : PurchaseOrderLine} (hl : l ∈ ls) :
    l.poNumber ∈ numbers := by
  obtain ⟨rows, xs, -, hread, rfl⟩ := linesOfOrders_eq_ok_iff.1 h
  obtain ⟨r, hr, hread⟩ := hread.exists_row (mem_sortBy.1 hl)
  obtain ⟨s, hs, hcolumn⟩ := holdsOneOf_iff.1 (List.mem_filter.1 hr).2
  rw [OrderLineRow.poNumber_of_line? hread] at hcolumn
  obtain rfl := Option.some.inj hcolumn
  exact hs

/-- The lines that are found for an invoice are its own. -/
theorem invoiceId_of_linesOfInvoice {id : String} {ls : List InvoiceLine}
    (h : t.linesOfInvoice id = .ok ls) {l : InvoiceLine} (hl : l ∈ ls) : l.invoiceId = id := by
  unfold linesOfInvoice at h
  split at h
  · cases h
  · rename_i xs hxs
    cases h
    obtain ⟨rows, -, hread⟩ := selectAll_eq_ok_iff.1 hxs
    obtain ⟨r, hr, hline⟩ := hread.exists_row (mem_sortBy.1 hl)
    have hid := holds_iff.1 (List.mem_filter.1 hr).2
    rw [InvoiceLineRow.invoiceId_of_line? hline] at hid
    exact Option.some.inj hid

/-- The header that is found for an invoice is its own. -/
theorem invoiceId_of_findInvoice {id : String} {header : InvoiceHeader}
    (h : t.findInvoice id = .ok (some header)) : header.invoiceId = id :=
  key_of_selectFirst (fun _ _ => InvoiceRow.invoiceId_of_header?) h

/-- So is the header that is found for a purchase order. -/
theorem poNumber_of_findOrderHeader {number : String} {header : PurchaseOrderHeader}
    (h : t.findOrderHeader number = .ok (some header)) : header.poNumber = number :=
  key_of_selectFirst (fun _ _ => OrderRow.poNumber_of_header?) h

/-- **The receipts of documents** are the records of the rows that carry one of these. -/
theorem receiptsOf_perm {documents : List String} {rs : List GoodsReceipt}
    (h : t.receiptsOf documents = .ok rs) :
    (rs.map some).Perm
      (((t.receipts.getD []).filter fun r => holdsOneOf r.document documents).map
        ReceiptRow.receipt?) := by
  unfold receiptsOf at h
  split at h
  · rename_i hnone
    cases h
    obtain rfl := List.isEmpty_iff.1 hnone
    have hempty : ((t.receipts.getD []).filter fun r => holdsOneOf r.document []) = [] := by
      refine List.filter_eq_nil_iff.2 fun r _ => ?_
      simp [holdsOneOf_iff]
    rw [hempty]
    exact .nil
  · split at h
    · cases h
    · rename_i xs hxs
      cases h
      obtain ⟨rows, hrows, hread⟩ := selectAll_eq_ok_iff.1 hxs
      rw [hrows, Option.getD_some, hread.map_eq]
      exact (sortBy_perm _ xs).map some

/-- **A purchase order that is found** has the header and the lines that are found. -/
theorem findOrder_eq_some_iff {number : String} {po : PurchaseOrder} :
    t.findOrder number = .ok (some po) ↔
      t.findOrderHeader number = .ok (some po.toPurchaseOrderHeader) ∧
        t.linesOfOrders [number] = .ok po.lines := by
  obtain ⟨header, lines⟩ := po
  unfold findOrder
  rw [bind_eq_ok_iff]
  constructor
  · rintro ⟨header?, hheader, h⟩
    cases header? with
    | none => cases h
    | some found =>
      obtain ⟨ls, hls, h⟩ := bind_eq_ok_iff.1 h
      cases h
      exact ⟨hheader, hls⟩
  · rintro ⟨hheader, hls⟩
    refine ⟨_, hheader, ?_⟩
    exact bind_eq_ok_iff.2 ⟨lines, hls, rfl⟩

end Tables
end Payables.Ledger
