import Payables.Proofs.Ledger.Queries

/-!
# Two ways to a purchase order

The open orders of a vendor are loaded together, with one query for all of their lines, which are
then dealt out: each order takes those of its number from what the orders before it have left.

* `dealLines_eq` — what is left has everything that an order needs, so each takes the lines of its
  number, as if it had been alone.
* `dealLines_perm` — nothing is lost and nothing is dealt out twice.
* `openOrders_agree` — the open orders are loaded where their rows can be read; there is one for
  each header, in the order of the numbers, and each is what the query for a single order finds.
-/

namespace Payables.Ledger

/-! ## Dealing lines out -/

section Deal

variable {hs : List PurchaseOrderHeader}

/-- The header with those of some lines that carry its number. -/
def withOwnLines (ls : List PurchaseOrderLine) (h : PurchaseOrderHeader) : PurchaseOrder :=
  { toPurchaseOrderHeader := h, lines := ls.filter fun l => l.poNumber == h.poNumber }

/-- Lines of another number do not count. -/
theorem withOwnLines_filter_ne {h h' : PurchaseOrderHeader} (hne : h'.poNumber ≠ h.poNumber)
    (ls : List PurchaseOrderLine) :
    withOwnLines (ls.filter fun l => !(l.poNumber == h.poNumber)) h' = withOwnLines ls h' := by
  have hown : (ls.filter fun l => !(l.poNumber == h.poNumber)).filter
      (fun l => l.poNumber == h'.poNumber) = ls.filter fun l => l.poNumber == h'.poNumber := by
    rw [List.filter_filter]
    refine List.filter_congr fun l _ => ?_
    by_cases hl : l.poNumber = h'.poNumber
    · simp [hl, hne]
    · simp [hl]
  rw [withOwnLines, hown]
  rfl

/-- **Each header takes the lines of its number.**  What the headers before it have taken carries
other numbers. -/
theorem dealLines_eq (hnodup : (hs.map PurchaseOrderHeader.poNumber).Nodup)
    (ls : List PurchaseOrderLine) : Tables.dealLines hs ls = hs.map (withOwnLines ls) := by
  induction hs generalizing ls with
  | nil => rfl
  | cons h rest ih =>
    obtain ⟨hnew, hrest⟩ := List.nodup_cons.1 hnodup
    rw [Tables.dealLines, ih hrest, List.map_cons]
    congr 1
    refine List.map_congr_left fun h' hh' => withOwnLines_filter_ne ?_ ls
    intro heq
    exact hnew (heq ▸ List.mem_map_of_mem hh')

/-- **Every line is dealt out once**, if there is a header for it. -/
theorem dealLines_perm {ls : List PurchaseOrderLine}
    (h : ∀ l ∈ ls, l.poNumber ∈ hs.map PurchaseOrderHeader.poNumber) :
    ((Tables.dealLines hs ls).flatMap PurchaseOrder.lines).Perm ls := by
  induction hs generalizing ls with
  | nil =>
    obtain rfl : ls = [] := List.eq_nil_iff_forall_not_mem.2 fun l hl => by simpa using h l hl
    exact .nil
  | cons head rest ih =>
    have hleft : ∀ l ∈ ls.filter fun l => !(l.poNumber == head.poNumber),
        l.poNumber ∈ rest.map PurchaseOrderHeader.poNumber := by
      intro l hl
      obtain ⟨hmem, hne⟩ := List.mem_filter.1 hl
      refine (List.mem_cons.1 (h l hmem)).resolve_left ?_
      simpa using hne
    rw [Tables.dealLines, List.flatMap_cons]
    exact ((ih hleft).append_left _).trans
      (List.filter_append_perm (fun l => l.poNumber == head.poNumber) ls)

end Deal

/-! ## Rows of open orders -/

/-- The row is of an order of this vendor, and the order is not closed. -/
def OrderRow.isOpenFor (vendorId : String) (r : OrderRow) : Bool :=
  holds r.vendorId vendorId && r.closed == some false

/-- A row that is looked up by a number that no other row has. -/
theorem find?_column {rows : List OrderRow} (hnodup : (rows.filterMap OrderRow.poNumber).Nodup)
    {r : OrderRow} (hr : r ∈ rows) {number : String} (hn : r.poNumber = some number) :
    (rows.find? fun r => holds r.poNumber number) = some r := by
  induction rows with
  | nil => cases hr
  | cons r' rest ih =>
    rw [List.find?_cons]
    by_cases hr' : r'.poNumber = some number
    · rw [holds_iff.2 hr']
      rw [List.filterMap_cons_some hr'] at hnodup
      rcases List.mem_cons.1 hr with rfl | hr
      · rfl
      · exact absurd (List.mem_filterMap.2 ⟨r, hr, hn⟩) (List.nodup_cons.1 hnodup).1
    · rw [Bool.eq_false_iff.2 (mt holds_iff.1 hr')]
      have hrest : r ∈ rest := by
        rcases List.mem_cons.1 hr with rfl | hr
        · exact absurd hn hr'
        · exact hr
      refine ih (hnodup.sublist ?_) hrest
      exact (List.sublist_cons_self r' rest).filterMap _

namespace Tables

variable {t : Tables} {vendorId : String}

/-- No number has two rows in the table of purchase orders. -/
def OrdersUnique (t : Tables) : Prop :=
  ∀ rows, t.orders = some rows → (rows.filterMap OrderRow.poNumber).Nodup

/-- The rows that the open orders of a vendor are kept in are complete: the headers, and the lines
with their numbers if there are headers. -/
def OpenOrdersReadable (t : Tables) (vendorId : String) : Prop :=
  ∃ rows, t.orders = some rows ∧
    (∀ r ∈ rows, r.isOpenFor vendorId = true → r.header?.isSome = true) ∧
    ((∃ r ∈ rows, r.isOpenFor vendorId = true) →
      ∃ lineRows, t.orderLines = some lineRows ∧
        ∀ x ∈ lineRows, (∃ r ∈ rows, r.isOpenFor vendorId = true ∧ x.poNumber.isSome = true ∧
          r.poNumber = x.poNumber) → x.line?.isSome = true)

/-! ## Headers -/

/-- Headers by their numbers. -/
def sortHeaders (hs : List PurchaseOrderHeader) : List PurchaseOrderHeader :=
  sortBy (fun a b => textLe a.poNumber b.poNumber) hs

theorem sortHeaders_perm (hs : List PurchaseOrderHeader) : (sortHeaders hs).Perm hs :=
  sortBy_perm _ hs

/-- Distinct numbers stand in ascending order. -/
theorem sortHeaders_pairwise {hs : List PurchaseOrderHeader}
    (h : (hs.map PurchaseOrderHeader.poNumber).Nodup) :
    (sortHeaders hs).Pairwise fun a b => a.poNumber < b.poNumber := by
  have hsorted : (sortHeaders hs).Pairwise fun a b => textLe a.poNumber b.poNumber = true := by
    refine sortBy_pairwise_le ?_ ?_ hs
    · intro a b
      simpa [textLe] using le_total a.poNumber b.poNumber
    · intro a b c hab hbc
      simp only [textLe, decide_eq_true_eq] at *
      exact hab.trans hbc
  have hnodup : ((sortHeaders hs).map PurchaseOrderHeader.poNumber).Nodup :=
    ((sortHeaders_perm hs).map _).nodup_iff.2 h
  refine (hsorted.and (List.pairwise_map.1 hnodup)).imp ?_
  rintro a b ⟨hle, hne⟩
  exact lt_of_le_of_ne (of_decide_eq_true hle) hne

/-- How the open orders are loaded. -/
theorem openOrders_eq_ok_iff {orders : List PurchaseOrder} :
    t.openOrders vendorId = .ok orders ↔
      ∃ rows found, t.orders = some rows ∧
        ReadAs OrderRow.header? (rows.filter (OrderRow.isOpenFor vendorId)) found ∧
        (found = [] ∧ orders = [] ∨
          found ≠ [] ∧ ∃ ls,
            t.linesOfOrders ((sortHeaders found).map PurchaseOrderHeader.poNumber) = .ok ls ∧
            orders = dealLines (sortHeaders found) ls) := by
  have hfound : ∀ found, selectAll t.orders (OrderRow.isOpenFor vendorId) OrderRow.header? =
      .ok found ↔ _ := fun found => selectAll_eq_ok_iff
  have hempty : ∀ found, (sortHeaders found).isEmpty = true ↔ found = [] := by
    intro found
    rw [(sortHeaders_perm found).isEmpty_eq, List.isEmpty_iff]
  unfold openOrders
  rw [bind_eq_ok_iff]
  constructor
  · rintro ⟨found, hselect, h⟩
    obtain ⟨rows, hrows, hread⟩ := (hfound found).1 hselect
    refine ⟨rows, found, hrows, hread, ?_⟩
    change (if (sortHeaders found).isEmpty = true then _ else _) = _ at h
    split at h
    · rename_i hnone
      cases h
      exact Or.inl ⟨(hempty found).1 hnone, rfl⟩
    · rename_i hsome
      obtain ⟨ls, hls, h⟩ := bind_eq_ok_iff.1 h
      cases h
      exact Or.inr ⟨fun hnil => hsome ((hempty found).2 hnil), ls, hls, rfl⟩
  · rintro ⟨rows, found, hrows, hread, h⟩
    refine ⟨found, (hfound found).2 ⟨rows, hrows, hread⟩, ?_⟩
    change (if (sortHeaders found).isEmpty = true then _ else _) = _
    rcases h with ⟨hnone, rfl⟩ | ⟨hsome, ls, hls, rfl⟩
    · exact if_pos ((hempty found).2 hnone)
    · rw [if_neg fun hnil => hsome ((hempty found).1 hnil)]
      exact bind_eq_ok_iff.2 ⟨ls, hls, rfl⟩

section Found

variable {rows : List OrderRow} {found : List PurchaseOrderHeader}

/-- The headers that are found have distinct numbers. -/
theorem OrdersUnique.nodup (hunique : t.OrdersUnique) (hrows : t.orders = some rows)
    (hread : ReadAs OrderRow.header? (rows.filter (OrderRow.isOpenFor vendorId)) found) :
    (found.map PurchaseOrderHeader.poNumber).Nodup := by
  rw [← hread.filterMap_eq fun _ _ => OrderRow.poNumber_of_header?]
  exact (hunique rows hrows).sublist (List.filter_sublist.filterMap _)

/-- The query for a single header finds each of them. -/
theorem OrdersUnique.findOrderHeader (hunique : t.OrdersUnique) (hrows : t.orders = some rows)
    (hread : ReadAs OrderRow.header? (rows.filter (OrderRow.isOpenFor vendorId)) found)
    {h : PurchaseOrderHeader} (hh : h ∈ found) :
    t.findOrderHeader h.poNumber = .ok (some h) := by
  obtain ⟨r, hr, hheader⟩ := hread.exists_row hh
  have hfind := find?_column (hunique rows hrows) (List.mem_of_mem_filter hr)
    (OrderRow.poNumber_of_header? hheader)
  exact selectFirst_eq_some_iff.2 ⟨rows, r, hrows, hfind, hheader⟩

/-- Lines are asked for by the numbers of the rows. -/
theorem mem_numbers_iff
    (hread : ReadAs OrderRow.header? (rows.filter (OrderRow.isOpenFor vendorId)) found)
    {number : String} :
    number ∈ (sortHeaders found).map PurchaseOrderHeader.poNumber ↔
      ∃ r ∈ rows, r.isOpenFor vendorId = true ∧ r.poNumber = some number := by
  rw [((sortHeaders_perm found).map _).mem_iff,
    ← hread.filterMap_eq fun _ _ => OrderRow.poNumber_of_header?]
  simp only [List.mem_filterMap, List.mem_filter, and_assoc]

end Found

/-- Where the open orders are loaded, their rows are complete. -/
theorem readable_of_openOrders {orders : List PurchaseOrder}
    (h : t.openOrders vendorId = .ok orders) : t.OpenOrdersReadable vendorId := by
  obtain ⟨rows, found, hrows, hread, h⟩ := openOrders_eq_ok_iff.1 h
  have hheaders := exists_readAs_iff.1 ⟨found, hread⟩
  refine ⟨rows, hrows, fun r hr hopen => hheaders r (List.mem_filter.2 ⟨hr, hopen⟩), ?_⟩
  rintro ⟨r, hr, hopen⟩
  obtain ⟨header, hheader, -⟩ := hread.exists_record (List.mem_filter.2 ⟨hr, hopen⟩)
  obtain ⟨rfl, -⟩ | ⟨-, ls, hls, -⟩ := h
  · cases hheader
  obtain ⟨lineRows, xs, hlineRows, hreadLines, -⟩ := linesOfOrders_eq_ok_iff.1 hls
  have hlines := exists_readAs_iff.1 ⟨xs, hreadLines⟩
  refine ⟨lineRows, hlineRows, ?_⟩
  rintro x hx ⟨r', hr', hopen', hsome, hnumber⟩
  obtain ⟨number, hn⟩ := Option.isSome_iff_exists.1 hsome
  have hmem := (mem_numbers_iff hread).2 ⟨r', hr', hopen', hnumber.trans hn⟩
  exact hlines x (List.mem_filter.2 ⟨hx, holdsOneOf_iff.2 ⟨number, hmem, hn⟩⟩)

/-- Where their rows are complete, they are loaded. -/
theorem exists_openOrders (h : t.OpenOrdersReadable vendorId) :
    ∃ orders, t.openOrders vendorId = .ok orders := by
  obtain ⟨rows, hrows, hheaders, hlines⟩ := h
  obtain ⟨found, hread⟩ : ∃ found, ReadAs OrderRow.header?
      (rows.filter (OrderRow.isOpenFor vendorId)) found := by
    refine exists_readAs_iff.2 fun r hr => ?_
    obtain ⟨hmem, hopen⟩ := List.mem_filter.1 hr
    exact hheaders r hmem hopen
  by_cases hnone : found = []
  · exact ⟨[], openOrders_eq_ok_iff.2 ⟨rows, found, hrows, hread, Or.inl ⟨hnone, rfl⟩⟩⟩
  obtain ⟨header, hheader⟩ := List.exists_mem_of_ne_nil found hnone
  obtain ⟨r, hr, -⟩ := hread.exists_row hheader
  obtain ⟨hmem, hopen⟩ := List.mem_filter.1 hr
  obtain ⟨lineRows, hlineRows, hcomplete⟩ := hlines ⟨r, hmem, hopen⟩
  obtain ⟨xs, hxs⟩ : ∃ xs, ReadAs OrderLineRow.line? (lineRows.filter fun x =>
      holdsOneOf x.poNumber ((sortHeaders found).map PurchaseOrderHeader.poNumber)) xs := by
    refine exists_readAs_iff.2 fun x hx => ?_
    obtain ⟨hx, hnumber⟩ := List.mem_filter.1 hx
    obtain ⟨number, hasked, hn⟩ := holdsOneOf_iff.1 hnumber
    obtain ⟨r', hr', hopen', hn'⟩ := (mem_numbers_iff hread).1 hasked
    exact hcomplete x hx ⟨r', hr', hopen', by rw [hn]; rfl, hn'.trans hn.symm⟩
  have hls := linesOfOrders_eq_ok_iff.2 ⟨lineRows, xs, hlineRows, hxs, rfl⟩
  exact ⟨_, openOrders_eq_ok_iff.2 ⟨rows, found, hrows, hread, Or.inr ⟨hnone, _, hls, rfl⟩⟩⟩

/-- What the open orders of a vendor are, beside the rows of the tables. -/
structure OpenOrdersOf (t : Tables) (vendorId : String) (rows : List OrderRow)
    (orders : List PurchaseOrder) : Prop where
  /-- They stand in the order of their numbers. -/
  ascending : orders.Pairwise fun o o' => o.poNumber < o'.poNumber
  /-- There is one for each row of an open order of the vendor. -/
  headers : (orders.map fun o => some o.toPurchaseOrderHeader).Perm
    ((rows.filter (OrderRow.isOpenFor vendorId)).map OrderRow.header?)
  /-- Each is what the query for a single order finds. -/
  single : ∀ o ∈ orders, t.findOrder o.poNumber = .ok (some o)
  /-- No line is attached to another order. -/
  own : ∀ o ∈ orders, ∀ l ∈ o.lines, l.poNumber = o.poNumber
  /-- No row of a line is lost or taken twice. -/
  lines : ∀ lineRows, t.orderLines = some lineRows →
    ((orders.flatMap PurchaseOrder.lines).map some).Perm
      ((lineRows.filter fun x => holdsOneOf x.poNumber
        (orders.map fun o => o.poNumber)).map OrderLineRow.line?)

/-- Without open orders nothing is loaded. -/
theorem openOrdersOf_nil {rows : List OrderRow}
    (hread : ReadAs OrderRow.header? (rows.filter (OrderRow.isOpenFor vendorId)) []) :
    t.OpenOrdersOf vendorId rows [] where
  ascending := .nil
  headers := by
    rw [hread.map_eq]
    exact .nil
  single := by simp
  own := by simp
  lines := by
    intro lineRows _
    have hnone : (lineRows.filter fun x => holdsOneOf x.poNumber []) = [] := by
      refine List.filter_eq_nil_iff.2 fun x _ => ?_
      simp [holdsOneOf_iff]
    rw [List.map_nil, hnone]
    exact .nil

/-- Otherwise the lines are dealt out to the headers. -/
theorem OrdersUnique.openOrdersOf_dealLines (hunique : t.OrdersUnique) {rows : List OrderRow}
    (hrows : t.orders = some rows) {found : List PurchaseOrderHeader}
    (hread : ReadAs OrderRow.header? (rows.filter (OrderRow.isOpenFor vendorId)) found)
    {ls : List PurchaseOrderLine}
    (hls : t.linesOfOrders ((sortHeaders found).map PurchaseOrderHeader.poNumber) = .ok ls) :
    t.OpenOrdersOf vendorId rows (dealLines (sortHeaders found) ls) := by
  have hnodup := hunique.nodup hrows hread
  have hdealt := dealLines_perm fun l => poNumber_mem_of_linesOfOrders hls
  rw [dealLines_eq (((sortHeaders_perm found).map _).nodup_iff.2 hnodup) ls] at hdealt ⊢
  refine ⟨?_, ?_, ?_, ?_, ?_⟩
  · exact List.pairwise_map.2 (sortHeaders_pairwise hnodup)
  · rw [List.map_map, hread.map_eq]
    exact (sortHeaders_perm found).map some
  · intro o ho
    obtain ⟨header, hheader, rfl⟩ := List.mem_map.1 ho
    have hmem : header ∈ found := (sortHeaders_perm found).mem_iff.1 hheader
    exact findOrder_eq_some_iff.2 ⟨hunique.findOrderHeader hrows hread hmem,
      linesOfOrders_single hls (List.mem_map_of_mem hheader)⟩
  · intro o ho l hl
    obtain ⟨header, -, rfl⟩ := List.mem_map.1 ho
    exact eq_of_beq (List.mem_filter.1 hl).2
  · intro lineRows hlineRows
    rw [List.map_map]
    exact (hdealt.map some).trans (linesOfOrders_perm hls hlineRows)

/-- **The two ways to a purchase order agree.**  Where no number has two rows, the open orders of a
vendor are loaded exactly where their rows are complete.  They come in ascending order, one for each
row of an open order of the vendor; each is the order that the query for its number finds; and the
rows of their lines are dealt out to them by their numbers, each one once. -/
theorem openOrders_agree (hunique : t.OrdersUnique) (vendorId : String) :
    ((∃ orders, t.openOrders vendorId = .ok orders) ↔ t.OpenOrdersReadable vendorId) ∧
      ∀ orders, t.openOrders vendorId = .ok orders →
        ∃ rows, t.orders = some rows ∧ t.OpenOrdersOf vendorId rows orders := by
  refine ⟨⟨fun ⟨_, h⟩ => readable_of_openOrders h, exists_openOrders⟩, fun orders h => ?_⟩
  obtain ⟨rows, found, hrows, hread, ⟨rfl, rfl⟩ | ⟨-, ls, hls, rfl⟩⟩ := openOrders_eq_ok_iff.1 h
  · exact ⟨rows, hrows, openOrdersOf_nil hread⟩
  · exact ⟨rows, hrows, hunique.openOrdersOf_dealLines hrows hread hls⟩

/-! ## A vendor with two open orders

The first of the orders has two lines, in reverse and with a line of another vendor between them;
the second has none. -/

/-- A row of an order. -/
def orderRow (number vendorId : String) (closed : Bool) : OrderRow where
  poNumber := some number
  vendorId := some vendorId
  created := some ⟨2024, 1, 1⟩
  closed := some closed

/-- A row of a line of an order. -/
def orderLineRow (number : String) (n : ℤ) : OrderLineRow where
  poNumber := some number
  lineNum := some n
  description := some "paper"
  quantity := some (.number (Decimal.ofInt 1))
  unitPrice := some (.number (Decimal.ofInt 1))
  materialCode := none
  costCenter := none

/-- The tables. -/
def twoOrders : Tables where
  invoices := some []
  invoiceLines := some []
  orders := some [orderRow "P-7" "V-1" false, orderRow "P-8" "V-2" false,
    orderRow "P-6" "V-1" false, orderRow "P-5" "V-1" true]
  orderLines := some [orderLineRow "P-6" 20, orderLineRow "P-8" 10, orderLineRow "P-6" 10,
    orderLineRow "P-5" 10]
  receipts := some []
  vendors := some []
  posted := some []

set_option maxRecDepth 4000 in
/-- Both open orders are loaded, the one without lines too, and each is found by its number. -/
theorem twoOrders_open :
    ∃ full empty, twoOrders.openOrders "V-1" = .ok [full, empty] ∧
      full.poNumber = "P-6" ∧ full.lines.map PurchaseOrderLine.lineNum = [10, 20] ∧
      empty.poNumber = "P-7" ∧ empty.lines = [] ∧
      twoOrders.findOrder "P-6" = .ok (some full) ∧
      twoOrders.findOrder "P-7" = .ok (some empty) := by
  have hunique : twoOrders.OrdersUnique := by
    intro rows hrows
    obtain rfl := Option.some.inj hrows
    decide
  have hloaded : (twoOrders.openOrders "V-1").toOption.map (fun orders =>
      orders.map fun o => (o.poNumber, o.lines.map PurchaseOrderLine.lineNum)) =
      some [("P-6", [10, 20]), ("P-7", [])] := by
    decide +kernel
  obtain ⟨orders, h, hread⟩ := exists_ok_of_map_eq hloaded
  obtain ⟨full, rest, rfl, hfull, hrest⟩ := List.map_eq_cons_iff.1 hread
  obtain ⟨empty, rest', rfl, hempty, hnil⟩ := List.map_eq_cons_iff.1 hrest
  obtain rfl := List.map_eq_nil_iff.1 hnil
  obtain ⟨hnumber, hlines⟩ := Prod.mk.inj hfull
  obtain ⟨hnumber', hlines'⟩ := Prod.mk.inj hempty
  obtain ⟨_, -, hspec⟩ := (openOrders_agree hunique "V-1").2 _ h
  refine ⟨full, empty, h, hnumber, hlines, hnumber', List.map_eq_nil_iff.1 hlines', ?_, ?_⟩
  · rw [← hnumber]
    exact hspec.single full (by simp)
  · rw [← hnumber']
    exact hspec.single empty (by simp)

end Tables
end Payables.Ledger
