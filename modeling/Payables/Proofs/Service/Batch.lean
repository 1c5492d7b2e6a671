import Payables.Proofs.Evaluation.Errors
import Payables.Proofs.Ledger.Load
import Payables.Service.Batch

/-!
# Batches fail as a whole

A batch goes through its phases one after another, and each of them is done for all invoices before
the next one starts.  So a failure of an earlier phase hides those of a later one, whichever invoice
it belongs to, and nothing is exported unless every invoice has been reported on.

* `Gathering.gather_cases` — all that putting answers together can do.
* `loadOne_cases` — while the ledger answers, all that can happen to an invoice is that it is not
  there.
* `loadAll_cases` — loading stops at the first invoice that is not there.
* `ReportsOn.eq_evaluateSnapshot` — an invoice that is loaded is reported on like a snapshot that is
  handed in.
* `runBatch_all_or_nothing` — a batch is reported on where its threshold is in range, all of its
  invoices are there and each of them can be evaluated, and each report is the one that the invoice
  gets on its own.  Otherwise it is refused for the first of these reasons (`Refused`), and no file
  is written.
-/

namespace Payables

/-! ## Gathering -/

namespace Gathering

variable {ε α : Type} (g : Gathering ε α) {answers : List (Except ε α)}

/-- Either every task has answered, or one of the failures stands for all. -/
theorem gather_cases (answers : List (Except ε α)) :
    (∃ xs : List α, answers = xs.map .ok ∧ g.gather answers = .ok xs) ∨
      ∃ e, .error e ∈ answers ∧ g.gather answers = .error e := by
  by_cases hfails : ∃ e, .error e ∈ answers
  · obtain ⟨e, he⟩ := hfails
    exact Or.inr (g.failure answers e he)
  · have hall : ∃ xs : List α, answers = xs.map .ok := by
      induction answers with
      | nil => exact ⟨[], rfl⟩
      | cons x rest ih =>
        cases x with
        | error e => exact absurd ⟨e, List.mem_cons_self⟩ hfails
        | ok x =>
          obtain ⟨xs, rfl⟩ := ih fun ⟨e, he⟩ => hfails ⟨e, List.mem_cons_of_mem _ he⟩
          exact ⟨x :: xs, rfl⟩
    obtain ⟨xs, rfl⟩ := hall
    exact Or.inl ⟨xs, rfl, g.answers xs⟩

end Gathering

/-! ## One invoice -/

namespace Snapshot

variable {snapshot : Snapshot} {pool : List PurchaseOrder} {p : GuardrailPolicy}
  {threshold : Threshold} {limit : ℕ} {stamp : Instant}

theorem report_eq_ok_iff {r : Report} :
    snapshot.report pool p threshold limit stamp = .ok r ↔
      ∃ e, snapshot.evaluate p threshold = .ok e ∧
        r = Report.ofEvaluation e (snapshot.rankCandidates pool limit) stamp := by
  unfold report
  rw [bind_eq_ok_iff]
  simp only [Except.ok.injEq, eq_comm]

/-- A report fails as the evaluation does. -/
theorem report_eq_error_iff {e : EvaluationError} :
    snapshot.report pool p threshold limit stamp = .error e ↔
      snapshot.evaluate p threshold = .error e := by
  unfold report
  rw [bind_eq_error_iff]
  simp

/-- What an evaluation is refused for lies in its data. -/
theorem isConfiguration_of_evaluate {e : EvaluationError}
    (h : snapshot.evaluate p threshold = .error e) : e.isConfiguration = false := by
  cases hvalid : snapshot.validate with
  | error e' =>
    rw [evaluate_of_invalid hvalid] at h
    cases h
    have hdocuments := ofDocuments_of_validate hvalid
    cases e with
    | thresholdOutOfRange v => cases hdocuments
    | _ => rfl
  | ok u =>
    have hv := error?_eq_none_iff.1 (validate_eq_ok_iff.1 hvalid)
    obtain ⟨os, hos⟩ := exists_matchLines hv
    obtain ⟨x, -, rfl⟩ := (evaluate_eq_error_iff_of_valid hv hos).1 h
    rfl

end Snapshot

/-! ## Loading -/

namespace Service

variable {s : Service} {t : Ledger.Tables} {id : String} {ids : List String}
  {requested : Option ℤ} {threshold : Threshold}

/-- While the ledger answers, an invoice that is there is loaded, and one that is not is named. -/
theorem loadOne_cases (hanswers : ∀ e, s.loadOne t id ≠ .error (.ledger e)) :
    (t.Has id ∧ ∃ work, s.loadOne t id = .ok work) ∨
      (¬t.Has id ∧ s.loadOne t id = .error (.notFound id)) := by
  cases hload : s.loadOne t id with
  | ok work =>
    obtain ⟨snapshot, hsnapshot, -⟩ := bind_eq_ok_iff.1 hload
    exact Or.inl ⟨Ledger.Tables.has_of_snapshot hsnapshot, work, rfl⟩
  | error e =>
    have hledger : ¬∃ e', e = .ledger e' := by
      rintro ⟨e', rfl⟩
      exact hanswers e' hload
    rcases bind_eq_error_iff.1 hload with hsnapshot | ⟨snapshot, -, hpool⟩
    · rcases Ledger.Tables.snapshot_eq_error hsnapshot with hl | ⟨hnone, rfl⟩
      · exact absurd hl hledger
      · refine Or.inr ⟨?_, rfl⟩
        rintro ⟨header, hfind⟩
        rw [hnone] at hfind
        cases hfind
    · exfalso
      split at hpool
      · cases hpool
      · rcases Ledger.asked_bind_eq_error hpool with hl | ⟨_, -, hpool⟩
        · exact hledger hl
        · cases hpool

/-- What is loaded for an invoice: its snapshot, and the open orders of the vendor where candidates
are wanted. -/
theorem loadOne_eq_ok_iff {snapshot : Snapshot} {pool : List PurchaseOrder} :
    s.loadOne t id = .ok (snapshot, pool) ↔ t.snapshot id = .ok snapshot ∧
      if s.matching.candidateLimit = 0 then pool = []
      else t.openOrders snapshot.header.vendorId = .ok pool := by
  unfold loadOne
  rw [bind_eq_ok_iff]
  constructor
  · rintro ⟨snapshot', hsnapshot, h⟩
    split at h
    · rename_i hzero
      cases h
      exact ⟨hsnapshot, by rw [if_pos hzero]⟩
    · rename_i hpos
      obtain ⟨pool', hpool, h⟩ := bind_eq_ok_iff.1 h
      cases h
      exact ⟨hsnapshot, by rw [if_neg hpos]; exact Ledger.asked_eq_ok_iff.1 hpool⟩
  · rintro ⟨hsnapshot, hpool⟩
    refine ⟨snapshot, hsnapshot, ?_⟩
    split at hpool
    · rename_i hzero
      rw [if_pos hzero, hpool]
    · rename_i hpos
      rw [if_neg hpos]
      exact bind_eq_ok_iff.2 ⟨pool, Ledger.asked_eq_ok_iff.2 hpool, rfl⟩

/-- **All that loading can do** while the ledger answers: it loads every invoice, or names the first
one that is not there. -/
theorem loadAll_cases (hanswers : ∀ id ∈ ids, ∀ e, s.loadOne t id ≠ .error (.ledger e)) :
    (∃ work, s.loadAll t ids = .ok work ∧
        List.Forall₂ (fun id w => s.loadOne t id = .ok w) ids work) ∨
      ∃ before id after, ids = before ++ id :: after ∧ (∀ x ∈ before, t.Has x) ∧ ¬t.Has id ∧
        s.loadAll t ids = .error (.notFound id) := by
  induction ids with
  | nil => exact Or.inl ⟨[], rfl, .nil⟩
  | cons id rest ih =>
    obtain ⟨hid, hrest⟩ := List.forall_mem_cons.1 hanswers
    rcases loadOne_cases hid with ⟨hhas, w, hload⟩ | ⟨hmissing, hload⟩
    · rcases ih hrest with ⟨work, hall, hforall⟩ | ⟨before, x, after, rfl, hbefore, hx, hall⟩
      · refine Or.inl ⟨w :: work, ?_, .cons hload hforall⟩
        exact bind_eq_ok_iff.2 ⟨w, hload, bind_eq_ok_iff.2 ⟨work, hall, rfl⟩⟩
      · refine Or.inr ⟨id :: before, x, after, rfl, List.forall_mem_cons.2 ⟨hhas, hbefore⟩, hx, ?_⟩
        exact bind_eq_error_iff.2 (Or.inr ⟨w, hload, bind_eq_error_iff.2 (Or.inl hall)⟩)
    · exact Or.inr ⟨[], id, rest, rfl, by simp, hmissing, bind_eq_error_iff.2 (Or.inl hload)⟩

/-! ## Reporting -/

/-- The orders that candidates are looked for among: the open ones of the vendor, where candidates
are wanted at all. -/
def IsPool (s : Service) (t : Ledger.Tables) (snapshot : Snapshot) (pool : List PurchaseOrder) :
    Prop :=
  s.matching.candidateLimit ≠ 0 → t.openOrders snapshot.header.vendorId = .ok pool

/-- A report is the one that an invoice gets on its own, up to its time: of its snapshot, with the
candidates among the open orders of the vendor. -/
def ReportsOn (s : Service) (t : Ledger.Tables) (threshold : Threshold) (id : String)
    (r : Report) : Prop :=
  ∃ snapshot, t.snapshot id = .ok snapshot ∧ (∃ pool, s.IsPool t snapshot pool) ∧
    ∀ pool, s.IsPool t snapshot pool → ∀ stamp,
      snapshot.report pool s.policy threshold s.matching.candidateLimit stamp =
        .ok { r with evaluatedAt := stamp }

theorem reportsOn_of_loaded {work : Snapshot × List PurchaseOrder} {r : Report} {stamp : Instant}
    (hload : s.loadOne t id = .ok work)
    (hr : work.1.report work.2 s.policy threshold s.matching.candidateLimit stamp = .ok r) :
    s.ReportsOn t threshold id r := by
  obtain ⟨snapshot, loaded⟩ := work
  obtain ⟨hsnapshot, hpool⟩ := loadOne_eq_ok_iff.1 hload
  obtain ⟨e, he, rfl⟩ := Snapshot.report_eq_ok_iff.1 hr
  refine ⟨snapshot, hsnapshot, ⟨loaded, ?_⟩, ?_⟩
  · intro hpos
    rwa [if_neg hpos] at hpool
  · intro pool hopen stamp'
    refine Snapshot.report_eq_ok_iff.2 ⟨e, he, ?_⟩
    have hcandidates : snapshot.rankCandidates loaded s.matching.candidateLimit =
        snapshot.rankCandidates pool s.matching.candidateLimit := by
      split at hpool
      · rename_i hzero
        simp only [Snapshot.rankCandidates, hzero, if_true]
      · rename_i hpos
        rw [Except.ok.inj (hpool.symm.trans (hopen hpos))]
    simp only [Report.ofEvaluation, hcandidates]

/-- The report of a batch is the one that a snapshot gets where it is handed in. -/
theorem ReportsOn.eq_evaluateSnapshot {r : Report} (h : s.ReportsOn t threshold id r)
    (hthreshold : s.resolveThreshold requested = .ok threshold) {snapshot : Snapshot}
    (hsnapshot : t.snapshot id = .ok snapshot) {pool : List PurchaseOrder}
    (hpool : s.IsPool t snapshot pool) (stamp : Instant) :
    s.evaluateSnapshot snapshot pool requested stamp = .ok { r with evaluatedAt := stamp } := by
  obtain ⟨snapshot', hsnapshot', -, hreport⟩ := h
  obtain rfl : snapshot = snapshot' := Except.ok.inj (hsnapshot.symm.trans hsnapshot')
  exact bind_eq_ok_iff.2 ⟨threshold, hthreshold, hreport pool hpool stamp⟩

theorem ReportsOn.exists_evaluate {r : Report} (h : s.ReportsOn t threshold id r)
    {snapshot : Snapshot} (hsnapshot : t.snapshot id = .ok snapshot) :
    ∃ e, snapshot.evaluate s.policy threshold = .ok e := by
  obtain ⟨snapshot', hsnapshot', ⟨pool, hpool⟩, hreport⟩ := h
  obtain rfl : snapshot = snapshot' := Except.ok.inj (hsnapshot.symm.trans hsnapshot')
  obtain ⟨e, he, -⟩ := Snapshot.report_eq_ok_iff.1 (hreport pool hpool r.evaluatedAt)
  exact ⟨e, he⟩

/-- Reports on loaded invoices are those that the invoices get on their own. -/
theorem reportsOn_of_reportEach {clock : ℕ → Instant} {work : List (Snapshot × List PurchaseOrder)}
    {reports : List Report} (hload : List.Forall₂ (fun id w => s.loadOne t id = .ok w) ids work)
    (h : s.reportEach threshold clock work = reports.map .ok) :
    List.Forall₂ (s.ReportsOn t threshold) ids reports := by
  have hreports := related_of_mapIdx_eq h
  clear h
  induction hload generalizing reports with
  | nil =>
    cases hreports
    exact .nil
  | cons hid _ ih =>
    cases hreports with
    | cons hr hrest =>
      obtain ⟨i, hr⟩ := hr
      exact .cons (reportsOn_of_loaded hid hr) (ih hrest)

/-- A failed report is the failed evaluation of an invoice. -/
theorem exists_of_mem_reportEach {clock : ℕ → Instant}
    {work : List (Snapshot × List PurchaseOrder)} {e : EvaluationError}
    (hload : List.Forall₂ (fun id w => s.loadOne t id = .ok w) ids work)
    (h : .error e ∈ s.reportEach threshold clock work) :
    ∃ id ∈ ids, ∃ snapshot, t.snapshot id = .ok snapshot ∧
      snapshot.evaluate s.policy threshold = .error e := by
  obtain ⟨i, hi, hr⟩ := List.mem_mapIdx.1 h
  obtain ⟨id, hid, hwork⟩ := exists_of_related hload (List.getElem_mem hi)
  exact ⟨id, hid, work[i].1, (loadOne_eq_ok_iff.1 hwork).1, Snapshot.report_eq_error_iff.1 hr⟩

/-! ## The phases -/

/-- The threshold of a request is refused where it is out of range. -/
theorem resolveThreshold_eq_error {e : EvaluationError}
    (h : s.resolveThreshold requested = .error e) :
    ∃ v, requested = some v ∧ ¬(50 ≤ v ∧ v ≤ 100) ∧ e = .thresholdOutOfRange v := by
  cases requested with
  | none => cases h
  | some v =>
    simp only [resolveThreshold, Threshold.request] at h
    split at h
    · cases h
    · rename_i hnone
      cases h
      refine ⟨v, rfl, ?_, rfl⟩
      rw [← Threshold.ofInt?_isSome, hnone]
      exact Bool.false_ne_true

/-- Every invoice is there, and every snapshot of them can be evaluated. -/
def CanReport (s : Service) (t : Ledger.Tables) (threshold : Threshold) (ids : List String) :
    Prop :=
  (∀ id ∈ ids, t.Has id) ∧ ∀ id ∈ ids, ∀ snapshot, t.snapshot id = .ok snapshot →
    ∃ e, snapshot.evaluate s.policy threshold = .ok e

/-- Why a batch is refused, with the status of the reply: for a threshold out of range, else for the
first invoice that is not there, else for the evaluation of some invoice. -/
inductive Refused (s : Service) (t : Ledger.Tables) (ids : List String) (requested : Option ℤ) :
    ServiceError → ℕ → Prop
  | threshold {v : ℤ} (h : requested = some v) (hrange : ¬(50 ≤ v ∧ v ≤ 100)) :
      Refused s t ids requested (.evaluation (.thresholdOutOfRange v)) 400
  | missing {threshold : Threshold} {before after : List String} {id : String}
      (h : s.resolveThreshold requested = .ok threshold) (hids : ids = before ++ id :: after)
      (hbefore : ∀ x ∈ before, t.Has x) (hid : ¬t.Has id) :
      Refused s t ids requested (.load (.notFound id)) 404
  | evaluation {threshold : Threshold} {id : String} {snapshot : Snapshot} {e : EvaluationError}
      (h : s.resolveThreshold requested = .ok threshold) (hhas : ∀ x ∈ ids, t.Has x)
      (hid : id ∈ ids) (hsnapshot : t.snapshot id = .ok snapshot)
      (he : snapshot.evaluate s.policy threshold = .error e) :
      Refused s t ids requested (.evaluation e) 422

/-- **All that the phases before the export can do.** -/
theorem evaluateBatchBy_cases (g : Gathering EvaluationError Report) (clock : ℕ → Instant)
    (requested : Option ℤ) (hanswers : ∀ id ∈ ids, ∀ e, s.loadOne t id ≠ .error (.ledger e)) :
    (∃ threshold reports, s.resolveThreshold requested = .ok threshold ∧
        s.CanReport t threshold ids ∧ List.Forall₂ (s.ReportsOn t threshold) ids reports ∧
        s.evaluateBatchBy g clock t ids requested = .ok reports) ∨
      ∃ e status, s.Refused t ids requested e status ∧
        s.evaluateBatchBy g clock t ids requested = .error e := by
  unfold evaluateBatchBy
  cases hthreshold : s.resolveThreshold requested with
  | error e =>
    obtain ⟨v, hv, hrange, rfl⟩ := resolveThreshold_eq_error hthreshold
    exact Or.inr ⟨_, _, .threshold hv hrange, rfl⟩
  | ok threshold =>
    rcases loadAll_cases hanswers with ⟨work, hall, hload⟩ |
      ⟨before, id, after, hids, hbefore, hid, hall⟩
    · have hhas : ∀ id ∈ ids, t.Has id := by
        intro id hid
        obtain ⟨w, -, hw⟩ := exists_of_related hload.flip hid
        exact Ledger.Tables.has_of_snapshot (loadOne_eq_ok_iff.1 hw).1
      rcases g.gather_cases (s.reportEach threshold clock work) with ⟨reports, hok, hgather⟩ |
        ⟨e, hmem, hgather⟩
      · have hreports := reportsOn_of_reportEach hload hok
        refine Or.inl ⟨threshold, reports, rfl, ⟨hhas, ?_⟩, hreports, by simp [hall, hgather]⟩
        intro id hid snapshot hsnapshot
        obtain ⟨r, -, hr⟩ := exists_of_related hreports.flip hid
        exact ReportsOn.exists_evaluate hr hsnapshot
      · obtain ⟨id, hid, snapshot, hsnapshot, he⟩ := exists_of_mem_reportEach hload hmem
        exact Or.inr ⟨_, _, .evaluation hthreshold hhas hid hsnapshot he, by simp [hall, hgather]⟩
    · exact Or.inr ⟨_, _, .missing hthreshold hids hbefore hid, by simp [hall]⟩

/-- A batch is refused where it cannot be reported on. -/
theorem Refused.not_canReport {e : ServiceError} {status : ℕ}
    (h : s.Refused t ids requested e status)
    (hthreshold : s.resolveThreshold requested = .ok threshold) :
    ¬s.CanReport t threshold ids := by
  rintro ⟨hhas, heval⟩
  cases h with
  | threshold hv hrange =>
    rw [hv, resolveThreshold, Threshold.request] at hthreshold
    split at hthreshold
    · rename_i hsome
      exact hrange (Threshold.ofInt?_isSome.1 (by rw [hsome]; rfl))
    · cases hthreshold
  | missing _ hids _ hid => exact hid (hhas _ (by rw [hids]; simp))
  | evaluation h _ hid hsnapshot he =>
    obtain rfl := Except.ok.inj (hthreshold.symm.trans h)
    obtain ⟨e', he'⟩ := heval _ hid _ hsnapshot
    rw [he] at he'
    cases he'

/-- The status of the reply to a refused batch. -/
theorem Refused.status_eq {e : ServiceError} {status : ℕ} (h : s.Refused t ids requested e status)
    (reportBody : Report → Json) : (Reply.toBatch reportBody (.error e)).status = status := by
  cases h with
  | threshold => rfl
  | missing => rfl
  | evaluation _ _ _ _ he =>
    simp only [Reply.toBatch, Reply.statusOfService, Reply.statusOf,
      Snapshot.isConfiguration_of_evaluate he, Bool.false_eq_true, if_false, Reply.unprocessable]

/-- The files are written once the batch has been reported on. -/
theorem runBatch_run (s : Service) (run : BatchRun) (t : Ledger.Tables) (ids : List String)
    (requested : Option ℤ) (files : Files) :
    (s.runBatch run t ids requested).run.run files =
      match s.evaluateBatchBy run.gathering run.reportedAt t ids requested with
      | .ok reports => (.ok reports, run.exported reports files)
      | .error e => (.error e, files) := by
  unfold runBatch
  cases s.evaluateBatchBy run.gathering run.reportedAt t ids requested <;> rfl

theorem replyBatch_run (run : BatchRun) (files : Files) (reportBody : Report → Json) :
    (s.replyBatch run t ids requested reportBody).run files =
      ((Reply.toBatch reportBody ((s.runBatch run t ids requested).run.run files).1,
        ((s.runBatch run t ids requested).run.run files).2)) := rfl

/-- **A batch is all or nothing.**  While the ledger answers, a batch is reported on exactly where
its threshold is in range, every invoice is there and every snapshot of them can be evaluated.  Then
the reports stand in the order of the invoices, each is the one that its invoice gets on its own, up
to its time, and they are exported.  Otherwise the batch is refused for the first reason that there
is, the reply has the status of the reason, and the files are what they were. -/
theorem runBatch_all_or_nothing (s : Service) (run : BatchRun) (t : Ledger.Tables)
    (ids : List String) (requested : Option ℤ) (files : Files)
    (hanswers : ∀ id ∈ ids, ∀ e, s.loadOne t id ≠ .error (.ledger e)) :
    ∃ answer written, (s.runBatch run t ids requested).run.run files = (answer, written) ∧
      (∀ reportBody, (s.replyBatch run t ids requested reportBody).run files =
        (Reply.toBatch reportBody answer, written)) ∧
      ((∃ reports, answer = .ok reports) ↔
        ∃ threshold, s.resolveThreshold requested = .ok threshold ∧ s.CanReport t threshold ids) ∧
      (∀ reports, answer = .ok reports →
        (∃ threshold, s.resolveThreshold requested = .ok threshold ∧
          List.Forall₂ (s.ReportsOn t threshold) ids reports) ∧
        written = run.exported reports files ∧
        ∀ reportBody, (Reply.toBatch reportBody answer).status = 200) ∧
      ∀ e, answer = .error e → ∃ status, s.Refused t ids requested e status ∧ written = files ∧
        ∀ reportBody, (Reply.toBatch reportBody answer).status = status := by
  have hrun := s.runBatch_run run t ids requested files
  rcases evaluateBatchBy_cases run.gathering run.reportedAt requested hanswers with
    ⟨threshold, reports, hthreshold, hcan, hreports, hbatch⟩ | ⟨e, status, hrefused, hbatch⟩
  · rw [hbatch] at hrun
    refine ⟨_, _, hrun, ?_, ?_, ?_, ?_⟩
    · intro reportBody
      rw [replyBatch_run, hrun]
    · exact iff_of_true ⟨reports, rfl⟩ ⟨threshold, hthreshold, hcan⟩
    · rintro _ ⟨⟩
      exact ⟨⟨threshold, hthreshold, hreports⟩, rfl, fun _ => rfl⟩
    · rintro e ⟨⟩
  · rw [hbatch] at hrun
    refine ⟨_, _, hrun, ?_, ?_, ?_, ?_⟩
    · intro reportBody
      rw [replyBatch_run, hrun]
    · refine iff_of_false (by simp) ?_
      rintro ⟨threshold, hthreshold, hcan⟩
      exact hrefused.not_canReport hthreshold hcan
    · rintro _ ⟨⟩
    · rintro _ ⟨⟩
      exact ⟨status, hrefused, rfl, hrefused.status_eq⟩

/-! ## A batch for freight

The ledger has one invoice, for freight, without an order. -/

/-- The ledger. -/
def freightLedger : Ledger.Tables where
  invoices := some
    [⟨some "I-3", some "V-1", some "R-3", some ⟨2024, 1, 2⟩, none, some "USD"⟩]
  invoiceLines := some
    [ { invoiceId := some "I-3"
        lineNum := some 1
        description := some "freight"
        quantity := some (.number (Decimal.ofInt 1))
        unit := some "EA"
        unitPrice := some (.number (Decimal.ofInt 50))
        amount := some (.number (Decimal.ofInt 50))
        poLineRef := none
        receiptRef := none
        materialCode := none } ]
  orders := some []
  orderLines := some []
  receipts := some []
  vendors := some []
  posted := some []

/-- The service with the usual settings. -/
def usual : Service := ⟨.default, {}⟩

/-- A run that starts at nine o'clock, makes a report every second and exports after a minute. -/
def morningRun : BatchRun where
  gathering := .inOrder
  reportedAt := fun i => ⟨⟨2024, 1, 3⟩, 32400 + i, 0⟩
  exportDir := some "audit"
  exportedAt := ⟨⟨2024, 1, 3⟩, 32460, 5000000⟩

set_option maxRecDepth 4000 in
/-- The invoice is reported on twice, and one file is written. -/
theorem freightBatch_reported :
    ∃ reports threshold written,
      (usual.runBatch morningRun freightLedger ["I-3", "I-3"] none).run.run [] =
        (.ok reports, written) ∧
      List.Forall₂ (usual.ReportsOn freightLedger threshold) ["I-3", "I-3"] reports ∧
      written.map Prod.fst = ["audit/autopilot-20240103090100005.csv"] := by
  have hload : ∀ id ∈ ["I-3", "I-3"], (usual.loadOne freightLedger id).toOption.isSome = true := by
    decide +kernel
  have hanswers : ∀ id ∈ ["I-3", "I-3"], ∀ e,
      usual.loadOne freightLedger id ≠ .error (.ledger e) := by
    intro id hid e herror
    have hsome := hload id hid
    rw [herror] at hsome
    cases hsome
  obtain ⟨answer, written, hrun, -, -, hok, -⟩ :=
    runBatch_all_or_nothing usual morningRun freightLedger ["I-3", "I-3"] none [] hanswers
  obtain ⟨reports, hreports⟩ : ∃ reports,
      usual.evaluateBatchBy .inOrder morningRun.reportedAt freightLedger ["I-3", "I-3"] none =
        .ok reports :=
    exists_ok_of_isSome (by decide +kernel)
  have hanswer := hrun.symm.trans (usual.runBatch_run morningRun freightLedger
    ["I-3", "I-3"] none [])
  rw [show morningRun.gathering = .inOrder from rfl, hreports] at hanswer
  obtain ⟨rfl, rfl⟩ := Prod.mk.inj hanswer
  obtain ⟨⟨threshold, -, hreported⟩, -, -⟩ := hok reports rfl
  have hpath : Files.join "audit" (exportName morningRun.exportedAt) =
      "audit/autopilot-20240103090100005.csv" := by decide +kernel
  exact ⟨reports, threshold, _, hrun, hreported, congrArg (fun path => [path]) hpath⟩

end Service
end Payables
