import Payables.Guardrail.Policy
import Payables.Proofs.Order

/-!
# Lists of guardrails

The rules that fire on a line are sorted into one list per severity, recorded as one list of
identities, and sorted again by severity when the line is decided on.

* `Guardrail.Lists` — a list in strictly ascending order with exactly the rules of a kind.  There is
  only one such list (`Lists.unique`).
* `triggered_lists`, `all_lists` — what is grouped, and what is recorded, of the rules that fire.
* `exists_partition`, `partition_lists` — recorded rules that the policy defines are grouped by the
  severity that it gives them, which is that of the first definition of the rule.
* `partition_triggered_eq_iff` — so the recorded rules are read back into the groups that they came
  from exactly where no definition fires with another severity than the first of its rule has.
* `severity?_eq_some_iff` — where every rule is defined once, that is the severity of its
  definition, and nothing is lost on the way (`partition_triggered`).
-/

namespace Payables

/-! ## One list per kind -/

namespace Guardrail

theorem eq_of_lt_eq_false {a b : Guardrail} (hab : a.lt b = false) (hba : b.lt a = false) :
    a = b := by
  revert hab hba
  cases a <;> cases b <;> decide

theorem lt_trans {a b c : Guardrail} (hab : a.lt b = true) (hbc : b.lt c = true) :
    a.lt c = true := by
  simp only [lt, decide_eq_true_eq] at *
  exact hab.trans hbc

theorem lt_asymm {a b : Guardrail} (hab : a.lt b = true) : ¬b.lt a = true := by
  simp only [lt, decide_eq_true_eq] at *
  omega

/-- A list in strictly ascending order with exactly the rules of a kind. -/
structure Lists (ids : List Guardrail) (kind : Guardrail → Prop) : Prop where
  ascending : ids.Pairwise fun a b => a.lt b = true
  mem_iff : ∀ g, g ∈ ids ↔ kind g

namespace Lists

variable {ids ids' : List Guardrail} {kind kind' : Guardrail → Prop} {g : Guardrail}

theorem empty : Lists [] fun _ => False := ⟨List.Pairwise.nil, by simp⟩

theorem congr (h : Lists ids kind) (hiff : ∀ g, kind g ↔ kind' g) : Lists ids kind' :=
  ⟨h.ascending, fun g => (h.mem_iff g).trans (hiff g)⟩

/-- There is only one list of a kind. -/
theorem unique (h : Lists ids kind) (h' : Lists ids' kind) : ids = ids' := by
  have hnodup {xs : List Guardrail} (hxs : xs.Pairwise fun a b => a.lt b = true) : xs.Nodup :=
    hxs.imp fun {a b} hab heq => by
      subst heq
      exact lt_asymm hab hab
  have hperm : ids.Perm ids' := by
    rw [List.perm_ext_iff_of_nodup (hnodup h.ascending) (hnodup h'.ascending)]
    intro g
    rw [h.mem_iff, h'.mem_iff]
  exact hperm.eq_of_pairwise (fun a b _ _ hab hba => absurd hba (lt_asymm hab)) h.ascending
    h'.ascending

theorem insert (h : Lists ids kind) (g : Guardrail) :
    Lists (insertUnique lt g ids) fun x => x = g ∨ kind x where
  ascending :=
    insertUnique_pairwise (fun _ _ => eq_of_lt_eq_false) (fun _ _ _ => lt_trans) h.ascending
  mem_iff := by
    intro x
    rw [mem_insertUnique fun _ _ => eq_of_lt_eq_false, h.mem_iff]

theorem eq_nil_iff (h : Lists ids kind) : ids = [] ↔ ∀ g, ¬kind g := by
  simp only [List.eq_nil_iff_forall_not_mem, h.mem_iff]

end Lists

/-- Sorting lists what is in a list. -/
theorem lists_sorted (ids : List Guardrail) : Lists (sorted ids) (· ∈ ids) where
  ascending := sortUnique_pairwise (fun _ _ => eq_of_lt_eq_false) (fun _ _ _ => lt_trans) ids
  mem_iff := fun _ => mem_sortUnique fun _ _ => eq_of_lt_eq_false

/-- The order in which rules came is gone once they are sorted. -/
theorem sorted_perm {ids ids' : List Guardrail} (h : ids.Perm ids') : sorted ids = sorted ids' :=
  (lists_sorted ids).unique ((lists_sorted ids').congr fun _ => h.mem_iff.symm)

end Guardrail

/-! ## Groups -/

namespace TriggeredGuardrails

/-- The group of a severity. -/
def group (t : TriggeredGuardrails) : Severity → List Guardrail
  | .hard => t.hard
  | .soft => t.soft
  | .audit => t.audit

theorem mem_all_iff {t : TriggeredGuardrails} {g : Guardrail} :
    g ∈ t.all ↔ ∃ severity, g ∈ t.group severity := by
  rw [all, (Guardrail.lists_sorted _).mem_iff, List.mem_append, List.mem_append]
  constructor
  · rintro ((h | h) | h)
    · exact ⟨.hard, h⟩
    · exact ⟨.soft, h⟩
    · exact ⟨.audit, h⟩
  · rintro ⟨severity, h⟩
    cases severity with
    | hard => exact Or.inl (Or.inl h)
    | soft => exact Or.inl (Or.inr h)
    | audit => exact Or.inr h

/-- Every group of the rules so far is the list of those of its severity. -/
def Groups (t : TriggeredGuardrails) (has : Severity → Guardrail → Prop) : Prop :=
  ∀ severity, Guardrail.Lists (t.group severity) (has severity)

variable {t : TriggeredGuardrails} {has : Severity → Guardrail → Prop}

theorem groups_empty : Groups {} fun _ _ => False := by
  intro severity
  cases severity <;> exact Guardrail.Lists.empty

/-- There is only one way to group the same rules. -/
theorem Groups.unique {t' : TriggeredGuardrails} (h : t.Groups has) (h' : t'.Groups has) :
    t = t' := by
  have hgroup : ∀ severity, t.group severity = t'.group severity := by
    intro severity
    exact (h severity).unique (h' severity)
  cases t
  cases t'
  exact TriggeredGuardrails.mk.injEq .. ▸ ⟨hgroup .hard, hgroup .soft, hgroup .audit⟩

/-- One more rule goes to the group of its severity. -/
theorem group_add (t : TriggeredGuardrails) (severity s : Severity) (g : Guardrail) :
    (t.add severity g).group s =
      if s = severity then insertUnique Guardrail.lt g (t.group s) else t.group s := by
  cases severity <;> cases s <;> rfl

theorem Groups.add (h : t.Groups has) (severity : Severity) (g : Guardrail) :
    (t.add severity g).Groups fun s x => (s = severity ∧ x = g) ∨ has s x := by
  intro s
  rw [group_add]
  by_cases hs : s = severity
  · rw [if_pos hs]
    exact ((h s).insert g).congr fun x => by simp [hs]
  · rw [if_neg hs]
    exact (h s).congr fun x => by simp [hs]

end TriggeredGuardrails

namespace GuardrailPolicy

open TriggeredGuardrails

variable {p : GuardrailPolicy} {ctx : InvoiceContext} {l : InvoiceLine} {r : MatchResult}

/-! ## What fires -/

theorem groups_foldl (ds : List GuardrailDefinition) {t : TriggeredGuardrails}
    {has : Severity → Guardrail → Prop} (h : t.Groups has) :
    (ds.foldl (fun t d => t.add d.severity d.id) t).Groups fun s g =>
      (∃ d ∈ ds, d.severity = s ∧ d.id = g) ∨ has s g := by
  induction ds generalizing t has with
  | nil =>
    intro s
    exact (h s).congr fun g => by simp
  | cons d ds ih =>
    intro s
    refine (ih (h.add d.severity d.id) s).congr fun g => ?_
    simp only [List.exists_mem_cons_iff, eq_comm (a := d.severity), eq_comm (a := d.id)]
    rw [or_left_comm, or_assoc]

/-- **What is grouped** are the rules that fire, by the severity of their definitions. -/
theorem triggered_lists (p : GuardrailPolicy) (ctx : InvoiceContext) (l : InvoiceLine)
    (r : MatchResult) :
    (p.triggered ctx l r).Groups fun s g => ∃ d ∈ p.firing ctx l r, d.severity = s ∧ d.id = g := by
  intro s
  exact (groups_foldl (p.firing ctx l r) groups_empty s).congr fun g => by simp

/-- **What is recorded** are the rules that fire. -/
theorem all_lists (p : GuardrailPolicy) (ctx : InvoiceContext) (l : InvoiceLine)
    (r : MatchResult) :
    Guardrail.Lists (p.triggered ctx l r).all fun g => ∃ d ∈ p.firing ctx l r, d.id = g := by
  refine ⟨(Guardrail.lists_sorted _).ascending, ?_⟩
  intro g
  simp only [mem_all_iff, (triggered_lists p ctx l r _).mem_iff]
  constructor
  · rintro ⟨_, d, hd, -, hg⟩
    exact ⟨d, hd, hg⟩
  · rintro ⟨d, hd, hg⟩
    exact ⟨_, d, hd, rfl, hg⟩

/-! ## What is read back -/

theorem partitionOnto_cons_eq_ok_iff {t t' : TriggeredGuardrails} {id : Guardrail}
    {rest : List Guardrail} :
    p.partitionOnto t (id :: rest) = .ok t' ↔
      ∃ severity, p.severity? id = some severity ∧
        p.partitionOnto (t.add severity id) rest = .ok t' := by
  simp only [partitionOnto]
  cases p.severity? id <;> simp

/-- Rules that the policy defines can be grouped. -/
theorem exists_partitionOnto {ids : List Guardrail} (h : ∀ id ∈ ids, (p.severity? id).isSome = true)
    (t : TriggeredGuardrails) : ∃ t', p.partitionOnto t ids = .ok t' := by
  induction ids generalizing t with
  | nil => exact ⟨t, rfl⟩
  | cons id rest ih =>
    obtain ⟨hid, hrest⟩ := List.forall_mem_cons.1 h
    obtain ⟨severity, hs⟩ := Option.isSome_iff_exists.1 hid
    obtain ⟨t', ht'⟩ := ih hrest (t.add severity id)
    exact ⟨t', partitionOnto_cons_eq_ok_iff.2 ⟨severity, hs, ht'⟩⟩

theorem groups_partitionOnto {ids : List Guardrail} {t t' : TriggeredGuardrails}
    {has : Severity → Guardrail → Prop} (h : t.Groups has)
    (hp : p.partitionOnto t ids = .ok t') :
    t'.Groups fun s g => (g ∈ ids ∧ p.severity? g = some s) ∨ has s g := by
  induction ids generalizing t has with
  | nil =>
    cases hp
    intro s
    exact (h s).congr fun g => by simp
  | cons id rest ih =>
    obtain ⟨severity, hs, hp⟩ := partitionOnto_cons_eq_ok_iff.1 hp
    intro s
    refine (ih (h.add severity id) hp s).congr fun g => ?_
    dsimp only
    rw [List.mem_cons]
    constructor
    · rintro (⟨hg, hsev⟩ | ⟨rfl, rfl⟩ | hhas)
      · exact Or.inl ⟨Or.inr hg, hsev⟩
      · exact Or.inl ⟨Or.inl rfl, hs⟩
      · exact Or.inr hhas
    · rintro (⟨rfl | hg, hsev⟩ | hhas)
      · exact Or.inr (Or.inl ⟨Option.some.inj (hsev.symm.trans hs), rfl⟩)
      · exact Or.inl ⟨hg, hsev⟩
      · exact Or.inr (Or.inr hhas)

/-- Rules that the policy defines can be grouped, whatever was recorded. -/
theorem exists_partition {ids : List Guardrail} (h : ∀ id ∈ ids, (p.severity? id).isSome = true) :
    ∃ t, p.partition ids = .ok t :=
  exists_partitionOnto h {}

/-- **What is read back** are the recorded rules, by the severity that the policy gives them. -/
theorem partition_lists {ids : List Guardrail} {t : TriggeredGuardrails}
    (h : p.partition ids = .ok t) : t.Groups fun s g => g ∈ ids ∧ p.severity? g = some s := by
  intro s
  exact (groups_partitionOnto groups_empty h s).congr fun g => by simp

/-! ## From the definitions and back -/

theorem isSome_severity? {d : GuardrailDefinition} (hd : d ∈ p.definitions) :
    (p.severity? d.id).isSome = true := by
  rw [severity?, definition?, Option.isSome_map, List.find?_isSome]
  exact ⟨d, hd, by simp⟩

/-- What a policy records it can read back. -/
theorem exists_partition_triggered (p : GuardrailPolicy) (ctx : InvoiceContext) (l : InvoiceLine)
    (r : MatchResult) : ∃ t, p.partition (p.triggered ctx l r).all = .ok t := by
  refine exists_partition fun id hid => ?_
  obtain ⟨d, hd, rfl⟩ := ((all_lists p ctx l r).mem_iff id).1 hid
  exact isSome_severity? (List.mem_filter.1 hd).1

/-- What is read back of the rules that fired on a line, each by the first definition of it. -/
theorem partition_triggered_lists {t : TriggeredGuardrails}
    (ht : p.partition (p.triggered ctx l r).all = .ok t) :
    t.Groups fun s g => (∃ d ∈ p.firing ctx l r, d.id = g) ∧ p.severity? g = some s := by
  intro s
  refine (partition_lists ht s).congr fun g => ?_
  exact and_congr_left' ((all_lists p ctx l r).mem_iff g)

/-- A rule that fires has the severity of the definition that fires, as long as that is the severity
of the first definition too. -/
theorem firing_and_severity?_iff_of_first
    (h : ∀ d ∈ p.firing ctx l r, p.severity? d.id = some d.severity) {g : Guardrail}
    {severity : Severity} :
    (∃ d ∈ p.firing ctx l r, d.id = g) ∧ p.severity? g = some severity ↔
      ∃ d ∈ p.firing ctx l r, d.id = g ∧ d.severity = severity := by
  constructor
  · rintro ⟨⟨d, hd, rfl⟩, hs⟩
    exact ⟨d, hd, rfl, Option.some.inj ((h d hd).symm.trans hs)⟩
  · rintro ⟨d, hd, rfl, rfl⟩
    exact ⟨⟨d, hd, rfl⟩, h d hd⟩

/-- **When nothing is lost on the way.**  The recorded rules are read back into the groups that they
came from exactly where every definition that fires has the severity of the first definition of its
rule. -/
theorem partition_triggered_eq_iff {t : TriggeredGuardrails}
    (ht : p.partition (p.triggered ctx l r).all = .ok t) :
    t = p.triggered ctx l r ↔ ∀ d ∈ p.firing ctx l r, p.severity? d.id = some d.severity := by
  have hread := partition_triggered_lists ht
  have hfired := triggered_lists p ctx l r
  constructor
  · intro heq d hd
    have hmem : d.id ∈ t.group d.severity := by
      rw [heq]
      exact ((hfired _).mem_iff _).2 ⟨d, hd, rfl, rfl⟩
    exact (((hread _).mem_iff _).1 hmem).2
  · intro hfirst
    refine Groups.unique hread fun s => (hfired s).congr fun g => ?_
    rw [firing_and_severity?_iff_of_first hfirst]
    simp only [and_comm]

/-- Where every rule is defined once, its severity is that of its definition. -/
theorem severity?_eq_some_iff (h : (p.definitions.map GuardrailDefinition.id).Nodup)
    {g : Guardrail} {severity : Severity} :
    p.severity? g = some severity ↔ ∃ d ∈ p.definitions, d.id = g ∧ d.severity = severity := by
  rw [severity?, definition?, Option.map_eq_some_iff]
  constructor
  · rintro ⟨d, hd, hs⟩
    obtain ⟨hmem, hid⟩ := (find?_key_eq_some_iff GuardrailDefinition.id h).1 hd
    exact ⟨d, hmem, hid, hs⟩
  · rintro ⟨d, hmem, hid, hs⟩
    exact ⟨d, (find?_key_eq_some_iff GuardrailDefinition.id h).2 ⟨hmem, hid⟩, hs⟩

/-- Where every rule is defined once, a rule that fires has the severity of the definition that
fires. -/
theorem firing_and_severity?_iff (h : (p.definitions.map GuardrailDefinition.id).Nodup)
    {g : Guardrail} {severity : Severity} :
    (∃ d ∈ p.firing ctx l r, d.id = g) ∧ p.severity? g = some severity ↔
      ∃ d ∈ p.firing ctx l r, d.id = g ∧ d.severity = severity := by
  apply firing_and_severity?_iff_of_first
  intro d hd
  exact (severity?_eq_some_iff h).2 ⟨d, (List.mem_filter.1 hd).1, rfl, rfl⟩

/-- **Nothing is lost on the way.**  Where every rule is defined once, the recorded rules are read
back into the groups that they came from. -/
theorem partition_triggered (h : (p.definitions.map GuardrailDefinition.id).Nodup)
    {t : TriggeredGuardrails} (ht : p.partition (p.triggered ctx l r).all = .ok t) :
    t.Groups fun s g => ∃ d ∈ p.firing ctx l r, d.id = g ∧ d.severity = s := by
  intro s
  exact (partition_triggered_lists ht s).congr fun g => firing_and_severity?_iff h

end GuardrailPolicy
end Payables
