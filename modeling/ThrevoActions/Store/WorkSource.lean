import Mathlib.Data.Prod.Lex
import Mathlib.Data.String.Basic
import ThrevoActions.Paging.Keyset
import ThrevoActions.Recovery
import ThrevoActions.Store.Postgres

/-!
# The PostgreSQL work source

`PostgresActionWorkSource.discover_due` over a table of proposals. Its pages are pages of a keyset
pagination by due time and proposal reference, and a tenant has no two proposals of one reference.
So the pages of a scan list every due proposal once, in order (`discover_due_lists_all`).
-/

namespace ThrevoActions

/-- The collation of `text` columns, which is a total order: the collation of a database is
deterministic. -/
class Collation where
  order : LinearOrder SafeReference

/-- A text, compared by the collation. -/
structure CollatedText where
  text : SafeReference
  deriving DecidableEq

instance [Collation] : LinearOrder CollatedText :=
  letI := Collation.order
  LinearOrder.lift' CollatedText.text fun a b h ↦ by
    cases a
    cases b
    cases h
    rfl

/-! ## Rows -/

/-- The rows of `proposals`; tenant and reference are its primary key. -/
structure ProposalTable where
  rows : List (ProposalKey × ProposalRow)
  primary_key : (rows.map Prod.fst).Nodup

/-- `COALESCE(data ->> field, '') = ''`. -/
def coalesceIsEmpty (data : JsonObject) (field : String) : Bool :=
  match data.lookup (PyStr.ofString field) with
  | none | some .null => true
  | some (.str text) => text.isEmpty
  | some _ => false

namespace ProposalRow

/-- The `WHERE` clause of the query, tenant aside. -/
def isDue (row : ProposalRow) (cutoff : Timestamp) : Bool :=
  coalesceIsEmpty row.proposalData "erasure_pending_at" &&
    coalesceIsEmpty row.proposalData "erased_at" &&
    (decide (row.lifecycleStatus = .awaitingAuthority ∧ row.expiresAt ≤ cutoff) ||
      decide (row.lifecycleStatus = .authorized ∧ row.statusChangedAt ≤ cutoff) ||
      decide (row.lifecycleStatus ∈ unsettledStatuses) &&
        row.nextVerificationAt.all (· ≤ cutoff))

/-- The item of a row: the `SELECT` clause of the query, and `_item`. -/
def workItem (key : ProposalKey) (row : ProposalRow) (cutoff : Timestamp) : ActionWorkItem where
  actionType := row.actionType
  proposalReference := key.2
  operation :=
    if row.lifecycleStatus ∈ [.awaitingAuthority, .authorized] ∧ row.expiresAt ≤ cutoff then .expire
    else if row.lifecycleStatus = .authorized then .execute
    else if row.lifecycleStatus ∈ unsettledStatuses ∧ row.nextVerificationAt = none then .attention
    else .reconcile
  dueAt :=
    if row.lifecycleStatus ∈ [.awaitingAuthority, .authorized] ∧ row.expiresAt ≤ cutoff then
      row.expiresAt
    else if row.lifecycleStatus = .authorized then row.statusChangedAt
    else row.nextVerificationAt.getD row.statusChangedAt
  reasonCode :=
    if row.lifecycleStatus ∈ unsettledStatuses ∧ row.nextVerificationAt = none then
      some "recovery_schedule_missing"
    else none

end ProposalRow

/-- The due proposals of a tenant: the table expression `due`. -/
def ProposalTable.due (table : ProposalTable) (tenantReference : SafeReference)
    (cutoff : Timestamp) : List ActionWorkItem :=
  (table.rows.filter fun row ↦ row.1.1 == tenantReference && row.2.isDue cutoff).map fun row ↦
    row.2.workItem row.1 cutoff

/-! ## The query -/

section Query

variable [Collation]

/-- `(due_at, proposal_reference) > ($3, $4)`, or there is no cursor. -/
def afterCursor (cursor : Option ActionWorkCursor) (item : ActionWorkItem) : Bool :=
  cursor.all fun last ↦ last.dueAt < item.dueAt ||
    decide (last.dueAt = item.dueAt) &&
      decide (CollatedText.mk last.proposalReference < ⟨item.proposalReference⟩)

/-- `ORDER BY due_at, proposal_reference`. -/
def beforeOrAt (item item' : ActionWorkItem) : Bool :=
  item.dueAt < item'.dueAt ||
    decide (item.dueAt = item'.dueAt) &&
      decide (CollatedText.mk item.proposalReference ≤ ⟨item'.proposalReference⟩)

/-- `_query` with its `LIMIT`. -/
def ProposalTable.query (table : ProposalTable) (tenantReference : SafeReference)
    (cutoff : Timestamp) (cursor : Option ActionWorkCursor) (limit : ℕ) : List ActionWorkItem :=
  (((table.due tenantReference cutoff).filter (afterCursor cursor)).mergeSort beforeOrAt).take limit

/-- `discover_due`. -/
def discoverDue (table : ProposalTable) (tenantReference : SafeReference) (cutoff : Timestamp)
    (limit : ℤ) (cursor : Option ActionWorkCursor) : Except Exn ActionWorkPage :=
  if ¬(1 ≤ limit ∧ limit ≤ 500) then
    .error (.valueError "work discovery limit must be between 1 and 500")
  else
    let rows := table.query tenantReference cutoff cursor (limit.toNat + 1)
    let items := rows.take limit.toNat
    let nextCursor : Option ActionWorkCursor :=
      if limit.toNat < rows.length then
        items.getLast?.map fun last ↦ ⟨last.dueAt, last.proposalReference⟩
      else none
    .ok { tenantReference, cutoff, items, nextCursor }

/-- The pages fetched from a cursor on, each from the cursor of the page before, to the last. -/
inductive Discovers (table : ProposalTable) (tenantReference : SafeReference) (cutoff : Timestamp)
    (limit : ℤ) : Option ActionWorkCursor → List ActionWorkPage → Prop
  | last {cursor : Option ActionWorkCursor} {page : ActionWorkPage}
    (hpage : discoverDue table tenantReference cutoff limit cursor = .ok page)
    (hlast : page.nextCursor = none) : Discovers table tenantReference cutoff limit cursor [page]
  | more {cursor : Option ActionWorkCursor} {page : ActionWorkPage} {next : ActionWorkCursor}
    {pages : List ActionWorkPage}
    (hpage : discoverDue table tenantReference cutoff limit cursor = .ok page)
    (hnext : page.nextCursor = some next)
    (hpages : Discovers table tenantReference cutoff limit (some next) pages) :
    Discovers table tenantReference cutoff limit cursor (page :: pages)

/-! ## As a keyset pagination -/

/-- Due time first, then proposal reference. -/
abbrev WorkKey := Timestamp ×ₗ CollatedText

def ActionWorkItem.workKey (item : ActionWorkItem) : WorkKey :=
  toLex (item.dueAt, ⟨item.proposalReference⟩)

def ActionWorkCursor.workKey (cursor : ActionWorkCursor) : WorkKey :=
  toLex (cursor.dueAt, ⟨cursor.proposalReference⟩)

variable {table : ProposalTable} {tenantReference : SafeReference} {cutoff : Timestamp}

theorem afterCursor_eq (cursor : Option ActionWorkCursor) :
    afterCursor cursor =
      Keyset.after ActionWorkItem.workKey (cursor.map ActionWorkCursor.workKey) := by
  funext item
  cases cursor with
  | none => rfl
  | some last =>
    have hlt : last.workKey < item.workKey ↔ last.dueAt < item.dueAt ∨
        last.dueAt = item.dueAt ∧ CollatedText.mk last.proposalReference < ⟨item.proposalReference⟩ :=
      Prod.Lex.toLex_lt_toLex
    rw [Bool.eq_iff_iff, afterCursor, Keyset.after, Option.map_some, Option.all_some,
      Option.all_some, decide_eq_true_eq, hlt]
    simp

theorem beforeOrAt_eq :
    beforeOrAt = fun item item' : ActionWorkItem ↦ decide (item.workKey ≤ item'.workKey) := by
  funext item item'
  have hle : item.workKey ≤ item'.workKey ↔ item.dueAt < item'.dueAt ∨
      item.dueAt = item'.dueAt ∧ CollatedText.mk item.proposalReference ≤ ⟨item'.proposalReference⟩ :=
    Prod.Lex.toLex_le_toLex
  rw [Bool.eq_iff_iff, decide_eq_true_eq, hle]
  simp [beforeOrAt]

theorem query_eq (cursor : Option ActionWorkCursor) (limit : ℕ) :
    table.query tenantReference cutoff cursor limit =
      (Keyset.ordered ActionWorkItem.workKey (table.due tenantReference cutoff)
        (cursor.map ActionWorkCursor.workKey)).take limit := by
  rw [ProposalTable.query, Keyset.ordered, afterCursor_eq, beforeOrAt_eq]

omit [Collation] in
/-- No two due proposals of a tenant have one key. -/
theorem due_keys_nodup (table : ProposalTable) (tenantReference : SafeReference)
    (cutoff : Timestamp) :
    ((table.due tenantReference cutoff).map ActionWorkItem.workKey).Nodup := by
  rw [ProposalTable.due, List.map_map]
  refine List.Nodup.map_on ?_ ((table.primary_key.of_map _).filter _)
  rintro ⟨⟨tenant, reference⟩, row⟩ hrow ⟨⟨tenant', reference'⟩, row'⟩ hrow' heq
  obtain ⟨hmem, hdue⟩ := List.mem_filter.mp hrow
  obtain ⟨hmem', hdue'⟩ := List.mem_filter.mp hrow'
  rw [Bool.and_eq_true, beq_iff_eq] at hdue hdue'
  obtain rfl : tenant = tenantReference := hdue.1
  obtain rfl : tenant' = tenant := hdue'.1
  have hreference : reference = reference' :=
    congrArg (fun key : WorkKey ↦ (ofLex key).2.text) heq
  subst hreference
  exact List.inj_on_of_nodup_map table.primary_key hmem hmem' rfl

/-- A page is a page of the keyset pagination. -/
theorem discoverDue_page {limit : ℤ} (hlimit : 1 ≤ limit ∧ limit ≤ 500)
    (cursor : Option ActionWorkCursor) :
    ∃ page, discoverDue table tenantReference cutoff limit cursor = .ok page ∧
      page.items = (Keyset.page ActionWorkItem.workKey (table.due tenantReference cutoff)
        limit.toNat (cursor.map ActionWorkCursor.workKey)).1 ∧
      page.nextCursor.map ActionWorkCursor.workKey = (Keyset.page ActionWorkItem.workKey
        (table.due tenantReference cutoff) limit.toNat (cursor.map ActionWorkCursor.workKey)).2 := by
  rw [discoverDue, if_neg (not_not.mpr hlimit)]
  refine ⟨_, rfl, ?_, ?_⟩
  · rw [query_eq]
    rfl
  · dsimp only
    rw [query_eq, Keyset.page]
    split_ifs
    · rw [Option.map_map]
      rfl
    · rfl

/-- Fetching the pages of the pagination. -/
theorem discovers_of_pages {limit : ℤ} (hlimit : 1 ≤ limit ∧ limit ≤ 500)
    {key : Option WorkKey} {items : List (List ActionWorkItem)}
    (hpages : Keyset.Pages ActionWorkItem.workKey (table.due tenantReference cutoff) limit.toNat key
      items) :
    ∀ cursor : Option ActionWorkCursor, cursor.map ActionWorkCursor.workKey = key →
      ∃ pages, Discovers table tenantReference cutoff limit cursor pages ∧
        pages.map ActionWorkPage.items = items := by
  induction hpages with
  | last hlast =>
    rintro cursor rfl
    obtain ⟨page, hpage, hitems, hnext⟩ := discoverDue_page hlimit cursor
    rw [hlast, Option.map_eq_none_iff] at hnext
    exact ⟨[page], .last hpage hnext, by rw [List.map_singleton, hitems]⟩
  | more hmore _ ih =>
    rintro cursor rfl
    obtain ⟨page, hpage, hitems, hnext⟩ := discoverDue_page hlimit cursor
    rw [hmore, Option.map_eq_some_iff] at hnext
    obtain ⟨next, hnext, hkey⟩ := hnext
    obtain ⟨pages, hpages, hrest⟩ := ih (some next) (congrArg some hkey)
    exact ⟨page :: pages, .more hpage hnext hpages, by rw [List.map_cons, hitems, hrest]⟩

/-- **Every due proposal once, in order.** For any table, tenant, cutoff and page limit, fetching
the pages comes to an end, and together they list the due proposals of the tenant, each once, in the
order of due time and proposal reference. -/
theorem discover_due_lists_all (table : ProposalTable) (tenantReference : SafeReference)
    (cutoff : Timestamp) {limit : ℤ} (hlimit : 1 ≤ limit ∧ limit ≤ 500) :
    ∃ pages, Discovers table tenantReference cutoff limit none pages ∧
      (pages.flatMap ActionWorkPage.items).Perm (table.due tenantReference cutoff) ∧
      (pages.flatMap ActionWorkPage.items).Pairwise
        fun item item' ↦ item.workKey < item'.workKey := by
  have hkeys := due_keys_nodup table tenantReference cutoff
  have hpositive : 0 < limit.toNat := by omega
  obtain ⟨items, hpages, hflatten⟩ := Keyset.exists_pages hkeys hpositive none
  obtain ⟨pages, hdiscovers, hitems⟩ := discovers_of_pages hlimit hpages none rfl
  have hall : pages.flatMap ActionWorkPage.items =
      Keyset.ordered ActionWorkItem.workKey (table.due tenantReference cutoff) none := by
    rw [List.flatMap, hitems, hflatten]
  refine ⟨pages, hdiscovers, ?_, ?_⟩
  · rw [hall]
    refine (Keyset.ordered_perm _ none).trans (List.Perm.of_eq ?_)
    exact List.filter_eq_self.mpr fun _ _ ↦ rfl
  · rw [hall]
    exact Keyset.ordered_pairwise hkeys none

end Query

section Sample

/-- Texts compared by their characters. -/
@[reducible] def plainCollation : Collation := ⟨inferInstance⟩

attribute [local instance] plainCollation

/-- A row of an authorized proposal. -/
def authorizedRow (statusChangedAt : Timestamp) : ProposalRow where
  actionType := ⟨"sample.actions", "act", 1, Nat.one_pos⟩
  semanticEffectReference := "effect"
  effectKind := .single
  lifecycleStatus := .authorized
  revision := 1
  commitmentDigest := none
  createdAt := 0
  expiresAt := 600
  statusChangedAt := statusChangedAt
  nextVerificationAt := none
  proposalData := []

/-- Three due proposals, two of them since the same time, and one of another tenant. -/
def sampleTable : ProposalTable where
  rows := [(("tenant", "b"), authorizedRow 5), (("tenant", "c"), authorizedRow 5),
    (("tenant", "a"), authorizedRow 7), (("other", "a"), authorizedRow 5)]
  primary_key := by decide

/-- The sample proposals, one to a page. -/
theorem discover_due_lists_all_sample :
    ∃ pages, Discovers sampleTable "tenant" 10 1 none pages ∧
      (pages.flatMap ActionWorkPage.items).Perm (sampleTable.due "tenant" 10) ∧
      (pages.flatMap ActionWorkPage.items).Pairwise
        fun item item' ↦ item.workKey < item'.workKey :=
  discover_due_lists_all sampleTable "tenant" 10 (by decide)

end Sample

end ThrevoActions
