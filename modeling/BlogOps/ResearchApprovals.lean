import BlogOps.AppErrors
import BlogOps.KeyedTables
import BlogOps.PythonText
import BlogOps.TransitionRuns
import Mathlib.Data.List.Sort

/-!
# Approvals of a research source set

`add_artifact` and `approve_source_set` on one research run, as transactions whose
queries interleave.  Each query reads what is committed when it runs.  An approval
locks the row of the run for update.  The insert of an artifact takes the key lock of
its foreign key on that row and, where it clears an approval, the lock of an update.
-/

namespace BlogOps.Research

open KeyedTables TransitionRuns List

inductive SourceSelection where
  | autoSelected | userSelected | excluded
deriving DecidableEq, Repr

inductive ResearchArtifactKind where
  | webResult | knowledgeSource | userFact | file | transcript | feedItem
deriving DecidableEq, Repr

/-- `max_quote_words` of a quote policy: what `int` makes of it, or how `int` fails. -/
inductive QuoteLimit where
  | absent
  | words (count : Int)
  | unreadable
  | untyped
deriving DecidableEq, Repr

structure ResearchArtifactCreate where
  sourceVersionId : Option Uuid := none
  artifactKind : ResearchArtifactKind
  selection : SourceSelection := .userSelected
  exclusionReason : Option String := none
  grade : String
  title : String
  rightsStatus : String
  maxQuoteWords : QuoteLimit := .absent
  excerpt : Option String := none
  excluded_reason : selection = .excluded → exclusionReason.getD "" ≠ ""

structure ResearchArtifact where
  id : Uuid
  selection : SourceSelection
  grade : String
  artifactHash : String
deriving DecidableEq, Repr

structure ArtifactSnapshot where
  id : Uuid
  artifactHash : String
  grade : String
deriving DecidableEq, Repr

class ResearchHashes where
  artifactHash : ResearchArtifactCreate → String
  canonicalJsonHash : List ArtifactSnapshot → String

structure ResearchRun where
  approvedSourceSetHash : Option String := none
  approvedBy : Option Uuid := none
  approvedAt : Option Int := none
deriving DecidableEq, Repr

/-- What a transaction has done. -/
inductive Progress where
  /-- It has read the run, and the approval that it saw. -/
  | reading (data : ResearchArtifactCreate) (seen : Option String)
  | checked (data : ResearchArtifactCreate) (seen : Option String)
  | inserted (artifact : ResearchArtifact) (clears : Bool)
  | locked (actorId : Uuid)
  | approved (actorId : Uuid) (sourceSetHash : String) (now : Int)

structure Transaction where
  id : Nat
  progress : Progress

/-- The run and its artifacts as they are committed, and the transactions that are open. -/
structure ResearchDesk where
  run : ResearchRun := {}
  artifacts : List ResearchArtifact := []
  transactions : List Transaction := []

/-- It holds the row of the run for update. -/
def Progress.locksRun : Progress → Bool
  | .locked _ | .approved .. => true
  | _ => false

/-- It has written the row of the run. -/
def Progress.updatesRun : Progress → Bool
  | .inserted _ clears => clears
  | progress => progress.locksRun

def Progress.holdsRun : Progress → Bool
  | .inserted .. => true
  | progress => progress.locksRun

/-- It has inserted an artifact with this hash. -/
def Progress.inserts (artifactHash : String) : Progress → Bool
  | .inserted artifact _ => artifact.artifactHash = artifactHash
  | _ => false

variable (desk : ResearchDesk)

/-- No other transaction does `test`. -/
def ResearchDesk.noOther (id : Nat) (test : Progress → Bool) : Prop :=
  ∀ transaction ∈ desk.transactions, transaction.id ≠ id → test transaction.progress = false

instance (desk : ResearchDesk) (id : Nat) (test : Progress → Bool) :
    Decidable (desk.noOther id test) := by
  unfold ResearchDesk.noOther
  infer_instance

def ResearchDesk.progressOf (id : Nat) : Option Progress :=
  (desk.transactions.find? fun transaction => transaction.id = id).map Transaction.progress

def ResearchDesk.advance (id : Nat) (progress : Progress) : ResearchDesk :=
  { desk with
    transactions := updateRow Transaction.id id
      (fun transaction => { transaction with progress := progress }) desk.transactions }

/-- The end of a transaction. -/
def ResearchDesk.close (id : Nat) : ResearchDesk :=
  { desk with transactions := desk.transactions.filter fun transaction => transaction.id ≠ id }

def ResearchDesk.start (id : Nat) (progress : Progress) : ResearchDesk :=
  { desk with transactions := desk.transactions ++ [⟨id, progress⟩] }

def sourceVersionNotFound : Failure := .app {
  code := "SOURCE_VERSION_NOT_FOUND"
  message := "요청한 리소스를 찾을 수 없습니다."
  statusCode := 404 }

def unprocessable (code message : String) : Failure :=
  .app { code := code, message := message, statusCode := 422 }

def quotePolicyExceeded : Failure := unprocessable "QUOTE_POLICY_EXCEEDED" "인용 한도를 초과했습니다. 요약으로 전환해야 합니다."

def userFactOwnershipRequired : Failure := unprocessable "USER_FACT_OWNERSHIP_REQUIRED"
  "사용자 사실은 사용자 소유 자료로 명확히 구분해야 합니다."

/-- `len(text.split())` -/
def wordCount (text : String) : Nat :=
  ((text.toList.splitOnP PythonText.isSpace).filter fun word => word ≠ []).length

def enforceQuotePolicy (words : Nat) : QuoteLimit → Except Failure Unit
  | .absent => .ok ()
  | .words count => require ((words : Int) ≤ count) quotePolicyExceeded
  | .unreadable => .error quotePolicyExceeded
  | .untyped => .error .validationError

/-- The checks before the look for an equal artifact; `known`: the source version exists. -/
def checkArtifact (known : Bool) (data : ResearchArtifactCreate) : Except Failure Unit := do
  require (data.sourceVersionId = none ∨ known = true) sourceVersionNotFound
  enforceQuotePolicy (wordCount (data.excerpt.getD "")) data.maxQuoteWords
  require (data.artifactKind = .userFact → data.rightsStatus = "OWNED") userFactOwnershipRequired

section Desk

variable [ResearchHashes]

open ResearchHashes

variable (desk : ResearchDesk)

def ResearchDesk.stored (data : ResearchArtifactCreate) : Bool :=
  desk.artifacts.any fun artifact => artifact.artifactHash = artifactHash data

/-- The second query: an artifact with the same hash is returned, and the transaction ends. -/
def ResearchDesk.check (id : Nat) (known : Bool) : ResearchDesk :=
  match desk.progressOf id with
  | some (.reading data seen) =>
    if (checkArtifact known data).isOk && !desk.stored data then
      desk.advance id (.checked data seen)
    else desk.close id
  | _ => desk

def newArtifact (artifactId : Uuid) (data : ResearchArtifactCreate) : ResearchArtifact where
  id := artifactId
  selection := data.selection
  grade := data.grade
  artifactHash := artifactHash data

/-- The locks of the flush are free: the key lock on the run, the lock of the update if it clears an
approval, and the unique key of the artifact. -/
def ResearchDesk.insertFree (id : Nat) (data : ResearchArtifactCreate) (clears : Bool) : Prop :=
  desk.noOther id Progress.locksRun ∧ (clears = true → desk.noOther id Progress.updatesRun) ∧
    desk.noOther id (Progress.inserts (artifactHash data))

instance (desk : ResearchDesk) (id : Nat) (data : ResearchArtifactCreate) (clears : Bool) :
    Decidable (desk.insertFree id data clears) := by
  unfold ResearchDesk.insertFree
  infer_instance

/-- The flush waits for its locks; a hash that has been committed meanwhile makes it fail. -/
def ResearchDesk.insert (id : Nat) (artifactId : Uuid) : ResearchDesk :=
  match desk.progressOf id with
  | some (.checked data seen) =>
    if desk.insertFree id data seen.isSome then
      if desk.stored data then desk.close id
      else desk.advance id (.inserted (newArtifact artifactId data) seen.isSome)
    else desk
  | _ => desk

def ResearchArtifact.listed (artifact : ResearchArtifact) : Bool := artifact.selection ≠ .excluded

def ResearchArtifact.snapshot (artifact : ResearchArtifact) : ArtifactSnapshot where
  id := artifact.id
  artifactHash := artifact.artifactHash
  grade := artifact.grade

def sourceSetHash (artifacts : List ResearchArtifact) : String :=
  canonicalJsonHash ((artifacts.map ResearchArtifact.snapshot).insertionSort fun a b => a.id ≤ b.id)

def listedArtifacts (artifacts : List ResearchArtifact) : List ResearchArtifact :=
  artifacts.filter ResearchArtifact.listed

/-- The approval lists the artifacts; without any, it raises and is rolled back. -/
def ResearchDesk.approve (id : Nat) (now : Int) : ResearchDesk :=
  match desk.progressOf id with
  | some (.locked actorId) =>
    if listedArtifacts desk.artifacts = [] then desk.close id
    else desk.advance id (.approved actorId (sourceSetHash (listedArtifacts desk.artifacts)) now)
  | _ => desk

def ResearchDesk.commit (id : Nat) : ResearchDesk :=
  match desk.progressOf id with
  | some (.inserted artifact clears) => { desk.close id with
      artifacts := desk.artifacts ++ [artifact]
      run := if clears then {} else desk.run }
  | some (.approved actorId sourceSetHash now) => { desk.close id with
      run := {
        approvedSourceSetHash := some sourceSetHash
        approvedBy := some actorId
        approvedAt := some now } }
  | _ => desk.close id

inductive ResearchAction where
  | beginAdd (id : Nat) (data : ResearchArtifactCreate)
  | check (id : Nat) (known : Bool)
  | insert (id : Nat) (artifactId : Uuid)
  | lock (id : Nat) (actorId : Uuid)
  | approve (id : Nat) (now : Int)
  | commit (id : Nat)
  | rollBack (id : Nat)

def ResearchDesk.unused (id : Nat) : Prop := ∀ transaction ∈ desk.transactions, transaction.id ≠ id

instance (desk : ResearchDesk) (id : Nat) : Decidable (desk.unused id) := by
  unfold ResearchDesk.unused
  infer_instance

def stepResearch : ResearchAction → ResearchDesk
  | .beginAdd id data =>
    if desk.unused id then desk.start id (.reading data desk.run.approvedSourceSetHash) else desk
  | .check id known => desk.check id known
  | .insert id artifactId => desk.insert id artifactId
  | .lock id actorId =>
    if desk.unused id ∧ desk.noOther id Progress.holdsRun then desk.start id (.locked actorId)
    else desk
  | .approve id now => desk.approve id now
  | .commit id => desk.commit id
  | .rollBack id => desk.close id

/-- The approval, if there is one, is of the committed artifacts that are not excluded. -/
def ApprovalCurrent : Prop := ∀ approved ∈ desk.run.approvedSourceSetHash,
    approved = sourceSetHash (listedArtifacts desk.artifacts)

/-- A request that saw no approval and inserts an artifact that is not excluded finds the run still
unapproved at its insert. -/
def Timely : ResearchAction → Prop
  | .insert id _ => ∀ data, desk.progressOf id = some (.checked data none) →
      data.selection ≠ .excluded → desk.run.approvedSourceSetHash = none
  | _ => True

structure ResearchInvariant (desk : ResearchDesk) : Prop where
  keyed : Keyed Transaction.id desk.transactions
  current : ApprovalCurrent desk
  exclusive : ∀ t ∈ desk.transactions, t.progress.locksRun = true → desk.noOther t.id Progress.holdsRun
  hashed : ∀ t ∈ desk.transactions, ∀ actorId approved now,
    t.progress = .approved actorId approved now → approved = sourceSetHash (listedArtifacts desk.artifacts)
  inserted : ∀ t ∈ desk.transactions, ∀ artifact, t.progress = .inserted artifact false →
    artifact.listed = true → desk.run.approvedSourceSetHash = none

section Steps

variable {desk : ResearchDesk} {id : Nat}

omit [ResearchHashes] in
theorem progressOf_mem {progress : Progress} (h : desk.progressOf id = some progress) :
    ∃ t ∈ desk.transactions, t.id = id ∧ t.progress = progress := by
  obtain ⟨t, hfind, rfl⟩ := Option.map_eq_some_iff.mp h
  have hid := find?_some hfind
  exact ⟨t, mem_of_find?_eq_some hfind, of_decide_eq_true hid, rfl⟩

variable {t : Transaction}

omit [ResearchHashes] in
theorem mem_advance {progress : Progress} (h : t ∈ (desk.advance id progress).transactions) :
    (t.id = id ∧ t.progress = progress) ∨ (t ∈ desk.transactions ∧ t.id ≠ id) := by
  obtain ⟨old, hold, ⟨hid, rfl⟩ | ⟨hid, rfl⟩⟩ := mem_updateRow h
  · exact .inl ⟨hid, rfl⟩
  · exact .inr ⟨hold, hid⟩

omit [ResearchHashes] in
theorem mem_start {progress : Progress} (h : t ∈ (desk.start id progress).transactions) :
    (t.id = id ∧ t.progress = progress) ∨ t ∈ desk.transactions := by
  rcases mem_append.mp h with h | h
  · exact .inr h
  · rw [mem_singleton.mp h]
    exact .inl ⟨rfl, rfl⟩

omit [ResearchHashes] in
theorem mem_close (h : t ∈ (desk.close id).transactions) : t ∈ desk.transactions ∧ t.id ≠ id := by
  obtain ⟨hmem, hid⟩ := mem_filter.mp h
  exact ⟨hmem, of_decide_eq_true hid⟩

omit [ResearchHashes] in
theorem locksRun_holdsRun {progress : Progress} (h : progress.locksRun = true) :
    progress.holdsRun = true := by
  cases progress <;> simp_all [Progress.locksRun, Progress.holdsRun]

/-- Transactions that end without a commit leave nothing behind. -/
theorem ResearchInvariant.close (h : ResearchInvariant desk) (id : Nat) :
    ResearchInvariant (desk.close id) where
  keyed := h.keyed.sublist filter_sublist
  current := h.current
  exclusive t ht hlocks other hother hne :=
    h.exclusive t (mem_close ht).1 hlocks other (mem_close hother).1 hne
  hashed t ht := h.hashed t (mem_close ht).1
  inserted t ht := h.inserted t (mem_close ht).1

/-- The other transactions let the transaction `id` go on to `progress`. -/
structure Fits (desk : ResearchDesk) (id : Nat) (progress : Progress) : Prop where
  holds : progress.holdsRun = true → desk.noOther id Progress.locksRun
  locks : progress.locksRun = true → desk.noOther id Progress.holdsRun
  approved : ∀ actorId approved now, progress = .approved actorId approved now →
    approved = sourceSetHash (listedArtifacts desk.artifacts)
  inserted : ∀ artifact, progress = .inserted artifact false → artifact.listed = true →
    desk.run.approvedSourceSetHash = none

/-- A transaction that goes on to `progress`, while the committed rows stay as they are. -/
theorem ResearchInvariant.moved (h : ResearchInvariant desk) {after : ResearchDesk}
    {progress : Progress} (hrun : after.run = desk.run)
    (hartifacts : after.artifacts = desk.artifacts)
    (hkeyed : Keyed Transaction.id after.transactions)
    (hmem : ∀ t ∈ after.transactions, (t.id = id ∧ t.progress = progress) ∨
      (t ∈ desk.transactions ∧ t.id ≠ id))
    (hfits : Fits desk id progress) :
    ResearchInvariant after where
  keyed := hkeyed
  current := by
    unfold ApprovalCurrent
    rw [hrun, hartifacts]
    exact h.current
  exclusive := by
    intro t ht htlocks other hother hne
    rcases hmem t ht with ⟨rfl, rfl⟩ | ⟨ht, htid⟩
    · rcases hmem other hother with ⟨hid, -⟩ | ⟨hother, -⟩
      · exact absurd hid hne
      · exact hfits.locks htlocks other hother hne
    · rcases hmem other hother with ⟨-, rfl⟩ | ⟨hother, -⟩
      · by_contra hheld
        have hfree := hfits.holds (Bool.eq_true_of_not_eq_false hheld) t ht htid
        cases htlocks.symm.trans hfree
      · exact h.exclusive t ht htlocks other hother hne
  hashed := by
    intro t ht actorId approved now hprogress
    rw [hartifacts]
    rcases hmem t ht with ⟨-, rfl⟩ | ⟨ht, -⟩
    · exact hfits.approved actorId approved now hprogress
    · exact h.hashed t ht actorId approved now hprogress
  inserted := by
    intro t ht artifact hprogress hlisted
    rw [hrun]
    rcases hmem t ht with ⟨-, rfl⟩ | ⟨ht, -⟩
    · exact hfits.inserted artifact hprogress hlisted
    · exact h.inserted t ht artifact hprogress hlisted

omit [ResearchHashes] in
theorem keyed_advance (h : Keyed Transaction.id desk.transactions) (id : Nat)
    (progress : Progress) : Keyed Transaction.id (desk.advance id progress).transactions :=
  h.updateRow fun _ _ => rfl

omit [ResearchHashes] in
theorem keyed_start (h : Keyed Transaction.id desk.transactions) (hunused : desk.unused id)
    (progress : Progress) : Keyed Transaction.id (desk.start id progress).transactions :=
  h.append_row hunused

omit [ResearchHashes] in
theorem mem_start_unused (hunused : desk.unused id) {progress : Progress}
    (h : t ∈ (desk.start id progress).transactions) :
    (t.id = id ∧ t.progress = progress) ∨ (t ∈ desk.transactions ∧ t.id ≠ id) :=
  (mem_start h).imp_right fun ht => ⟨ht, hunused t ht⟩

section

variable (h : ResearchInvariant desk)

include h

theorem ResearchInvariant.started (hunused : desk.unused id) {progress : Progress}
    (hfits : Fits desk id progress) : ResearchInvariant (desk.start id progress) :=
  h.moved (rfl : (desk.start id progress).run = desk.run) rfl (keyed_start h.keyed hunused progress)
    (fun _ => mem_start_unused hunused) hfits

theorem ResearchInvariant.advanced {progress : Progress}
    (hfits : Fits desk id progress) : ResearchInvariant (desk.advance id progress) :=
  h.moved (rfl : (desk.advance id progress).run = desk.run) rfl (keyed_advance h.keyed id progress)
    (fun _ => mem_advance) hfits

theorem ResearchInvariant.beginAdd (hunused : desk.unused id) (data : ResearchArtifactCreate)
    (seen : Option String) : ResearchInvariant (desk.start id (.reading data seen)) := by
  refine h.started hunused ⟨?_, ?_, ?_, ?_⟩
  · intro hholds
    cases hholds
  · intro hlocks
    cases hlocks
  · intro actorId approved now hprogress
    cases hprogress
  · intro artifact hprogress
    cases hprogress

theorem ResearchInvariant.lock (hunused : desk.unused id) (hfree : desk.noOther id Progress.holdsRun)
    (actorId : Uuid) : ResearchInvariant (desk.start id (.locked actorId)) := by
  refine h.started hunused ⟨?_, ?_, ?_, ?_⟩
  · intro _ t ht hne
    by_contra hlocks
    have hholds := locksRun_holdsRun (Bool.eq_true_of_not_eq_false hlocks)
    cases hholds.symm.trans (hfree t ht hne)
  · exact fun _ => hfree
  · intro actorId approved now hprogress
    cases hprogress
  · intro artifact hprogress
    cases hprogress

theorem ResearchInvariant.check (id : Nat) (known : Bool) : ResearchInvariant (desk.check id known) := by
  unfold ResearchDesk.check
  split
  · split
    · refine h.advanced ⟨?_, ?_, ?_, ?_⟩
      · intro hholds
        cases hholds
      · intro hlocks
        cases hlocks
      · intro actorId approved now hprogress
        cases hprogress
      · intro artifact hprogress
        cases hprogress
    · exact h.close id
  · exact h

theorem ResearchInvariant.insert {artifactId : Uuid} (htimely : Timely desk (.insert id artifactId)) :
    ResearchInvariant (desk.insert id artifactId) := by
  unfold ResearchDesk.insert
  split
  · rename_i data seen hprogress
    split
    · rename_i hfree
      split
      · exact h.close id
      · refine h.advanced ⟨?_, ?_, ?_, ?_⟩
        · exact fun _ => hfree.1
        · intro hlocks
          cases hlocks
        · intro actorId approved now hinserted
          cases hinserted
        · intro artifact hinserted hlisted
          injection hinserted with hartifact hclears
          subst hartifact
          rw [Option.isSome_eq_false_iff, Option.isNone_iff_eq_none] at hclears
          subst hclears
          exact htimely data hprogress (of_decide_eq_true hlisted)
    · exact h
  · exact h

theorem ResearchInvariant.approve (id : Nat) (now : Int) : ResearchInvariant (desk.approve id now) := by
  unfold ResearchDesk.approve
  split
  · rename_i actorId hprogress
    obtain ⟨t, ht, rfl, htprogress⟩ := progressOf_mem hprogress
    have hlocked : desk.noOther t.id Progress.holdsRun := h.exclusive t ht (by rw [htprogress]; rfl)
    split
    · exact h.close t.id
    · refine h.advanced ⟨?_, ?_, ?_, ?_⟩
      · intro _ other hother hne
        by_contra hlocks
        have hholds := locksRun_holdsRun (Bool.eq_true_of_not_eq_false hlocks)
        cases hholds.symm.trans (hlocked other hother hne)
      · exact fun _ => hlocked
      · intro actorId approved now happroved
        cases happroved
        rfl
      · intro artifact happroved
        cases happroved
  · exact h

section

variable (ht : t ∈ desk.transactions)

include ht

/-- With an insert to commit, no approval is under way. -/
theorem ResearchInvariant.unlocked (hholds : t.progress.holdsRun = true) :
    desk.noOther t.id Progress.locksRun := by
  intro other hother hne
  by_contra hlocks
  have hfree := h.exclusive other hother (Bool.eq_true_of_not_eq_false hlocks) t ht hne.symm
  cases hholds.symm.trans hfree

theorem ResearchInvariant.commitInsert {artifact : ResearchArtifact} {clears : Bool}
    (hprogress : t.progress = .inserted artifact clears) : ResearchInvariant { desk.close t.id with
      artifacts := desk.artifacts ++ [artifact]
      run := if clears then {} else desk.run } := by
  have hunlocked := h.unlocked ht (by rw [hprogress]; rfl)
  have hnone : ∀ other ∈ (desk.close t.id).transactions, ∀ actorId approved now,
      other.progress ≠ .approved actorId approved now := by
    intro other hother actorId approved now happroved
    obtain ⟨hmem, hne⟩ := mem_close hother
    have hfree := hunlocked other hmem hne
    rw [happroved] at hfree
    cases hfree
  have hclosed := h.close t.id
  constructor
  · exact hclosed.keyed
  · intro approved happroved
    cases clears with
    | true => cases happroved
    | false =>
      have hkept : approved ∈ desk.run.approvedSourceSetHash := happroved
      cases hlisted : artifact.listed with
      | true =>
        rw [h.inserted t ht artifact hprogress hlisted] at hkept
        cases hkept
      | false =>
        have hsame : listedArtifacts (desk.artifacts ++ [artifact]) =
            listedArtifacts desk.artifacts := by
          simp [listedArtifacts, filter_append, hlisted]
        rw [hsame]
        exact h.current approved hkept
  · exact hclosed.exclusive
  · exact fun other hother actorId approved now happroved =>
      absurd happroved (hnone other hother actorId approved now)
  · intro other hother found hfound hlisted
    cases clears with
    | true => rfl
    | false => exact hclosed.inserted other hother found hfound hlisted

theorem ResearchInvariant.commitApproval {actorId : Uuid} {approved : String} {now : Int}
    (hprogress : t.progress = .approved actorId approved now) : ResearchInvariant { desk.close t.id with
      run := {
        approvedSourceSetHash := some approved
        approvedBy := some actorId
        approvedAt := some now } } := by
  have hlocked : desk.noOther t.id Progress.holdsRun := h.exclusive t ht (by rw [hprogress]; rfl)
  have hclosed := h.close t.id
  constructor
  · exact hclosed.keyed
  · intro found hfound
    cases hfound
    exact h.hashed t ht actorId approved now hprogress
  · exact hclosed.exclusive
  · exact hclosed.hashed
  · intro other hother artifact hinserted
    obtain ⟨hmem, hne⟩ := mem_close hother
    have hfree := hlocked other hmem hne
    rw [hinserted] at hfree
    cases hfree

end

theorem ResearchInvariant.commit (id : Nat) : ResearchInvariant (desk.commit id) := by
  unfold ResearchDesk.commit
  split
  · rename_i artifact clears hprogress
    obtain ⟨t, ht, rfl, htprogress⟩ := progressOf_mem hprogress
    exact h.commitInsert ht htprogress
  · rename_i actorId approved now hprogress
    obtain ⟨t, ht, rfl, htprogress⟩ := progressOf_mem hprogress
    exact h.commitApproval ht htprogress
  · exact h.close id

theorem researchInvariant_step {action : ResearchAction} (htimely : Timely desk action) :
    ResearchInvariant (stepResearch desk action) := by
  cases action with
  | beginAdd id data =>
    unfold stepResearch
    dsimp only
    split
    · exact h.beginAdd ‹_› data _
    · exact h
  | check id known => exact h.check id known
  | insert id artifactId => exact h.insert htimely
  | lock id actorId =>
    unfold stepResearch
    dsimp only
    split
    · rename_i hfree
      exact h.lock hfree.1 hfree.2 actorId
    · exact h
  | approve id now => exact h.approve id now
  | commit id => exact h.commit id
  | rollBack id => exact h.close id

end

/-- In a run whose inserts are timely, the approval covers the committed artifacts whenever no
transaction is open. -/
theorem approvals_current (hunapproved : desk.run.approvedSourceSetHash = none)
    (hidle : desk.transactions = []) {actions : List ResearchAction}
    (htimely : Along stepResearch Timely desk actions) :
    ∀ before, before <+: actions → (run stepResearch desk before).transactions = [] →
      ApprovalCurrent (run stepResearch desk before) := by
  have hinit : ResearchInvariant desk := by
    constructor
    · rw [hidle]
      exact nodup_nil
    · intro approved happroved
      rw [hunapproved] at happroved
      cases happroved
    · simp [hidle]
    · simp [hidle]
    · simp [hidle]
  rintro before ⟨rest, rfl⟩ _
  have hbefore := ((along_append stepResearch Timely desk before rest).mp htimely).1
  exact (invariant_along stepResearch (I := ResearchInvariant)
    (fun _ _ h htimely => researchInvariant_step h htimely) hinit hbefore).current

end Steps

end Desk

section Samples

abbrev sampleResearchHashes : ResearchHashes where
  artifactHash data := data.title
  canonicalJsonHash snapshots := String.join (snapshots.map ArtifactSnapshot.artifactHash)

attribute [local instance] sampleResearchHashes

def webResult (title : String) : ResearchArtifactCreate where
  artifactKind := .webResult
  grade := "A"
  title := title
  rightsStatus := "PUBLIC"
  excluded_reason h := by cases h

def addition (id : Nat) (title : String) : List ResearchAction :=
  [.beginAdd id (webResult title), .check id true, .insert id id, .commit id]

def approval (id : Nat) : List ResearchAction := [.lock id 9, .approve id 0, .commit id]

def timelyTest (desk : ResearchDesk) (id : Nat) : Bool :=
  match desk.progressOf id with
  | some (.checked data none) => data.selection = .excluded || desk.run.approvedSourceSetHash.isNone
  | _ => true

theorem timely_of_test {desk : ResearchDesk} {id : Nat} {artifactId : Uuid}
    (h : timelyTest desk id = true) : Timely desk (.insert id artifactId) := by
  intro data hprogress hincluded
  simp only [timelyTest, hprogress, hincluded, decide_false, Bool.false_or, Option.isNone_iff_eq_none] at h
  exact h

/-- An artifact is approved, a second one clears the approval, and both are approved. -/
theorem approvals_current_sample : ({} : ResearchDesk).transactions = [] ∧
    ∀ before, before <+: addition 1 "a" ++ approval 2 ++ addition 3 "b" ++ approval 4 →
      (run stepResearch {} before).transactions = [] →
        ApprovalCurrent (run stepResearch {} before) := by
  refine ⟨rfl, approvals_current rfl rfl ?_⟩
  refine ⟨trivial, trivial, timely_of_test ?_, trivial, trivial, trivial, trivial, trivial,
    trivial, timely_of_test ?_, trivial, trivial, trivial, trivial, trivial⟩
  · decide +kernel
  · decide +kernel

/-- The second artifact is read before the approval of the first and inserted after it. -/
def racedAddition : List ResearchAction :=
  addition 1 "a" ++ [.beginAdd 3 (webResult "b"), .check 3 true] ++ approval 2 ++ [.insert 3 3, .commit 3]

/-- The approval of the first artifact outlives the insert of the second. -/
theorem approval_outlived : (run stepResearch {} racedAddition).transactions = [] ∧
      ¬ ApprovalCurrent (run stepResearch {} racedAddition) := by
  have happroved : (run stepResearch {} racedAddition).run.approvedSourceSetHash = some "a" := by
    decide +kernel
  have hset : sourceSetHash (listedArtifacts (run stepResearch {} racedAddition).artifacts) =
      "ab" := by
    decide +kernel
  refine ⟨eq_nil_of_length_eq_zero (by decide +kernel), fun hcurrent => ?_⟩
  have hsame := hcurrent "a" happroved
  rw [hset] at hsame
  exact absurd hsame (by decide)

end Samples

end BlogOps.Research
