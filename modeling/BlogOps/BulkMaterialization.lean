import Mathlib.Data.List.Perm.Subperm
import BlogOps.BulkCommands

/-!
# Materializing the input of a bulk job

`materialize_csv_snapshot` turns the frozen bytes of a CSV upload into the
rows of the job.  The parsed rows, the hashes and the test for a blank value
are answers of the environment.
-/

namespace BlogOps.Bulk

open Jobs KeyedTables List

structure BulkInputFile where
  isCsv : Bool
  malwareScanStatus : String
  malwareScanner : Option String
  malwareScannerVersion : Option String
  malwareScanResultHash : Option String
  trustedIngestion : Option String
  sizeBytes : Nat
  contentHash : String
  rowCount : Nat
deriving DecidableEq, Repr

structure NormalizedCsvRow where
  rowNo : Nat
  values : List (String × String)
  inputHash : String
deriving DecidableEq, Repr

/-- The bytes of an input as the worker reads them: their size and hash, and what
`iter_normalized_csv_rows` makes of them. -/
structure InputContent where
  size : Nat
  sha256 : String
  rows : Except Failure (List NormalizedCsvRow)

/-- The units of the estimate that fall on a row: the remainder goes to the first rows. -/
def rowUnits (job : BulkJob) (rowNo : Nat) : Int := job.estimatedCost / job.targetRows +
    if (rowNo : Int) ≤ job.estimatedCost % job.targetRows then 1 else 0

variable {job : BulkJob} {created existing : List BulkRow} {normalized : List NormalizedCsvRow}
variable {seen : List (String × Uuid)} {after s : BulkSession} {content : InputContent}
variable {file : BulkInputFile}

theorem rowUnits_nonneg (hestimate : 0 ≤ job.estimatedCost) (rowNo : Nat) : 0 ≤ rowUnits job rowNo := by
  have hbase : 0 ≤ job.estimatedCost / (job.targetRows : Int) :=
    Int.ediv_nonneg hestimate (Int.natCast_nonneg _)
  unfold rowUnits
  split <;> omega

class BulkHashes where
  mappingHash : MappingSnapshot → String
  inputHash : List (String × Option String) → String
  /-- `uuid5(job.id, f"{row_no}:{input_hash}")`. -/
  rowId : Uuid → Nat → String → Uuid
  rowKey : Uuid → Nat → String → String → String
  /-- `not value.strip()`. -/
  blank : String → Bool
  /-- `validate_private_object_ref` on the reference of an input. -/
  privateRef : BulkInputFile → Except Failure Unit

variable [BulkHashes]

/-- `{variable: source_values.get(column)}`. -/
def sanitizedValues (mapping : MappingSnapshot) (row : NormalizedCsvRow) : List (String × Option String) :=
  mapping.columnMapping.map fun (column, name) => (name, row.values.lookup column)

/-- `str(sanitized.get(variable, ""))`; an absent cell reads as the text `None`. -/
def cellText (sanitized : List (String × Option String)) (name : String) : String :=
  match sanitized.lookup name with
  | none => ""
  | some none => "None"
  | some (some text) => text

def rowErrors (mapping : MappingSnapshot) (sanitized : List (String × Option String)) : List FieldError :=
  (mapping.requiredVariables.filter fun name =>
    BulkHashes.blank (cellText sanitized name)).map fun name => ⟨name, "required"⟩

def materializedRow (job : BulkJob) (duplicateOf : Option Uuid) (row : NormalizedCsvRow) : BulkRow :=
  let sanitized := sanitizedValues job.mappingSnapshot row
  let errors := rowErrors job.mappingSnapshot sanitized
  { id := BulkHashes.rowId job.id row.rowNo row.inputHash
    rowNo := row.rowNo
    rowIdempotencyKey := BulkHashes.rowKey job.id row.rowNo row.inputHash job.inputSnapshotHash
    inputHash := BulkHashes.inputHash sanitized
    inputJson := sanitized
    state := if errors ≠ [] then .invalid else if duplicateOf.isSome then .duplicate else .ready
    validationErrors := errors
    duplicateOfRowId := duplicateOf
    duplicateAction := duplicateOf.map fun _ => job.mappingSnapshot.exactAction
    estimatedCost := rowUnits job row.rowNo }

/-- What a row must share with the one the snapshot yields. -/
def sameRow (existing row : BulkRow) : Prop :=
  existing.id = row.id ∧ existing.rowIdempotencyKey = row.rowIdempotencyKey ∧
    existing.inputHash = row.inputHash ∧ existing.inputJson = row.inputJson ∧
    existing.validationErrors = row.validationErrors ∧
    existing.duplicateOfRowId = row.duplicateOfRowId ∧
    existing.duplicateAction = row.duplicateAction ∧ existing.estimatedCost = row.estimatedCost

instance (existing row : BulkRow) : Decidable (sameRow existing row) := by
  unfold sameRow
  infer_instance

def snapshotMismatch (message : String) : Failure := bulkConflict "BULK_ROW_SNAPSHOT_MISMATCH" message

/-- The loop over the rows of the snapshot; `seen` are the first rows by their hash. -/
def materializeRows (job : BulkJob) (existing : List BulkRow) :
    List NormalizedCsvRow → List (String × Uuid) → Except Failure (List BulkRow)
  | [], _ => .ok []
  | normalized :: rest, seen =>
    if job.targetRows < normalized.rowNo then materializeRows job existing rest seen
    else
      let digest := BulkHashes.inputHash (sanitizedValues job.mappingSnapshot normalized)
      let row := materializedRow job (seen.lookup digest) normalized
      let seen := if (seen.lookup digest).isSome then seen else (digest, row.id) :: seen
      match existing.find? (·.rowNo = normalized.rowNo) with
      | some found => do
        require (sameRow found row) (snapshotMismatch "기존 행이 불변 입력 Snapshot의 결정적 결과와 일치하지 않습니다.")
        materializeRows job existing rest seen
      | none => do
        let rows ← materializeRows job existing rest seen
        .ok (row :: rows)

def checkSnapshot (job : BulkJob) (file : BulkInputFile) (content : InputContent) : Except Failure Unit := do
  BulkHashes.privateRef file
  require (file.isCsv ∧ file.malwareScanStatus = "CLEAN" ∧ file.malwareScanner.any (· ≠ "") ∧
    file.malwareScannerVersion.any (· ≠ "") ∧ file.malwareScanResultHash.any (· ≠ "") ∧
    file.trustedIngestion = some "bulk-byte-verifier-v1") (bulkConflict
      "BULK_CSV_SNAPSHOT_UNVERIFIED" "검증 완료된 CSV Snapshot만 서버에서 행으로 변환할 수 있습니다.")
  require (content.size = file.sizeBytes ∧ content.sha256 = file.contentHash ∧
    content.sha256 = job.inputSnapshotHash) (bulkConflict "BULK_INPUT_SNAPSHOT_MISMATCH"
      "실행 시점의 입력 바이트가 고정된 Snapshot과 일치하지 않습니다.")
  require (BulkHashes.mappingHash job.mappingSnapshot = job.mappingSnapshotHash) (bulkConflict
    "BULK_MAPPING_SNAPSHOT_MISMATCH" "고정된 변수 Mapping Snapshot의 무결성을 확인할 수 없습니다.")
  require (1 ≤ job.targetRows ∧ job.targetRows ≤ file.rowCount) (bulkConflict
    "BULK_MATERIALIZATION_TARGET_INVALID" "행 변환 대상 수가 고정된 입력 범위와 일치하지 않습니다.")

/-- The row numbers of the snapshot that the job covers. -/
def expectedNumbers (job : BulkJob) (rows : List NormalizedCsvRow) : List Nat :=
  ((rows.map (·.rowNo)).filter (· ≤ job.targetRows)).dedup

/-- From the rows of a job that still takes its input. -/
def materializeInput (file : BulkInputFile) (content : InputContent) (s : BulkSession) :
    Except Failure BulkSession := do
  checkSnapshot s.job file content
  require (s.stored.length ≤ s.job.targetRows) (snapshotMismatch "기존 행이 고정된 실행 범위를 벗어났습니다.")
  require (s.stored.map (·.rowNo)).Nodup (snapshotMismatch "기존 행 번호의 무결성을 확인할 수 없습니다.")
  let normalized ← content.rows
  let created ← materializeRows s.job s.stored normalized []
  let expected := expectedNumbers s.job normalized
  require (normalized.length = file.rowCount ∧ expected.length = s.job.targetRows) (bulkConflict
    "BULK_INPUT_ROW_COUNT_MISMATCH"
    "입력 Snapshot의 실제 행 수가 검증된 Metadata와 일치하지 않습니다.")
  require (∀ row ∈ s.stored, row.rowNo ∈ expected) (snapshotMismatch "기존 행이 고정된 입력 Snapshot에 포함되지 않습니다.")
  require ((s.rows ++ created).map (·.id)).Nodup (.integrity "bulk_row_workspace_id")
  require ((s.rows ++ created).map (·.rowNo)).Nodup (.integrity "bulk_row_number")
  .ok (refreshProgress (flush { s with rows := s.rows ++ created }))

def materializeCsvSnapshot (file : Option BulkInputFile) (content : InputContent)
    (s : BulkSession) : Except Failure BulkSession :=
  if s.job.state ∈ terminalJobStates ∨ s.job.state = .cancelRequested ∨ s.job.pauseRequested ∨
      s.job.budgetKillSwitchTriggered then .ok s
  else do
    require (s.job.state = .queued ∨ s.job.state = .validating ∨ s.job.state = .waitingInput)
      (bulkConflict "BULK_JOB_NOT_MATERIALIZABLE" "현재 상태에서 입력 Snapshot을 행으로 변환할 수 없습니다.")
    match file with
    | none => .error (.app {
        code := "BULK_INPUT_NOT_FOUND"
        message := "대량 입력 Snapshot을(를) 찾을 수 없습니다."
        statusCode := 404 })
    | some file => materializeInput file content s

/-- A row that no command has touched. -/
structure FreshRow (row : BulkRow) : Prop where
  attempt : row.attempt = 0
  actual : row.actualCost = 0
  estimate : 0 ≤ row.estimatedCost
  unapproved : row.approvedAt = none
  state : row.state = .invalid ∨ row.state = .duplicate ∨ row.state = .ready

theorem freshRow_materializedRow (hestimate : 0 ≤ job.estimatedCost) (duplicateOf : Option Uuid)
    (row : NormalizedCsvRow) : FreshRow (materializedRow job duplicateOf row) := by
  refine ⟨rfl, rfl, rowUnits_nonneg hestimate _, rfl, ?_⟩
  unfold materializedRow
  simp only
  split_ifs <;> simp

theorem freshRow_materializeRows (hestimate : 0 ≤ job.estimatedCost)
    (h : materializeRows job existing normalized seen = .ok created) : ∀ row ∈ created, FreshRow row := by
  induction normalized generalizing seen created with
  | nil =>
    cases h
    simp
  | cons head rest ih =>
    unfold materializeRows at h
    split_ifs at h with hbeyond
    · exact ih h
    · simp only at h
      split at h
      · obtain ⟨_, _, h⟩ := bind_ok h
        exact ih h
      · obtain ⟨rows, hrows, h⟩ := bind_ok h
        cases h
        intro row hrow
        rcases mem_cons.mp hrow with rfl | hrow
        · exact freshRow_materializedRow hestimate _ _
        · exact ih hrows row hrow

/-- What one call appends to a session. -/
structure Materialized (s : BulkSession) (normalized : List NormalizedCsvRow)
    (created : List BulkRow) : Prop where
  rows : materializeRows s.job s.stored normalized [] = .ok created
  expected : (expectedNumbers s.job normalized).length = s.job.targetRows
  covered : ∀ row ∈ s.stored, row.rowNo ∈ expectedNumbers s.job normalized
  keyed : Keyed (·.id) (s.rows ++ created)
  numbered : ((s.rows ++ created).map (·.rowNo)).Nodup

/-- What one call does to a session: nothing, or it appends rows and recounts. -/
theorem materializeCsvSnapshot_appends {file : Option BulkInputFile}
    (h : materializeCsvSnapshot file content s = .ok after) :
    after = s ∨ ∃ normalized created, Materialized s normalized created ∧
      after = refreshProgress (flush { s with rows := s.rows ++ created }) := by
  unfold materializeCsvSnapshot at h
  split_ifs at h
  · cases h
    exact .inl rfl
  · obtain ⟨_, _, h⟩ := bind_ok h
    cases file with
    | none => cases h
    | some file =>
      simp only at h
      unfold materializeInput at h
      obtain ⟨_, _, h⟩ := bind_ok h
      obtain ⟨_, _, h⟩ := bind_ok h
      obtain ⟨_, _, h⟩ := bind_ok h
      obtain ⟨normalized, _, h⟩ := bind_ok h
      obtain ⟨created, hcreated, h⟩ := bind_ok h
      obtain ⟨_, hcounted, h⟩ := bind_ok h
      obtain ⟨_, hcovered, h⟩ := bind_ok h
      obtain ⟨_, hkeyed, h⟩ := bind_ok h
      obtain ⟨_, hnumbered, h⟩ := bind_ok h
      cases h
      have hkeyed : ((s.rows ++ created).map (·.id)).Nodup := require_ok hkeyed
      exact .inr ⟨normalized, created, ⟨hcreated, (require_ok hcounted).2, require_ok hcovered,
        hkeyed, require_ok hnumbered⟩, rfl⟩

/-- The rows of a snapshot are numbered within it. -/
theorem rowNo_mem_of_materializeRows (h : materializeRows job existing normalized seen = .ok created) :
    ∀ row ∈ created, row.rowNo ∈ normalized.map (·.rowNo) ∧ row.rowNo ≤ job.targetRows := by
  induction normalized generalizing seen created with
  | nil =>
    cases h
    simp
  | cons head rest ih =>
    have hrest : ∀ {seen : List (String × Uuid)} {rows : List BulkRow},
        materializeRows job existing rest seen = .ok rows → ∀ row ∈ rows,
          row.rowNo ∈ (head :: rest).map (·.rowNo) ∧ row.rowNo ≤ job.targetRows := by
      intro seen rows hrows row hrow
      obtain ⟨hmem, hle⟩ := ih hrows row hrow
      exact ⟨mem_cons_of_mem _ hmem, hle⟩
    unfold materializeRows at h
    split_ifs at h with hbeyond
    · exact hrest h
    · simp only at h
      split at h
      · obtain ⟨_, _, h⟩ := bind_ok h
        exact hrest h
      · obtain ⟨rows, hrows, h⟩ := bind_ok h
        cases h
        intro row hrow
        rcases mem_cons.mp hrow with rfl | hrow
        · exact ⟨mem_cons_self, not_lt.mp hbeyond⟩
        · exact hrest hrows row hrow

/-- A snapshot has no more rows than the job covers. -/
theorem Materialized.length_le (h : Materialized s normalized created)
    (hstored : s.stored = s.rows) : (s.rows ++ created).length ≤ s.job.targetRows := by
  have hsubset : (s.rows ++ created).map (·.rowNo) ⊆ expectedNumbers s.job normalized := by
    intro number hnumber
    obtain ⟨row, hrow, rfl⟩ := mem_map.mp hnumber
    rcases mem_append.mp hrow with hrow | hrow
    · exact h.covered row (hstored.symm ▸ hrow)
    · obtain ⟨hmem, hle⟩ := rowNo_mem_of_materializeRows h.rows row hrow
      unfold expectedNumbers
      rw [mem_dedup, mem_filter]
      exact ⟨hmem, by simpa using hle⟩
  have hlength := (List.Nodup.subperm h.numbered hsubset).length_le
  rw [h.expected, length_map] at hlength
  exact hlength

/-- The rows it appends are fresh. -/
theorem materializeCsvSnapshot_ok {file : Option BulkInputFile}
    (hestimate : 0 ≤ s.job.estimatedCost) (h : materializeCsvSnapshot file content s = .ok after) :
    after = s ∨ ∃ created : List BulkRow, (∀ row ∈ created, FreshRow row) ∧ Keyed (·.id) (s.rows ++ created) ∧
      after = refreshProgress (flush { s with rows := s.rows ++ created }) := by
  rcases materializeCsvSnapshot_appends h with rfl | ⟨normalized, created, hmaterialized, rfl⟩
  · exact .inl rfl
  · exact .inr ⟨created, freshRow_materializeRows hestimate hmaterialized.rows, hmaterialized.keyed, rfl⟩

/-- The columns of a job that its rows are made of. -/
structure SameSource (job after : BulkJob) : Prop where
  id : after.id = job.id
  input : after.inputSnapshotHash = job.inputSnapshotHash
  mapping : after.mappingSnapshot = job.mappingSnapshot
  mapping_hash : after.mappingSnapshotHash = job.mappingSnapshotHash
  target : after.targetRows = job.targetRows
  estimate : after.estimatedCost = job.estimatedCost

omit [BulkHashes] in
theorem SameSource.refl (job : BulkJob) : SameSource job job := ⟨rfl, rfl, rfl, rfl, rfl, rfl⟩

omit [BulkHashes] in
theorem SameSource.trans {after later : BulkJob} (h : SameSource job after)
    (h' : SameSource after later) : SameSource job later :=
  ⟨h'.id.trans h.id, h'.input.trans h.input, h'.mapping.trans h.mapping,
    h'.mapping_hash.trans h.mapping_hash, h'.target.trans h.target, h'.estimate.trans h.estimate⟩

theorem materializedRow_congr {after : BulkJob} (h : SameSource job after)
    (duplicateOf : Option Uuid) (row : NormalizedCsvRow) :
    materializedRow after duplicateOf row = materializedRow job duplicateOf row := by
  unfold materializedRow rowUnits
  rw [h.id, h.input, h.mapping, h.target, h.estimate]

theorem materializeRows_congr {after : BulkJob} (h : SameSource job after) (existing : List BulkRow)
    (normalized : List NormalizedCsvRow) (seen : List (String × Uuid)) :
    materializeRows after existing normalized seen =
      materializeRows job existing normalized seen := by
  induction normalized generalizing seen with
  | nil => rfl
  | cons head rest ih =>
    unfold materializeRows
    rw [h.target, h.mapping]
    simp only [materializedRow_congr h, ih]

/-- Into an empty table every row of the snapshot is created. -/
theorem rowNumbers_of_materializeRows (h : materializeRows job [] normalized seen = .ok created) :
    created.map (·.rowNo) = (normalized.map (·.rowNo)).filter (· ≤ job.targetRows) := by
  induction normalized generalizing seen created with
  | nil =>
    cases h
    rfl
  | cons head rest ih =>
    unfold materializeRows at h
    split_ifs at h with hbeyond
    · rw [ih h, map_cons, filter_cons_of_neg]
      simpa using hbeyond
    · simp only [find?_nil] at h
      obtain ⟨rows, hrows, h⟩ := bind_ok h
      cases h
      rw [map_cons, map_cons, filter_cons_of_pos, ih hrows]
      · rfl
      · simpa using hbeyond

/-- Over rows with the same input the snapshot creates nothing. -/
theorem materializeRows_again (h : materializeRows job [] normalized seen = .ok created)
    (hfound : ∀ row ∈ created, ∃ found, existing.find? (·.rowNo = row.rowNo) = some found ∧
      sameRow found row) :
    materializeRows job existing normalized seen = .ok [] := by
  induction normalized generalizing seen created with
  | nil => rfl
  | cons head rest ih =>
    unfold materializeRows at h ⊢
    by_cases hbeyond : job.targetRows < head.rowNo
    · rw [if_pos hbeyond] at h ⊢
      exact ih h hfound
    · rw [if_neg hbeyond] at h ⊢
      simp only [find?_nil] at h ⊢
      obtain ⟨rows, hrows, h⟩ := bind_ok h
      cases h
      obtain ⟨found, hfind, hsame⟩ := hfound _ mem_cons_self
      have hfind : existing.find? (·.rowNo = head.rowNo) = some found := hfind
      rw [hfind]
      simp only
      rw [bind_of_ok (require_of hsame _)]
      exact ih hrows fun row hrow => hfound row (mem_cons_of_mem _ hrow)

omit [BulkHashes] in
/-- The rows of a table found by their numbers. -/
theorem find?_rowNo {rows : List BulkRow} (hnumbered : (rows.map (·.rowNo)).Nodup) {row : BulkRow}
    (hrow : row ∈ rows) : rows.find? (·.rowNo = row.rowNo) = some row :=
  Keyed.find?_eq hnumbered hrow

/-- A snapshot of the whole target, into an empty table. -/
theorem Materialized.length_eq (h : Materialized s normalized created) (hstored : s.stored = [])
    (hrows : s.rows = []) : created.length = s.job.targetRows := by
  have hcreated := h.rows
  have hnumbered := h.numbered
  rw [hstored] at hcreated
  rw [hrows, nil_append] at hnumbered
  have hnumbers := rowNumbers_of_materializeRows hcreated
  rw [hnumbers] at hnumbered
  have hexpected := h.expected
  unfold expectedNumbers at hexpected
  rw [List.Nodup.dedup hnumbered, ← hnumbers, length_map] at hexpected
  exact hexpected

def rowInput (row : BulkRow) :=
  (row.id, row.rowNo, row.rowIdempotencyKey, row.inputHash, row.inputJson, row.validationErrors,
    row.duplicateOfRowId, row.duplicateAction, row.estimatedCost)

omit [BulkHashes] in
theorem sameRow_of_rowInput {found row : BulkRow} (h : rowInput found = rowInput row) :
    found.rowNo = row.rowNo ∧ sameRow found row := by
  simp only [rowInput, Prod.mk.injEq] at h
  obtain ⟨hid, hnumber, hkey, hhash, hjson, herrors, hduplicate, haction, hestimate⟩ := h
  exact ⟨hnumber, hid, hkey, hhash, hjson, herrors, hduplicate, haction, hestimate⟩

/-- A job that was materialized in one call, and has only moved its rows since. -/
structure FromSnapshot (file : BulkInputFile) (content : InputContent) (s : BulkSession) :
    Prop where
  checked : checkSnapshot s.job file content = .ok ()
  flushed : s.stored = s.rows
  keyed : Keyed (·.id) s.rows
  numbered : (s.rows.map (·.rowNo)).Nodup
  complete : s.rows.length = s.job.targetRows
  snapshot : ∃ normalized created, content.rows = .ok normalized ∧ normalized.length = file.rowCount ∧
    (expectedNumbers s.job normalized).length = s.job.targetRows ∧
    materializeRows s.job [] normalized [] = .ok created ∧
    s.rows.map rowInput = created.map rowInput

theorem checkSnapshot_congr {after : BulkJob} (h : SameSource job after) (file : BulkInputFile)
    (content : InputContent) : checkSnapshot after file content = checkSnapshot job file content := by
  unfold checkSnapshot
  rw [h.input, h.mapping, h.mapping_hash, h.target]

theorem FromSnapshot.of_same (h : FromSnapshot file content s)
    (hsource : SameSource s.job after.job) (hflushed : after.stored = after.rows)
    (hinput : after.rows.map rowInput = s.rows.map rowInput) : FromSnapshot file content after := by
  obtain ⟨normalized, created, hrows, hlength, hexpected, hcreated, hsame⟩ := h.snapshot
  have hids : after.rows.map (·.id) = s.rows.map (·.id) := by
    simpa [Function.comp_def, rowInput] using congrArg (List.map Prod.fst) hinput
  have hnumbers : after.rows.map (·.rowNo) = s.rows.map (·.rowNo) := by
    simpa [Function.comp_def, rowInput] using congrArg (List.map fun input => input.2.1) hinput
  refine ⟨(checkSnapshot_congr hsource file content).trans h.checked, hflushed, ?_, ?_, ?_,
    normalized, created, hrows, hlength, ?_, ?_, hinput.trans hsame⟩
  · unfold Keyed
    rw [hids]
    exact h.keyed
  · rw [hnumbers]
    exact h.numbered
  · have hlength := congrArg List.length hids
    rw [length_map, length_map] at hlength
    rw [hlength, hsource.target]
    exact h.complete
  · unfold expectedNumbers at hexpected ⊢
    rw [hsource.target]
    exact hexpected
  · rw [materializeRows_congr hsource]
    exact hcreated

/-- The call that fills an empty table. -/
theorem fromSnapshot_of_materialize (hstored : s.stored = []) (hrows : s.rows = [])
    (hinput : materializeInput file content s = .ok after) : FromSnapshot file content after := by
  have h := hinput
  unfold materializeInput at h
  obtain ⟨_, hchecked, h⟩ := bind_ok h
  obtain ⟨_, _, h⟩ := bind_ok h
  obtain ⟨_, _, h⟩ := bind_ok h
  obtain ⟨normalized, hnormalized, h⟩ := bind_ok h
  obtain ⟨created, hcreated, h⟩ := bind_ok h
  obtain ⟨_, hcounted, h⟩ := bind_ok h
  obtain ⟨_, hcovered, h⟩ := bind_ok h
  obtain ⟨_, hkeyed, h⟩ := bind_ok h
  obtain ⟨_, hnumbered, h⟩ := bind_ok h
  cases h
  have hkeyed : ((s.rows ++ created).map (·.id)).Nodup := require_ok hkeyed
  have hmaterialized : Materialized s normalized created :=
    ⟨hcreated, (require_ok hcounted).2, require_ok hcovered, hkeyed, require_ok hnumbered⟩
  have hlength := hmaterialized.length_eq hstored hrows
  rw [hstored] at hcreated
  rw [hrows, nil_append] at hkeyed
  have hnumbered := hmaterialized.numbered
  rw [hrows, nil_append] at hnumbered
  rw [hrows, nil_append]
  have hsource : SameSource s.job (refreshProgress (flush { s with rows := created })).job :=
    ⟨rfl, rfl, rfl, rfl, rfl, rfl⟩
  exact ⟨hchecked, rfl, hkeyed, hnumbered, hlength, normalized, created, hnormalized,
    (require_ok hcounted).1, (require_ok hcounted).2,
    (materializeRows_congr hsource _ _ _).trans hcreated, rfl⟩

/-- The same snapshot again finds every row and only recounts. -/
theorem materializeInput_again (h : FromSnapshot file content s) :
    materializeInput file content s = .ok (refreshProgress s) := by
  obtain ⟨normalized, created, hrows, hlength, hexpected, hcreated, hsame⟩ := h.snapshot
  have hfound : ∀ row ∈ created, ∃ found, s.stored.find? (·.rowNo = row.rowNo) = some found ∧
      sameRow found row := by
    intro row hrow
    have hmem : rowInput row ∈ s.rows.map rowInput := by
      rw [hsame]
      exact mem_map_of_mem hrow
    obtain ⟨found, hstored, hinput⟩ := mem_map.mp hmem
    obtain ⟨hnumber, hsameRow⟩ := sameRow_of_rowInput hinput
    refine ⟨found, ?_, hsameRow⟩
    rw [h.flushed, ← hnumber]
    exact find?_rowNo h.numbered hstored
  have hagain := materializeRows_again hcreated hfound
  have hcovered : ∀ row ∈ s.stored, row.rowNo ∈ expectedNumbers s.job normalized := by
    intro row hrow
    rw [h.flushed] at hrow
    have hmem : rowInput row ∈ created.map rowInput := by
      rw [← hsame]
      exact mem_map_of_mem hrow
    obtain ⟨old, hold, hinput⟩ := mem_map.mp hmem
    obtain ⟨hnumber, -⟩ := sameRow_of_rowInput hinput
    obtain ⟨hmemNormalized, hle⟩ := rowNo_mem_of_materializeRows hcreated old hold
    unfold expectedNumbers
    rw [← hnumber, mem_dedup, mem_filter]
    exact ⟨hmemNormalized, by simpa using hle⟩
  have hids : ((s.rows ++ []).map (fun row : BulkRow => row.id)).Nodup := by
    rw [append_nil]
    exact h.keyed
  have hnumbers : ((s.rows ++ []).map (fun row : BulkRow => row.rowNo)).Nodup := by
    rw [append_nil]
    exact h.numbered
  have hsized : s.stored.length ≤ s.job.targetRows := by
    rw [h.flushed]
    exact h.complete.le
  have hstoredNumbers : (s.stored.map (·.rowNo)).Nodup := by
    rw [h.flushed]
    exact h.numbered
  unfold materializeInput
  rw [bind_of_ok h.checked, bind_of_ok (require_of hsized _),
    bind_of_ok (require_of hstoredNumbers _), bind_of_ok hrows, bind_of_ok hagain]
  simp only
  rw [bind_of_ok (require_of ⟨hlength, hexpected⟩ _), bind_of_ok (require_of hcovered _),
    bind_of_ok (require_of hids _), bind_of_ok (require_of hnumbers _), append_nil]
  have hflush : flush s = s := congrArg (BulkSession.mk s.job s.rows · s.attempts s.commands) h.flushed.symm
  exact congrArg (fun session => Except.ok (refreshProgress session)) hflush

/-- Rows are known by their number, and every text is filled in. -/
@[reducible] def sampleHashes : BulkHashes where
  mappingHash _ := "mapping"
  inputHash values := toString (values.map Prod.snd)
  rowId _ rowNo _ := rowNo
  rowKey _ rowNo _ _ := toString rowNo
  blank _ := false
  privateRef _ := .ok ()

def sampleFile (rowCount : Nat) : BulkInputFile where
  isCsv := true
  malwareScanStatus := "CLEAN"
  malwareScanner := some "clamav"
  malwareScannerVersion := some "1"
  malwareScanResultHash := some "scan"
  trustedIngestion := some "bulk-byte-verifier-v1"
  sizeBytes := 10
  contentHash := "csv"
  rowCount := rowCount

def sampleContent (rowCount : Nat) : InputContent where
  size := 10
  sha256 := "csv"
  rows := .ok ((List.range rowCount).map fun index =>
    ⟨index + 1, [("topic", toString index)], toString index⟩)

def sampleMapping : MappingSnapshot where
  columnMapping := [("topic", "topic")]
  requiredVariables := ["topic"]

end BlogOps.Bulk
