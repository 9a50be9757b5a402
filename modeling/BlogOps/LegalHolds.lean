import BlogOps.KeyedTables
import BlogOps.SecurityRules
import Mathlib.Data.List.Sort

/-!
# Legal holds

Holds of one workspace: how one is activated and released, which of them are
active at a time, and which requests they match.
-/

namespace BlogOps.Security

open KeyedTables

inductive LegalHoldState where
  | active | released
deriving DecidableEq, Repr

/-- The scope of a hold: the keys that are read, and the canonical JSON of the whole. -/
structure HoldScope where
  allWorkspace : Bool := false
  subjectLocatorHashes : List String := []
  dataClasses : List String := []
  /-- Each reference as text; an empty text or object is the empty text. -/
  targetRefs : List String := []
  json : String
deriving DecidableEq, Repr

structure LegalHold where
  id : Uuid
  externalMatterRef : String
  title : String
  reason : String
  scopeSnapshot : HoldScope
  scopeHash : String
  evidenceObjectRefs : List String
  state : LegalHoldState := .active
  activatedBy : Uuid
  activatedAt : Int
  expiresAt : Option Int
  releasedBy : Option Uuid := none
  releasedAt : Option Int := none
  releaseReason : Option String := none
deriving DecidableEq, Repr

structure LegalHoldCreate where
  externalMatterRef : String
  title : String
  reason : String
  scopeSnapshot : HoldScope
  evidenceObjectRefs : List String
  expiresAt : Option Int := none
deriving DecidableEq, Repr

/-- One element of a hold snapshot. -/
structure HoldEntry where
  id : Uuid
  state : LegalHoldState
  scopeSnapshot : HoldScope
  scopeHash : String
  activatedAt : Int
  expiresAt : Option Int
deriving DecidableEq, Repr

/-- The canonical JSON hashes that the security service takes. -/
class SecurityHashes where
  jsonHash : String → String
  holdSnapshotHash : List HoldEntry → String

section Holds

variable [SecurityHashes]

def scopeAccepted (scope : HoldScope) : Bool :=
  scope.subjectLocatorHashes.all isSha256Hex && scope.dataClasses.all (· ∈ dataClassValues) &&
    scope.targetRefs.all (· ≠ "") &&
    (scope.allWorkspace || scope.subjectLocatorHashes ≠ [] || scope.dataClasses ≠ [] ||
      scope.targetRefs ≠ [])

def createLegalHold (id : Uuid) (now : Int) (subjectId : Uuid) (data : LegalHoldCreate)
    (holds : List LegalHold) : Except Failure (List LegalHold) := do
  require (scopeAccepted data.scopeSnapshot) (unprocessable "LEGAL_HOLD_SCOPE_REQUIRED"
    "Legal Hold에는 해시 또는 데이터 유형으로 검증된 보존 범위가 필요합니다.")
  require (∀ ref ∈ data.evidenceObjectRefs, 1 ≤ ref.length ∧ ref.length ≤ 1000) (unprocessable
    "LEGAL_HOLD_EVIDENCE_INVALID" "Legal Hold 증거 참조가 올바르지 않습니다.")
  require (data.expiresAt.all (now < ·)) (unprocessable "LEGAL_HOLD_EXPIRY_INVALID"
    "Legal Hold 만료 시각은 미래여야 합니다.")
  require (∀ hold ∈ holds, hold.id ≠ id ∧ hold.externalMatterRef ≠ data.externalMatterRef)
    (.integrity "security_legal_hold_matter")
  .ok (holds ++ [{
    id, externalMatterRef := data.externalMatterRef, title := data.title, reason := data.reason
    scopeSnapshot := data.scopeSnapshot
    scopeHash := SecurityHashes.jsonHash data.scopeSnapshot.json
    evidenceObjectRefs := data.evidenceObjectRefs.eraseDups
    activatedBy := subjectId, activatedAt := now, expiresAt := data.expiresAt }])

end Holds

def releaseLegalHold (now : Int) (subjectId holdId : Uuid) (reason : String)
    (holds : List LegalHold) : Except Failure (List LegalHold) :=
  match holds.find? (·.id = holdId) with
  | none => .error (.app {
      code := "LEGAL_HOLD_NOT_FOUND", message := "Legal Hold를 찾을 수 없습니다.", statusCode := 404 })
  | some hold => do
    require (hold.state = .active) (securityConflict "LEGAL_HOLD_NOT_ACTIVE"
      "활성 Legal Hold가 아닙니다.")
    require (hold.activatedBy ≠ subjectId) (securityConflict "LEGAL_HOLD_SEPARATION_OF_DUTIES"
      "Legal Hold를 설정한 사용자는 같은 Hold를 해제할 수 없습니다.")
    .ok (updateRow (·.id) holdId (fun hold => { hold with
      state := .released
      releasedBy := some subjectId
      releasedAt := some now
      releaseReason := some reason }) holds)

/-- `state = ACTIVE` and not expired. -/
def LegalHold.activeAt (now : Int) (hold : LegalHold) : Bool :=
  hold.state = .active && hold.expiresAt.all (now < ·)

def LegalHold.entry (hold : LegalHold) : HoldEntry where
  id := hold.id
  state := hold.state
  scopeSnapshot := hold.scopeSnapshot
  scopeHash := hold.scopeHash
  activatedAt := hold.activatedAt
  expiresAt := hold.expiresAt

/-- `ORDER BY activated_at, id`. -/
def earlierHold (hold other : LegalHold) : Bool := hold.activatedAt < other.activatedAt ||
    hold.activatedAt = other.activatedAt && hold.id ≤ other.id

def activeLegalHoldSnapshot (now : Int) (holds : List LegalHold) : List HoldEntry :=
  ((holds.filter (·.activeAt now)).mergeSort earlierHold).map LegalHold.entry

/-- The scope of a hold takes in a request with these data. A hold with target references takes
in every request. -/
def HoldScope.matching (scope : HoldScope) (subjectLocatorHash : String)
    (dataClasses : List String) : Bool :=
  scope.allWorkspace || subjectLocatorHash ∈ scope.subjectLocatorHashes ||
    scope.dataClasses.any (· ∈ dataClasses) || scope.targetRefs ≠ []

def matchingLegalHolds (now : Int) (subjectLocatorHash : String) (dataClasses : List String)
    (holds : List LegalHold) : List LegalHold :=
  holds.filter fun hold =>
    hold.activeAt now && hold.scopeSnapshot.matching subjectLocatorHash dataClasses

end BlogOps.Security
