import BlogOps.PythonText
import BlogOps.SecurityRules
import Mathlib.Data.List.Count
import Mathlib.Data.List.Nodup
import Mathlib.Data.Rat.Floor

/-!
# Release gates

The evidence of a general release: one item for each gate, with metrics that are JSON values.
Moments are microseconds since the first representable one.
-/

namespace BlogOps.ReleaseGates

open List

inductive JsonValue where
  | null
  | bool (value : Bool)
  | int (value : Int)
  | float (value : ℚ)
  | text (value : String)
  | array (items : List JsonValue)
  | object (fields : List (String × JsonValue))

/-- What the interpreter knows of texts: how it shows fractions and containers, which is never
one character, and the digits of Unicode. -/
structure InterpreterTexts where
  shown : JsonValue → String
  decimal : Char → Option Nat
  one_lt_length_shown : ∀ value, 1 < (shown value).length

variable (texts : InterpreterTexts)

def str : JsonValue → String
  | .null => "None"
  | .bool true => "True"
  | .bool false => "False"
  | .int value => toString value
  | .text value => value
  | value => texts.shown value

/-- The digits of a text, which single underscores may separate. -/
def digitsOf (texts : InterpreterTexts) : List Char → Option (List Nat)
  | [] => none
  | [c] => (texts.decimal c).map fun digit => [digit]
  | c :: '_' :: rest => do
    let digit ← texts.decimal c
    let digits ← digitsOf texts rest
    return digit :: digits
  | c :: rest => do
    let digit ← texts.decimal c
    let digits ← digitsOf texts rest
    return digit :: digits

def maximumDigits : Nat := 4300

def numeral (chars : List Char) : Option Nat := do
  let digits ← digitsOf texts chars
  if digits.length ≤ maximumDigits then
    some (digits.foldl (fun number digit => 10 * number + digit) 0)
  else none

/-- The white space that `int` takes around the digits, which the separators U+001C to U+001F are
not. -/
def isIntSpace (c : Char) : Bool := PythonText.isSpace c && !(28 ≤ c.toNat && c.toNat ≤ 31)

def stripInt (text : List Char) : List Char :=
  ((text.dropWhile isIntSpace).reverse.dropWhile isIntSpace).reverse

def intOfText (value : String) : Option Int :=
  match stripInt value.toList with
  | '-' :: rest => (numeral texts rest).map fun number => -(number : Int)
  | '+' :: rest => (numeral texts rest).map Int.ofNat
  | chars => (numeral texts chars).map Int.ofNat

def truncated (value : ℚ) : Int := value.num.tdiv value.den

/-- `int`, where `none` is a `TypeError` or a `ValueError`. -/
def intOf : JsonValue → Option Int
  | .bool value => some (if value then 1 else 0)
  | .int value => some value
  | .float value => some (truncated value)
  | .text value => intOfText texts value
  | .null | .array _ | .object _ => none

/-- `list`, where `none` is a `TypeError`. -/
def listOf : JsonValue → Option (List JsonValue)
  | .array items => some items
  | .object fields => some (fields.map fun field => .text field.1)
  | .text value => some (value.toList.map fun c => .text c.toString)
  | .null | .bool _ | .int _ | .float _ => none

inductive GAGate where
  | c0C1Automation
  | securityFindings
  | tenantIsolation
  | billingLedger
  | publishingIdempotency
  | backupRestore
  | dataLifecycle
  | policyLegalReview
  | loadChaos
  | runbookOncallAlerts
deriving DecidableEq, Repr

def GAGate.value : GAGate → String
  | .c0C1Automation => "C0_C1_AUTOMATION"
  | .securityFindings => "SECURITY_FINDINGS"
  | .tenantIsolation => "TENANT_ISOLATION"
  | .billingLedger => "BILLING_LEDGER"
  | .publishingIdempotency => "PUBLISHING_IDEMPOTENCY"
  | .backupRestore => "BACKUP_RESTORE"
  | .dataLifecycle => "DATA_LIFECYCLE"
  | .policyLegalReview => "POLICY_LEGAL_REVIEW"
  | .loadChaos => "LOAD_CHAOS"
  | .runbookOncallAlerts => "RUNBOOK_ONCALL_ALERTS"

def gaGates : List GAGate :=
  [.c0C1Automation, .securityFindings, .tenantIsolation, .billingLedger, .publishingIdempotency,
    .backupRestore, .dataLifecycle, .policyLegalReview, .loadChaos, .runbookOncallAlerts]

/-- The gates in the order of their names. -/
def sortedGates : List GAGate :=
  [.backupRestore, .billingLedger, .c0C1Automation, .dataLifecycle, .loadChaos,
    .policyLegalReview, .publishingIdempotency, .runbookOncallAlerts, .securityFindings,
    .tenantIsolation]

/-- An item of the evidence.  `verifiedAt` is an aware datetime, or something else. -/
structure Evidence where
  gate : String
  passed : JsonValue
  verifiedAt : Option Int
  evidenceHash : JsonValue
  metrics : JsonValue
  reasonCodes : JsonValue := .array []

structure GateDecision where
  gate : String
  passed : Bool
  verifiedAt : Int
  evidenceHash : String
  reasonCodes : List JsonValue

structure GAGateDecision where
  passed : Bool
  decisions : List GateDecision

def evidenceError (code message : String) (fields : List FieldError) : Failure :=
  .app { code, message, statusCode := 503, fields }

def evidenceDuplicate : Failure := evidenceError "GA_EVIDENCE_DUPLICATE" "동일한 GA Gate 증거가 중복되었습니다." []

def evidenceIncomplete (keys : List String) : Failure :=
  evidenceError "GA_EVIDENCE_INCOMPLETE" "정식 출시 판정에 필요한 검증 증거가 완전하지 않습니다."
    ((sortedGates.filter fun gate => gate.value ∉ keys).map fun gate =>
      ⟨"evidence", "missing:" ++ gate.value⟩)

def evidenceInvalid : Failure := evidenceError "GA_EVIDENCE_INVALID" "GA 증거의 형식 또는 검증 시각이 올바르지 않습니다." []

def metricInvalid : Failure := evidenceError "GA_EVIDENCE_METRIC_INVALID" "GA Gate 증거 지표가 올바르지 않습니다." []

/-! ## The decision on a gate -/

section Decisions

variable (texts : InterpreterTexts)

def answerOr {α : Type} (failure : Failure) : Option α → Except Failure α
  | some a => .ok a
  | none => .error failure

def intMetric (metrics : List (String × JsonValue)) (key : String) (default : Int) : Except Failure Int :=
  answerOr metricInvalid (intOf texts ((metrics.lookup key).getD (.int default)))

/-- `passed and int(metrics.get(key, -1)) == 0`. -/
def andZero (metrics : List (String × JsonValue)) (key : String) (passed : Bool) : Except Failure Bool :=
  if passed then (intMetric texts metrics key (-1)).map fun count => count = 0 else .ok false

def isTrue : Option JsonValue → Bool
  | some (.bool true) => true
  | _ => false

/-- The thresholds of a gate, for an item that has passed so far or not. -/
def withMetrics (gate : GAGate) (metrics : List (String × JsonValue)) (passed : Bool) : Except Failure Bool :=
  match gate with
  | .securityFindings => do
    let passed ← andZero texts metrics "critical" passed
    andZero texts metrics "high" passed
  | .tenantIsolation => andZero texts metrics "violations" passed
  | .billingLedger =>
    .ok (passed && str texts ((metrics.lookup "delta").getD (.text "missing")) = "0")
  | .publishingIdempotency => andZero texts metrics "duplicate_posts" passed
  | .backupRestore => do
    let rpoMinutes ← intMetric texts metrics "rpo_minutes" 16
    let rtoMinutes ← intMetric texts metrics "rto_minutes" 121
    return passed && isTrue (metrics.lookup "restore_verified") &&
      (0 ≤ rpoMinutes && rpoMinutes ≤ 15) && (0 ≤ rtoMinutes && rtoMinutes ≤ 120)
  | _ => .ok passed

structure ItemFields where
  verifiedAt : Int
  passed : Bool
  evidenceHash : String
  metrics : List (String × JsonValue)

def fieldsOf (item : Evidence) : Option ItemFields :=
  match item.verifiedAt, item.passed, item.evidenceHash, item.metrics with
  | some verifiedAt, .bool passed, .text evidenceHash, .object metrics =>
    if Security.isSha256Hex evidenceHash then some { verifiedAt, passed, evidenceHash, metrics }
    else none
  | _, _, _, _ => none

def lastMoment : Int := 315_537_897_599_999_999

/-- The start of the window; a difference that is no datetime raises an `OverflowError`. -/
def windowStart (now maximumEvidenceAge : Int) : Except Failure Int := do
  require (0 ≤ now - maximumEvidenceAge ∧ now - maximumEvidenceAge ≤ lastMoment) .validationError
  return now - maximumEvidenceAge

def decideGate (now maximumEvidenceAge : Int) (gate : GAGate) (item : Evidence) :
    Except Failure GateDecision := do
  let fields ← answerOr evidenceInvalid (fieldsOf item)
  let start ← windowStart now maximumEvidenceAge
  let fresh : Bool := start ≤ fields.verifiedAt && fields.verifiedAt ≤ now
  let passed ← withMetrics texts gate fields.metrics (fields.passed && fresh)
  let reasonCodes ← answerOr .validationError (listOf item.reasonCodes)
  return {
    gate := gate.value, passed, verifiedAt := fields.verifiedAt
    evidenceHash := fields.evidenceHash, reasonCodes }

/-! ## The decision on the release -/

def noDuplicates : List Evidence → List String → Except Failure Unit
  | [], _ => .ok ()
  | item :: rest, seen => do
    require (item.gate ∉ seen) evidenceDuplicate
    noDuplicates rest (seen ++ [item.gate])

def itemOf (evidence : List Evidence) (gate : GAGate) : Except Failure Evidence :=
  answerOr .keyError (evidence.find? fun item => item.gate = gate.value)

def evaluateGaEvidence (evidence : List Evidence) (now maximumEvidenceAge : Int) :
    Except Failure GAGateDecision := do
  noDuplicates evidence []
  let keys := evidence.map Evidence.gate
  require (keys ⊆ gaGates.map GAGate.value ∧ gaGates.map GAGate.value ⊆ keys) (evidenceIncomplete keys)
  let decisions ← gaGates.mapM fun gate => do
    let item ← itemOf evidence gate
    decideGate texts now maximumEvidenceAge gate item
  return { passed := decisions.all GateDecision.passed, decisions }

end Decisions

section Genuine

def JsonValue.number? : JsonValue → Option ℚ
  | .int value => some value
  | .float value => some value
  | _ => none

def numberAt (metrics : List (String × JsonValue)) (key : String) : Option ℚ :=
  (metrics.lookup key).bind JsonValue.number?

def NumberWithin (metrics : List (String × JsonValue)) (key : String) (bound : Int) : Prop :=
  ∃ number, numberAt metrics key = some number ∧ 0 ≤ number ∧ number ≤ bound

/-- The thresholds, of the metrics as numbers. -/
def Meets (metrics : List (String × JsonValue)) : GAGate → Prop
  | .securityFindings => numberAt metrics "critical" = some 0 ∧ numberAt metrics "high" = some 0
  | .tenantIsolation => numberAt metrics "violations" = some 0
  | .billingLedger => numberAt metrics "delta" = some 0
  | .publishingIdempotency => numberAt metrics "duplicate_posts" = some 0
  | .backupRestore =>
    metrics.lookup "restore_verified" = some (.bool true) ∧
      NumberWithin metrics "rpo_minutes" 15 ∧ NumberWithin metrics "rto_minutes" 120
  | _ => True

def OneForEach (evidence : List Evidence) : Prop :=
  (∀ gate : GAGate, (evidence.map Evidence.gate).count gate.value = 1) ∧
    ∀ item ∈ evidence, ∃ gate : GAGate, item.gate = gate.value

/-- What an item needs besides its thresholds. -/
structure Vouched (now maximumEvidenceAge : Int) (item : Evidence)
    (metrics : List (String × JsonValue)) : Prop where
  passed : item.passed = .bool true
  fresh : ∃ verifiedAt, item.verifiedAt = some verifiedAt ∧
    now - maximumEvidenceAge ≤ verifiedAt ∧ verifiedAt ≤ now
  hash : ∃ evidenceHash, item.evidenceHash = .text evidenceHash ∧ Security.isSha256Hex evidenceHash = true
  metrics : item.metrics = .object metrics

structure Genuine (evidence : List Evidence) (now maximumEvidenceAge : Int) : Prop where
  complete : OneForEach evidence
  items : ∀ gate : GAGate, ∀ item ∈ evidence, item.gate = gate.value →
    ∃ metrics, Vouched now maximumEvidenceAge item metrics ∧ Meets metrics gate

/-! ## Evidence as it is read -/

variable (texts : InterpreterTexts)

def intAt (metrics : List (String × JsonValue)) (key : String) : Option Int :=
  (metrics.lookup key).bind (intOf texts)

def IntWithin (metrics : List (String × JsonValue)) (key : String) (bound : Int) : Prop :=
  ∃ number, intAt texts metrics key = some number ∧ 0 ≤ number ∧ number ≤ bound

/-- The thresholds, of the metrics as `int` and `str` read them. -/
def MeetsAsRead (metrics : List (String × JsonValue)) : GAGate → Prop
  | .securityFindings =>
    intAt texts metrics "critical" = some 0 ∧ intAt texts metrics "high" = some 0
  | .tenantIsolation => intAt texts metrics "violations" = some 0
  | .billingLedger => ∃ delta, metrics.lookup "delta" = some delta ∧ str texts delta = "0"
  | .publishingIdempotency => intAt texts metrics "duplicate_posts" = some 0
  | .backupRestore =>
    metrics.lookup "restore_verified" = some (.bool true) ∧
      IntWithin texts metrics "rpo_minutes" 15 ∧ IntWithin texts metrics "rto_minutes" 120
  | _ => True

def Representable (moment : Int) : Prop := 0 ≤ moment ∧ moment ≤ lastMoment

structure Admitted (texts : InterpreterTexts) (evidence : List Evidence)
    (now maximumEvidenceAge : Int) : Prop where
  complete : OneForEach evidence
  window : Representable (now - maximumEvidenceAge)
  items : ∀ gate : GAGate, ∀ item ∈ evidence, item.gate = gate.value →
    (∃ metrics, Vouched now maximumEvidenceAge item metrics ∧ MeetsAsRead texts metrics gate) ∧
      (listOf item.reasonCodes).isSome

/-- How a metric stands to its threshold as a number, and as `int` or `str` reads it: it meets it in
both ways, as it is read only, as a number only, or in neither way. -/
inductive MetricKind where
  | sound | lenient | strict | refused
deriving DecidableEq, Repr

/-- A metric that is to be a number from zero to the bound. -/
def numberKind (bound : Int) : Option JsonValue → MetricKind
  | some (.int value) => if 0 ≤ value ∧ value ≤ bound then .sound else .refused
  | some (.float value) =>
    if 0 ≤ value ∧ value ≤ bound then .sound
    else if -1 < value ∧ value < bound + 1 then .lenient
    else .refused
  | some (.bool value) => if value ∧ bound < 1 then .refused else .lenient
  | some (.text value) =>
    match intOfText texts value with
    | some number => if 0 ≤ number ∧ number ≤ bound then .lenient else .refused
    | none => .refused
  | _ => .refused

/-- A metric that is to be zero, and is compared as a text. -/
def deltaKind : Option JsonValue → MetricKind
  | some (.int value) => if value = 0 then .sound else .refused
  | some (.float value) => if value = 0 then .strict else .refused
  | some (.text value) => if value = "0" then .lenient else .refused
  | _ => .refused

def flagKind (value : Option JsonValue) : MetricKind := if isTrue value then .sound else .refused

/-- The kinds of the metrics that decide a gate. -/
def metricKinds (metrics : List (String × JsonValue)) : GAGate → List MetricKind
  | .securityFindings =>
    [numberKind texts 0 (metrics.lookup "critical"), numberKind texts 0 (metrics.lookup "high")]
  | .tenantIsolation => [numberKind texts 0 (metrics.lookup "violations")]
  | .billingLedger => [deltaKind (metrics.lookup "delta")]
  | .publishingIdempotency => [numberKind texts 0 (metrics.lookup "duplicate_posts")]
  | .backupRestore =>
    [flagKind (metrics.lookup "restore_verified"),
      numberKind texts 15 (metrics.lookup "rpo_minutes"),
      numberKind texts 120 (metrics.lookup "rto_minutes")]
  | _ => []

/-- A metric of the kind decides a gate. -/
def HasKind (evidence : List Evidence) (kind : MetricKind) : Prop :=
  ∃ gate : GAGate, ∃ item ∈ evidence, item.gate = gate.value ∧
    ∃ metrics, item.metrics = .object metrics ∧ kind ∈ metricKinds texts metrics gate

/-- One passed, fresh and hashed item with metrics for each gate. -/
structure WellFormed (evidence : List Evidence) (now maximumEvidenceAge : Int) : Prop where
  complete : OneForEach evidence
  items : ∀ item ∈ evidence, ∃ metrics, Vouched now maximumEvidenceAge item metrics

/-- The window starts at no datetime, or the reason codes of an item are no list. -/
def Unlisted (evidence : List Evidence) (now maximumEvidenceAge : Int) : Prop :=
  ¬Representable (now - maximumEvidenceAge) ∨ ∃ item ∈ evidence, listOf item.reasonCodes = none

end Genuine

/-! ## Numbers and their readings -/

variable {n : Int} {gate : GAGate}

section Readings

variable {texts : InterpreterTexts} {metrics : List (String × JsonValue)} {key : String}
  {bound : Int}

theorem truncated_of_nonneg {value : ℚ} (h : 0 ≤ value) : truncated value = ⌊value⌋ := by
  have hnum : 0 ≤ value.num := Rat.num_nonneg.mpr h
  exact (Int.tdiv_eq_ediv_of_nonneg hnum).trans (Rat.floor_def value).symm

theorem truncated_of_neg {value : ℚ} (h : value < 0) : truncated value = -⌊-value⌋ := by
  rw [← truncated_of_nonneg (neg_nonneg.mpr h.le)]
  simp [truncated, Int.neg_tdiv]

/-- What `int` makes of a fraction is in the bounds for any that is less than one out of them. -/
theorem truncated_within_iff (hbound : 0 ≤ bound) (value : ℚ) :
    0 ≤ truncated value ∧ truncated value ≤ bound ↔ -1 < value ∧ value < bound + 1 := by
  rcases lt_or_ge value 0 with hneg | hnonneg
  · have hless : value < bound + 1 := by
      have hcast : (0 : ℚ) ≤ bound := by exact_mod_cast hbound
      linarith
    have hfloor : ⌊-value⌋ ≤ 0 ↔ -1 < value := by
      rw [Int.floor_le_iff]
      constructor <;> intro h <;> push_cast at * <;> linarith
    have hpos : 0 ≤ ⌊-value⌋ := Int.floor_nonneg.mpr (neg_nonneg.mpr hneg.le)
    rw [truncated_of_neg hneg, and_iff_left hless, ← hfloor]
    omega
  · have hlow : -1 < value := by linarith
    rw [truncated_of_nonneg hnonneg, Int.floor_le_iff, and_iff_right hlow,
      and_iff_right (Int.floor_nonneg.mpr hnonneg)]

theorem numberWithin_iff : NumberWithin metrics key bound ↔
    numberKind texts bound (metrics.lookup key) ∈ [MetricKind.sound, .strict] := by
  unfold NumberWithin numberAt
  cases hvalue : metrics.lookup key with
  | none => simp [numberKind]
  | some value =>
    cases value with
    | int n =>
      by_cases h : 0 ≤ n ∧ n ≤ bound <;> simp [JsonValue.number?, numberKind, h]
    | float q =>
      simp only [JsonValue.number?, numberKind, Option.bind_some, Option.some.injEq, exists_eq_left']
      split_ifs <;> simp_all
    | bool b =>
      have hnone : (JsonValue.bool b).number? = none := rfl
      simp only [Option.bind_some, hnone, numberKind]
      split_ifs <;> simp
    | text t =>
      have hnone : (JsonValue.text t).number? = none := rfl
      simp only [Option.bind_some, hnone, numberKind]
      cases intOfText texts t with
      | none => simp
      | some n => by_cases h : 0 ≤ n ∧ n ≤ bound <;> simp [h]
    | null => simp [JsonValue.number?, numberKind]
    | array items => simp [JsonValue.number?, numberKind]
    | object fields => simp [JsonValue.number?, numberKind]

theorem intWithin_iff (hbound : 0 ≤ bound) : IntWithin texts metrics key bound ↔
    numberKind texts bound (metrics.lookup key) ∈ [MetricKind.sound, .lenient] := by
  unfold IntWithin intAt
  cases hvalue : metrics.lookup key with
  | none => simp [numberKind]
  | some value =>
    cases value with
    | int n => by_cases h : 0 ≤ n ∧ n ≤ bound <;> simp [intOf, numberKind, h]
    | float q =>
      simp only [intOf, numberKind, Option.bind_some, Option.some.injEq, exists_eq_left',
        truncated_within_iff hbound]
      split_ifs with hsound hlenient
      · have hrange : -1 < q ∧ q < bound + 1 := ⟨by linarith, by linarith⟩
        simp [hrange]
      · simp [hlenient]
      · simp [hlenient]
    | bool b =>
      cases b with
      | false => simp [intOf, numberKind, hbound]
      | true =>
        simp only [intOf, numberKind, Option.bind_some, Option.some.injEq, exists_eq_left', if_true,
          true_and]
        split_ifs with hsmall
        · simp
          omega
        · simp
          omega
    | text t =>
      simp only [intOf, numberKind, Option.bind_some]
      cases intOfText texts t with
      | none => simp
      | some n => by_cases h : 0 ≤ n ∧ n ≤ bound <;> simp [h]
    | null => simp [intOf, numberKind]
    | array items => simp [intOf, numberKind]
    | object fields => simp [intOf, numberKind]

theorem numberWithin_zero : NumberWithin metrics key 0 ↔ numberAt metrics key = some 0 := by
  constructor
  · rintro ⟨number, hnumber, hlow, hhigh⟩
    rw [hnumber, le_antisymm (by simpa using hhigh) hlow]
  · intro h
    exact ⟨0, h, le_refl 0, by simp⟩

theorem intWithin_zero : IntWithin texts metrics key 0 ↔ intAt texts metrics key = some 0 := by
  constructor
  · rintro ⟨number, hnumber, hlow, hhigh⟩
    rw [hnumber, le_antisymm hhigh hlow]
  · intro h
    exact ⟨0, h, le_refl 0, le_refl 0⟩

theorem repr_eq_zero {n : Nat} (h : n.repr = "0") : n = 0 := by
  have hdigits : Nat.toDigits 10 n = ['0'] := by
    rw [← Nat.toList_repr, h]
    rfl
  have hvalue := Nat.ofDigitChars_toDigits (b := 10) (n := n) (by omega) (by omega)
  rw [hdigits] at hvalue
  exact hvalue.symm

theorem toString_eq_zero : toString n = "0" ↔ n = 0 := by
  refine ⟨fun h => ?_, fun h => by rw [h]; rfl⟩
  cases n with
  | ofNat n => exact congrArg Int.ofNat (repr_eq_zero h)
  | negSucc n =>
    have hlist := congrArg String.toList h
    have hhead := congrArg List.head? (hlist.symm.trans (String.toList_append (s := "-")))
    simp at hhead

theorem str_shown_ne_zero {value : JsonValue} : texts.shown value ≠ "0" := by
  intro h
  have hlength := texts.one_lt_length_shown value
  rw [h] at hlength
  exact absurd hlength (by decide)

theorem numberAt_delta_iff : numberAt metrics "delta" = some 0 ↔
    deltaKind (metrics.lookup "delta") ∈ [MetricKind.sound, .strict] := by
  unfold numberAt
  cases hdelta : metrics.lookup "delta" with
  | none => simp [deltaKind]
  | some delta =>
    cases delta with
    | int n => by_cases h : n = 0 <;> simp [JsonValue.number?, deltaKind, h]
    | float q => by_cases h : q = 0 <;> simp [JsonValue.number?, deltaKind, h]
    | text t => by_cases h : t = "0" <;> simp [JsonValue.number?, deltaKind, h]
    | bool b => simp [JsonValue.number?, deltaKind]
    | null => simp [JsonValue.number?, deltaKind]
    | array items => simp [JsonValue.number?, deltaKind]
    | object fields => simp [JsonValue.number?, deltaKind]

theorem str_delta_iff : (∃ delta, metrics.lookup "delta" = some delta ∧ str texts delta = "0") ↔
    deltaKind (metrics.lookup "delta") ∈ [MetricKind.sound, .lenient] := by
  cases hdelta : metrics.lookup "delta" with
  | none => simp [deltaKind]
  | some delta =>
    simp only [Option.some.injEq, exists_eq_left']
    cases delta with
    | int n =>
      have hshown : str texts (.int n) = "0" ↔ n = 0 := toString_eq_zero
      rw [hshown]
      by_cases h : n = 0 <;> simp [deltaKind, h]
    | float q => by_cases h : q = 0 <;> simp [str, deltaKind, h, str_shown_ne_zero]
    | text t => by_cases h : t = "0" <;> simp [str, deltaKind, h]
    | bool b => cases b <;> simp [str, deltaKind]
    | null => simp [str, deltaKind]
    | array items => simp [str, deltaKind, str_shown_ne_zero]
    | object fields => simp [str, deltaKind, str_shown_ne_zero]

theorem isTrue_iff {value : Option JsonValue} : isTrue value = true ↔ value = some (.bool true) := by
  constructor
  · intro h
    rcases value with _ | (_ | (_ | _) | _ | _ | _ | _ | _)
    all_goals first | rfl | cases h
  · rintro rfl
    rfl

theorem flagKind_of_iff {other : MetricKind} (hother : other ≠ .refused) {value : Option JsonValue} :
    flagKind value ∈ [MetricKind.sound, other] ↔ value = some (.bool true) := by
  rw [← isTrue_iff]
  unfold flagKind
  split <;> simp_all [hother.symm]

/-- The thresholds are met as numbers by the sound and the strict metrics. -/
theorem meets_iff : Meets metrics gate ↔
    ∀ kind ∈ metricKinds texts metrics gate, kind ∈ [MetricKind.sound, .strict] := by
  cases gate with
  | securityFindings =>
    simp only [Meets, metricKinds, forall_mem_cons, not_mem_nil, IsEmpty.forall_iff, implies_true,
      and_true, ← numberWithin_iff, numberWithin_zero]
  | tenantIsolation =>
    simp only [Meets, metricKinds, forall_mem_cons, not_mem_nil, IsEmpty.forall_iff, implies_true,
      and_true, ← numberWithin_iff, numberWithin_zero]
  | publishingIdempotency =>
    simp only [Meets, metricKinds, forall_mem_cons, not_mem_nil, IsEmpty.forall_iff, implies_true,
      and_true, ← numberWithin_iff, numberWithin_zero]
  | billingLedger =>
    simp only [Meets, metricKinds, forall_mem_cons, not_mem_nil, IsEmpty.forall_iff, implies_true,
      and_true, numberAt_delta_iff]
  | backupRestore =>
    have hflag : MetricKind.strict ≠ .refused := by decide
    simp only [Meets, metricKinds, forall_mem_cons, not_mem_nil, IsEmpty.forall_iff, implies_true,
      and_true, ← numberWithin_iff, flagKind_of_iff hflag]
  | c0C1Automation => simp [Meets, metricKinds]
  | dataLifecycle => simp [Meets, metricKinds]
  | policyLegalReview => simp [Meets, metricKinds]
  | loadChaos => simp [Meets, metricKinds]
  | runbookOncallAlerts => simp [Meets, metricKinds]

/-- As they are read, the thresholds are met by the sound and the lenient metrics. -/
theorem meetsAsRead_iff : MeetsAsRead texts metrics gate ↔
    ∀ kind ∈ metricKinds texts metrics gate, kind ∈ [MetricKind.sound, .lenient] := by
  have hzero : (0 : Int) ≤ 0 := le_refl 0
  cases gate with
  | securityFindings =>
    simp only [MeetsAsRead, metricKinds, forall_mem_cons, not_mem_nil, IsEmpty.forall_iff, implies_true,
      and_true, ← intWithin_iff hzero, intWithin_zero]
  | tenantIsolation =>
    simp only [MeetsAsRead, metricKinds, forall_mem_cons, not_mem_nil, IsEmpty.forall_iff, implies_true,
      and_true, ← intWithin_iff hzero, intWithin_zero]
  | publishingIdempotency =>
    simp only [MeetsAsRead, metricKinds, forall_mem_cons, not_mem_nil, IsEmpty.forall_iff, implies_true,
      and_true, ← intWithin_iff hzero, intWithin_zero]
  | billingLedger =>
    simp only [MeetsAsRead, metricKinds, forall_mem_cons, not_mem_nil, IsEmpty.forall_iff, implies_true,
      and_true, str_delta_iff]
  | backupRestore =>
    have hflag : MetricKind.lenient ≠ .refused := by decide
    have hrpo : (0 : Int) ≤ 15 := by decide
    have hrto : (0 : Int) ≤ 120 := by decide
    simp only [MeetsAsRead, metricKinds, forall_mem_cons, not_mem_nil, IsEmpty.forall_iff, implies_true,
      and_true, flagKind_of_iff hflag, intWithin_iff hrpo, intWithin_iff hrto]
  | c0C1Automation => simp [MeetsAsRead, metricKinds]
  | dataLifecycle => simp [MeetsAsRead, metricKinds]
  | policyLegalReview => simp [MeetsAsRead, metricKinds]
  | loadChaos => simp [MeetsAsRead, metricKinds]
  | runbookOncallAlerts => simp [MeetsAsRead, metricKinds]

end Readings

/-! ## What the decision passes -/

section Passes

variable {texts : InterpreterTexts} {evidence : List Evidence} {now maximumEvidenceAge : Int}

theorem answerOr_ok {α : Type} {failure : Failure} {x : Option α} {a : α} :
    answerOr failure x = .ok a ↔ x = some a := by
  cases x <;> simp [answerOr]

theorem intMetric_ok {metrics : List (String × JsonValue)} {key : String} {default : Int} :
    intMetric texts metrics key default = .ok n ↔
      intAt texts metrics key = some n ∨ metrics.lookup key = none ∧ default = n := by
  rw [intMetric, answerOr_ok, intAt]
  cases hvalue : metrics.lookup key with
  | none => simp [intOf]
  | some value => simp

variable {passed : Bool} {item : Evidence}

theorem andZero_ok_true {metrics : List (String × JsonValue)} {key : String} :
    andZero texts metrics key passed = .ok true ↔
      passed = true ∧ intAt texts metrics key = some 0 := by
  cases passed with
  | false => simp [andZero]
  | true =>
    cases hread : intMetric texts metrics key (-1) with
    | error e =>
      have hnone : intAt texts metrics key ≠ some 0 := by
        intro h
        rw [intMetric_ok.mpr (.inl h)] at hread
        cases hread
      simp [andZero, hread, Except.map, hnone]
    | ok n =>
      rcases intMetric_ok.mp hread with hat | ⟨hmissing, hdefault⟩
      · simp [andZero, hread, Except.map, hat]
      · subst hdefault
        simp [andZero, hread, Except.map, intAt, hmissing]

theorem andZero_both {metrics : List (String × JsonValue)} {first second : String} :
    (andZero texts metrics first passed >>= andZero texts metrics second) = .ok true ↔
      passed = true ∧ intAt texts metrics first = some 0 ∧ intAt texts metrics second = some 0 := by
  constructor
  · intro h
    obtain ⟨sofar, hfirst, hsecond⟩ := bind_ok h
    obtain ⟨rfl, hat⟩ := andZero_ok_true.mp hsecond
    obtain ⟨hpassed, hzero⟩ := andZero_ok_true.mp hfirst
    exact ⟨hpassed, hzero, hat⟩
  · rintro ⟨hpassed, hfirst, hsecond⟩
    rw [bind_of_ok (andZero_ok_true.mpr ⟨hpassed, hfirst⟩)]
    exact andZero_ok_true.mpr ⟨rfl, hsecond⟩

theorem intMetric_within {metrics : List (String × JsonValue)} {key : String} {default bound : Int}
    (hdefault : bound < default) (h : intMetric texts metrics key default = .ok n) (hlow : 0 ≤ n)
    (hhigh : n ≤ bound) : IntWithin texts metrics key bound := by
  rcases intMetric_ok.mp h with hat | ⟨-, rfl⟩
  · exact ⟨n, hat, hlow, hhigh⟩
  · omega

theorem withMetrics_ok_true {metrics : List (String × JsonValue)} :
    withMetrics texts gate metrics passed = .ok true ↔
      passed = true ∧ MeetsAsRead texts metrics gate := by
  cases gate with
  | securityFindings => exact andZero_both
  | tenantIsolation => exact andZero_ok_true
  | publishingIdempotency => exact andZero_ok_true
  | billingLedger =>
    cases hdelta : metrics.lookup "delta" with
    | none => simp [withMetrics, MeetsAsRead, hdelta, str]
    | some delta => simp [withMetrics, MeetsAsRead, hdelta]
  | backupRestore =>
    constructor
    · intro h
      obtain ⟨rpo, hrpo, h⟩ := bind_ok h
      obtain ⟨rto, hrto, h⟩ := bind_ok h
      have hall := Except.ok.inj h
      simp only [Bool.and_eq_true, decide_eq_true_eq, isTrue_iff] at hall
      obtain ⟨⟨⟨hpassed, hrestore⟩, hlow, hhigh⟩, hlow', hhigh'⟩ := hall
      exact ⟨hpassed, hrestore, intMetric_within (by omega) hrpo hlow hhigh,
        intMetric_within (by omega) hrto hlow' hhigh'⟩
    · rintro ⟨rfl, hrestore, ⟨rpo, hrpo, hlow, hhigh⟩, ⟨rto, hrto, hlow', hhigh'⟩⟩
      simp only [withMetrics]
      rw [bind_of_ok (intMetric_ok.mpr (.inl hrpo)), bind_of_ok (intMetric_ok.mpr (.inl hrto))]
      simp [hrestore, isTrue, hlow, hhigh, hlow', hhigh', pure, Except.pure]
  | c0C1Automation => simp [withMetrics, MeetsAsRead]
  | dataLifecycle => simp [withMetrics, MeetsAsRead]
  | policyLegalReview => simp [withMetrics, MeetsAsRead]
  | loadChaos => simp [withMetrics, MeetsAsRead]
  | runbookOncallAlerts => simp [withMetrics, MeetsAsRead]

theorem fieldsOf_some {fields : ItemFields} (h : fieldsOf item = some fields) :
    item.verifiedAt = some fields.verifiedAt ∧ item.passed = .bool fields.passed ∧
      item.evidenceHash = .text fields.evidenceHash ∧
      Security.isSha256Hex fields.evidenceHash = true ∧ item.metrics = .object fields.metrics := by
  unfold fieldsOf at h
  split at h
  · split at h
    · cases h
      exact ⟨‹_›, ‹_›, ‹_›, ‹_›, ‹_›⟩
    · cases h
  · cases h

theorem windowStart_ok {start : Int} : windowStart now maximumEvidenceAge = .ok start ↔
      Representable (now - maximumEvidenceAge) ∧ start = now - maximumEvidenceAge := by
  constructor
  · intro h
    obtain ⟨_, hrequired, h⟩ := bind_ok h
    have hbounds := require_ok hrequired
    exact ⟨hbounds, (Except.ok.inj h).symm⟩
  · rintro ⟨⟨hlow, hhigh⟩, rfl⟩
    exact bind_of_ok (require_of ⟨hlow, hhigh⟩ _) _

theorem decideGate_passes {decision : GateDecision}
    (h : decideGate texts now maximumEvidenceAge gate item = .ok decision)
    (hpassed : decision.passed = true) : Representable (now - maximumEvidenceAge) ∧
      (∃ metrics, Vouched now maximumEvidenceAge item metrics ∧ MeetsAsRead texts metrics gate) ∧
      (listOf item.reasonCodes).isSome := by
  obtain ⟨fields, hfields, h⟩ := bind_ok h
  obtain ⟨start, hstart, h⟩ := bind_ok h
  obtain ⟨passed, hmetrics, h⟩ := bind_ok h
  obtain ⟨codes, hcodes, h⟩ := bind_ok h
  cases h
  obtain ⟨hrepresentable, rfl⟩ := windowStart_ok.mp hstart
  obtain ⟨hat, hitem, hhash, hhex, hobject⟩ := fieldsOf_some (answerOr_ok.mp hfields)
  have htrue : passed = true := hpassed
  subst htrue
  obtain ⟨hsofar, hmeets⟩ := withMetrics_ok_true.mp hmetrics
  simp only [Bool.and_eq_true, decide_eq_true_eq] at hsofar
  obtain ⟨hown, hfrom, hto⟩ := hsofar
  refine ⟨hrepresentable, ⟨fields.metrics, ⟨?_, ⟨_, hat, hfrom, hto⟩, ⟨_, hhash, hhex⟩, hobject⟩, hmeets⟩, ?_⟩
  · rw [hitem, hown]
  · rw [answerOr_ok.mp hcodes]
    rfl

theorem decideGate_of_admitted {metrics : List (String × JsonValue)}
    (hwindow : Representable (now - maximumEvidenceAge))
    (hvouched : Vouched now maximumEvidenceAge item metrics)
    (hmeets : MeetsAsRead texts metrics gate) (hcodes : (listOf item.reasonCodes).isSome) :
    ∃ decision, decideGate texts now maximumEvidenceAge gate item = .ok decision ∧
      decision.passed = true := by
  obtain ⟨verifiedAt, hat, hfrom, hto⟩ := hvouched.fresh
  obtain ⟨evidenceHash, hhash, hhex⟩ := hvouched.hash
  obtain ⟨codes, hcodes⟩ := Option.isSome_iff_exists.mp hcodes
  have hfields : fieldsOf item = some ⟨verifiedAt, true, evidenceHash, metrics⟩ := by
    simp [fieldsOf, hat, hvouched.passed, hhash, hvouched.metrics, hhex]
  have hfresh : (true && (decide (now - maximumEvidenceAge ≤ verifiedAt) &&
      decide (verifiedAt ≤ now))) = true := by
    simp [hfrom, hto]
  refine ⟨⟨gate.value, true, verifiedAt, evidenceHash, codes⟩, ?_, rfl⟩
  unfold decideGate
  rw [bind_of_ok (answerOr_ok.mpr hfields), bind_of_ok (windowStart_ok.mpr ⟨hwindow, rfl⟩),
    bind_of_ok (withMetrics_ok_true.mpr ⟨hfresh, hmeets⟩), bind_of_ok (answerOr_ok.mpr hcodes)]
  rfl

theorem noDuplicates_ok {seen : List String} : noDuplicates evidence seen = .ok () ↔
      (evidence.map Evidence.gate).Nodup ∧ ∀ key ∈ evidence.map Evidence.gate, key ∉ seen := by
  induction evidence generalizing seen with
  | nil => simp [noDuplicates]
  | cons item rest ih =>
    simp only [map_cons, nodup_cons, forall_mem_cons]
    constructor
    · intro h
      obtain ⟨_, hnew, h⟩ := bind_ok h
      obtain ⟨hnodup, hrest⟩ := ih.mp h
      have hapart : ∀ key ∈ rest.map Evidence.gate, key ∉ seen ∧ key ≠ item.gate := by
        simpa only [mem_append, mem_singleton, not_or] using hrest
      exact ⟨⟨fun hmem => (hapart _ hmem).2 rfl, hnodup⟩, require_ok hnew,
        fun key hkey => (hapart key hkey).1⟩
    · rintro ⟨⟨hnot, hnodup⟩, hnew, hrest⟩
      refine (bind_of_ok (require_of hnew _) _).trans (ih.mpr ⟨hnodup, fun key hkey => ?_⟩)
      simp only [mem_append, mem_singleton, not_or]
      refine ⟨hrest key hkey, ?_⟩
      rintro rfl
      exact hnot hkey

theorem mem_gaGates (gate : GAGate) : gate ∈ gaGates := by
  cases gate <;> decide

theorem oneForEach_iff : OneForEach evidence ↔ (evidence.map Evidence.gate).Nodup ∧
      evidence.map Evidence.gate ⊆ gaGates.map GAGate.value ∧
      gaGates.map GAGate.value ⊆ evidence.map Evidence.gate := by
  constructor
  · rintro ⟨hcount, hgates⟩
    have hsub : ∀ key ∈ evidence.map Evidence.gate, ∃ gate : GAGate, gate.value = key := by
      intro key hkey
      obtain ⟨item, hitem, rfl⟩ := mem_map.mp hkey
      obtain ⟨gate, hgate⟩ := hgates item hitem
      exact ⟨gate, hgate.symm⟩
    refine ⟨nodup_iff_count_le_one.mpr fun key => ?_, fun key hkey => ?_, fun key hkey => ?_⟩
    · by_cases hkey : key ∈ evidence.map Evidence.gate
      · obtain ⟨gate, rfl⟩ := hsub key hkey
        exact (hcount gate).le
      · rw [count_eq_zero_of_not_mem hkey]
        omega
    · obtain ⟨gate, rfl⟩ := hsub key hkey
      exact mem_map_of_mem (mem_gaGates gate)
    · obtain ⟨gate, -, rfl⟩ := mem_map.mp hkey
      exact count_pos_iff.mp (by rw [hcount gate]; omega)
  · rintro ⟨hnodup, hsub, hall⟩
    refine ⟨fun gate => ?_, fun item hitem => ?_⟩
    · exact count_eq_one_of_mem hnodup (hall (mem_map_of_mem (mem_gaGates gate)))
    · obtain ⟨gate, -, hgate⟩ := mem_map.mp (hsub (mem_map_of_mem hitem))
      exact ⟨gate, hgate.symm⟩

/-- All calls of a list answer and pass exactly when each does. -/
theorem mapM_passes {α β : Type} {f : α → Except Failure β} {passes : β → Bool} {items : List α} :
    (∃ answers, items.mapM f = .ok answers ∧ answers.all passes = true) ↔
      ∀ a ∈ items, ∃ answer, f a = .ok answer ∧ passes answer = true := by
  induction items with
  | nil => simp [pure, Except.pure]
  | cons a items ih =>
    rw [forall_mem_cons, ← ih]
    constructor
    · rintro ⟨answers, hanswers, hall⟩
      rw [mapM_cons] at hanswers
      obtain ⟨answer, hanswer, hanswers⟩ := bind_ok hanswers
      obtain ⟨rest, hrest, hcons⟩ := bind_ok hanswers
      cases hcons
      simp only [all_cons, Bool.and_eq_true] at hall
      exact ⟨⟨answer, hanswer, hall.1⟩, rest, hrest, hall.2⟩
    · rintro ⟨⟨answer, hanswer, hpass⟩, rest, hrest, hall⟩
      refine ⟨answer :: rest, ?_, by simp [hpass, hall]⟩
      rw [mapM_cons, bind_of_ok hanswer, bind_of_ok hrest]
      rfl

theorem itemOf_ok (hnodup : (evidence.map Evidence.gate).Nodup) :
    itemOf evidence gate = .ok item ↔ item ∈ evidence ∧ item.gate = gate.value := by
  rw [itemOf, answerOr_ok]
  constructor
  · intro h
    exact ⟨mem_of_find?_eq_some h, by simpa using find?_some h⟩
  · rintro ⟨hitem, hgate⟩
    obtain ⟨found, hfound⟩ : ∃ found, evidence.find? (fun item => item.gate = gate.value) =
        some found :=
      Option.isSome_iff_exists.mp (find?_isSome.mpr ⟨item, hitem, by simpa using hgate⟩)
    have hgates : found.gate = item.gate := by
      have hvalue : found.gate = gate.value := by simpa using find?_some hfound
      rw [hvalue, hgate]
    have hsame : found = item :=
      inj_on_of_nodup_map hnodup (mem_of_find?_eq_some hfound) hitem hgates
    rw [hfound, hsame]

def PassesGate (texts : InterpreterTexts) (evidence : List Evidence) (now maximumEvidenceAge : Int) : Prop :=
  ∃ decision, evaluateGaEvidence texts evidence now maximumEvidenceAge = .ok decision ∧ decision.passed = true

theorem passesGate_iff : PassesGate texts evidence now maximumEvidenceAge ↔
      OneForEach evidence ∧ ∀ gate ∈ gaGates, ∃ decision,
        (do
          let item ← itemOf evidence gate
          decideGate texts now maximumEvidenceAge gate item) = .ok decision ∧
        decision.passed = true := by
  rw [oneForEach_iff, ← mapM_passes]
  constructor
  · rintro ⟨decision, h, hpassed⟩
    obtain ⟨_, hnew, h⟩ := bind_ok h
    obtain ⟨_, hkeys, h⟩ := bind_ok h
    obtain ⟨decisions, hdecisions, h⟩ := bind_ok h
    cases h
    exact ⟨⟨(noDuplicates_ok.mp hnew).1, require_ok hkeys⟩, decisions, hdecisions, hpassed⟩
  · rintro ⟨⟨hnodup, hkeys⟩, decisions, hdecisions, hpassed⟩
    refine ⟨⟨decisions.all GateDecision.passed, decisions⟩, ?_, hpassed⟩
    have hnew : noDuplicates evidence [] = .ok () := noDuplicates_ok.mpr ⟨hnodup, by simp⟩
    unfold evaluateGaEvidence
    rw [bind_of_ok hnew]
    exact (bind_of_ok (require_of hkeys _) _).trans (bind_of_ok hdecisions _)

theorem passes_iff_admitted : PassesGate texts evidence now maximumEvidenceAge ↔
      Admitted texts evidence now maximumEvidenceAge := by
  rw [passesGate_iff]
  constructor
  · rintro ⟨hcomplete, hgates⟩
    obtain ⟨hnodup, -, hall⟩ := oneForEach_iff.mp hcomplete
    have hdecided : ∀ gate : GAGate, ∃ item decision, itemOf evidence gate = .ok item ∧
        decideGate texts now maximumEvidenceAge gate item = .ok decision ∧
        decision.passed = true := by
      intro gate
      obtain ⟨decision, h, hpassed⟩ := hgates gate (mem_gaGates gate)
      obtain ⟨item, hitem, h⟩ := bind_ok h
      exact ⟨item, decision, hitem, h, hpassed⟩
    obtain ⟨first, decision, -, hfirst, hpassed⟩ := hdecided .c0C1Automation
    refine ⟨hcomplete, (decideGate_passes hfirst hpassed).1, fun gate item hitem hgate => ?_⟩
    obtain ⟨found, decision, hfound, h, hpassed⟩ := hdecided gate
    have hsame : found = item := by
      have hitem' := (itemOf_ok hnodup).mpr ⟨hitem, hgate⟩
      exact Except.ok.inj (hfound.symm.trans hitem')
    subst hsame
    exact (decideGate_passes h hpassed).2
  · intro h
    obtain ⟨hnodup, -, hall⟩ := oneForEach_iff.mp h.complete
    refine ⟨h.complete, fun gate hgate => ?_⟩
    obtain ⟨item, hitem, hvalue⟩ := mem_map.mp (hall (mem_map_of_mem hgate))
    obtain ⟨⟨metrics, hvouched, hmeets⟩, hcodes⟩ := h.items gate item hitem hvalue
    obtain ⟨decision, hdecision, hpassed⟩ := decideGate_of_admitted h.window hvouched hmeets hcodes
    exact ⟨decision, (bind_of_ok ((itemOf_ok hnodup).mpr ⟨hitem, hvalue⟩) _).trans hdecision, hpassed⟩

theorem vouched_metrics {first second : List (String × JsonValue)}
    (h : Vouched now maximumEvidenceAge item first) (hsecond : item.metrics = .object second) :
    first = second :=
  JsonValue.object.inj (h.metrics.symm.trans hsecond)

/-- A property of kinds that rules out two of them holds of every deciding metric exactly when
neither of the two decides a gate. -/
theorem kinds_iff (hwell : WellFormed evidence now maximumEvidenceAge) {good other : MetricKind}
    (hkinds : ∀ kind, kind ∈ [MetricKind.sound, good] ↔ kind ≠ .refused ∧ kind ≠ other) :
    (∀ gate : GAGate, ∀ item ∈ evidence, item.gate = gate.value →
      ∃ metrics, Vouched now maximumEvidenceAge item metrics ∧
        ∀ kind ∈ metricKinds texts metrics gate, kind ∈ [MetricKind.sound, good]) ↔
      ¬HasKind texts evidence .refused ∧ ¬HasKind texts evidence other := by
  constructor
  · intro h
    have hnone : ∀ kind, kind ∉ [MetricKind.sound, good] → ¬HasKind texts evidence kind := by
      rintro kind hbad ⟨gate, item, hitem, hgate, metrics, hmetrics, hkind⟩
      obtain ⟨own, hvouched, hall⟩ := h gate item hitem hgate
      rw [vouched_metrics hvouched hmetrics] at hall
      exact hbad (hall kind hkind)
    exact ⟨hnone .refused fun h => ((hkinds _).mp h).1 rfl, hnone other fun h => ((hkinds _).mp h).2 rfl⟩
  · rintro ⟨hrefused, hother⟩ gate item hitem hgate
    obtain ⟨metrics, hvouched⟩ := hwell.items item hitem
    refine ⟨metrics, hvouched, fun kind hkind => (hkinds kind).mpr ⟨?_, ?_⟩⟩
    · rintro rfl
      exact hrefused ⟨gate, item, hitem, hgate, metrics, hvouched.metrics, hkind⟩
    · rintro rfl
      exact hother ⟨gate, item, hitem, hgate, metrics, hvouched.metrics, hkind⟩

theorem genuine_iff (texts : InterpreterTexts) : Genuine evidence now maximumEvidenceAge ↔
    WellFormed evidence now maximumEvidenceAge ∧ ¬HasKind texts evidence .refused ∧
      ¬HasKind texts evidence .lenient := by
  have hkinds : ∀ kind, kind ∈ [MetricKind.sound, .strict] ↔ kind ≠ .refused ∧ kind ≠ .lenient := by
    intro kind
    cases kind <;> decide
  constructor
  · intro h
    have hwell : WellFormed evidence now maximumEvidenceAge := by
      refine ⟨h.complete, fun item hitem => ?_⟩
      obtain ⟨gate, hgate⟩ := h.complete.2 item hitem
      obtain ⟨metrics, hvouched, -⟩ := h.items gate item hitem hgate
      exact ⟨metrics, hvouched⟩
    refine ⟨hwell, (kinds_iff hwell hkinds).mp fun gate item hitem hgate => ?_⟩
    obtain ⟨metrics, hvouched, hmeets⟩ := h.items gate item hitem hgate
    exact ⟨metrics, hvouched, meets_iff.mp hmeets⟩
  · rintro ⟨hwell, hnone⟩
    refine ⟨hwell.complete, fun gate item hitem hgate => ?_⟩
    obtain ⟨metrics, hvouched, hall⟩ := (kinds_iff hwell hkinds).mpr hnone gate item hitem hgate
    exact ⟨metrics, hvouched, meets_iff.mpr hall⟩

theorem admitted_iff : Admitted texts evidence now maximumEvidenceAge ↔
    WellFormed evidence now maximumEvidenceAge ∧
      (¬HasKind texts evidence .refused ∧ ¬HasKind texts evidence .strict) ∧
      ¬Unlisted evidence now maximumEvidenceAge := by
  have hkinds : ∀ kind, kind ∈ [MetricKind.sound, .lenient] ↔ kind ≠ .refused ∧ kind ≠ .strict := by
    intro kind
    cases kind <;> decide
  constructor
  · intro h
    have hwell : WellFormed evidence now maximumEvidenceAge := by
      refine ⟨h.complete, fun item hitem => ?_⟩
      obtain ⟨gate, hgate⟩ := h.complete.2 item hitem
      obtain ⟨⟨metrics, hvouched, -⟩, -⟩ := h.items gate item hitem hgate
      exact ⟨metrics, hvouched⟩
    refine ⟨hwell, (kinds_iff hwell hkinds).mp fun gate item hitem hgate => ?_, ?_⟩
    · obtain ⟨⟨metrics, hvouched, hmeets⟩, -⟩ := h.items gate item hitem hgate
      exact ⟨metrics, hvouched, meetsAsRead_iff.mp hmeets⟩
    · rintro (hwindow | ⟨item, hitem, hcodes⟩)
      · exact hwindow h.window
      · obtain ⟨gate, hgate⟩ := h.complete.2 item hitem
        have hsome := (h.items gate item hitem hgate).2
        rw [hcodes] at hsome
        cases hsome
  · rintro ⟨hwell, hnone, hlisted⟩
    refine ⟨hwell.complete, ?_, fun gate item hitem hgate => ⟨?_, ?_⟩⟩
    · by_contra hwindow
      exact hlisted (.inl hwindow)
    · obtain ⟨metrics, hvouched, hall⟩ := (kinds_iff hwell hkinds).mpr hnone gate item hitem hgate
      exact ⟨metrics, hvouched, meetsAsRead_iff.mpr hall⟩
    · by_contra hcodes
      rw [Option.not_isSome_iff_eq_none] at hcodes
      exact hlisted (.inr ⟨item, hitem, hcodes⟩)

/-- The gate passes exactly the genuine evidence when the evidence fails in either way, or when it
has a metric that is met only as it is read exactly if it also has a metric, a window or reason
codes that are refused only as they are written. -/
theorem passes_iff_genuine_iff (texts : InterpreterTexts) (evidence : List Evidence)
    (now maximumEvidenceAge : Int) : (PassesGate texts evidence now maximumEvidenceAge ↔
        Genuine evidence now maximumEvidenceAge) ↔
      ¬WellFormed evidence now maximumEvidenceAge ∨ HasKind texts evidence .refused ∨
        (HasKind texts evidence .lenient ↔
          HasKind texts evidence .strict ∨ Unlisted evidence now maximumEvidenceAge) := by
  rw [passes_iff_admitted, admitted_iff, genuine_iff texts]
  by_cases hwell : WellFormed evidence now maximumEvidenceAge
  · by_cases hrefused : HasKind texts evidence .refused
    · simp [hrefused]
    · by_cases hlenient : HasKind texts evidence .lenient <;>
        simp [hwell, hrefused, hlenient, or_iff_not_imp_left]
  · simp [hwell]

end Passes

/-! ## A fraction of a finding -/

def asciiDigit (c : Char) : Option Nat :=
  if 48 ≤ c.toNat ∧ c.toNat ≤ 57 then some (c.toNat - 48) else none

theorem one_lt_length_plain : 1 < "0.0".length := by decide

def plainTexts : InterpreterTexts where
  shown _ := "0.0"
  decimal := asciiDigit
  one_lt_length_shown _ := one_lt_length_plain

example : ["\n0 ", "\x1c0"].map (intOfText plainTexts) = [some 0, none] := by decide +kernel

def metricsOf : GAGate → List (String × JsonValue)
  | .securityFindings => [("critical", .float (9 / 10)), ("high", .int 0)]
  | .tenantIsolation => [("violations", .int 0)]
  | .billingLedger => [("delta", .int 0)]
  | .publishingIdempotency => [("duplicate_posts", .int 0)]
  | .backupRestore =>
    [("rpo_minutes", .int 5), ("rto_minutes", .int 60), ("restore_verified", .bool true)]
  | _ => []

def releaseEvidence : List Evidence :=
  gaGates.map fun gate =>
    { gate := gate.value
      passed := .bool true
      verifiedAt := some 1000
      evidenceHash := .text "0000000000000000000000000000000000000000000000000000000000000000"
      metrics := .object (metricsOf gate) }

/-- Nine tenths of a critical finding are read as none. -/
theorem fraction_passes :
    (evaluateGaEvidence plainTexts releaseEvidence 1000 1000).toOption.any GAGateDecision.passed ∧
      ¬Genuine releaseEvidence 1000 1000 := by
  refine ⟨by decide +kernel, fun h => ?_⟩
  obtain ⟨metrics, hvouched, hcritical, -⟩ :=
    h.items .securityFindings _ (mem_map_of_mem (mem_gaGates .securityFindings)) rfl
  have hmetrics := vouched_metrics hvouched rfl
  subst hmetrics
  have hnumber : (some (9 / 10) : Option ℚ) = some 0 := hcritical
  exact absurd (Option.some.inj hnumber) (by norm_num)

/-! ## Order and age of the evidence -/

theorem OneForEach.perm {evidence other : List Evidence} (h : OneForEach evidence)
    (hperm : evidence ~ other) : OneForEach other :=
  ⟨fun gate => (hperm.map Evidence.gate).count_eq gate.value ▸ h.1 gate,
    fun item hitem => h.2 item (hperm.mem_iff.mpr hitem)⟩

/-- The verdict stands in whatever order the evidence comes, and when older evidence is let in. -/
theorem passesGate_perm_mono {texts : InterpreterTexts} {evidence other : List Evidence}
    {now maximumEvidenceAge age : Int} (h : PassesGate texts evidence now maximumEvidenceAge)
    (hperm : evidence ~ other) (hage : maximumEvidenceAge ≤ age) (hwindow : 0 ≤ now - age) :
    PassesGate texts other now age := by
  rw [passes_iff_admitted] at h ⊢
  refine ⟨h.complete.perm hperm, ⟨hwindow, ?_⟩, fun gate item hitem hgate => ?_⟩
  · have hlast := h.window.2
    omega
  · obtain ⟨⟨metrics, hvouched, hmeets⟩, hcodes⟩ := h.items gate item (hperm.mem_iff.mpr hitem) hgate
    obtain ⟨verifiedAt, hverified, hstart, hend⟩ := hvouched.fresh
    exact ⟨⟨metrics, { hvouched with fresh := ⟨verifiedAt, hverified, by omega, hend⟩ }, hmeets⟩, hcodes⟩

theorem passesGate_reverse : PassesGate plainTexts releaseEvidence.reverse 1000 1000 := by
  have hpasses : PassesGate plainTexts releaseEvidence 1000 900 := by
    have hall : (evaluateGaEvidence plainTexts releaseEvidence 1000 900).toOption.any
        GAGateDecision.passed = true := by decide +kernel
    cases hrun : evaluateGaEvidence plainTexts releaseEvidence 1000 900 with
    | error e => simp [hrun, Except.toOption] at hall
    | ok decision => exact ⟨decision, hrun, by simpa [hrun, Except.toOption] using hall⟩
  exact passesGate_perm_mono hpasses (reverse_perm _).symm (by decide) (by decide)

end BlogOps.ReleaseGates
