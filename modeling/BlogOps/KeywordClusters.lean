import BlogOps.AppErrors
import BlogOps.DigitRounding
import BlogOps.DisjointSets
import BlogOps.InsertionDicts
import BlogOps.PythonText
import Mathlib.Data.List.Sort
import Mathlib.Data.Prod.Lex
import Mathlib.Data.String.Basic

/-!
# Keyword clusters

Candidates are compared pair by pair, similar pairs are united, and each set of the forest becomes a
cluster with a primary candidate.
-/

namespace BlogOps.Keywords

open DisjointSets InsertionDicts

structure KeywordTexts where
  nfkc : String → String
  casefold : String → String

def zeroWidth (c : Char) : Bool :=
  0x200b ≤ c.toNat && c.toNat ≤ 0x200f || c.toNat = 0x2060 || c.toNat = 0xfeff

def controlToBlank (c : Char) : Char := if c.toNat ≤ 0x1f ∨ c.toNat = 0x7f then ' ' else c

/-- Runs of white space become one blank; the flag tells that the last character was one. -/
def collapseSpaces : Bool → List Char → List Char
  | _, [] => []
  | afterSpace, c :: text =>
    if PythonText.isSpace c = true then
      if afterSpace = true then collapseSpaces true text else ' ' :: collapseSpaces true text
    else c :: collapseSpaces false text

def maxKeywordLength : Nat := 1000

def keywordEmpty : Failure :=
  .app { code := "KEYWORD_EMPTY", message := "빈 키워드는 분석할 수 없습니다.", statusCode := 422 }

def keywordTooLong : Failure := .app {
    code := "KEYWORD_TOO_LONG", message := "키워드는 1,000자를 초과할 수 없습니다."
    statusCode := 422, fields := [⟨"keyword", "max_length_1000"⟩] }

variable (texts : KeywordTexts)

def cleanKeyword (value : String) : List Char := PythonText.stripChars <| collapseSpaces false <|
    ((texts.nfkc value).toList.filter fun c => !zeroWidth c).map controlToBlank

def normalizeKeyword (value : String) : Except Failure String := do
  let clean := cleanKeyword texts value
  require (clean ≠ []) keywordEmpty
  require (clean.length ≤ maxKeywordLength) keywordTooLong
  return texts.casefold (String.ofList clean)

def questionWords : List String :=
  ["무엇", "뭐", "어떻게", "왜", "언제", "어디", "누가", "얼마", "방법", "하는 법", "인가요", "까요"]

def contains (text word : List Char) : Bool := text.tails.any word.isPrefixOf

/-- A mark behind the word is optional, so it does not matter. -/
def questionKeyword (keyword : String) : Except Failure Bool := do
  let normalized ← normalizeKeyword texts keyword
  let asked := questionWords.any fun word => contains normalized.toList word.toList
  return asked || ["?", "？"].any fun mark => mark.toList.isSuffixOf normalized.toList

inductive KeywordIntent where
  | informational | comparison | purchase | local | navigational | mixed | unknown
deriving DecidableEq, Repr

inductive ClusterKind where
  | keyword | question | serpIntent
deriving DecidableEq, Repr

inductive ClusterMethod where
  | exact | semantic | semanticIntent | semanticSerpIntent
deriving DecidableEq, Repr

structure ClusterCandidate where
  keywordId : Uuid
  text : String
  intent : KeywordIntent := .unknown
  opportunityScore : Option Rat := none
  searchDemand : Option Rat := none
  embedding : Option (List Rat) := none
  serpUrls : List String := []
  serpLicensed : Bool := false
deriving DecidableEq, Repr

structure PairSignals where
  similarity : Rat
  lexical : Rat
  semantic : Option Rat
  intentMatch : Bool
  serpOverlap : Option Rat
deriving DecidableEq, Repr

structure MemberSignals where
  lexical : Rat
  semantic : Option Rat
  intentMatch : Bool
  serpOverlap : Option Rat
deriving DecidableEq, Repr

structure ClusterMemberResult where
  candidate : ClusterCandidate
  similarityToPrimary : Rat
  isPrimary : Bool
  signals : MemberSignals
deriving DecidableEq, Repr

structure ClusterSignals where
  memberCount : Nat
  serpUsed : Bool
  serpOmittedReason : Option String
  embeddingsUsed : Bool
  similarityThreshold : Rat
deriving DecidableEq, Repr

structure ClusterResult where
  name : String
  kind : ClusterKind
  method : ClusterMethod
  primary : ClusterCandidate
  intent : KeywordIntent
  confidence : Rat
  decisionRequired : Bool
  members : List ClusterMemberResult
  signals : ClusterSignals
deriving DecidableEq, Repr

def ClusterResult.candidates (result : ClusterResult) : List ClusterCandidate :=
  result.members.map ClusterMemberResult.candidate

/-- The signals of two texts that differ after normalisation. -/
abbrev PairMeasure := ClusterCandidate → ClusterCandidate → Bool → PairSignals

def sameTextSignals (left : ClusterCandidate) : PairSignals where
  similarity := 1
  lexical := 1
  semantic := some 1
  intentMatch := true
  serpOverlap := if left.serpUrls = [] then none else some 1

variable (measure : PairMeasure)

/-- `pair_similarity` normalises both texts before it measures them. -/
def pairSimilarity (useSerp : Bool) (left right : ClusterCandidate) : Except Failure PairSignals := do
  let _ ← normalizeKeyword texts left.text
  let _ ← normalizeKeyword texts right.text
  return measure left right useSerp

/-- The key of `_primary`; tuples are compared from the left. -/
abbrev PrimaryKey := Rat ×ₗ Rat ×ₗ Int ×ₗ String

def primaryKey (item : ClusterCandidate) : Except Failure PrimaryKey := do
  let normalized ← normalizeKeyword texts item.text
  return toLex (item.opportunityScore.getD (-1), toLex (item.searchDemand.getD (-1),
    toLex (-(normalized.length : Int), normalized)))

/-- `max` keeps the first of several greatest items. -/
def later {α : Type} (best item : PrimaryKey × α) : PrimaryKey × α :=
  if best.1 < item.1 then item else best

def maxByKey {α : Type} : List (PrimaryKey × α) → Except Failure α
  | [] => .error .validationError
  | item :: items => .ok (items.foldl later item).2

def keyed (item : ClusterCandidate) : Except Failure (PrimaryKey × ClusterCandidate) := do
  let key ← primaryKey texts item
  return (key, item)

def primaryOf (candidates : List ClusterCandidate) : Except Failure ClusterCandidate := do
  let keyedItems ← candidates.mapM (keyed texts)
  maxByKey keyedItems

def countedIntents : List KeywordIntent :=
  [.comparison, .informational, .local, .navigational, .purchase]

def clusterIntent (candidates : List ClusterCandidate) : KeywordIntent :=
  let count := fun intent => candidates.countP fun item => item.intent = intent
  let counted := countedIntents.filter fun intent => 0 < count intent
  match counted.insertionSort (fun a b => count b ≤ count a) with
  | [] => .unknown
  | [intent] => intent
  | intent :: other :: _ => if count intent = count other then .mixed else intent

def technicalMaxClusterCandidates : Nat := 5000

/-- The pairs of indices in the order of the two loops. -/
def indexPairs (size : Nat) : List (Nat × Nat) :=
  (List.range size).flatMap fun left =>
    (List.range' (left + 1) (size - (left + 1))).map fun right => (left, right)

abbrev PairCache := List ((Nat × Nat) × PairSignals)

/-- `IndexError` and `KeyError`. -/
def lookupFailed : Failure := .keyError

variable (working : List ClusterCandidate)

def itemAt (index : Nat) : Except Failure ClusterCandidate :=
  match working[index]? with
  | some item => .ok item
  | none => .error lookupFailed

def cachedAt (cache : PairCache) (key : Nat × Nat) : Except Failure PairSignals :=
  match cache.find? fun entry => entry.1 = key with
  | some entry => .ok entry.2
  | none => .error lookupFailed

/-- `working.index(primary)`, which compares all fields. -/
def indexOf (item : ClusterCandidate) : Except Failure Nat :=
  if item ∈ working then .ok (working.idxOf item) else .error .validationError

structure PairScan where
  forest : Forest
  cache : PairCache := []

def scanPair (similarity : ClusterCandidate → ClusterCandidate → Except Failure PairSignals) (threshold : Rat)
    (working : List ClusterCandidate) (scan : PairScan) (pair : Nat × Nat) : Except Failure PairScan := do
  let left ← itemAt working pair.1
  let right ← itemAt working pair.2
  let signals ← similarity left right
  return {
    forest := if threshold ≤ signals.similarity then union scan.forest pair.1 pair.2 else scan.forest
    cache := scan.cache ++ [(pair, signals)] }

def scanPairs (similarity : ClusterCandidate → ClusterCandidate → Except Failure PairSignals)
    (threshold : Rat) (working : List ClusterCandidate) : Except Failure PairScan :=
  (indexPairs working.length).foldlM (scanPair similarity threshold working)
    { forest := singletons working.length }

/-- Each search of a root may shorten the paths of the forest. -/
def groupIndex (state : Forest × List (Nat × List Nat)) (index : Nat) : Forest × List (Nat × List Nat) :=
  let (root, forest) := findRoot state.1 index
  (forest, appendTo root index state.2)

def groupIndexes (forest : Forest) (size : Nat) : List (Nat × List Nat) :=
  ((List.range size).foldl groupIndex (forest, [])).2

def roundScore (x : Rat) : Rat := (DigitRounding.nearestEven (x * 1000000) : Rat) / 1000000

def memberResult (primary candidate : ClusterCandidate) (signals : PairSignals) : ClusterMemberResult where
  candidate
  similarityToPrimary := roundScore signals.similarity
  isPrimary := candidate.keywordId = primary.keywordId
  signals := {
    lexical := roundScore signals.lexical
    semantic := signals.semantic.map roundScore
    intentMatch := signals.intentMatch
    serpOverlap := signals.serpOverlap.map roundScore }

def memberSignals (cache : PairCache) (primary : ClusterCandidate) (primaryIndex index : Nat)
    (candidate : ClusterCandidate) : Except Failure PairSignals :=
  if candidate.keywordId = primary.keywordId then .ok (sameTextSignals candidate)
  else cachedAt cache (min primaryIndex index, max primaryIndex index)

def clusterMember (cache : PairCache) (primary : ClusterCandidate) (primaryIndex index : Nat) :
    Except Failure (PairSignals × ClusterMemberResult) := do
  let candidate ← itemAt working index
  let signals ← memberSignals cache primary primaryIndex index candidate
  return (signals, memberResult primary candidate signals)

abbrev MemberKey := Nat ×ₗ Rat ×ₗ String

def memberKey (item : ClusterMemberResult) : MemberKey :=
  toLex ((!item.isPrimary).toNat, toLex (-item.similarityToPrimary, item.candidate.text))

def statisticsMean (values : List Rat) : Rat := if values = [] then 0 else values.sum / values.length

def clusterMethod (serpUsed embeddingsUsed : Bool) (size : Nat) : ClusterMethod :=
  if serpUsed = true then .semanticSerpIntent
  else if embeddingsUsed = true ∨ 1 < size then .semanticIntent
  else .exact

structure ClusterRequest where
  kind : ClusterKind := .keyword
  similarityThreshold : Rat := 72 / 100
  useSerpWhenLicensed : Bool := true
deriving DecidableEq, Repr

variable (request : ClusterRequest)

/-- The result of a group with its primary candidate and the signals of its members. -/
def clusterResult (primary : ClusterCandidate) (group : List ClusterCandidate)
    (members : List (PairSignals × ClusterMemberResult)) : ClusterResult :=
  let signals := members.map Prod.fst
  let serpUsed := signals.any fun signal => signal.serpOverlap.isSome
  let embeddingsUsed := signals.any fun signal => signal.semantic.isSome
  { name := primary.text
    kind := request.kind
    method := clusterMethod serpUsed embeddingsUsed group.length
    primary
    intent := clusterIntent group
    confidence := roundScore (statisticsMean (signals.map PairSignals.similarity))
    decisionRequired := 1 < group.length
    members := (members.map Prod.snd).insertionSort fun a b => memberKey a ≤ memberKey b
    signals := {
      memberCount := group.length
      serpUsed
      serpOmittedReason :=
        if serpUsed = true ∨ request.useSerpWhenLicensed = false then none
        else some "NO_LICENSED_SERP_EVIDENCE"
      embeddingsUsed
      similarityThreshold := request.similarityThreshold } }

def clusterGroup (working : List ClusterCandidate) (cache : PairCache) (indexes : List Nat) :
    Except Failure ClusterResult := do
  let group ← indexes.mapM (itemAt working)
  let primary ← primaryOf texts group
  let primaryIndex ← indexOf working primary
  let members ← indexes.mapM (clusterMember working cache primary primaryIndex)
  return clusterResult request primary group members

abbrev ResultKey := Int ×ₗ String

def resultKey (item : ClusterResult) : ResultKey := toLex (-(item.members.length : Int), item.name)

/-- A candidate is kept unless questions are asked for and it is none. -/
def keeps (kind : ClusterKind) (candidate : ClusterCandidate) : Except Failure Bool :=
  if kind ≠ .question then .ok true else questionKeyword texts candidate.text

def keepKeywords (texts : KeywordTexts) (kind : ClusterKind) :
    List ClusterCandidate → Except Failure (List ClusterCandidate)
  | [] => .ok []
  | candidate :: candidates => do
    let kept ← keeps texts kind candidate
    let working ← keepKeywords texts kind candidates
    return if kept = true then candidate :: working else working

def clusterWorking (working : List ClusterCandidate) : Except Failure (List ClusterResult) := do
  let scan ← scanPairs (pairSimilarity texts measure request.useSerpWhenLicensed)
    request.similarityThreshold working
  let groups := groupIndexes scan.forest working.length
  let results ← groups.mapM fun group => clusterGroup texts request working scan.cache group.2
  return results.insertionSort fun a b => resultKey a ≤ resultKey b

def clusterKeywords (candidates : List ClusterCandidate) : Except Failure (List ClusterResult) := do
  require (0 ≤ request.similarityThreshold ∧ request.similarityThreshold ≤ 1) .validationError
  require (candidates.length ≤ technicalMaxClusterCandidates) .validationError
  let working ← keepKeywords texts request.kind candidates
  clusterWorking texts measure request working

end BlogOps.Keywords
