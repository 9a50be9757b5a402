import BlogOps.AppErrors
import BlogOps.PatternMatching
import BlogOps.PythonText
import Mathlib.Algebra.GroupWithZero.Nat
import Mathlib.Data.Rat.Init

/-!
# Extraction of documents and semantic chunks

The parsers of single formats are libraries; which of them reads a document, what is refused and how
the blocks are cut into numbered chunks is modelled.
-/

namespace BlogOps.Knowledge

open PythonText (PyChar PyText joinLines stripText encode ofString)

inductive LocatorValue where
  | number (value : Nat)
  | text (value : String)
deriving DecidableEq, Repr

abbrev Locator := List (String × LocatorValue)

structure ExtractedBlock where
  text : PyText
  locator : Locator
  blockType : String := "paragraph"
deriving DecidableEq, Repr

structure ParsedDocument where
  title : String
  blocks : List ExtractedBlock
  parserName : String
  parserVersion : String := "1"
  qualityScore : Rat := 1
deriving DecidableEq, Repr

def ParsedDocument.text (parsed : ParsedDocument) : PyText :=
  joinLines ((parsed.blocks.map (·.text)).filter (· ≠ []))

/-- The text is one that was encoded for its hash. -/
structure ChunkDraft where
  sequence : Nat
  text : String
  locator : Locator × Locator
  textHash : String
  tokenEstimate : Nat
  piiMasked : Bool
deriving DecidableEq, Repr

/-- What an adapter or a parser raises: an `AppError`, or an exception of its own. -/
inductive AdapterError where
  | app (error : AppError)
  | other
deriving DecidableEq, Repr

def AdapterError.toFailure : AdapterError → Failure
  | .app error => .app error
  | .other => .assertionError

def answered {α : Type} : Except AdapterError α → Except Failure α
  | .ok a => .ok a
  | .error raised => .error raised.toFailure

def appError (code message : String) (statusCode : Nat) : Failure := .app { code, message, statusCode }

/-- Libraries on texts, paths, hashes and document formats. -/
structure ParsingTexts where
  /-- The class of a word character and of a digit in `re`. -/
  isWord : Char → Bool
  isDigit : Char → Bool
  textHash : String → String
  /-- `PurePath(filename).suffix.lower()`. -/
  suffixOf : String → String
  /-- `content_type.split(";", 1)[0].strip().lower()`. -/
  mediaType : String → String
  /-- `PurePath(unquote(urlsplit(url).path)).name`. -/
  pathName : String → String
  /-- The names in a zip archive; `none` for a broken one. -/
  zipNames : List UInt8 → Option (List String)
  parse : String → String → List UInt8 → Except AdapterError ParsedDocument
  parseHtml : List UInt8 → Except AdapterError (String × List ExtractedBlock)
  parseJson : List UInt8 → Except AdapterError (List ExtractedBlock)
  parseXml : List UInt8 → Except AdapterError (List ExtractedBlock)
  maxUploadBytes : Nat
  maxFetchBytes : Nat

section Masking

open PatternMatching Pattern

variable (texts : ParsingTexts)

/-- No lone surrogate is in a class. -/
def inClass (p : Char → Bool) (c : PyChar) : Bool := c.char?.any p

/-- `[\w.+-]`. -/
def isLocalChar : PyChar → Bool := inClass fun c => texts.isWord c || c ∈ ".+-".toList

/-- `[\w-]`. -/
def isHostChar : PyChar → Bool := inClass fun c => texts.isWord c || c = '-'

def digit : Pattern PyChar := one (inClass texts.isDigit)

/-- One of the characters of a text. -/
def oneOf (characters : String) : Pattern PyChar := one (inClass (· ∈ characters.toList))

/-- `\.[\w-]+`. -/
def hostLabel : Pattern PyChar := join [oneOf ".", atLeast 1 (isHostChar texts)]

/-- `_EMAIL`. -/
def emailPattern : Pattern PyChar := join [ notBehind (isLocalChar texts), atLeast 1 (isLocalChar texts),
  oneOf "@", atLeast 1 (isHostChar texts), hostLabel texts, rounds (hostLabel texts)]

/-- `_PHONE`. -/
def phonePattern : Pattern PyChar := join [ notBehind (inClass texts.isDigit),
  upTo 1 (join [upTo 1 (oneOf "+"), oneOf "8", oneOf "2", upTo 1 (oneOf "- ")]),
  upTo 1 (oneOf "0"), oneOf "1", oneOf "016789", upTo 1 (oneOf " -"), times 3 (digit texts),
  upTo 1 (digit texts), upTo 1 (oneOf " -"), times 4 (digit texts), notAhead (inClass texts.isDigit)]

/-- `_RESIDENT_ID`. -/
def residentIdPattern : Pattern PyChar := join [ notBehind (inClass texts.isDigit),
  times 6 (digit texts), upTo 1 (oneOf " -"), oneOf "1234", times 6 (digit texts),
  notAhead (inClass texts.isDigit)]

def ParsingTexts.maskPii (text : PyText) : PyText × Bool :=
  let masked := (emailPattern texts).sub (ofString "[EMAIL]") text
  let masked := (phonePattern texts).sub (ofString "[PHONE]") masked
  let masked := (residentIdPattern texts).sub (ofString "[IDENTIFIER]") masked
  (masked, decide (masked ≠ text))

end Masking

def allowedUploads : List (String × List String) := [(".pdf", ["application/pdf"]),
    (".docx", ["application/vnd.openxmlformats-officedocument.wordprocessingml.document"]),
    (".pptx", ["application/vnd.openxmlformats-officedocument.presentationml.presentation"]),
    (".txt", ["text/plain"]), (".md", ["text/markdown", "text/plain"]),
    (".csv", ["text/csv", "application/csv", "text/plain"])]

def allowedTypes (suffix : String) : Option (List String) := allowedUploads.lookup suffix

variable (texts : ParsingTexts)

def validateUploadMetadata (filename contentType : String) (size maxSize : Nat) : Except Failure String := do
  let suffix := texts.suffixOf filename
  require ((allowedTypes suffix).isSome = true) (appError "FILE_TYPE_NOT_ALLOWED" "지원하지 않는 파일 형식입니다." 422)
  require (texts.mediaType contentType ∈ (allowedTypes suffix).getD [])
    (appError "FILE_MIME_MISMATCH" "파일 확장자와 MIME 형식이 일치하지 않습니다." 422)
  require (0 < size ∧ size ≤ maxSize) (appError "FILE_SIZE_INVALID" "파일 크기가 허용 범위를 벗어났습니다." 422)
  return suffix

/-- `b"%PDF-"`. -/
def pdfSignature : List UInt8 := [37, 80, 68, 70, 45]

def isOffice (suffix : String) : Bool := suffix = ".docx" || suffix = ".pptx"

def officePrefix (suffix : String) : String := if suffix = ".docx" then "word/" else "ppt/"

def validateOffice (suffix : String) (data : List UInt8) : Except Failure Unit :=
  match texts.zipNames data with
  | none => .error (appError "FILE_SIGNATURE_MISMATCH" "Office 파일 구조가 올바르지 않습니다." 422)
  | some names => require ("[Content_Types].xml" ∈ names ∧
      names.any (fun name => (officePrefix suffix).toList.isPrefixOf name.toList) = true)
    (appError "FILE_SIGNATURE_MISMATCH" "Office 파일 형식이 일치하지 않습니다." 422)

def validateFileSignature (suffix : String) (data : List UInt8) : Except Failure Unit := do
  require (suffix = ".pdf" → pdfSignature.isPrefixOf data = true)
    (appError "FILE_SIGNATURE_MISMATCH" "PDF 파일 서명이 올바르지 않습니다." 422)
  if isOffice suffix = true then validateOffice texts suffix data else .ok ()

def textEmpty : String := "DOCUMENT_TEXT_EMPTY"

def parseDocument (filename contentType : String) (data : List UInt8) (maxSize : Nat) :
    Except Failure ParsedDocument := do
  let suffix ← validateUploadMetadata texts filename contentType data.length maxSize
  validateFileSignature texts suffix data
  let parsed ← answered (texts.parse suffix filename data)
  require (parsed.blocks ≠ []) (appError textEmpty "추출 가능한 텍스트가 없습니다. OCR 검토가 필요합니다." 422)
  return parsed

def parseHtmlDocument (filename : String) (data : List UInt8) : Except Failure ParsedDocument := do
  let (title, blocks) ← answered (texts.parseHtml data)
  require (blocks ≠ []) (appError textEmpty "웹 문서에서 본문을 추출할 수 없습니다." 422)
  return { title := if title = "" then filename else title, blocks, parserName := "html-parser" }

/-- The branches for JSON and for XML. -/
def parseBlocks (parserName filename message : String)
    (read : Except AdapterError (List ExtractedBlock)) : Except Failure ParsedDocument := do
  let blocks ← answered read
  require (blocks ≠ []) (appError textEmpty message 422)
  return { title := filename, blocks, parserName }

def htmlTypes : List String := ["text/html", "application/xhtml+xml"]

def jsonTypes : List String := ["application/json", "application/ld+json"]

def xmlTypes : List String :=
  ["application/xml", "text/xml", "application/rss+xml", "application/atom+xml"]

/-- The name and the suffix under which a fetched document is parsed. -/
def fetchedName (url contentType : String) : String × String := let name := texts.pathName url
  let filename := if name = "" then "source" else name
  let suffix := texts.suffixOf filename
  if (allowedTypes suffix).isSome = true then (filename, suffix)
  else
    match allowedUploads.find? (fun entry => decide (contentType ∈ entry.2)) with
    | some entry => (filename ++ entry.1, entry.1)
    | none => (filename, "")

/-- Plain text is parsed without a check of its blocks. -/
def parseFetchedDocument (url contentType : String) (data : List UInt8) (maxSize : Nat) :
    Except Failure ParsedDocument :=
  let (filename, suffix) := fetchedName texts url contentType
  if contentType ∈ (allowedTypes suffix).getD [] then
    parseDocument texts filename contentType data maxSize
  else if contentType ∈ htmlTypes then parseHtmlDocument texts filename data
  else if contentType ∈ jsonTypes then
    parseBlocks "json" filename "JSON 소스에 처리할 값이 없습니다." (texts.parseJson data)
  else if contentType ∈ xmlTypes then
    parseBlocks "xml" filename "XML 소스에 처리할 본문이 없습니다." (texts.parseXml data)
  else if "text/".toList.isPrefixOf contentType.toList = true then
    answered (texts.parse ".txt" filename data)
  else .error (appError "SOURCE_CONTENT_TYPE_BLOCKED" "지원하지 않는 원격 문서 형식입니다." 422)

abbrev Piece := PyText × Locator

structure ChunkBuffer where
  chunks : List ChunkDraft := []
  buffer : List PyText := []
  locators : List Locator := []

/-- The hash of a text with a lone surrogate is a `UnicodeEncodeError`. -/
def draftOf (sequence : Nat) (buffer : List PyText) (locators : List Locator) :
    Except Failure ChunkDraft :=
  let masked := texts.maskPii (stripText (joinLines buffer))
  match encode masked.1 with
  | none => .error .valueError
  | some text => .ok {
      sequence
      text
      locator := (locators.head?.getD [], locators.getLast?.getD [])
      textHash := texts.textHash text
      tokenEstimate := max 1 (masked.1.length / 3)
      piiMasked := masked.2 }

def ChunkBuffer.flush (b : ChunkBuffer) : Except Failure ChunkBuffer :=
  if b.buffer = [] then .ok b
  else do
    let draft ← draftOf texts b.chunks.length b.buffer b.locators
    return { chunks := b.chunks ++ [draft] }

def ChunkBuffer.projected (b : ChunkBuffer) (piece : PyText) : Nat :=
  (b.buffer.map List.length).sum + piece.length + b.buffer.length * 2

def ChunkBuffer.add (b : ChunkBuffer) (piece : Piece) : ChunkBuffer :=
  { b with buffer := b.buffer ++ [piece.1], locators := b.locators ++ [piece.2] }

def ChunkBuffer.push (maxCharacters : Nat) (b : ChunkBuffer) (piece : Piece) :
    Except Failure ChunkBuffer :=
  if b.buffer ≠ [] ∧ maxCharacters < b.projected piece.1 then do
    let flushed ← b.flush texts
    return flushed.add piece
  else .ok (b.add piece)

/-- `block.text[index : index + max_characters]` for each multiple `index` below the length. -/
def piecesOf (maxCharacters : Nat) (block : ExtractedBlock) : List Piece :=
  (List.range ((block.text.length + maxCharacters - 1) / maxCharacters)).map fun k =>
    ((block.text.drop (k * maxCharacters)).take maxCharacters, block.locator)

/-- Every call leaves `max_characters` at its default. -/
def semanticChunks (blocks : List ExtractedBlock) (maxCharacters : Nat := 1500) :
    Except Failure (List ChunkDraft) := do
  require (200 ≤ maxCharacters) .valueError
  let b ← (blocks.flatMap (piecesOf maxCharacters)).foldlM (ChunkBuffer.push texts maxCharacters) {}
  let b ← b.flush texts
  return b.chunks

section Chunks

variable {texts : ParsingTexts}

def Numbered (chunks : List ChunkDraft) : Prop :=
  chunks.map ChunkDraft.sequence = List.range chunks.length

theorem draftOf_ok {sequence : Nat} {buffer : List PyText} {locators : List Locator} {draft : ChunkDraft}
    (h : draftOf texts sequence buffer locators = .ok draft) : draft.sequence = sequence ∧
      encode (texts.maskPii (stripText (joinLines buffer))).1 = some draft.text ∧
      draft.locator = (locators.head?.getD [], locators.getLast?.getD []) := by
  unfold draftOf at h
  cases hencode : encode (texts.maskPii (stripText (joinLines buffer))).1 with
  | none =>
    simp only [hencode] at h
    cases h
  | some text =>
    simp only [hencode] at h
    cases h
    exact ⟨rfl, rfl, rfl⟩

theorem Numbered.append {chunks : List ChunkDraft} {draft : ChunkDraft} (h : Numbered chunks)
    (hdraft : draft.sequence = chunks.length) : Numbered (chunks ++ [draft]) := by
  unfold Numbered at *
  rw [List.map_append, h, List.length_append, List.length_singleton, List.range_succ, ← hdraft]
  rfl

variable {b after : ChunkBuffer}

/-- A flush leaves an empty buffer, or makes one chunk of a full one. -/
theorem flush_ok (h : b.flush texts = .ok after) : b.buffer = [] ∧ after = b ∨
    b.buffer ≠ [] ∧ ∃ draft, draftOf texts b.chunks.length b.buffer b.locators = .ok draft ∧
      after = { chunks := b.chunks ++ [draft] } := by
  unfold ChunkBuffer.flush at h
  by_cases hbuffer : b.buffer = []
  · rw [if_pos hbuffer] at h
    exact .inl ⟨hbuffer, (Except.ok.inj h).symm⟩
  · rw [if_neg hbuffer] at h
    obtain ⟨draft, hdraft, h⟩ := bind_ok h
    exact .inr ⟨hbuffer, draft, hdraft, (Except.ok.inj h).symm⟩

theorem numbered_flush (hb : Numbered b.chunks) (h : b.flush texts = .ok after) :
    Numbered after.chunks := by
  rcases flush_ok h with ⟨_, rfl⟩ | ⟨_, draft, hdraft, rfl⟩
  · exact hb
  · exact hb.append (draftOf_ok hdraft).1

variable {maxCharacters : Nat}

theorem numbered_push {piece : Piece} (hb : Numbered b.chunks)
    (h : b.push texts maxCharacters piece = .ok after) : Numbered after.chunks := by
  unfold ChunkBuffer.push at h
  split at h
  · obtain ⟨flushed, hflush, h⟩ := bind_ok h
    cases h
    have hflushed : Numbered flushed.chunks := numbered_flush hb hflush
    exact hflushed
  · cases h
    exact hb

/-- What every step of a loop keeps, the loop keeps. -/
theorem foldlM_keeps {σ α : Type} {f : σ → α → Except Failure σ} {I : σ → Prop}
    (hstep : ∀ s a t, I s → f s a = .ok t → I t) {items : List α} {s t : σ} (hs : I s)
    (h : items.foldlM f s = .ok t) : I t := by
  induction items generalizing s with
  | nil =>
    cases h
    exact hs
  | cons item items ih =>
    rw [List.foldlM_cons] at h
    obtain ⟨middle, hmiddle, h⟩ := bind_ok h
    exact ih (hstep s item middle hs hmiddle) h

/-- The chunks are those of the buffer after all pieces and a last flush. -/
theorem semanticChunks_ok {blocks : List ExtractedBlock} {chunks : List ChunkDraft}
    (h : semanticChunks texts blocks maxCharacters = .ok chunks) : ∃ filled after : ChunkBuffer,
      (blocks.flatMap (piecesOf maxCharacters)).foldlM (ChunkBuffer.push texts maxCharacters) {} =
        .ok filled ∧ filled.flush texts = .ok after ∧ chunks = after.chunks := by
  unfold semanticChunks at h
  obtain ⟨_, _, h⟩ := bind_ok h
  obtain ⟨filled, hfilled, h⟩ := bind_ok h
  obtain ⟨after, hafter, h⟩ := bind_ok h
  exact ⟨filled, after, hfilled, hafter, (Except.ok.inj h).symm⟩

/-- The chunks of a document are numbered from zero in their order. -/
theorem semanticChunks_numbered {blocks : List ExtractedBlock} {chunks : List ChunkDraft}
    (h : semanticChunks texts blocks maxCharacters = .ok chunks) : Numbered chunks := by
  obtain ⟨filled, after, hfilled, hafter, rfl⟩ := semanticChunks_ok h
  have hempty : Numbered ({} : ChunkBuffer).chunks := rfl
  exact numbered_flush (foldlM_keeps (I := fun b => Numbered b.chunks)
    (fun _ _ _ hb hpush => numbered_push hb hpush) hempty hfilled) hafter

end Chunks

end BlogOps.Knowledge
