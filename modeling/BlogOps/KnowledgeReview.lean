import BlogOps.KnowledgeDeletion
import BlogOps.KnowledgeVersions

/-!
# Doubtful versions

The store calls for a review when it first stores content that was read by OCR or parsed badly.  A
later delivery that finds the version by its hash makes the source ready without looking at it.
-/

namespace BlogOps.Knowledge

open EffectRules KeyedTables Outbound TransitionRuns List

/-- The version was read without OCR and parsed with a quality of 0.6 or more. -/
def Sound (s : SourceBooks) (version : SourceVersion) : Prop :=
  version.ocrUsed = false ∧ ∀ document ∈ s.documentsOf version.id, 3 / 5 ≤ document.parseQualityScore

def ReadySound (s : SourceBooks) : Prop :=
  ∀ version, s.IsCurrent version → s.source.state = .ready → Sound s version

variable {a : SourceAction} {name : String} {upload : Upload} {jobType : KnowledgeJobType}

section Ready

variable {texts : KnowledgeTexts} {env : KnowledgeEnvironment} {s t : SourceBooks}
  {version : SourceVersion} {job : KnowledgeJob}

theorem Sound.of_documents (h : Sound s version)
    (hdocuments : t.documentsOf version.id = s.documentsOf version.id) : Sound t version := by
  refine ⟨h.1, ?_⟩
  rw [hdocuments]
  exact h.2

theorem readySound_of_state (h : s.source.state ≠ .ready) : ReadySound s :=
  fun _ _ hready => absurd hready h

theorem ReadySound.of_same (h : ReadySound s) (hrows : SameRows s t)
    (hsource : t.source = s.source) : ReadySound t := by
  rintro version ⟨hmem, hid⟩ hready
  rw [hrows.versions] at hmem
  rw [hsource] at hid hready
  exact (h version ⟨hmem, hid⟩ hready).of_documents (congrArg (List.filter _) hrows.documents)

theorem not_ready_of_requested {state : SourceState}
    (h : state ∈ [SourceState.scanning, .queued, .deleting]) : state ≠ .ready := by
  rintro rfl
  exact absurd h (by decide)

theorem fail_ne_ready (error : AppError) (attempt : Nat) :
    (if retryable error attempt = true then SourceState.queued else .failed) ≠ .ready := by
  split <;> exact nofun

theorem sound_of_not_doubtful (htracked : VersionsTracked s) {x : Extraction} {drafts : List ChunkDraft}
    {vectors : List Embedding} (h : x.doubtful = false) :
    Sound (s.withChunks texts env x drafts vectors) (s.newVersion x) := by
  unfold Extraction.doubtful at h
  rw [Bool.or_eq_false_iff] at h
  refine ⟨h.2, fun document hdocument => ?_⟩
  have hrows : (s.withChunks texts env x drafts vectors).documentsOf s.nextId =
      [parsedDocument texts s.source x (s.nextId + 1) s.nextId] :=
    documentsOf_new htracked.lineage htracked.fresh x
  have hmem := hrows ▸ hdocument
  rw [mem_singleton.1 hmem]
  exact Rat.not_lt.1 (of_decide_eq_false h.1)

theorem state_eq_ready {x : Extraction} (h : x.state = .ready) : x.doubtful = false := by
  unfold Extraction.state at h
  split at h
  · cases h
  · exact Bool.eq_false_iff.2 ‹_›

section

variable (htracked : VersionsTracked s)

include htracked

theorem readySound_withChunks {x : Extraction} {drafts : List ChunkDraft} {vectors : List Embedding} :
    ReadySound (s.withChunks texts env x drafts vectors) := by
  rintro version ⟨hmem, hid⟩ hready
  rcases mem_append.1 hmem with hold | hnew
  · have hnew : s.nextId = version.id := Option.some.inj hid
    exact absurd hnew (Nat.ne_of_gt (htracked.fresh version hold))
  · rw [mem_singleton.1 hnew]
    exact sound_of_not_doubtful htracked (state_eq_ready hready)

theorem readySound_adopt (hmem : version ∈ s.versions) (hsound : Sound s version) :
    ReadySound (s.changeSource (.adopt version.id .ready)) := by
  rintro other ⟨hother, hid⟩ _
  have hsame : other = version := htracked.keyed.eq_of_key_eq hother hmem (Option.some.inj hid).symm
  rw [hsame]
  exact hsound.of_documents rfl

/-- What a job writes leaves a ready source with a sound version when it reuses sound ones only. -/
theorem readySound_written
    (hreused : ∀ x u version, Hands texts env s job.jobType x u →
      s.findVersion x.contentHash = some version → Flushed env u → Sound s version)
    (hflushed : Flushed env t) (ht : Written texts env s job t) : ReadySound t := by
  cases ht with
  | failed ht => exact readySound_of_state (fail_ne_ready _ _)
  | reviewed hparse ht => exact readySound_of_state nofun
  | adopted ht hfind =>
    have hsound := hreused _ _ _ ht (ht.findVersion _ ▸ hfind) hflushed
    have hadopted := readySound_adopt (htracked.hands ht) (findVersion_mem hfind).1
      (hsound.of_documents (ht.keepsVersion _).documents)
    exact hadopted.of_same ⟨rfl, rfl, rfl⟩ rfl
  | stored ht hnone hembeds =>
    rename_i x u drafts vectors
    have hstored : ReadySound (u.withChunks texts env x drafts vectors) :=
      readySound_withChunks (htracked.hands ht)
    exact hstored.of_same ⟨rfl, rfl, rfl⟩ rfl
  | erased hdelete ht hholds => exact readySound_of_state nofun

end

theorem readySound_step (h : ReadySound s) (htracked : VersionsTracked s)
    (hreuses : ReusesOnly texts Sound s a) : ReadySound (stepSource texts s a) := by
  rcases stepSource_cases texts s a with hend | ⟨id, env, rfl⟩
  · generalize stepSource texts s a = t at hend ⊢
    cases hend with
    | refused => exact h
    | queued jobType hlive hstate horigin hparse hdeleted =>
      exact readySound_of_state (not_ready_of_requested hstate)
  · have hend := deliver_ends texts env id s
    show ReadySound (deliver texts env id s)
    generalize deliver texts env id s = t at hend ⊢
    cases hend with
    | rolledBack objects => exact h.of_same ⟨rfl, rfl, rfl⟩ rfl
    | written hcommits hopen hflushed ht =>
      rename_i job
      refine readySound_written (htracked.started job) (fun x u version hhands hfind hflush => ?_) hflushed ht
      exact (hreuses version ⟨hopen, hhands, hfind, hflush, hcommits⟩).of_documents rfl

theorem readySound_step_iff (h : ReadySound s) (htracked : VersionsTracked s) (a : SourceAction) :
    ReadySound (stepSource texts s a) ↔ ReusesOnly texts Sound s a := by
  constructor
  · intro hready
    cases a with
    | deliver id env =>
      intro version hreuses
      obtain ⟨hcurrent, hstate, hdocuments, -, -⟩ := hreuses.deliver
      exact (hready version hcurrent hstate).of_documents (congrArg (List.filter _) hdocuments.symm)
    | completeUpload objectKey contentHash env => trivial
    | sync env => trivial
    | delete env => trivial
  · exact readySound_step h htracked

theorem three_fifths_le_one : (3 / 5 : Rat) ≤ 1 := by decide +kernel

theorem readySound_born (h : Born texts s) : ReadySound s := by
  cases h with
  | created h =>
    obtain ⟨source, hstarted, -⟩ := createSource_started h
    cases hstarted with
    | queued => exact readySound_of_state nofun
    | inline content digest drafts hdrafts =>
      rintro version ⟨hmem, -⟩ -
      rw [mem_singleton.1 hmem]
      refine ⟨rfl, fun document hdocument => ?_⟩
      rw [mem_singleton.1 (mem_filter.1 hdocument).1]
      exact three_fifths_le_one
  | initiated objects hobjects h =>
    obtain ⟨source, rfl, -, -, -, -, -, hstate⟩ := initiateFileUpload_ok h
    refine readySound_of_state ?_
    show source.state ≠ .ready
    rw [hstate]
    exact nofun

end Ready

theorem readUpload_none {texts : KnowledgeTexts} {env : KnowledgeEnvironment} {content : List UInt8}
    (h : readUpload texts env name upload content = .ok none) :
    ∃ raised, parseDocument texts.toParsingTexts upload.filename upload.contentType content
      texts.maxUploadBytes = .error raised ∧ isTextEmpty raised = true := by
  unfold readUpload at h
  split at h
  · cases h
  · next raised hraised =>
    split at h
    · exact ⟨raised, hraised, ‹_›⟩
    · cases h

theorem readByOcr_some {ocr : Option (Except AdapterError String)} {parsed : ParsedDocument}
    {usedOcr : Bool} (h : readByOcr name ocr = .ok (some (parsed, usedOcr))) : usedOcr = true := by
  unfold readByOcr at h
  split at h
  · cases h
  · cases h
  · split at h
    · cases h
    · cases h
      rfl

/-- Without OCR the document was parsed, and a document without text is only read by OCR. -/
theorem readUpload_some {texts : KnowledgeTexts} {env : KnowledgeEnvironment} {content : List UInt8}
    {parsed : ParsedDocument} {usedOcr : Bool}
    (h : readUpload texts env name upload content = .ok (some (parsed, usedOcr))) :
    usedOcr = true ∨ parseDocument texts.toParsingTexts upload.filename upload.contentType content
      texts.maxUploadBytes = .ok parsed := by
  unfold readUpload at h
  split at h
  · next other hother =>
    cases h
    exact .inr hother
  · split at h
    · exact .inl (readByOcr_some h)
    · cases h

/-- A document of the hash, among those with `P`, was parsed under the name and the type of the
upload. -/
def Parses (texts : KnowledgeTexts) (P : List UInt8 → Prop) (upload : Upload) (contentHash : String) :
    Prop :=
  ∃ content parsed, P content ∧ contentHash = texts.bytesHash content ∧
    parseDocument texts.toParsingTexts upload.filename upload.contentType content
      texts.maxUploadBytes = .ok parsed

/-- What is known of a source that nobody deletes: parse jobs are those of uploaded files, which have
no address, and a version of a file that was read without OCR was parsed. -/
structure FileTracked (texts : KnowledgeTexts) (P : List UInt8 → Prop) (s : SourceBooks) : Prop where
  undeleted : ∀ key ∈ s.jobs.map jobKey, key.2 ≠ .delete
  parse : ∀ key ∈ s.jobs.map jobKey, key.2 = .parse → s.source.sourceType = .file
  uri : s.source.sourceType = .file → s.source.uri = none
  parsed : s.source.sourceType = .file → ∀ upload, s.source.metadata.upload = some upload →
    ∀ version ∈ s.versions, version.ocrUsed = false → Parses texts P upload version.contentHash

/-- What the deliveries of a file keep of its source. -/
structure SameFile (old new : KnowledgeSource) : Prop where
  sourceType : new.sourceType = old.sourceType
  uri : old.sourceType = .file → new.uri = old.uri
  upload : new.metadata.upload = old.metadata.upload

section Files

variable {texts : KnowledgeTexts} {env : KnowledgeEnvironment} {s t : SourceBooks}
  {job : KnowledgeJob} {id : Uuid} {P : List UInt8 → Prop}

theorem SameFile.trans {a b c : KnowledgeSource} (hab : SameFile a b) (hbc : SameFile b c) : SameFile a c :=
  ⟨hbc.sourceType.trans hab.sourceType,
    fun h => (hbc.uri (hab.sourceType.trans h)).trans (hab.uri h), hbc.upload.trans hab.upload⟩

/-- The versions that are added to a file without OCR were parsed. -/
theorem FileTracked.of_same (h : FileTracked texts P s)
    (hkeys : t.jobs.map jobKey = s.jobs.map jobKey) (hsource : SameFile s.source t.source)
    (hversions : s.source.sourceType = .file → ∀ upload, s.source.metadata.upload = some upload →
      ∀ version ∈ t.versions, version ∉ s.versions → version.ocrUsed = false →
      Parses texts P upload version.contentHash) : FileTracked texts P t := by
  constructor
  · rw [hkeys]
    exact h.undeleted
  · rw [hkeys, hsource.sourceType]
    exact h.parse
  · rw [hsource.sourceType]
    exact fun hfile => (hsource.uri hfile).trans (h.uri hfile)
  · rw [hsource.sourceType, hsource.upload]
    intro hfile upload hupload version hversion hread
    by_cases hold : version ∈ s.versions
    · exact h.parsed hfile upload hupload version hold hread
    · exact hversions hfile upload hupload version hversion hold hread

section

variable {x : Extraction} (h : Hands texts env s jobType x t)

include h

/-- An extraction that was handed over from a file was read by OCR or parsed. -/
theorem Hands.parses (huri : s.source.uri = none) (hupload : s.source.metadata.upload = some upload)
    (hread : ∀ content, env.content = .ok content → P content) :
    x.usedOcr = true ∨ Parses texts P upload x.contentHash := by
  cases h with
  | upload h =>
    cases hupload.symm.trans h.found
    exact (readUpload_some h.reads).imp_right fun hparse => ⟨_, _, hread _ h.loads, rfl, hparse⟩
  | page h =>
    have hblank := h.hasUri
    rw [huri] at hblank
    cases hblank

theorem Hands.sameFile (huri : s.source.sourceType = .file → s.source.uri = none) :
    SameFile s.source t.source := by
  cases h with
  | upload h => exact ⟨rfl, fun _ => rfl, rfl⟩
  | page h =>
    refine ⟨rfl, fun hfile => ?_, rfl⟩
    have hblank := h.hasUri
    rw [huri hfile] at hblank
    cases hblank

theorem Hands.jobKeys : t.jobs.map jobKey = s.jobs.map jobKey := congrArg (List.map jobKey) h.jobs_eq

end

section

variable (h : FileTracked texts P s)

include h

theorem FileTracked.touched (ht : Touched s t) : FileTracked texts P t := by
  obtain ⟨state, objects, rfl⟩ := ht
  exact h.of_same rfl ⟨rfl, fun _ => rfl, rfl⟩ fun _ _ _ _ hmem hnot => absurd hmem hnot

/-- A job row is changed, and the source only in its state. -/
theorem FileTracked.recorded (change : KnowledgeJob → KnowledgeJob)
    (hchange : ∀ row, jobKey (change row) = jobKey row) (id : Uuid) :
    FileTracked texts P (s.changeJob id change) :=
  h.of_same (sameJobs_changeJob s id hchange).keys ⟨rfl, fun _ => rfl, rfl⟩
    fun _ _ _ _ hmem hnot => absurd hmem hnot

theorem FileTracked.completed (id : Uuid) (version : Option Uuid) :
    FileTracked texts P (s.complete id version) :=
  h.recorded _ (jobKey_complete s.source.state version) id

theorem FileTracked.started (job : KnowledgeJob) :
    FileTracked texts P (s.started job) := h.recorded KnowledgeJob.start (fun _ => rfl) job.id

theorem FileTracked.not_delete (hopen : Open s id job) :
    job.jobType ≠ .delete := h.undeleted (jobKey job) (mem_map_of_mem hopen.mem.1)

variable (hread : ∀ content, env.content = .ok content → P content)

include hread

/-- What is handed over may be stored as a new version. -/
theorem FileTracked.added {u : SourceBooks} {x : Extraction} (ht : Hands texts env s jobType x t)
    (hkeys : u.jobs.map jobKey = t.jobs.map jobKey) (hsource : SameFile t.source u.source)
    (hversions : u.versions = t.versions ++ [t.newVersion x]) : FileTracked texts P u := by
  refine h.of_same (hkeys.trans ht.jobKeys) ((ht.sameFile h.uri).trans hsource) ?_
  intro hfile upload hupload version hversion hnew hunread
  rw [hversions, ht.sameRows.versions] at hversion
  rcases mem_append.1 hversion with hold | hadded
  · exact absurd hold hnew
  · rw [mem_singleton.1 hadded] at hunread ⊢
    rcases ht.parses (h.uri hfile) hupload hread with hocr | hparses
    · exact absurd (hunread.symm.trans hocr) nofun
    · exact hparses

theorem FileTracked.left (ht : Left texts env s jobType t) : FileTracked texts P t := by
  cases ht with
  | touched ht => exact h.touched ht
  | incomplete ht hnone => exact h.added hread ht rfl ⟨rfl, fun _ => rfl, rfl⟩ rfl

theorem FileTracked.written (hdelete : job.jobType ≠ .delete) (ht : Written texts env s job t) :
    FileTracked texts P t := by
  cases ht with
  | failed ht =>
    rename_i error u
    have hrecorded := (h.left hread ht).recorded (·.fail error) (fun _ => rfl) job.id
    exact hrecorded.of_same rfl ⟨rfl, fun _ => rfl, rfl⟩ fun _ _ _ _ hmem hnot => absurd hmem hnot
  | reviewed hparse ht => exact (h.touched (touched_enter s .needsReview)).completed _ _
  | adopted ht hfind =>
    refine FileTracked.completed ?_ _ _
    have hsource := ht.sameFile h.uri
    refine h.of_same ht.jobKeys ⟨hsource.sourceType, hsource.uri, hsource.upload⟩
      fun _ _ _ version hmem hnot => ?_
    exact absurd (ht.sameRows.versions ▸ hmem) hnot
  | stored ht hnone hembeds =>
    rename_i x u drafts vectors
    have hadded : FileTracked texts P (u.withChunks texts env x drafts vectors) :=
      h.added hread ht rfl ⟨rfl, fun _ => rfl, rfl⟩ rfl
    exact hadded.completed _ _
  | erased hjob ht hholds => exact absurd hjob hdelete

theorem fileTracked_deliver (id : Uuid) :
    FileTracked texts P (deliver texts env id s) := by
  have hend := deliver_ends texts env id s
  generalize deliver texts env id s = t at hend ⊢
  cases hend with
  | rolledBack objects => exact h.touched (touched_objects s objects)
  | written hcommits hopen hflushed ht =>
    exact (h.started _).written hread (h.not_delete hopen) ht

end

theorem FileTracked.mono {Q : List UInt8 → Prop} (h : FileTracked texts P s)
    (hpq : ∀ content, P content → Q content) : FileTracked texts Q s where
  undeleted := h.undeleted
  parse := h.parse
  uri := h.uri
  parsed hfile upload hupload version hversion hocr := by
    obtain ⟨content, parsed, hcontent, hparses⟩ := h.parsed hfile upload hupload version hversion hocr
    exact ⟨content, parsed, hpq content hcontent, hparses⟩

/-- The action is no deletion. -/
def KeepsSource : SourceAction → Prop
  | .delete _ => False
  | _ => True

/-- The storage gives a delivery only contents with `P`. -/
def ReadsOnly (P : List UInt8 → Prop) : SourceAction → Prop
  | .deliver _ env => ∀ content, env.content = .ok content → P content
  | _ => True

variable {source : KnowledgeSource}

theorem FileTracked.queued (h : FileTracked texts P s) (horigin : SameOrigin s.source source)
    (hparse : jobType = .parse → s.source.sourceType = .file) (hdelete : jobType ≠ .delete) :
    FileTracked texts P (({ s with source := source } : SourceBooks).addJob jobType) := by
  have hkeys : ∀ key, key ∈ (({ s with source := source } : SourceBooks).addJob jobType).jobs.map jobKey →
      key ∈ s.jobs.map jobKey ∨ key = (s.nextId, jobType) := by
    intro key hkey
    unfold SourceBooks.addJob at hkey
    rw [map_append, mem_append] at hkey
    exact hkey.imp_right mem_singleton.1
  constructor
  · intro key hkey
    rcases hkeys key hkey with hold | rfl
    · exact h.undeleted key hold
    · exact hdelete
  · intro key hkey htype
    refine horigin.sourceType.trans ?_
    rcases hkeys key hkey with hold | rfl
    · exact h.parse key hold htype
    · exact hparse htype
  · intro hfile
    exact horigin.uri.trans (h.uri (horigin.sourceType.symm.trans hfile))
  · intro hfile upload hupload
    exact h.parsed (horigin.sourceType.symm.trans hfile) upload (horigin.upload.symm.trans hupload)

theorem fileTracked_answer (h : FileTracked texts P s) {commits : Bool} {result : Except Failure SourceBooks}
    (hok : ∀ t, result = .ok t → FileTracked texts P t) : FileTracked texts P (s.answer commits result) := by
  cases result with
  | error failure => exact h
  | ok t =>
    cases commits with
    | false => exact h
    | true => exact hok t rfl

theorem fileTracked_step (h : FileTracked texts P s) (ha : KeepsSource a) (hread : ReadsOnly P a) :
    FileTracked texts P (stepSource texts s a) := by
  cases a with
  | completeUpload objectKey contentHash env =>
    refine fileTracked_answer h fun t ht => ?_
    obtain ⟨hlive, hfile, rfl⟩ := completeFileUpload_ok ht
    exact h.queued ⟨rfl, rfl, rfl, rfl, rfl, rfl⟩ (fun _ => hfile) nofun
  | sync env =>
    refine fileTracked_answer h fun t ht => ?_
    obtain ⟨hlive, rfl⟩ := requestSync_ok ht
    exact h.queued ⟨rfl, rfl, rfl, rfl, rfl, rfl⟩ nofun nofun
  | delete env => exact ha.elim
  | deliver id env => exact fileTracked_deliver h hread id

theorem Started.sourceType (h : Started texts source s) : s.source.sourceType = source.sourceType := by
  cases h <;> rfl

theorem createSource_not_file {refuses : Bool} {rows : List KnowledgeSource} {id : Uuid} {data : SourceCreate}
    (h : createSource texts refuses rows id data = .ok s) : s.source.sourceType ≠ .file := by
  obtain ⟨_, haccepted, h⟩ := bind_ok h
  obtain ⟨canonical, -, h⟩ := bind_ok h
  obtain ⟨_, -, h⟩ := bind_ok h
  obtain ⟨_, -, h⟩ := bind_ok h
  rw [(startSource_started h).sourceType]
  exact (require_ok haccepted).2.2.2.2

theorem fileTracked_started (h : Started texts source s) (hfile : s.source.sourceType ≠ .file) :
    FileTracked texts P s := by
  have hkeys : ∀ key ∈ s.jobs.map jobKey, key.2 = .fetch := by
    cases h with
    | queued =>
      intro key hkey
      rw [mem_singleton.1 hkey]
      rfl
    | inline content digest drafts hdrafts => exact nofun
  refine ⟨fun key hkey hdelete => ?_, fun key hkey hparse => ?_, fun h => absurd h hfile,
    fun h => absurd h hfile⟩
  · cases (hkeys key hkey).symm.trans hdelete
  · cases (hkeys key hkey).symm.trans hparse

theorem fileTracked_born (h : Born texts s) : FileTracked texts P s := by
  cases h with
  | created h =>
    obtain ⟨source, hstarted, -⟩ := createSource_started h
    exact fileTracked_started hstarted (createSource_not_file h)
  | initiated objects hobjects h =>
    obtain ⟨_, -, h⟩ := bind_ok h
    obtain ⟨_, -, h⟩ := bind_ok h
    cases h
    exact ⟨nofun, nofun, fun _ => rfl, fun _ _ _ => nofun⟩

end Files

/-! ## Content that is in doubt -/

/-- What a delivery of a job of the type reads. -/
def loaded (env : KnowledgeEnvironment) : KnowledgeJobType → Except AdapterError (List UInt8)
  | .fetch => env.fetched.map FetchResponse.body
  | _ => env.content

/-- A delivery processes no other content. -/
def OnlyContent (content : List UInt8) (s : SourceBooks) : SourceAction → Prop
  | .deliver id env => ∀ job, Open s id job → ∀ other, loaded env job.jobType = .ok other →
      other = content
  | _ => True

/-- The delivery of an open job reads the content and ends in a review. -/
def Reviewed (texts : KnowledgeTexts) (content : List UInt8) (s : SourceBooks) (id : Uuid)
    (env : KnowledgeEnvironment) : Prop :=
  (∃ job, Open s id job ∧ loaded env job.jobType = .ok content) ∧
    ((deliver texts env id s).find id).map KnowledgeJob.state = some .needsReview

/-- A version of the content is not sound, or there is none of a file without text. -/
inductive Doubted (texts : KnowledgeTexts) (content : List UInt8) (s : SourceBooks) : Prop where
  | unsound {version : SourceVersion}
      (hfind : s.findVersion (texts.bytesHash content) = some version) (h : ¬Sound s version)
  | textless {upload : Upload} {failure : Failure} (hfile : s.source.sourceType = .file)
      (hupload : s.source.metadata.upload = some upload)
      (hparse : parseDocument texts.toParsingTexts upload.filename upload.contentType content
        texts.maxUploadBytes = .error failure) (hempty : isTextEmpty failure = true)
      (hnone : s.findVersion (texts.bytesHash content) = none)

section Doubt

variable {texts : KnowledgeTexts} {env : KnowledgeEnvironment} {s t u : SourceBooks}
  {job : KnowledgeJob} {id : Uuid} {x : Extraction} {content : List UInt8}

theorem Hands.loads (h : Hands texts env s jobType x t) :
    ∃ content, loaded env jobType = .ok content ∧ x.contentHash = texts.bytesHash content := by
  cases h with
  | upload h => exact ⟨_, h.loads, rfl⟩
  | page h =>
    refine ⟨_, ?_, rfl⟩
    show env.fetched.map FetchResponse.body = _
    rw [h.fetches]
    rfl

theorem findVersion_added (hversions : u.versions = t.versions ++ [t.newVersion x])
    (hnone : t.findVersion x.contentHash = none) : u.findVersion x.contentHash = some (t.newVersion x) := by
  have hnew : [t.newVersion x].find? (fun row => row.contentHash = x.contentHash) =
      some (t.newVersion x) := find?_cons_of_pos (decide_eq_true rfl)
  unfold SourceBooks.findVersion at hnone ⊢
  rw [hversions, find?_append, hnone, hnew]
  rfl

/-- The new version of a doubtful extraction is not sound. -/
theorem not_sound_added (hdocuments : u.documents = (t.withDocument texts x).documents)
    (hdoubtful : x.doubtful = true) : ¬Sound u (t.newVersion x) := by
  rintro ⟨hocr, hquality⟩
  have hmem : parsedDocument texts t.source x (t.nextId + 1) t.nextId ∈ u.documentsOf t.nextId := by
    refine mem_filter.2 ⟨?_, decide_eq_true rfl⟩
    rw [hdocuments]
    exact mem_append_right _ (mem_singleton_self _)
  have hlow : x.parsed.qualityScore < 3 / 5 ∨ x.usedOcr = true := by
    unfold Extraction.doubtful at hdoubtful
    rw [Bool.or_eq_true, decide_eq_true_eq] at hdoubtful
    exact hdoubtful
  rcases hlow with hlow | hused
  · exact Rat.not_lt.2 (hquality _ hmem) hlow
  · exact absurd (hocr.symm.trans hused) nofun

theorem doubted_added (hcontent : x.contentHash = texts.bytesHash content)
    (hversions : u.versions = t.versions ++ [t.newVersion x])
    (hdocuments : u.documents = (t.withDocument texts x).documents)
    (hnone : t.findVersion x.contentHash = none) (hdoubtful : x.doubtful = true) :
    Doubted texts content u := by
  refine .unsound ?_ (not_sound_added hdocuments hdoubtful)
  rw [← hcontent]
  exact findVersion_added hversions hnone

section

variable (h : Doubted texts content s)

include h

theorem Doubted.of_same (hrows : SameRows s t) (htype : t.source.sourceType = s.source.sourceType)
    (hupload : t.source.metadata.upload = s.source.metadata.upload) : Doubted texts content t := by
  have hfound : t.findVersion (texts.bytesHash content) = s.findVersion (texts.bytesHash content) :=
    congrArg (List.find? _) hrows.versions
  cases h with
  | unsound hfind hsound =>
    refine .unsound (hfound.trans hfind) fun h => hsound (h.of_documents ?_)
    exact congrArg (List.filter _) hrows.documents.symm
  | textless hfile hfound' hparse hempty hnone =>
    exact .textless (htype.trans hfile) (hupload.trans hfound') hparse hempty (hfound.trans hnone)

theorem Doubted.touched (ht : Touched s t) : Doubted texts content t := by
  obtain ⟨state, objects, rfl⟩ := ht
  exact h.of_same ⟨rfl, rfl, rfl⟩ rfl rfl

section

variable {P : List UInt8 → Prop} (htracked : FileTracked texts P s)

include htracked

/-- What is handed over of content in doubt, where no version of it is sound, is doubtful itself when
there is no version of it. -/
theorem Doubted.doubtful (ht : Hands texts env s jobType x t)
    (honly : ∀ other, loaded env jobType = .ok other → other = content)
    (hnone : t.findVersion x.contentHash = none) :
    x.contentHash = texts.bytesHash content ∧ x.doubtful = true := by
  obtain ⟨other, hloaded, hhash⟩ := ht.loads
  cases honly other hloaded
  refine ⟨hhash, ?_⟩
  rw [ht.findVersion, hhash] at hnone
  cases h with
  | unsound hfind hsound => cases hfind.symm.trans hnone
  | textless hfile hupload hparse hempty hnone' =>
    have hocr : x.usedOcr = true := by
      cases ht with
      | upload h =>
        cases hupload.symm.trans h.found
        cases Except.ok.inj (hloaded.symm.trans h.loads)
        refine (readUpload_some h.reads).elim (fun hocr => hocr) fun hparsed => ?_
        cases hparsed.symm.trans hparse
      | page h =>
        have hblank := h.hasUri
        rw [htracked.uri hfile] at hblank
        cases hblank
    unfold Extraction.doubtful
    rw [hocr, Bool.or_true]

theorem Doubted.left (honly : ∀ other, loaded env jobType = .ok other → other = content)
    (ht : Left texts env s jobType t) : Doubted texts content t := by
  cases ht with
  | touched ht => exact h.touched ht
  | incomplete ht hnone =>
    obtain ⟨hhash, hdoubtful⟩ := h.doubtful htracked ht honly hnone
    exact doubted_added hhash rfl rfl hnone hdoubtful

/-- What a job writes that processes the content in doubt, and does not reuse an unsound version. -/
theorem Doubted.written (hdelete : job.jobType ≠ .delete)
    (honly : ∀ other, loaded env job.jobType = .ok other → other = content)
    (hreused : ∀ x u version, Hands texts env s job.jobType x u →
      s.findVersion x.contentHash = some version → Flushed env u → Sound s version)
    (hflushed : Flushed env t) (ht : Written texts env s job t) :
    Doubted texts content t ∧ t.source.state ≠ .ready := by
  cases ht with
  | failed ht =>
    exact ⟨(h.left htracked honly ht).of_same ⟨rfl, rfl, rfl⟩ rfl rfl, fail_ne_ready _ _⟩
  | reviewed hparse ht => exact ⟨h.of_same ⟨rfl, rfl, rfl⟩ rfl rfl, nofun⟩
  | adopted ht hfind =>
    rw [ht.findVersion] at hfind
    have hsound := hreused _ _ _ ht hfind hflushed
    obtain ⟨other, hloaded, hhash⟩ := ht.loads
    rw [hhash, honly other hloaded] at hfind
    cases h with
    | unsound hfound hunsound =>
      cases hfound.symm.trans hfind
      exact absurd hsound hunsound
    | textless hfile hupload hparse hempty hnone => cases hnone.symm.trans hfind
  | stored ht hnone hembeds =>
    rename_i x u drafts vectors
    obtain ⟨hhash, hdoubtful⟩ := h.doubtful htracked ht honly hnone
    have hadded : Doubted texts content (u.withChunks texts env x drafts vectors) :=
      doubted_added hhash rfl rfl hnone hdoubtful
    refine ⟨hadded.of_same ⟨rfl, rfl, rfl⟩ rfl rfl, ?_⟩
    show x.state ≠ .ready
    intro hready
    exact absurd ((state_eq_ready hready).symm.trans hdoubtful) nofun
  | erased hjob ht hholds => exact absurd hjob hdelete

end

end

/-- The source keeps out of `READY` with its content in doubt. -/
structure Held (texts : KnowledgeTexts) (content : List UInt8) (s : SourceBooks) : Prop where
  tracked : FileTracked texts (fun _ => True) s
  doubted : Doubted texts content s
  state : s.source.state ≠ .ready

theorem readsOnly_any (a : SourceAction) : ReadsOnly (fun _ => True) a := by
  cases a with
  | deliver id env => exact fun _ _ => trivial
  | completeUpload objectKey contentHash env => trivial
  | sync env => trivial
  | delete env => trivial

theorem held_deliver (h : Held texts content s) {env : KnowledgeEnvironment} {id : Uuid}
    (honly : OnlyContent content s (.deliver id env)) (hreuses : ReusesOnly texts Sound s (.deliver id env)) :
    Held texts content (deliver texts env id s) := by
  have htracked : FileTracked texts (fun _ => True) (deliver texts env id s) :=
    fileTracked_deliver h.tracked (fun _ _ => trivial) id
  have hend := deliver_ends texts env id s
  generalize deliver texts env id s = t at htracked hend ⊢
  cases hend with
  | rolledBack objects => exact ⟨htracked, h.doubted.touched (touched_objects s objects), h.state⟩
  | written hcommits hopen hflushed ht =>
    rename_i job
    have hdoubted : Doubted texts content (s.started job) := h.doubted.of_same ⟨rfl, rfl, rfl⟩ rfl rfl
    have hwritten := hdoubted.written (h.tracked.started job) (h.tracked.not_delete hopen)
      (honly job hopen) (fun x u version hhands hfind hflush => ?_) hflushed ht
    · exact ⟨htracked, hwritten.1, hwritten.2⟩
    · exact (hreuses version ⟨hopen, hhands, hfind, hflush, hcommits⟩).of_documents rfl

section

variable (h : Held texts content s) (ha : KeepsSource a) (honly : OnlyContent content s a)

include h ha honly

theorem held_step (hreuses : ReusesOnly texts Sound s a) : Held texts content (stepSource texts s a) := by
  rcases stepSource_cases texts s a with hend | ⟨id, env, rfl⟩
  · have htracked := fileTracked_step h.tracked ha (readsOnly_any a)
    generalize stepSource texts s a = t at htracked hend ⊢
    cases hend with
    | refused => exact h
    | queued jobType hlive hstate horigin hparse hdeleted =>
      exact ⟨htracked, h.doubted.of_same ⟨rfl, rfl, rfl⟩ horigin.sourceType horigin.upload,
        not_ready_of_requested hstate⟩
  · exact held_deliver h honly hreuses

/-- While the content is in doubt, the source gets ready exactly by reusing a version. -/
theorem held_step_iff : (stepSource texts s a).source.state ≠ .ready ↔ ReusesOnly texts Sound s a := by
  constructor
  · intro hstate
    cases a with
    | deliver id env =>
      intro version hreuses
      exact absurd hreuses.deliver.2.1 hstate
    | completeUpload objectKey contentHash env => trivial
    | sync env => trivial
    | delete env => trivial
  · exact fun hreuses => (held_step h ha honly hreuses).state

end

/-- The row of the delivered job after the delivery. -/
theorem Open.find_changed (hopen : Open s id job) {change : KnowledgeJob → KnowledgeJob}
    (hjobs : t.jobs = updateRow KnowledgeJob.id job.id change (s.started job).jobs)
    (hchange : ∀ row, (change row).id = row.id) : t.find id = some (change job.start) := by
  have hid : job.id = id := hopen.mem.2
  have hstarted : (s.started job).find id = some job.start := by
    have hkey : ∀ row : KnowledgeJob, row.id = job.id → row.start.id = row.id := fun _ _ => rfl
    refine (find?_updateRow hkey id s.jobs).trans ?_
    have hfind : s.jobs.find? (·.id = id) = some job := hopen.find
    rw [hfind, Option.map_some, if_pos rfl]
  have hchanged : t.find id = ((s.started job).find id).map
      fun row => if row.id = job.id then change row else row := by
    unfold SourceBooks.find
    rw [hjobs]
    exact find?_updateRow (fun row _ => hchange row) id _
  rw [hchanged, hstarted, Option.map_some]
  exact congrArg some (if_pos rfl)

theorem complete_state_eq {state : SourceState} {version : Option Uuid} {row : KnowledgeJob}
    (h : (row.complete state version).state = .needsReview) : state = .needsReview := by
  unfold KnowledgeJob.complete at h
  split at h
  · assumption
  · cases h

/-- A file without text has no sound version where no other content has the hash. -/
theorem doubted_of_unreadable {P : List UInt8 → Prop} (htracked : FileTracked texts P s)
    (hfile : s.source.sourceType = .file)
    (hfree : ∀ other, P other → texts.bytesHash other = texts.bytesHash content → other = content)
    (h : ReadsUpload texts env s.source upload content none) : Doubted texts content s := by
  obtain ⟨failure, hparse, hempty⟩ := readUpload_none h.reads
  cases hfind : s.findVersion (texts.bytesHash content) with
  | none => exact .textless hfile h.found hparse hempty hfind
  | some version =>
    refine .unsound hfind fun hsound => ?_
    obtain ⟨hmem, hhash⟩ := findVersion_mem hfind
    obtain ⟨other, parsed, hread, hother, hparsed⟩ :=
      htracked.parsed hfile upload h.found version hmem hsound.1
    cases hfree other hread (hother.symm.trans hhash)
    cases hparsed.symm.trans hparse

theorem Reviewed.held {P : List UInt8 → Prop} (h : Reviewed texts content s id env)
    (htracked : FileTracked texts P s)
    (hfree : ∀ other, P other → texts.bytesHash other = texts.bytesHash content → other = content) :
    Held texts content (deliver texts env id s) := by
  obtain ⟨⟨job, hopen, hloaded⟩, hreview⟩ := h
  have hafter : FileTracked texts (fun _ => True) (deliver texts env id s) :=
    fileTracked_deliver (htracked.mono fun _ _ => trivial) (fun _ _ => trivial) id
  have hend := deliver_ends texts env id s
  generalize deliver texts env id s = t at hreview hafter hend ⊢
  have hchanged : ∀ change : KnowledgeJob → KnowledgeJob,
      t.jobs = updateRow KnowledgeJob.id job.id change (s.started job).jobs →
      (∀ row, (change row).id = row.id) → (change job.start).state = .needsReview := by
    intro change hjobs hchange
    rw [hopen.find_changed hjobs hchange] at hreview
    exact Option.some.inj hreview
  have hcompleted : ∀ (state : SourceState) (version : Option Uuid) (row : KnowledgeJob),
      (row.complete state version).id = row.id := fun state version row =>
    congrArg Prod.fst (jobKey_complete state version row)
  cases hend with
  | rolledBack objects =>
    have hstate : (s.find id).map KnowledgeJob.state = some .needsReview := hreview
    rw [hopen.find] at hstate
    have hmem := hopen.state
    rw [Option.some.inj hstate] at hmem
    exact absurd hmem (by decide)
  | written hcommits hopen' hflushed ht =>
    cases Option.some.inj (hopen.find.symm.trans hopen'.find)
    cases ht with
    | failed ht =>
      rename_i error u
      have hjobs := congrArg (updateRow KnowledgeJob.id job.id (·.fail error)) ht.jobs_eq
      have hstate := hchanged _ hjobs fun _ => rfl
      change (if retryable error _ = true then KnowledgeJobState.retryableFailed else .finalFailed)
        = _ at hstate
      split at hstate
      · cases hstate
      · cases hstate
    | reviewed hparse ht =>
      rename_i upload other
      have hcontent : other = content := by
        rw [hparse] at hloaded
        exact Except.ok.inj (ht.loads.symm.trans hloaded)
      rw [hcontent] at ht
      have hfile : s.source.sourceType = .file :=
        htracked.parse (jobKey job) (mem_map_of_mem hopen.mem.1) hparse
      have hdoubted := doubted_of_unreadable (htracked.started job) hfile hfree ht
      exact ⟨hafter, hdoubted.of_same ⟨rfl, rfl, rfl⟩ rfl rfl, nofun⟩
    | adopted ht hfind =>
      rename_i x u version
      have hjobs := congrArg
        (updateRow KnowledgeJob.id job.id (·.complete .ready (some version.id))) ht.jobs_eq
      cases complete_state_eq (hchanged _ hjobs (hcompleted _ _))
    | stored ht hnone hembeds =>
      rename_i x u drafts vectors
      have hjobs := congrArg
        (updateRow KnowledgeJob.id job.id (·.complete x.state (some u.nextId))) ht.jobs_eq
      have hstate : x.state = .needsReview := complete_state_eq (hchanged _ hjobs (hcompleted _ _))
      have hdoubtful : x.doubtful = true := by
        unfold Extraction.state at hstate
        split at hstate
        · assumption
        · cases hstate
      obtain ⟨other, hother, hhash⟩ := ht.loads
      cases Except.ok.inj (hloaded.symm.trans hother)
      have hadded : Doubted texts content (u.withChunks texts env x drafts vectors) :=
        doubted_added hhash rfl rfl hnone hdoubtful
      refine ⟨hafter, hadded.of_same ⟨rfl, rfl, rfl⟩ rfl rfl, ?_⟩
      show x.state ≠ .ready
      rw [hstate]
      exact nofun
    | erased hdelete ht hholds => exact absurd hdelete (htracked.not_delete hopen)

end Doubt

/-- A delivery of the run can read the content from the storage. -/
def Delivered (actions : List SourceAction) (content : List UInt8) : Prop :=
  ∃ id env, SourceAction.deliver id env ∈ actions ∧ env.content = .ok content

theorem readsOnly_delivered {actions : List SourceAction} {a : SourceAction} (ha : a ∈ actions) :
    ReadsOnly (Delivered actions) a := by
  cases a with
  | deliver id env => exact fun content hcontent => ⟨id, env, ha, hcontent⟩
  | completeUpload objectKey contentHash env => trivial
  | sync env => trivial
  | delete env => trivial

/-- In every run of a source the current version of a ready source is sound in every state exactly
when no delivery reuses an unsound version.  Where nobody deletes the source, a delivery that puts it
into review for its content keeps it out of `READY` exactly under the same condition on what follows,
as long as the same content is processed, and no content that was read before has its hash. -/
theorem doubt_holds_iff {texts : KnowledgeTexts} {s : SourceBooks} (hs : Born texts s)
    (actions : List SourceAction) :
    ((∀ before, before <+: actions → ReadySound (run (stepSource texts) s before)) ↔
      Along (stepSource texts) (ReusesOnly texts Sound) s actions) ∧
    ∀ before id env after, actions = before ++ .deliver id env :: after →
      (∀ a ∈ actions, KeepsSource a) → ∀ content,
      (∀ other, Delivered before other → texts.bytesHash other = texts.bytesHash content →
        other = content) →
      Reviewed texts content (run (stepSource texts) s before) id env →
      Along (stepSource texts) (OnlyContent content)
        (run (stepSource texts) s (before ++ [.deliver id env])) after →
      ((∀ middle, middle <+: after → (run (stepSource texts)
          (run (stepSource texts) s (before ++ [.deliver id env])) middle).source.state ≠ .ready) ↔
        Along (stepSource texts) (ReusesOnly texts Sound)
          (run (stepSource texts) s (before ++ [.deliver id env])) after) := by
  constructor
  · refine throughout_iff_along_of_invariant (I := fun s => ReadySound s ∧ VersionsTracked s)
      (R := fun _ _ => True) (stepSource texts) ?_ ?_ ?_ ?_ ?_
    · exact fun s h => h.1
    · exact fun s a h _ => readySound_step_iff h.1 h.2 a
    · exact fun s a h _ hreuses => ⟨readySound_step h.1 h.2 hreuses, versionsTracked_step h.2 a⟩
    · exact ⟨readySound_born hs, versionsTracked_born hs⟩
    · exact along_of_always _ (fun _ _ => trivial) _ _
  · rintro before id env after rfl hkeeps content hfree hreviewed honly
    have htracked : FileTracked texts (Delivered before) (run (stepSource texts) s before) := by
      refine invariant_along (I := FileTracked texts (Delivered before))
        (P := fun _ a => KeepsSource a ∧ ReadsOnly (Delivered before) a)
        (stepSource texts) (fun s a h ha => fileTracked_step h ha.1 ha.2) (fileTracked_born hs) ?_
      exact along_of_forall _ fun a ha => ⟨hkeeps a (mem_append_left _ ha), readsOnly_delivered ha⟩
    have hheld : Held texts content
        (run (stepSource texts) s (before ++ [.deliver id env])) := by
      rw [run_concat]
      exact hreviewed.held htracked hfree
    refine throughout_iff_along_of_invariant (I := Held texts content)
      (P := fun s => s.source.state ≠ .ready)
      (R := fun s a => KeepsSource a ∧ OnlyContent content s a) (stepSource texts) ?_ ?_ ?_ hheld ?_
    · exact fun s h => h.state
    · exact fun s a h hr => held_step_iff h hr.1 hr.2
    · exact fun s a h hr hreuses => held_step h hr.1 hr.2 hreuses
    · refine Along.and _ (along_of_forall _ fun a ha => hkeeps a ?_) honly
      exact mem_append_right _ (mem_cons_of_mem _ ha)

/-- A fetch of content that is parsed badly. -/
def doubtfulFetch (id : Uuid) : SourceAction := .deliver id (sampleKnowledgeEnvironment [0])

/-- The page cannot be fetched. -/
def failedFetch (id : Uuid) (content : Except AdapterError (List UInt8)) : SourceAction :=
  .deliver id { sampleKnowledgeEnvironment [0] with
    content := content
    fetched := .error (.app { code := "SOURCE_FETCH_FAILED", message := "down", statusCode := 503 }) }

/-- The first attempt fails, the second puts the source into review. -/
def failedFirst : List SourceAction := [failedFetch 1 (.ok (samplePdf [0]))]

theorem reviewed_sample : Reviewed sampleKnowledgeTexts (samplePdf [0])
    (run (stepSource sampleKnowledgeTexts) (sampleSource 0) failedFirst) 1
    (sampleKnowledgeEnvironment [0]) := by
  refine ⟨⟨{ id := 1, jobType := .fetch, state := .retryableFailed, attempt := 1
             errorCode := some "SOURCE_FETCH_FAILED", errorDetail := some "down" },
    ⟨?_, by decide⟩, rfl⟩, ?_⟩
  · decide +kernel
  · decide +kernel

theorem failedFetch_reads_nothing {s : SourceBooks} (id : Uuid) :
    OnlyContent (samplePdf [0]) s (failedFetch id (.error .other)) ∧
      ReusesOnly sampleKnowledgeTexts Sound s (failedFetch id (.error .other)) := by
  constructor
  · intro job _ other hloaded
    unfold loaded at hloaded
    split at hloaded
    · cases hloaded
    · cases hloaded
  · rintro version ⟨_, hhands, _, _, _⟩
    obtain ⟨other, hloaded, -⟩ := hhands.loads
    unfold loaded at hloaded
    split at hloaded
    · cases hloaded
    · cases hloaded

/-- The source of a PDF with a page without text stays out of `READY` after a synchronisation whose
fetch fails. -/
theorem doubt_holds_sample :
    (run (stepSource sampleKnowledgeTexts) (run (stepSource sampleKnowledgeTexts) (sampleSource 0)
      (failedFirst ++ [doubtfulFetch 1])) [.sync sampleRequest, failedFetch 4 (.error .other)]).source.state ≠
        .ready := by
  have hs : Born sampleKnowledgeTexts (sampleSource 0) := .created (createSource_sample 0)
  have hkeeps : ∀ a ∈ failedFirst ++ doubtfulFetch 1 ::
      [.sync sampleRequest, failedFetch 4 (.error .other)], KeepsSource a := by
    intro a ha
    simp only [failedFirst, cons_append, nil_append, mem_cons, not_mem_nil, or_false] at ha
    rcases ha with rfl | rfl | rfl | rfl
    · trivial
    · trivial
    · trivial
    · trivial
  have hfree : ∀ other, Delivered failedFirst other →
      sampleKnowledgeTexts.bytesHash other = sampleKnowledgeTexts.bytesHash (samplePdf [0]) →
      other = samplePdf [0] := by
    rintro other ⟨id, env, hdeliver, hcontent⟩ -
    cases mem_singleton.1 hdeliver
    exact (Except.ok.inj hcontent).symm
  have hkept : ∀ middle, middle <+: [.sync sampleRequest, failedFetch 4 (.error .other)] →
      (run (stepSource sampleKnowledgeTexts) (run (stepSource sampleKnowledgeTexts) (sampleSource 0)
        (failedFirst ++ [doubtfulFetch 1])) middle).source.state ≠ .ready :=
    ((doubt_holds_iff hs _).2 failedFirst 1 (sampleKnowledgeEnvironment [0]) _ rfl hkeeps
      (samplePdf [0]) hfree reviewed_sample
      ⟨trivial, (failedFetch_reads_nothing 4).1, trivial⟩).2
      ⟨trivial, (failedFetch_reads_nothing 4).2, trivial⟩
  exact hkept _ (prefix_refl _)

/-- The second fetch of the same content finds the version and makes the source ready. -/
theorem doubtful_becomes_ready : Born sampleKnowledgeTexts (sampleSource 0) ∧
    Reviewed sampleKnowledgeTexts (samplePdf [0]) (sampleSource 0) 1 (sampleKnowledgeEnvironment [0]) ∧
    (run (stepSource sampleKnowledgeTexts) (sampleSource 0)
      [doubtfulFetch 1, .sync sampleRequest, doubtfulFetch 4]).source.state = .ready ∧
    ¬ReadySound (run (stepSource sampleKnowledgeTexts) (sampleSource 0)
      [doubtfulFetch 1, .sync sampleRequest, doubtfulFetch 4]) := by
  have hready : (run (stepSource sampleKnowledgeTexts) (sampleSource 0)
      [doubtfulFetch 1, .sync sampleRequest, doubtfulFetch 4]).source.state = .ready := by
    decide +kernel
  have hreviewed : Reviewed sampleKnowledgeTexts (samplePdf [0]) (sampleSource 0) 1
      (sampleKnowledgeEnvironment [0]) := by
    refine ⟨⟨{ id := 1, jobType := .fetch }, ⟨rfl, mem_cons_self⟩, rfl⟩, ?_⟩
    decide +kernel
  refine ⟨.created (createSource_sample 0), hreviewed, hready, fun hsound => ?_⟩
  have hcurrent : (run (stepSource sampleKnowledgeTexts) (sampleSource 0)
      [doubtfulFetch 1, .sync sampleRequest, doubtfulFetch 4]).IsCurrent
      ⟨2, 1, sampleKnowledgeTexts.bytesHash (samplePdf [0]),
        some ("snapshots/" ++ sampleKnowledgeTexts.bytesHash (samplePdf [0])), false,
        [{ text := PythonText.ofString "text", locator := [("page", .number 1)] }]⟩ := by
    constructor
    · decide +kernel
    · decide +kernel
  have hversion := hsound _ hcurrent hready
  exact absurd hversion.2 (by decide +kernel)

end BlogOps.Knowledge
