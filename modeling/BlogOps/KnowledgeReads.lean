import BlogOps.KnowledgeSources

/-!
# What a job reads, stores and deletes

The ends of the functions that a delivery calls: what is handed to the store of a version and under
which answers, how the store ends, and how a deletion ends.
-/

namespace BlogOps.Knowledge

open EffectRules KeyedTables Outbound TransitionRuns List

def isIntegrity : Failure → Bool
  | .integrity _ => true
  | _ => false

@[simp] theorem isIntegrity_appError (code message : String) (statusCode : Nat) :
    isIntegrity (appError code message statusCode) = false := rfl

@[simp] theorem isIntegrity_toFailure (raised : AdapterError) : isIntegrity raised.toFailure = false := by
  cases raised <;> rfl

def NoIntegrity {α : Type} (x : Except Failure α) : Prop :=
  ∀ failure, x = .error failure → isIntegrity failure = false

variable {failure : Failure} {t : SourceBooks} {key : String} {x : Extraction}

section NoIntegrity

variable {α β : Type}

theorem noIntegrity_ok (a : α) : NoIntegrity (.ok a : Except Failure α) := nofun

theorem noIntegrity_error (h : isIntegrity failure = false) :
    NoIntegrity (.error failure : Except Failure α) := by
  intro other hother
  cases hother
  exact h

theorem noIntegrity_answered (x : Except AdapterError α) : NoIntegrity (answered x) := by
  cases x with
  | ok a => exact noIntegrity_ok a
  | error raised => exact noIntegrity_error (isIntegrity_toFailure raised)

theorem noIntegrity_require {p : Prop} [Decidable p] (h : isIntegrity failure = false) :
    NoIntegrity (require p failure) := by
  unfold require
  split
  · exact noIntegrity_ok ()
  · exact noIntegrity_error h

theorem noIntegrity_bind {x : Except Failure α} {f : α → Except Failure β} (hx : NoIntegrity x)
    (hf : ∀ a, NoIntegrity (f a)) : NoIntegrity (x >>= f) := by
  cases x with
  | ok a => exact hf a
  | error failure => exact noIntegrity_error (hx failure rfl)

theorem noIntegrity_ite {p : Prop} [Decidable p] {x y : Except Failure α} (hx : NoIntegrity x)
    (hy : NoIntegrity y) : NoIntegrity (if p then x else y) := by
  split
  · exact hx
  · exact hy

variable (texts : ParsingTexts)

theorem noIntegrity_validateUpload (filename contentType : String) (size maxSize : Nat) :
    NoIntegrity (validateUploadMetadata texts filename contentType size maxSize) := by
  refine noIntegrity_bind (noIntegrity_require rfl) fun _ => ?_
  refine noIntegrity_bind (noIntegrity_require rfl) fun _ => ?_
  exact noIntegrity_bind (noIntegrity_require rfl) fun _ => noIntegrity_ok _

theorem noIntegrity_validateSignature (suffix : String) (data : List UInt8) :
    NoIntegrity (validateFileSignature texts suffix data) := by
  refine noIntegrity_bind (noIntegrity_require rfl) fun _ => ?_
  refine noIntegrity_ite ?_ (noIntegrity_ok ())
  unfold validateOffice
  split
  · exact noIntegrity_error rfl
  · exact noIntegrity_require rfl

theorem noIntegrity_parseDocument (filename contentType : String) (data : List UInt8) (maxSize : Nat) :
    NoIntegrity (parseDocument texts filename contentType data maxSize) := by
  refine noIntegrity_bind (noIntegrity_validateUpload texts _ _ _ _) fun suffix => ?_
  refine noIntegrity_bind (noIntegrity_validateSignature texts suffix data) fun _ => ?_
  refine noIntegrity_bind (noIntegrity_answered _) fun _ => ?_
  exact noIntegrity_bind (noIntegrity_require rfl) fun _ => noIntegrity_ok _

theorem noIntegrity_parseBlocks (parserName filename message : String)
    (read : Except AdapterError (List ExtractedBlock)) :
    NoIntegrity (parseBlocks parserName filename message read) := by
  refine noIntegrity_bind (noIntegrity_answered _) fun _ => ?_
  exact noIntegrity_bind (noIntegrity_require rfl) fun _ => noIntegrity_ok _

theorem noIntegrity_parseFetched (url contentType : String) (data : List UInt8) (maxSize : Nat) :
    NoIntegrity (parseFetchedDocument texts url contentType data maxSize) := by
  unfold parseFetchedDocument
  refine noIntegrity_ite (noIntegrity_parseDocument texts _ _ data maxSize) ?_
  refine noIntegrity_ite ?_ (noIntegrity_ite (noIntegrity_parseBlocks _ _ _ _) ?_)
  · refine noIntegrity_bind (noIntegrity_answered _) fun _ => ?_
    exact noIntegrity_bind (noIntegrity_require rfl) fun _ => noIntegrity_ok _
  · refine noIntegrity_ite (noIntegrity_parseBlocks _ _ _ _) ?_
    exact noIntegrity_ite (noIntegrity_answered _) (noIntegrity_error rfl)

theorem noIntegrity_readUpload (texts : KnowledgeTexts) (env : KnowledgeEnvironment) (name : String)
    (upload : Upload) (content : List UInt8) : NoIntegrity (readUpload texts env name upload content) := by
  unfold readUpload
  split
  · exact noIntegrity_ok _
  · next raised hraised =>
    refine noIntegrity_ite ?_ (noIntegrity_error ?_)
    · unfold readByOcr
      split
      · exact noIntegrity_ok _
      · exact noIntegrity_error (isIntegrity_toFailure _)
      · exact noIntegrity_ite (noIntegrity_ok _) (noIntegrity_ok _)
    · exact noIntegrity_parseDocument _ _ _ _ _ raised hraised

theorem noIntegrity_foldlM {f : β → α → Except Failure β} (hf : ∀ b a, NoIntegrity (f b a))
    (items : List α) (b : β) : NoIntegrity (items.foldlM f b) := by
  induction items generalizing b with
  | nil => exact noIntegrity_ok b
  | cons item items ih =>
    rw [List.foldlM_cons]
    exact noIntegrity_bind (hf b item) ih

theorem noIntegrity_flush (b : ChunkBuffer) : NoIntegrity (b.flush texts) := by
  refine noIntegrity_ite (noIntegrity_ok b) (noIntegrity_bind ?_ fun _ => noIntegrity_ok _)
  unfold draftOf
  dsimp only
  split
  · exact noIntegrity_error rfl
  · exact noIntegrity_ok _

theorem noIntegrity_semanticChunks (blocks : List ExtractedBlock) :
    NoIntegrity (semanticChunks texts blocks) := by
  refine noIntegrity_bind (noIntegrity_require rfl) fun _ => ?_
  refine noIntegrity_bind (noIntegrity_foldlM (fun b piece => ?_) _ _) fun filled => ?_
  · refine noIntegrity_ite ?_ (noIntegrity_ok _)
    exact noIntegrity_bind (noIntegrity_flush texts b) fun _ => noIntegrity_ok _
  · exact noIntegrity_bind (noIntegrity_flush texts filled) fun _ => noIntegrity_ok _

theorem noIntegrity_acceptedVectors (count : Nat) (answer : Except AdapterError (List Embedding)) :
    NoIntegrity (acceptedVectors count answer) := by
  refine noIntegrity_bind (noIntegrity_answered _) fun _ => ?_
  exact noIntegrity_bind (noIntegrity_require rfl) fun _ => noIntegrity_ok _

end NoIntegrity

theorem answered_of_ok {α : Type} {x : Except AdapterError α} {a : α} (h : x = .ok a) :
    answered x = .ok a := by
  rw [h]
  rfl

theorem answered_eq_ok {α : Type} {x : Except AdapterError α} {a : α} (h : answered x = .ok a) :
    x = .ok a := by
  cases x with
  | ok b => exact congrArg Except.ok (Except.ok.inj h)
  | error raised => cases h

variable (s : SourceBooks)

/-- Nothing but the state of the source and the objects has changed. -/
def Touched (t : SourceBooks) : Prop :=
  ∃ state objects, t = { s with source := s.source.enter state, objects := objects }

theorem Touched.refl : Touched s s := ⟨s.source.state, s.objects, rfl⟩

theorem Touched.trans {s u : SourceBooks} (hst : Touched s t) (htu : Touched t u) : Touched s u := by
  obtain ⟨_, _, rfl⟩ := hst
  obtain ⟨state, objects, rfl⟩ := htu
  exact ⟨state, objects, rfl⟩

theorem touched_enter (state : SourceState) :
    Touched s (s.changeSource (.enter state)) := ⟨state, s.objects, rfl⟩

theorem touched_objects (objects : List String) :
    Touched s { s with objects := objects } := ⟨s.source.state, objects, rfl⟩

theorem touched_drop (answer : StorageAnswer) (key : String) : Touched s (s.dropObject answer key) := by
  unfold SourceBooks.dropObject
  split
  · exact touched_objects s _
  · exact .refl s

theorem touched_keep (answer : StorageAnswer) (key : String) : Touched s (s.keepObject answer key) := by
  unfold SourceBooks.keepObject
  split
  · exact touched_objects s _
  · exact .refl s

/-- The effect raised, without an integrity error and without writing a row. -/
structure Refusal (s : SourceBooks) (failure : Failure) (t : SourceBooks) : Prop where
  noIntegrity : isIntegrity failure = false
  touched : Touched s t

theorem Refusal.of_touched {s u : SourceBooks} (h : Refusal t failure u) (ht : Touched s t) :
    Refusal s failure u :=
  ⟨h.noIntegrity, ht.trans h.touched⟩

section Ends

variable {α β : Type} {s : SourceBooks}

theorem ends_ofExcept_bind {x : Except Failure α} {f : α → KnowledgeM β}
    {Q : Except Failure β → SourceBooks → Prop} (hx : NoIntegrity x)
    (herror : ∀ failure, x = .error failure → Refusal s failure s → Q (.error failure) s)
    (hok : ∀ a, x = .ok a → Ends (f a) s Q) : Ends ((MonadExcept.ofExcept x : KnowledgeM α) >>= f) s Q := by
  cases x with
  | ok a => exact ends_bind_run_ok (ofExcept_run_ok a s) (hok a rfl)
  | error failure =>
    exact ends_bind_run_error (ofExcept_run_error failure s) (herror failure rfl ⟨hx failure rfl, .refl s⟩)

theorem deleteObject_run {env : KnowledgeEnvironment} (h : (env.delete key).raised = none) (s : SourceBooks) :
    deleteObject env key s = .ok () { s with objects := s.objects.filter (· ≠ key) } := by
  have heffective : (env.delete key).effective = true := by
    unfold StorageAnswer.effective
    rw [h]
    rfl
  have hresult : (env.delete key).result = .ok () := by
    unfold StorageAnswer.result
    rw [h]
  have hdrop : s.dropObject (env.delete key) key =
      { s with objects := s.objects.filter (· ≠ key) } := if_pos heffective
  unfold deleteObject
  rw [bind_run_ok (modify_run _ s), hdrop, hresult]
  rfl

theorem deleteObject_raised {env : KnowledgeEnvironment} {raised : AdapterError}
    (h : (env.delete key).raised = some raised) (s : SourceBooks) :
    deleteObject env key s = .error raised.toFailure (s.dropObject (env.delete key) key) := by
  have hresult : (env.delete key).result = .error raised.toFailure := by
    unfold StorageAnswer.result
    rw [h]
  unfold deleteObject
  rw [bind_run_ok (modify_run _ s), hresult]
  rfl

theorem deleteObject_throw_ends (env : KnowledgeEnvironment) (key : String)
    (hfailure : isIntegrity failure = false) (s : SourceBooks) :
    Ends (do deleteObject env key; (throw failure : KnowledgeM α)) s fun r t =>
      ∃ raised, r = .error raised ∧ Refusal s raised t := by
  cases hraised : (env.delete key).raised with
  | none =>
    refine ends_bind_run_ok (deleteObject_run hraised s) ?_
    exact (ends_throw _ _ _).mpr ⟨failure, rfl, hfailure, touched_objects s _⟩
  | some raised =>
    exact ends_bind_run_error (deleteObject_raised hraised s)
      ⟨_, rfl, isIntegrity_toFailure raised, touched_drop s _ key⟩

inductive ScanEnd (env : KnowledgeEnvironment) (s : SourceBooks) :
    Except Failure Unit → SourceBooks → Prop where
  | passed (h : env.scan = .ok .clean) : ScanEnd env s (.ok ()) s
  | refused {failure : Failure} {t : SourceBooks} (h : Refusal s failure t) :
      ScanEnd env s (.error failure) t

theorem scanContent_ends (env : KnowledgeEnvironment) (s : SourceBooks) :
    Ends (scanContent env) s (ScanEnd env s) := by
  refine ends_bind_run_ok (get_run s) ?_
  unfold judgeScan
  split
  · next raised _ => exact .refused ⟨isIntegrity_toFailure raised, .refl s⟩
  · exact .refused ⟨rfl, .refl s⟩
  · unfold quarantine
    split
    · exact .refused ⟨rfl, .refl s⟩
    · refine (deleteObject_throw_ends env _ rfl s).mono fun r t h => ?_
      obtain ⟨raised, rfl, href⟩ := h
      exact .refused href
  · next h => exact .passed h

/-- An effect that raises does not go on; one that returns goes on in the state it left. -/
theorem ends_scan_bind {env : KnowledgeEnvironment} {f : Unit → KnowledgeM β}
    {Q : Except Failure β → SourceBooks → Prop}
    (hrefused : ∀ failure t, Refusal s failure t → Q (.error failure) t)
    (hpassed : env.scan = .ok .clean → Ends (f ()) s Q) : Ends (scanContent env >>= f) s Q := by
  rw [ends_bind]
  refine (scanContent_ends env s).mono fun r t h => ?_
  cases h with
  | passed h => exact hpassed h
  | refused h => exact hrefused _ _ h

end Ends

/-- What a delivery of an upload finds in it. -/
structure ReadsUpload (texts : KnowledgeTexts) (env : KnowledgeEnvironment)
    (source : KnowledgeSource) (upload : Upload) (content : List UInt8)
    (read : Option (ParsedDocument × Bool)) : Prop where
  found : source.metadata.upload = some upload
  loads : env.content = .ok content
  clean : env.scan = .ok .clean
  hash : source.metadata.contentHash = some (texts.bytesHash content)
  reads : readUpload texts env source.name upload content = .ok read

/-- What a delivery of a network source fetches. -/
structure ReadsPage (texts : KnowledgeTexts) (env : KnowledgeEnvironment)
    (source : KnowledgeSource) (fetched : FetchResponse) (parsed : ParsedDocument) : Prop where
  hasUri : blank source.uri = false
  fetches : env.fetched = .ok fetched
  clean : env.scan = .ok .clean
  parses : parseFetchedDocument texts.toParsingTexts fetched.finalUrl fetched.contentType
    fetched.body texts.maxFetchBytes = .ok parsed
  puts : env.put.raised = none

def SourceBooks.redirected (texts : KnowledgeTexts) (s : SourceBooks) (fetched : FetchResponse) :
    SourceBooks :=
  { s with
    source := s.source.redirect texts fetched.finalUrl
    objects := s.objects ++ [s.source.rawKey texts (texts.bytesHash fetched.body)] }

/-- A delivery of a job of the type hands the extraction to the store, in the books `t`. -/
inductive Hands (texts : KnowledgeTexts) (env : KnowledgeEnvironment) (s : SourceBooks) :
    KnowledgeJobType → Extraction → SourceBooks → Prop where
  | upload {upload : Upload} {content : List UInt8} {parsed : ParsedDocument} {usedOcr : Bool}
      (h : ReadsUpload texts env s.source upload content (some (parsed, usedOcr))) :
      Hands texts env s .parse ⟨parsed, upload.objectKey, texts.bytesHash content, usedOcr⟩
        (s.changeSource (.enter .indexing))
  | page {fetched : FetchResponse} {parsed : ParsedDocument}
      (h : ReadsPage texts env s.source fetched parsed) :
      Hands texts env s .fetch
        ⟨parsed, s.source.rawKey texts (texts.bytesHash fetched.body), texts.bytesHash fetched.body, false⟩
        (s.redirected texts fetched)

/-- How a job ends that reads content. -/
inductive ReadEnd (texts : KnowledgeTexts) (env : KnowledgeEnvironment) (s : SourceBooks)
    (jobType : KnowledgeJobType) : Except Failure (Option Uuid) → SourceBooks → Prop where
  | refused {failure : Failure} {t : SourceBooks} (h : Refusal s failure t) :
      ReadEnd texts env s jobType (.error failure) t
  | unreadable {upload : Upload} {content : List UInt8} (hparse : jobType = .parse)
      (h : ReadsUpload texts env s.source upload content none) :
      ReadEnd texts env s jobType (.ok none) (s.changeSource (.enter .needsReview))
  | returned {x : Extraction} {t u : SourceBooks} {version : Uuid}
      (h : Hands texts env s jobType x t)
      (hstore : storeParsedVersion texts env x t = .ok version u) :
      ReadEnd texts env s jobType (.ok (some version)) u
  | raised {x : Extraction} {t u : SourceBooks} {failure : Failure}
      (h : Hands texts env s jobType x t)
      (hstore : storeParsedVersion texts env x t = .error failure u) :
      ReadEnd texts env s jobType (.error failure) u

section Read

variable {texts : KnowledgeTexts} {env : KnowledgeEnvironment} {s : SourceBooks}

theorem storeUpload_ends {upload : Upload} {content : List UInt8}
    {read : Option (ParsedDocument × Bool)} (h : ReadsUpload texts env s.source upload content read) :
    Ends (storeUpload texts env upload (texts.bytesHash content) read)
      (s.changeSource (.enter .parsing)) (ReadEnd texts env s .parse) := by
  cases read with
  | none => exact ends_bind_run_ok (modify_run _ _) (.unreadable rfl h)
  | some read =>
    refine ends_bind_run_ok (modify_run _ _) ?_
    show Ends _ (s.changeSource (.enter .indexing)) _
    rw [ends_bind]
    exact ends_intro (fun _ _ hstore => .returned (.upload h) hstore)
      (fun _ _ hstore => .raised (.upload h) hstore)

theorem processFile_ends (texts : KnowledgeTexts) (env : KnowledgeEnvironment) (s : SourceBooks) :
    Ends (processFile texts env) s (ReadEnd texts env s .parse) := by
  refine ends_bind_run_ok (get_run s) ?_
  cases hupload : s.source.metadata.upload with
  | none => exact .refused ⟨rfl, .refl s⟩
  | some upload =>
    refine ends_ofExcept_bind (noIntegrity_answered _) (fun _ _ h => .refused h) fun content hcontent => ?_
    refine ends_scan_bind (fun _ _ h => .refused h) fun hclean => ?_
    split
    · refine (deleteObject_throw_ends env _ rfl s).mono fun r t h => ?_
      obtain ⟨raised, rfl, href⟩ := h
      exact .refused href
    · next hhash =>
      refine ends_bind_run_ok (modify_run _ s) ?_
      refine ends_ofExcept_bind (noIntegrity_readUpload _ _ _ _ _)
        (fun _ _ h => .refused (h.of_touched (touched_enter s .parsing))) fun read hread => ?_
      exact storeUpload_ends ⟨hupload, answered_eq_ok hcontent, hclean, (not_not.1 hhash).symm, hread⟩

theorem putBytes_run (h : env.put.raised = none) (key : String) (s : SourceBooks) :
    putBytes env key s = .ok () { s with objects := s.objects ++ [key] } := by
  have heffective : env.put.effective = true := by
    unfold StorageAnswer.effective
    rw [h]
    rfl
  have hresult : env.put.result = .ok () := by
    unfold StorageAnswer.result
    rw [h]
  have hkeep : s.keepObject env.put key = { s with objects := s.objects ++ [key] } := if_pos heffective
  unfold putBytes
  rw [bind_run_ok (modify_run _ s), hkeep, hresult]
  rfl

theorem putBytes_raised {raised : AdapterError} (h : env.put.raised = some raised) (key : String)
    (s : SourceBooks) : putBytes env key s = .error raised.toFailure (s.keepObject env.put key) := by
  have hresult : env.put.result = .error raised.toFailure := by
    unfold StorageAnswer.result
    rw [h]
  unfold putBytes
  rw [bind_run_ok (modify_run _ s), hresult]
  rfl

/-- The first part of a fetch leaves the state `fetching`, which the redirection overwrites. -/
theorem storeFetched_ends {fetched : FetchResponse} (huri : blank s.source.uri = false)
    (hfetched : env.fetched = .ok fetched) :
    Ends (do let version ← storeFetched texts env s.source fetched; pure (some version))
      (s.changeSource (.enter .fetching)) (ReadEnd texts env s .fetch) := by
  have htouched := touched_enter s .fetching
  rw [ends_bind]
  refine ends_scan_bind (fun _ _ h => .refused (h.of_touched htouched)) fun hclean => ?_
  refine ends_ofExcept_bind (noIntegrity_parseFetched _ _ _ _ _)
    (fun _ _ h => .refused (h.of_touched htouched)) fun parsed hparsed => ?_
  cases hput : env.put.raised with
  | some raised =>
    refine ends_bind_run_error (putBytes_raised hput _ _) ?_
    exact .refused ⟨isIntegrity_toFailure raised, htouched.trans (touched_keep _ _ _)⟩
  | none =>
    have hpage : ReadsPage texts env s.source fetched parsed := ⟨huri, hfetched, hclean, hparsed, hput⟩
    refine ends_bind_run_ok (putBytes_run hput _ _) ?_
    refine ends_bind_run_ok (modify_run _ _) ?_
    show Ends _ (s.redirected texts fetched) _
    exact ends_intro (fun _ _ hstore => .returned (.page hpage) hstore)
      (fun _ _ hstore => .raised (.page hpage) hstore)

theorem processNetworkSource_ends (texts : KnowledgeTexts) (env : KnowledgeEnvironment)
    (s : SourceBooks) : Ends (do let version ← processNetworkSource texts env; pure (some version))
      s (ReadEnd texts env s .fetch) := by
  cases huri : blank s.source.uri with
  | true =>
    have hrun : processNetworkSource texts env s = .error urlInvalid s := by
      unfold processNetworkSource
      rw [bind_run_ok (get_run s), if_pos huri]
      rfl
    exact ends_bind_run_error hrun (.refused ⟨rfl, .refl s⟩)
  | false =>
    have htouched := touched_enter s .fetching
    cases hfetched : env.fetched with
    | error raised =>
      have hrun : processNetworkSource texts env s =
          .error raised.toFailure (s.changeSource (.enter .fetching)) := by
        unfold processNetworkSource enterState
        rw [bind_run_ok (get_run s), if_neg (ne_true_of_eq_false huri),
          bind_run_ok (modify_run _ s), hfetched]
        rfl
      exact ends_bind_run_error hrun (.refused ⟨isIntegrity_toFailure raised, htouched⟩)
    | ok fetched =>
      have hrun : processNetworkSource texts env s =
          storeFetched texts env s.source fetched (s.changeSource (.enter .fetching)) := by
        unfold processNetworkSource enterState
        rw [bind_run_ok (get_run s), if_neg (ne_true_of_eq_false huri),
          bind_run_ok (modify_run _ s), hfetched]
        rfl
      have hends := @storeFetched_ends texts env s fetched huri hfetched
      rw [ends_bind] at hends ⊢
      exact ends_of_run_eq hrun hends

/-- Content that is handed to the store gets there. -/
theorem Hands.run {jobType : KnowledgeJobType} (h : Hands texts env s jobType x t) :
    runJob texts env jobType s =
      (do let version ← storeParsedVersion texts env x; pure (some version) : KnowledgeM _) t := by
  have hscan : env.scan = .ok .clean → ∀ u : SourceBooks, scanContent env u = .ok () u := by
    intro hclean u
    unfold scanContent
    rw [bind_run_ok (get_run u), hclean]
    rfl
  cases h with
  | upload h =>
    show processFile texts env s = _
    unfold processFile
    rw [bind_run_ok (get_run s), h.found]
    dsimp only
    rw [answered_of_ok h.loads, bind_run_ok (ofExcept_run_ok _ s)]
    unfold checkUpload
    rw [bind_run_ok (hscan h.clean s), if_neg (not_not.2 h.hash.symm)]
    unfold parseUpload enterState
    rw [bind_run_ok (modify_run _ s), h.reads, bind_run_ok (ofExcept_run_ok _ _)]
    exact bind_run_ok (modify_run _ _) _
  | page h =>
    rename_i fetched parsed
    have hrun : processNetworkSource texts env s =
        storeFetched texts env s.source fetched (s.changeSource (.enter .fetching)) := by
      unfold processNetworkSource enterState
      rw [bind_run_ok (get_run s), if_neg (ne_true_of_eq_false h.hasUri),
        bind_run_ok (modify_run _ s), h.fetches]
      rfl
    unfold storeFetched at hrun
    rw [bind_run_ok (hscan h.clean _), h.parses, bind_run_ok (ofExcept_run_ok _ _),
      bind_run_ok (putBytes_run h.puts _ _), bind_run_ok (modify_run _ _)] at hrun
    show (processNetworkSource texts env >>= _) s = _
    simp only [bind, EStateM.bind, hrun]
    rfl

end Read

/-- The blocks are cut into these chunks, and the provider gave their texts these vectors. -/
structure Embeds (texts : KnowledgeTexts) (env : KnowledgeEnvironment) (x : Extraction)
    (drafts : List ChunkDraft) (vectors : List Embedding) : Prop where
  chunks : semanticChunks texts.toParsingTexts x.parsed.blocks = .ok drafts
  answer : acceptedVectors drafts.length (env.embed (drafts.map ChunkDraft.text)) = .ok vectors

inductive StoreEnd (texts : KnowledgeTexts) (env : KnowledgeEnvironment) (x : Extraction)
    (s : SourceBooks) : Except Failure Uuid → SourceBooks → Prop where
  | adopted {version : SourceVersion} (hfind : s.findVersion x.contentHash = some version) :
      StoreEnd texts env x s (.ok version.id) (s.changeSource (.adopt version.id .ready))
  | stored {drafts : List ChunkDraft} {vectors : List Embedding}
      (hnone : s.findVersion x.contentHash = none) (hembeds : Embeds texts env x drafts vectors) :
      StoreEnd texts env x s (.ok s.nextId) (s.withChunks texts env x drafts vectors)
  | incomplete {failure : Failure} (hnone : s.findVersion x.contentHash = none)
      (h : isIntegrity failure = false) :
      StoreEnd texts env x s (.error failure) (s.withDocument texts x)
  | taken {t : SourceBooks} (h : s.source.canonicalUriHash.any (· ∈ env.taken) = true) :
      StoreEnd texts env x s (.error uriHashTaken) t
  | unstorable {t : SourceBooks} : StoreEnd texts env x s (.error valueRefused) t

section Store

variable {texts : KnowledgeTexts} {env : KnowledgeEnvironment} {s : SourceBooks}

theorem flush_taken (h : s.source.canonicalUriHash.any (· ∈ env.taken) = true)
    (point : FlushPoint) : flush env point s = .error uriHashTaken s := by
  unfold flush
  rw [bind_run_ok (get_run s), if_pos h]
  rfl

variable {point : FlushPoint}

section

variable (h : s.source.canonicalUriHash.any (· ∈ env.taken) = false)

include h

theorem flush_refused (hrefuses : env.refuses point = true) : flush env point s = .error valueRefused s := by
  unfold flush
  rw [bind_run_ok (get_run s), if_neg (ne_true_of_eq_false h), if_pos hrefuses]
  rfl

theorem flush_stored (hrefuses : env.refuses point = false) : flush env point s = .ok () s := by
  unfold flush
  rw [bind_run_ok (get_run s), if_neg (ne_true_of_eq_false h), if_neg (ne_true_of_eq_false hrefuses)]
  rfl

end

/-- After a flush the effect goes on only in a state whose values can be stored. -/
theorem ends_flush_bind {α : Type} {f : Unit → KnowledgeM α} {Q : Except Failure α → SourceBooks → Prop}
    (htaken : s.source.canonicalUriHash.any (· ∈ env.taken) = true → Q (.error uriHashTaken) s)
    (hrefused : env.refuses point = true → Q (.error valueRefused) s)
    (hok : env.refuses point = false → Ends (f ()) s Q) : Ends (flush env point >>= f) s Q := by
  cases hhash : s.source.canonicalUriHash.any (· ∈ env.taken) with
  | true => exact ends_bind_run_error (flush_taken hhash point) (htaken hhash)
  | false =>
    cases hrefuses : env.refuses point with
    | true => exact ends_bind_run_error (flush_refused hhash hrefuses) (hrefused hrefuses)
    | false => exact ends_bind_run_ok (flush_stored hhash hrefuses) (hok hrefuses)

theorem storeNewVersion_ends (env : KnowledgeEnvironment) (hnone : s.findVersion x.contentHash = none)
    (u : SourceBooks) : Ends (storeNewVersion texts env x s) u (StoreEnd texts env x s) := by
  rw [storeNewVersion, ends_bind, ends_set, continues_ok]
  refine ends_flush_bind (fun h => .taken h) (fun _ => .unstorable) fun _ => ?_
  rw [ends_bind, ends_set, continues_ok]
  refine ends_flush_bind (fun h => .taken h) (fun _ => .unstorable) fun _ => ?_
  cases hdrafts : semanticChunks texts.toParsingTexts x.parsed.blocks with
  | error failure =>
    refine ends_bind_run_error (ofExcept_run_error failure _) ?_
    exact .incomplete hnone (noIntegrity_semanticChunks _ _ failure hdrafts)
  | ok drafts =>
    refine ends_bind_run_ok (ofExcept_run_ok drafts _) ?_
    cases hvectors : acceptedVectors drafts.length (env.embed (drafts.map ChunkDraft.text)) with
    | error failure =>
      refine ends_bind_run_error (ofExcept_run_error failure _) ?_
      exact .incomplete hnone (noIntegrity_acceptedVectors _ _ failure hvectors)
    | ok vectors =>
      refine ends_bind_run_ok (ofExcept_run_ok vectors _) ?_
      rw [ends_bind, ends_set, continues_ok]
      refine ends_flush_bind (fun h => .taken h) (fun _ => .unstorable) fun _ => ?_
      exact .stored hnone ⟨hdrafts, hvectors⟩

theorem storeParsedVersion_adopts (env : KnowledgeEnvironment) {version : SourceVersion}
    (h : s.findVersion x.contentHash = some version) : storeParsedVersion texts env x s =
      .ok version.id (s.changeSource (.adopt version.id .ready)) := by
  unfold storeParsedVersion
  rw [bind_run_ok (get_run s), h]
  rfl

theorem storeParsedVersion_new (env : KnowledgeEnvironment) (h : s.findVersion x.contentHash = none) :
    storeParsedVersion texts env x s = storeNewVersion texts env x s s := by
  unfold storeParsedVersion
  rw [bind_run_ok (get_run s), h]

theorem storeParsedVersion_ends (texts : KnowledgeTexts) (env : KnowledgeEnvironment) (x : Extraction)
    (s : SourceBooks) : Ends (storeParsedVersion texts env x) s (StoreEnd texts env x s) := by
  cases hfind : s.findVersion x.contentHash with
  | some version =>
    refine ends_intro (fun a t h => ?_) (fun failure t h => ?_)
    · rw [storeParsedVersion_adopts env hfind] at h
      cases h
      exact .adopted hfind
    · rw [storeParsedVersion_adopts env hfind] at h
      cases h
  | none =>
    exact ends_of_run_eq (storeParsedVersion_new env hfind) (storeNewVersion_ends env hfind s)

end Store

theorem mem_deletionKeys {s : SourceBooks} : key ∈ deletionKeys s ↔ key ∈ s.objectKeys := by
  unfold deletionKeys
  rw [mem_insertionSort, mem_eraseDups]

/-- No call of the storage raises for the objects that a deletion deletes. -/
def Deletes (env : KnowledgeEnvironment) (s : SourceBooks) : Prop :=
  ∀ key ∈ s.objectKeys, (env.delete key).raised = none

def SourceBooks.erased (s : SourceBooks) : SourceBooks :=
  { s.erase with objects := s.objects.filter (· ∉ s.objectKeys) }

inductive EraseEnd (env : KnowledgeEnvironment) (s : SourceBooks) :
    Except Failure Unit → SourceBooks → Prop where
  | refused {failure : Failure} {t : SourceBooks} (h : Refusal s failure t) :
      EraseEnd env s (.error failure) t
  | referenced {t : SourceBooks} (h : Deletes env s) (hholds : s.holdsVersion env = true) :
      EraseEnd env s (.error versionReferenced) t
  | erased (h : Deletes env s) (hholds : s.holdsVersion env = false) :
      EraseEnd env s (.ok ()) s.erased

section Erase

variable {env : KnowledgeEnvironment}

theorem deleteObjects_run {keys : List String} (h : ∀ key ∈ keys, (env.delete key).raised = none)
    (s : SourceBooks) :
    deleteObjects env keys s = .ok () { s with objects := s.objects.filter (· ∉ keys) } := by
  induction keys generalizing s with
  | nil =>
    have hall : s.objects.filter (fun key => key ∉ ([] : List String)) = s.objects := by simp
    rw [hall]
    rfl
  | cons key keys ih =>
    unfold deleteObjects
    rw [bind_run_ok (deleteObject_run (h key mem_cons_self) s),
      ih fun other hother => h other (mem_cons_of_mem key hother)]
    dsimp only
    rw [filter_filter]
    congr 2
    refine filter_congr fun other _ => ?_
    simp only [mem_cons, not_or, Bool.decide_and, Bool.and_comm]

theorem deleteObjects_refused {keys : List String} (h : ¬∀ key ∈ keys, (env.delete key).raised = none)
    (s : SourceBooks) : ∃ failure t, deleteObjects env keys s = .error failure t ∧ Refusal s failure t := by
  induction keys generalizing s with
  | nil => exact absurd nofun h
  | cons key keys ih =>
    unfold deleteObjects
    cases hraised : (env.delete key).raised with
    | some raised =>
      exact ⟨_, _, bind_run_error (deleteObject_raised hraised s) _, isIntegrity_toFailure raised,
        touched_drop s _ key⟩
    | none =>
      have hrest : ¬∀ key ∈ keys, (env.delete key).raised = none := fun hrest =>
        h (forall_mem_cons.2 ⟨hraised, hrest⟩)
      obtain ⟨failure, t, hrun, hrefusal⟩ := ih hrest { s with objects := s.objects.filter (· ≠ key) }
      refine ⟨failure, t, ?_, hrefusal.of_touched (touched_objects s _)⟩
      rw [bind_run_ok (deleteObject_run hraised s), hrun]

theorem deleteSourceData_deleted {s : SourceBooks} (h : Deletes env s) : deleteSourceData env s =
      eraseRows env { s with objects := s.objects.filter (· ∉ s.objectKeys) } := by
  have hfilter : s.objects.filter (· ∉ deletionKeys s) = s.objects.filter (· ∉ s.objectKeys) := by
    simp only [mem_deletionKeys]
  unfold deleteSourceData
  rw [bind_run_ok (get_run s),
    bind_run_ok (deleteObjects_run (fun key hkey => h key (mem_deletionKeys.1 hkey)) s), hfilter]

theorem deleteSourceData_ends (env : KnowledgeEnvironment) (s : SourceBooks) :
    Ends (deleteSourceData env) s (EraseEnd env s) := by
  by_cases h : Deletes env s
  · refine ends_of_run_eq (deleteSourceData_deleted h) (ends_bind_run_ok (get_run _) ?_)
    split
    · next hholds => exact .referenced h hholds
    · next hholds => exact .erased h (Bool.eq_false_iff.2 hholds)
  · have hkeys : ¬∀ key ∈ deletionKeys s, (env.delete key).raised = none :=
      fun hall => h fun key hkey => hall key (mem_deletionKeys.2 hkey)
    obtain ⟨failure, t, hrun, hrefusal⟩ := deleteObjects_refused hkeys s
    refine ends_bind_run_ok (get_run s) (ends_bind_run_error hrun (.refused hrefusal))

end Erase

end BlogOps.Knowledge
