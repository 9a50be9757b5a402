import BlogOps.ApprovalVersions

/-!
# Version histories

The versions of a content form one line: a new version takes the next number
and the current version as its parent, and becomes the current one.  Blocks
reach the editor through their schema, which a restore asks again about the
stored document; what the schema let in once it lets in unchanged.  The hash of
a version is that of the blocks that were sent, its document is what JSONB gives
back of them, so the two belong together when JSONB alters no JSON of the blocks.
-/

namespace BlogOps.Quality

open Jobs KeyedTables TransitionRuns

/-! ## The block schema -/

def supportedBlockTypes : List String :=
  ["TITLE", "HEADING", "PARAGRAPH", "LIST", "TABLE", "QUOTE", "CODE", "FAQ", "CTA", "IMAGE", "EMBED"]

/-- `str.upper`, which leaves upper-case ASCII letters as they are. -/
class TextCase where
  upper : String → String
  upper_ascii : ∀ text : String, text.toList.all (·.isUpper) = true → upper text = text

theorem supported_length {blockType : String} (h : blockType ∈ supportedBlockTypes) :
    ¬ (blockType.length < 1 ∨ 40 < blockType.length) := by
  revert blockType
  decide

section Blocks

variable [TextCase]

/-- `ContentBlockInput.model_validate`: the length bounds, then `supported_block`. -/
def validateBlock (block : ContentBlockInput) : Result ContentBlockInput :=
  if block.blockType.length < 1 ∨ 40 < block.blockType.length then
    .error (.failure .validationError)
  else
    let normalized := TextCase.upper block.blockType
    if normalized ∉ supportedBlockTypes then .error (.failure .validationError)
    else .ok { block with blockType := normalized }

def validateBlocks (document : List ContentBlockInput) : Result (List ContentBlockInput) :=
  document.mapM validateBlock

theorem validateBlocks_cons {block : ContentBlockInput} {rest blocks : List ContentBlockInput} :
    validateBlocks (block :: rest) = .ok blocks ↔
      ∃ first others, validateBlock block = .ok first ∧ validateBlocks rest = .ok others ∧
        blocks = first :: others := by
  unfold validateBlocks
  rw [List.mapM_cons]
  constructor
  · intro h
    obtain ⟨first, hfirst, h⟩ := bind_ok h
    obtain ⟨others, hothers, h⟩ := bind_ok h
    exact ⟨first, others, hfirst, hothers, (Except.ok.inj h).symm⟩
  · rintro ⟨first, others, hfirst, hothers, rfl⟩
    rw [bind_of_ok hfirst, bind_of_ok hothers]
    rfl

theorem supported_upper {blockType : String} (h : blockType ∈ supportedBlockTypes) :
    TextCase.upper blockType = blockType := by
  apply TextCase.upper_ascii
  revert blockType
  decide

theorem validateBlock_ok {raw block : ContentBlockInput} (h : validateBlock raw = .ok block) :
    block.blockType ∈ supportedBlockTypes ∧ block = { raw with blockType := block.blockType } := by
  unfold validateBlock at h
  dsimp only at h
  split_ifs at h with _ hsupported
  cases h
  exact ⟨by simpa using hsupported, rfl⟩

/-- A block with a supported type passes the schema as it is. -/
theorem validateBlock_supported {block : ContentBlockInput}
    (h : block.blockType ∈ supportedBlockTypes) : validateBlock block = .ok block := by
  unfold validateBlock
  dsimp only
  rw [supported_upper h, if_neg (supported_length h), if_neg (not_not_intro h)]

theorem validateBlocks_supported {blocks : List ContentBlockInput}
    (h : ∀ block ∈ blocks, block.blockType ∈ supportedBlockTypes) : validateBlocks blocks = .ok blocks := by
  induction blocks with
  | nil => rfl
  | cons block rest ih =>
    obtain ⟨hblock, hrest⟩ := List.forall_mem_cons.mp h
    exact validateBlocks_cons.mpr ⟨block, rest, validateBlock_supported hblock, ih hrest, rfl⟩

theorem supported_validated {sent blocks : List ContentBlockInput}
    (h : validateBlocks sent = .ok blocks) : ∀ block ∈ blocks, block.blockType ∈ supportedBlockTypes := by
  induction sent generalizing blocks with
  | nil =>
    cases h
    exact fun block hblock => absurd hblock List.not_mem_nil
  | cons raw rest ih =>
    obtain ⟨first, others, hfirst, hothers, rfl⟩ := validateBlocks_cons.mp h
    exact List.forall_mem_cons.mpr ⟨(validateBlock_ok hfirst).1, ih hothers⟩

end Blocks

/-! ## The document column -/

section Stored

theorem mapM_eq_self {α : Type} {f : α → Option α} {xs : List α} :
    xs.mapM f = some xs ↔ ∀ x ∈ xs, f x = some x := by
  induction xs with
  | nil => simp
  | cons x xs ih =>
    rw [List.mapM_cons, List.forall_mem_cons, ← ih]
    constructor
    · intro h
      obtain ⟨y, hy, h⟩ := Option.bind_eq_some_iff.mp h
      obtain ⟨ys, hys, h⟩ := Option.bind_eq_some_iff.mp h
      obtain ⟨rfl, rfl⟩ := List.cons.inj (Option.some.inj h)
      exact ⟨hy, hys⟩
    · rintro ⟨hx, hxs⟩
      rw [hx, hxs]
      rfl

theorem exists_of_mem_mapM {α β : Type} {f : α → Option β} {xs : List α} {ys : List β}
    (h : xs.mapM f = some ys) : ∀ y ∈ ys, ∃ x ∈ xs, f x = some y := by
  induction xs generalizing ys with
  | nil =>
    cases h
    exact fun y hy => absurd hy List.not_mem_nil
  | cons x xs ih =>
    rw [List.mapM_cons] at h
    obtain ⟨first, hfirst, h⟩ := Option.bind_eq_some_iff.mp h
    obtain ⟨others, hothers, h⟩ := Option.bind_eq_some_iff.mp h
    cases h
    refine List.forall_mem_cons.mpr ⟨⟨x, List.mem_cons_self, hfirst⟩, fun y hy => ?_⟩
    obtain ⟨other, hother, heq⟩ := ih hothers y hy
    exact ⟨other, List.mem_cons_of_mem _ hother, heq⟩

/-- What came out of an idempotent partial function goes through it unchanged. -/
theorem mapM_again {α : Type} {f : α → Option α} (hf : ∀ x y, f x = some y → f y = some y)
    {xs ys : List α} (h : xs.mapM f = some ys) : ys.mapM f = some ys := by
  refine mapM_eq_self.mpr fun y hy => ?_
  obtain ⟨x, _, hx⟩ := exists_of_mem_mapM h y hy
  exact hf x y hx

variable [QualityHash]

/-- JSONB gives the JSON of the block back as it was sent. -/
def Unaltered (block : ContentBlockInput) : Prop :=
  Jsonb.stored block.payload = some block.payload ∧
    (∀ fact ∈ block.lockedFacts, Jsonb.stored fact = some fact) ∧
    ∀ anchor ∈ block.sourceAnchors, Jsonb.stored anchor = some anchor

theorem storedBlock_ok {block kept : ContentBlockInput} (h : storedBlock block = some kept) :
    Jsonb.stored block.payload = some kept.payload ∧
      block.lockedFacts.mapM Jsonb.stored = some kept.lockedFacts ∧
      block.sourceAnchors.mapM Jsonb.stored = some kept.sourceAnchors ∧
      kept = { block with
        payload := kept.payload
        lockedFacts := kept.lockedFacts
        sourceAnchors := kept.sourceAnchors } := by
  obtain ⟨payload, hpayload, h⟩ := Option.bind_eq_some_iff.mp h
  obtain ⟨lockedFacts, hfacts, h⟩ := Option.bind_eq_some_iff.mp h
  obtain ⟨sourceAnchors, hanchors, h⟩ := Option.bind_eq_some_iff.mp h
  cases h
  exact ⟨hpayload, hfacts, hanchors, rfl⟩

theorem storedBlock_eq_self {block : ContentBlockInput} :
    storedBlock block = some block ↔ Unaltered block := by
  constructor
  · intro h
    obtain ⟨hpayload, hfacts, hanchors, _⟩ := storedBlock_ok h
    exact ⟨hpayload, mapM_eq_self.mp hfacts, mapM_eq_self.mp hanchors⟩
  · rintro ⟨hpayload, hfacts, hanchors⟩
    unfold storedBlock
    rw [hpayload, mapM_eq_self.mpr hfacts, mapM_eq_self.mpr hanchors]
    rfl

theorem storedBlock_again {block kept : ContentBlockInput} (h : storedBlock block = some kept) :
    storedBlock kept = some kept := by
  obtain ⟨hpayload, hfacts, hanchors, _⟩ := storedBlock_ok h
  have hagain : ∀ sent kept, Jsonb.stored sent = some kept → Jsonb.stored kept = some kept :=
    fun _ _ => Jsonb.stored_again
  exact storedBlock_eq_self.mpr ⟨hagain _ _ hpayload, mapM_eq_self.mp (mapM_again hagain hfacts),
    mapM_eq_self.mp (mapM_again hagain hanchors)⟩

theorem storedDocument_eq_self {blocks : List ContentBlockInput} :
    storedDocument blocks = some blocks ↔ ∀ block ∈ blocks, Unaltered block :=
  mapM_eq_self.trans (forall₂_congr fun _ _ => storedBlock_eq_self)

theorem storedDocument_again {blocks document : List ContentBlockInput}
    (h : storedDocument blocks = some document) : storedDocument document = some document :=
  mapM_again (fun _ _ => storedBlock_again) h

/-- The schema changes no JSON of a block. -/
theorem unaltered_validated [TextCase] {sent blocks : List ContentBlockInput}
    (h : validateBlocks sent = .ok blocks) :
    (∀ block ∈ sent, Unaltered block) ↔ ∀ block ∈ blocks, Unaltered block := by
  induction sent generalizing blocks with
  | nil =>
    cases h
    exact Iff.rfl
  | cons raw rest ih =>
    obtain ⟨first, others, hfirst, hothers, rfl⟩ := validateBlocks_cons.mp h
    rw [List.forall_mem_cons, List.forall_mem_cons, ih hothers, (validateBlock_ok hfirst).2]
    exact Iff.rfl

/-- The document that comes back has supported types when the blocks had them. -/
theorem supported_stored {blocks document : List ContentBlockInput}
    (hstored : storedDocument blocks = some document)
    (h : ∀ block ∈ blocks, block.blockType ∈ supportedBlockTypes) :
    ∀ block ∈ document, block.blockType ∈ supportedBlockTypes := by
  intro kept hkept
  obtain ⟨block, hblock, hstores⟩ := exists_of_mem_mapM hstored kept hkept
  rw [(storedBlock_ok hstores).2.2.2]
  exact h block hblock

end Stored

/-! ## One line of versions -/

theorem foldr_max_le {numbers : List Nat} {bound : Nat} (h : ∀ number ∈ numbers, number ≤ bound) :
    numbers.foldr max 0 ≤ bound := by
  induction numbers with
  | nil => exact Nat.zero_le _
  | cons number numbers ih =>
    have hhead := h number List.mem_cons_self
    have htail := ih fun other hother => h other (List.mem_cons_of_mem _ hother)
    rw [List.foldr_cons]
    omega

theorem le_foldr_max {numbers : List Nat} {number : Nat} (h : number ∈ numbers) :
    number ≤ numbers.foldr max 0 := by
  induction numbers with
  | nil => cases h
  | cons head numbers ih =>
    rw [List.foldr_cons]
    rcases List.mem_cons.mp h with rfl | hrest
    · omega
    · have hle := ih hrest
      omega

/-- A write that makes the version the current one and shows its title. -/
structure Shows (version : ContentVersion) (content : ContentItem)
    (f : ContentItem → ContentItem) : Prop where
  id : ∀ row, (f row).id = row.id
  current : (f content).currentVersionId = some version.id
  title : (f content).title = version.title

theorem shows_moveToVersion (actorId : Uuid) (version : ContentVersion) (content : ContentItem) :
    Shows version content (moveToVersion actorId version) :=
  ⟨fun _ => rfl, rfl, rfl⟩

section History

/-- The versions of a content, in the order in which they were written. -/
def versionsOf (s : Store) (contentId : Uuid) : List ContentVersion :=
  s.versions.filter (·.contentId = contentId)

/-- The versions of a content are one line that ends at its current version. -/
structure LinkedHistory (history : List ContentVersion) (content : ContentItem) : Prop where
  numbered : ∀ index version, history[index]? = some version → version.versionNumber = index + 1
  first : ∀ version, history[0]? = some version → version.parentVersionId = none
  linked : ∀ index version next, history[index]? = some version →
    history[index + 1]? = some next → next.parentVersionId = some version.id
  current : content.currentVersionId = history.getLast?.map (·.id)
  titled : ∀ version, history.getLast? = some version → content.title = version.title
  restored : ∀ version ∈ history, ∀ sourceId, version.restoredFromVersionId = some sourceId →
    ∃ source ∈ history, source.id = sourceId ∧ version.title = source.title ∧
      version.document = source.document

theorem LinkedHistory.congr {history : List ContentVersion} {content other : ContentItem}
    (h : LinkedHistory history content) (hcurrent : other.currentVersionId = content.currentVersionId)
    (htitle : history ≠ [] → other.title = content.title) : LinkedHistory history other where
  numbered := h.numbered
  first := h.first
  linked := h.linked
  current := hcurrent.trans h.current
  titled version hlast := by
    have hne : history ≠ [] := by
      rintro rfl
      cases hlast
    rw [htitle hne]
    exact h.titled version hlast
  restored := h.restored

theorem linkedHistory_nil {content : ContentItem} (h : content.currentVersionId = none) :
    LinkedHistory [] content where
  numbered _ _ h := by cases h
  first _ h := by cases h
  linked _ _ _ h := by cases h
  current := h
  titled _ h := by cases h
  restored _ h := by cases h

/-- What a version has to be to continue a history. -/
structure Continues (history : List ContentVersion) (content : ContentItem)
    (version : ContentVersion) : Prop where
  number : version.versionNumber = history.length + 1
  parent : version.parentVersionId = content.currentVersionId
  restored : ∀ sourceId, version.restoredFromVersionId = some sourceId →
    ∃ source ∈ history, source.id = sourceId ∧ version.title = source.title ∧
      version.document = source.document

theorem LinkedHistory.append {history : List ContentVersion} {content after : ContentItem}
    {version : ContentVersion} (h : LinkedHistory history content)
    (hnext : Continues history content version) (hcurrent : after.currentVersionId = some version.id)
    (htitle : after.title = version.title) : LinkedHistory (history ++ [version]) after where
  numbered index other hother := by
    rw [List.getElem?_append] at hother
    split at hother
    · exact h.numbered index other hother
    · have hindex : index = history.length := by
        have hlt := (List.getElem?_eq_some_iff.mp hother).1
        simp only [List.length_singleton] at hlt
        omega
      subst hindex
      simp only [Nat.sub_self, List.getElem?_cons_zero, Option.some.injEq] at hother
      rw [← hother]
      exact hnext.number
  first other hother := by
    cases history with
    | nil =>
      simp only [List.nil_append, List.getElem?_cons_zero, Option.some.injEq] at hother
      rw [← hother, hnext.parent, h.current]
      rfl
    | cons head rest => exact h.first other hother
  linked index one other hone hother := by
    have hlt := (List.getElem?_eq_some_iff.mp hother).1
    simp only [List.length_append, List.length_singleton] at hlt
    rw [List.getElem?_append_left (by omega)] at hone
    rw [List.getElem?_append] at hother
    split at hother
    · exact h.linked index one other hone hother
    · have hindex : index + 1 = history.length := by omega
      simp only [hindex, Nat.sub_self, List.getElem?_cons_zero, Option.some.injEq] at hother
      have hlast : history.getLast? = some one := by
        rw [List.getLast?_eq_getElem?, ← hindex]
        exact hone
      rw [← hother, hnext.parent, h.current, hlast]
      rfl
  current := by
    rw [hcurrent, List.getLast?_concat]
    rfl
  titled other hother := by
    rw [List.getLast?_concat, Option.some.injEq] at hother
    rw [htitle, hother]
  restored other hother sourceId hsource := by
    rcases List.mem_append.mp hother with hold | hnew
    · obtain ⟨source, hmem, hsame⟩ := h.restored other hold sourceId hsource
      exact ⟨source, List.mem_append_left _ hmem, hsame⟩
    · obtain rfl := List.mem_singleton.mp hnew
      obtain ⟨source, hmem, hsame⟩ := hnext.restored sourceId hsource
      exact ⟨source, List.mem_append_left _ hmem, hsame⟩

theorem LinkedHistory.lastVersionNumber {s : Store} {contentId : Uuid} {content : ContentItem}
    (h : LinkedHistory (versionsOf s contentId) content) :
    Quality.lastVersionNumber s contentId = (versionsOf s contentId).length := by
  change ((versionsOf s contentId).map (·.versionNumber)).foldr max 0 = _
  apply Nat.le_antisymm
  · apply foldr_max_le
    intro number hnumber
    obtain ⟨version, hversion, rfl⟩ := List.mem_map.mp hnumber
    obtain ⟨index, hindex⟩ := List.mem_iff_getElem?.mp hversion
    have hnum := h.numbered index version hindex
    have hlt := (List.getElem?_eq_some_iff.mp hindex).1
    omega
  · cases hlength : (versionsOf s contentId).length with
    | zero => exact Nat.zero_le _
    | succ last =>
      obtain ⟨version, hversion⟩ : ∃ version, (versionsOf s contentId)[last]? = some version :=
        ⟨_, List.getElem?_eq_getElem (by omega)⟩
      have hnum := h.numbered last version hversion
      have hmem : version ∈ versionsOf s contentId := List.mem_of_getElem? hversion
      rw [← hnum]
      exact le_foldr_max (List.mem_map_of_mem hmem)

/-! ## What an action does to the versions -/

variable [QualityHash]

/-- The version that is appended for `data`, whose blocks come back as `document`. -/
def appended (actorId : Uuid) (s : Store) (content : ContentItem) (data : NewVersion)
    (document : List ContentBlockInput) : ContentVersion :=
  newContentVersion actorId s.nextId (lastVersionNumber s content.id + 1) content data document

/-- A new version that restores another takes its title and document from it. -/
def RestoresFrom (s : Store) (contentId : Uuid) (data : NewVersion) : Prop :=
  ∀ sourceId, data.restoredFromVersionId = some sourceId → ∃ source ∈ versionsOf s contentId,
    source.id = sourceId ∧ data.title = source.title ∧ data.blocks = source.document

/-- What an action that sends these blocks does to the contents and their versions. -/
inductive Edits (sent : List ContentBlockInput) (s after : Store) : Prop where
  | kept (hcontents : after.contents = s.contents) (hversions : after.versions = s.versions)
  | rewritten (content : ContentItem) (hcontent : content ∈ s.contents)
      (f : ContentItem → ContentItem) (hid : ∀ row, (f row).id = row.id)
      (hcurrent : ∀ row, (f row).currentVersionId = row.currentVersionId)
      (htitle : content.currentVersionId.isSome = true → (f content).title = content.title)
      (hcontents : after.contents = updateRow (·.id) content.id (writeContent f) s.contents)
      (hversions : after.versions = s.versions)
  | created (content : ContentItem) (hid : content.id = s.nextId)
      (hnone : content.currentVersionId = none)
      (hcontents : after.contents = s.contents ++ [content])
      (hversions : after.versions = s.versions)
  | begun (actorId : Uuid) (content : ContentItem) (data : NewVersion) (grown : Store)
      (document : List ContentBlockInput) (hstored : storedDocument data.blocks = some document)
      (hid : content.id = s.nextId) (hnone : content.currentVersionId = none)
      (htitle : content.title = data.title) (hrestored : data.restoredFromVersionId = none)
      (hblocks : data.blocks = sent)
      (hgrown : grown = { s with contents := s.contents ++ [content], nextId := s.nextId + 1 })
      (hcontents : after.contents = updateRow (·.id) content.id (writeContent fun row =>
        { row with currentVersionId := some (appended actorId grown content data document).id })
          (s.contents ++ [content]))
      (hversions : after.versions = s.versions ++ [appended actorId grown content data document])
  | published (actorId : Uuid) (content : ContentItem) (data : NewVersion)
      (document : List ContentBlockInput) (hstored : storedDocument data.blocks = some document)
      (move : ContentItem → ContentItem) (hcontent : content ∈ s.contents)
      (hmove : Shows (appended actorId s content data document) content move)
      (hrestored : RestoresFrom s content.id data)
      (hblocks : data.blocks = sent ∨ ∃ source ∈ s.versions, data.blocks = source.document)
      (hcontents : after.contents = updateRow (·.id) content.id (writeContent move) s.contents)
      (hversions : after.versions = s.versions ++ [appended actorId s content data document])

section

variable {request : Request} {s after : Store}

omit [QualityHash] in
theorem Sends.restoresFrom {data : NewVersion} {title : String} {blocks : List ContentBlockInput}
    (h : Sends data title blocks) {contentId : Uuid} : RestoresFrom s contentId data := by
  intro sourceId hsource
  rw [h.restored] at hsource
  cases hsource

theorem edits_of_publish {sent : List ContentBlockInput} {contentId : Uuid} {content : ContentItem}
    {data : NewVersion} {move : ContentVersion → ContentItem → ContentItem} {reason : String}
    {version : ContentVersion} (hcontent : s.liveContent contentId = some content)
    (hmove : ∀ version, Shows version content (move version)) (hrestored : RestoresFrom s content.id data)
    (hblocks : data.blocks = sent ∨ ∃ source ∈ s.versions, data.blocks = source.document)
    (h : publishVersion request content data move reason s = .ok (version, after)) :
    Edits sent s after := by
  obtain ⟨document, hstored, rfl, rfl⟩ := publishVersion_ok h
  exact .published request.principal.subjectId content data document hstored _
    (liveContent_some hcontent).1 (hmove _) hrestored hblocks rfl rfl

theorem edits_createContent {data : ContentCreate} {content : ContentItem}
    (h : createContent request data s = .ok (content, after)) : Edits data.document s after := by
  unfold createContent at h
  dsimp only at h
  split_ifs at h
  · cases h
    exact .created _ rfl rfl rfl rfl
  · obtain ⟨⟨version, grown⟩, happend, h⟩ := bind_ok h
    obtain ⟨document, hstored, rfl, rfl⟩ := appendVersion_ok happend
    cases h
    exact .begun request.principal.subjectId _ _ _ document hstored rfl rfl rfl rfl rfl rfl rfl rfl

theorem edits_updateContent {sent : List ContentBlockInput} {contentId : Uuid} {data : ContentUpdate}
    (h : updateContent request contentId data s = .ok after) : Edits sent s after := by
  have htitle : ∃ content, s.liveContent contentId = some content ∧
      titleNeedsVersion data content = false := by
    unfold updateContent at h
    obtain ⟨content, hcontent, h⟩ := bind_ok h
    refine ⟨content, contentOf_ok hcontent, ?_⟩
    split_ifs at h <;> simp_all
  obtain ⟨content, hcontent, hneeds⟩ := htitle
  obtain ⟨hmem, hid, _⟩ := liveContent_some hcontent
  have hkeeps : content.currentVersionId.isSome = true →
      (applyUpdate request data content).title = content.title := by
    intro hsome
    unfold titleNeedsVersion at hneeds
    rw [hsome, Bool.and_true] at hneeds
    cases htitle : data.title with
    | none => simp [applyUpdate, htitle]
    | some title =>
      rw [htitle] at hneeds
      have heq : title = some content.title := by simpa using hneeds
      simp [applyUpdate, htitle, heq]
  rw [← hid] at h
  obtain ⟨_, _, ⟨rfl, _⟩ | ⟨_, _, _, _, _, rfl⟩⟩ := updateContent_ok h
  · exact .rewritten content hmem (applyUpdate request data) (fun _ => rfl) (fun _ => rfl) hkeeps rfl rfl
  · exact .rewritten content hmem (applyUpdate request data) (fun _ => rfl) (fun _ => rfl) hkeeps rfl rfl

theorem edits_restoreVersion {sent : List ContentBlockInput} {contentId sourceVersionId : Uuid}
    {data : RestoreVersionRequest} {version : ContentVersion}
    (h : restoreVersion request contentId sourceVersionId data s = .ok (version, after)) :
    (∃ source, s.versionOf contentId sourceVersionId = some source ∧
      version.title = source.title ∧ storedDocument source.document = some version.document ∧
      version.contentHash = QualityHash.document source.title source.document) ∧
    Edits sent s after := by
  unfold restoreVersion at h
  obtain ⟨content, hcontent, h⟩ := bind_ok h
  split_ifs at h
  obtain ⟨source, hsource, h⟩ := bind_ok h
  have hlive := contentOf_ok hcontent
  have hof := getVersion_ok hsource
  obtain ⟨hmem, hid, hcontentId⟩ := versionOf_some hof
  have hrestored : RestoresFrom s content.id
      { title := source.title, blocks := source.document, changeKind := .restore,
        changeNote := data.note, sourceSnapshotHash := source.sourceSnapshotHash,
        restoredFromVersionId := some source.id } := by
    intro sourceId heq
    refine ⟨source, List.mem_filter.mpr ⟨hmem, ?_⟩, Option.some.inj heq, rfl, rfl⟩
    rw [hcontentId, (liveContent_some hlive).2.1]
    simp
  have hedits : Edits sent s after :=
    edits_of_publish hlive (fun version => shows_moveToVersion _ version _) hrestored
      (.inr ⟨source, hmem, rfl⟩) h
  obtain ⟨document, hstored, rfl, -⟩ := publishVersion_ok h
  exact ⟨⟨source, hof, rfl, hstored, rfl⟩, hedits⟩

theorem edits_createVersion {contentId : Uuid} {data : ContentVersionCreate} {version : ContentVersion}
    (h : createVersion request contentId data s = .ok (version, after)) : Edits data.document s after := by
  obtain ⟨content, newVersion, hcontent, hsends, hpublish⟩ := createVersion_ok h
  exact edits_of_publish hcontent (fun version => shows_moveToVersion _ version _)
    hsends.restoresFrom (.inl hsends.blocks) hpublish

theorem edits_finalizeForReview {job : ReviewedJob} {title : String} {blocks : List ContentBlockInput}
    {version : ContentVersion} (h : finalizeForReview request job title blocks s = .ok (version, after)) :
    Edits blocks s after := by
  obtain ⟨content, newVersion, hcontent, hsends, hpublish⟩ := finalizeForReview_ok h
  have hmove : ∀ version, Shows version content fun content =>
      { moveToVersion request.principal.subjectId version content with state := .waitingReview } :=
    fun _ => ⟨fun _ => rfl, rfl, rfl⟩
  exact edits_of_publish hcontent hmove hsends.restoresFrom (.inl hsends.blocks) hpublish

theorem edits_softDeleteContent {sent : List ContentBlockInput} {contentId : Uuid}
    (h : softDeleteContent request contentId s = .ok after) : Edits sent s after := by
  have hlive : ∃ content, s.liveContent contentId = some content := by
    unfold softDeleteContent at h
    obtain ⟨content, hcontent, h⟩ := bind_ok h
    exact ⟨content, contentOf_ok hcontent⟩
  obtain ⟨content, hcontent⟩ := hlive
  obtain ⟨hmem, hid, _⟩ := liveContent_some hcontent
  have hafter := softDeleteContent_ok h
  rw [← hid] at hafter
  have hcontents := congrArg Store.contents hafter
  have hversions := congrArg Store.versions hafter
  exact .rewritten content hmem
    (fun content => { content with
      deletedAt := some request.now
      updatedBy := request.principal.subjectId })
    (fun _ => rfl) (fun _ => rfl) (fun _ => rfl) hcontents hversions

end

def sentTitle : Action → String
  | .createContent _ data => data.title
  | .createVersion _ _ data => data.title
  | .finalizeForReview _ _ title _ => title
  | _ => ""

/-- The blocks that an action brings along. -/
def sentBlocks : Action → List ContentBlockInput
  | .createContent _ data => data.document
  | .createVersion _ _ data => data.document
  | .finalizeForReview _ _ _ blocks => blocks
  | _ => []

theorem edits_perform {s after : Store} {action : Action} (h : perform s action = .ok after) :
    Edits (sentBlocks action) s after := by
  cases action with
  | createContent request data =>
    obtain ⟨⟨content, grown⟩, hcreate, rfl⟩ := map_ok h
    exact edits_createContent hcreate
  | createVersion request contentId data =>
    obtain ⟨⟨version, grown⟩, hcreate, rfl⟩ := map_ok h
    exact edits_createVersion hcreate
  | restoreVersion request contentId sourceVersionId data =>
    obtain ⟨⟨version, grown⟩, hrestore, rfl⟩ := map_ok h
    exact (edits_restoreVersion hrestore).2
  | finalizeForReview request job title blocks =>
    obtain ⟨⟨version, grown⟩, hfinalize, rfl⟩ := map_ok h
    exact edits_finalizeForReview hfinalize
  | updateContent request contentId data => exact edits_updateContent h
  | softDeleteContent request contentId => exact edits_softDeleteContent h
  | createQualityConfig request data =>
    obtain ⟨⟨config, grown⟩, hcreate, rfl⟩ := map_ok h
    obtain ⟨_, _, rfl⟩ := createQualityConfig_ok hcreate
    exact .kept rfl rfl
  | createReport request kind data rules =>
    obtain ⟨⟨report, grown⟩, hcreate, rfl⟩ := map_ok h
    obtain ⟨_, _, _, _, _, rfl⟩ := createReport_ok hcreate
    exact .kept rfl rfl
  | createAssessment request data =>
    obtain ⟨⟨assessment, grown⟩, hcreate, rfl⟩ := map_ok h
    obtain ⟨_, _, _, _, _, _, _, hrecord⟩ := createAssessment_ok hcreate
    rw [(recordAssessment_ok hrecord).2]
    exact .kept rfl rfl
  | createPolicyOverride request eventId data =>
    obtain ⟨⟨override, grown⟩, hcreate, rfl⟩ := map_ok h
    obtain ⟨_, _, _, _, rfl⟩ := createPolicyOverride_ok hcreate
    exact .kept rfl rfl
  | createApprovalRequest request data =>
    obtain ⟨⟨row, grown⟩, hcreate, rfl⟩ := map_ok h
    obtain ⟨_, _, _, _, _, _, hsupersede, _, hinsert⟩ := createApprovalRequest_ok hcreate
    rw [insertRequest_ok hinsert]
    rcases supersede_ok hsupersede with rfl | ⟨_, rfl⟩ <;> exact .kept rfl rfl
  | decideApprovalRequest request requestId data =>
    obtain ⟨⟨recorded, grown⟩, hdecide, rfl⟩ := map_ok h
    obtain ⟨_, _, _, _, ⟨_, _, rfl⟩ | ⟨_, rfl⟩ | ⟨_, _, _, _, _, rfl⟩⟩ :=
      decideApprovalRequest_ok hdecide <;> exact .kept rfl rfl
  | invalidateApprovalsAfterEdit request contentId data =>
    rw [invalidateApprovalsAfterEdit_ok h]
    exact .kept rfl rfl

theorem edits_step (s : Store) (action : Action) : Edits (sentBlocks action) s (step s action) := by
  unfold step
  split
  · exact edits_perform ‹_›
  · exact .kept rfl rfl

/-! ## Every action continues the histories -/

structure HistoryBooks (s : Store) : Prop where
  owned : ∀ version ∈ s.versions, ∃ content ∈ s.contents, content.id = version.contentId
  linked : ∀ content ∈ s.contents, LinkedHistory (versionsOf s content.id) content
  kept : ∀ version ∈ s.versions, storedDocument version.document = some version.document

omit [QualityHash] in
theorem title_writeContent {f : ContentItem → ContentItem} (row : ContentItem) :
    (writeContent f row).title = (f row).title := by
  unfold writeContent
  split
  · rename_i heq
    rw [heq]
  · rfl

omit [QualityHash] in
theorem versionsOf_congr {s after : Store} (h : after.versions = s.versions) (contentId : Uuid) :
    versionsOf after contentId = versionsOf s contentId := by
  unfold versionsOf
  rw [h]

omit [QualityHash] in
theorem versionsOf_append {s after : Store} {version : ContentVersion}
    (h : after.versions = s.versions ++ [version]) (contentId : Uuid) : versionsOf after contentId =
      if version.contentId = contentId then versionsOf s contentId ++ [version]
      else versionsOf s contentId := by
  unfold versionsOf
  rw [h, List.filter_append, List.filter_singleton]
  split <;> simp_all

omit [QualityHash] in
/-- A property of all rows after one content was written. -/
theorem forall_written {contents : List ContentItem} {content : ContentItem} {f : ContentItem → ContentItem}
    {P : ContentItem → Prop} (hkeyed : Keyed (·.id) contents) (hcontent : content ∈ contents)
    (hwritten : P (writeContent f content)) (hothers : ∀ other ∈ contents, other.id ≠ content.id → P other) :
    ∀ row ∈ updateRow (·.id) content.id (writeContent f) contents, P row := by
  intro row hrow
  obtain ⟨old, hold, ⟨hid, rfl⟩ | ⟨hne, rfl⟩⟩ := mem_updateRow hrow
  · rw [hkeyed.eq_of_key_eq hold hcontent hid]
    exact hwritten
  · exact hothers _ hold hne

omit [QualityHash] in
theorem owned_written {contents : List ContentItem} {contentId owner : Uuid} {f : ContentItem → ContentItem}
    (hf : ∀ row, (f row).id = row.id) (h : ∃ content ∈ contents, content.id = owner) :
    ∃ content ∈ updateRow (·.id) contentId (writeContent f) contents, content.id = owner := by
  obtain ⟨content, hcontent, hid⟩ := h
  by_cases hkey : content.id = contentId
  · exact ⟨_, mem_updateRow_of_mem hcontent hkey, (id_writeContent hf content).trans hid⟩
  · exact ⟨content, mem_updateRow_of_ne hcontent hkey, hid⟩

section

variable {actorId : Uuid} {s : Store} {content : ContentItem} {data : NewVersion}
variable {document : List ContentBlockInput} (hstored : storedDocument data.blocks = some document)

include hstored

theorem continues_appended (h : HistoryBooks s) (hcontent : content ∈ s.contents)
    (hrestored : RestoresFrom s content.id data) :
    Continues (versionsOf s content.id) content (appended actorId s content data document) where
  number := by
    change Quality.lastVersionNumber s content.id + 1 = _
    rw [(h.linked content hcontent).lastVersionNumber]
  parent := rfl
  restored sourceId hsource := by
    obtain ⟨source, hmem, hid, htitle, hblocks⟩ := hrestored sourceId hsource
    refine ⟨source, hmem, hid, htitle, ?_⟩
    rw [hblocks, h.kept source (List.mem_filter.mp hmem).1] at hstored
    exact (Option.some.inj hstored).symm

theorem historyBooks_published {after : Store} (h : HistoryBooks s) (hkeyed : Keyed (·.id) s.contents)
    {move : ContentItem → ContentItem} (hcontent : content ∈ s.contents)
    (hmove : Shows (appended actorId s content data document) content move)
    (hrestored : RestoresFrom s content.id data)
    (hcontents : after.contents = updateRow (·.id) content.id (writeContent move) s.contents)
    (hversions : after.versions = s.versions ++ [appended actorId s content data document]) :
    HistoryBooks after := by
  refine ⟨?_, ?_, ?_⟩
  · rw [hcontents, hversions]
    intro version hversion
    rcases List.mem_append.mp hversion with hold | hnew
    · exact owned_written hmove.id (h.owned version hold)
    · rw [List.mem_singleton.mp hnew]
      exact owned_written hmove.id ⟨content, hcontent, rfl⟩
  · rw [hcontents]
    have hof : (appended actorId s content data document).contentId = content.id := rfl
    refine forall_written hkeyed hcontent ?_ fun other hother hne => ?_
    · rw [id_writeContent hmove.id, versionsOf_append hversions, if_pos hof]
      refine (h.linked content hcontent).append
        (continues_appended hstored h hcontent hrestored) ?_ ?_
      · rw [currentVersionId_writeContent]
        exact hmove.current
      · rw [title_writeContent]
        exact hmove.title
    · rw [versionsOf_append hversions, if_neg (hof.trans_ne (Ne.symm hne))]
      exact h.linked other hother
  · rw [hversions]
    intro version hversion
    rcases List.mem_append.mp hversion with hold | hnew
    · exact h.kept version hold
    · rw [List.mem_singleton.mp hnew]
      exact storedDocument_again hstored

end

section

variable {s : Store} (h : HistoryBooks s) (hbooks : VersionBooks s)

include h hbooks

theorem versionsOf_new : versionsOf s s.nextId = [] := by
  apply List.filter_eq_nil_iff.mpr
  intro version hversion
  obtain ⟨content, hcontent, hid⟩ := h.owned version hversion
  have hlt := hbooks.contents_old content hcontent
  rw [hid] at hlt
  simp only [decide_eq_true_eq]
  exact hlt.ne

theorem historyBooks_created {after : Store} {content : ContentItem} (hid : content.id = s.nextId)
    (hnone : content.currentVersionId = none) (hcontents : after.contents = s.contents ++ [content])
    (hversions : after.versions = s.versions) : HistoryBooks after := by
  refine ⟨?_, ?_, hversions ▸ h.kept⟩
  · rw [hcontents, hversions]
    intro version hversion
    obtain ⟨owner, howner, hof⟩ := h.owned version hversion
    exact ⟨owner, List.mem_append_left _ howner, hof⟩
  · rw [hcontents]
    intro row hrow
    rw [versionsOf_congr hversions]
    rcases List.mem_append.mp hrow with hold | hnew
    · exact h.linked row hold
    · rw [List.mem_singleton.mp hnew, hid, versionsOf_new h hbooks]
      exact linkedHistory_nil hnone

theorem historyBooks_step (action : Action) : HistoryBooks (step s action) := by
  cases edits_step s action with
  | kept hcontents hversions =>
    refine ⟨?_, ?_, hversions ▸ h.kept⟩
    · rw [hcontents, hversions]
      exact h.owned
    · rw [hcontents]
      intro content hcontent
      rw [versionsOf_congr hversions]
      exact h.linked content hcontent
  | rewritten content hcontent f hid hcurrent htitle hcontents hversions =>
    refine ⟨?_, ?_, hversions ▸ h.kept⟩
    · rw [hcontents, hversions]
      exact fun version hversion => owned_written hid (h.owned version hversion)
    · rw [hcontents]
      refine forall_written hbooks.contents_keyed hcontent ?_ fun other hother _ => ?_
      · rw [id_writeContent hid, versionsOf_congr hversions]
        refine (h.linked content hcontent).congr ?_ fun hne => ?_
        · rw [currentVersionId_writeContent, hcurrent]
        · rw [title_writeContent]
          apply htitle
          rw [(h.linked content hcontent).current, Option.isSome_map]
          simpa using hne
      · rw [versionsOf_congr hversions]
        exact h.linked other hother
  | created content hid hnone hcontents hversions =>
    exact historyBooks_created h hbooks hid hnone hcontents hversions
  | begun actorId content data grown document hstored hid hnone htitle hrestored _ hgrown hcontents
      hversions =>
    -- first the content without versions, then its first version
    have hmiddle : HistoryBooks grown :=
      historyBooks_created h hbooks hid hnone (by rw [hgrown]) (by rw [hgrown])
    have hkeyed : Keyed (·.id) grown.contents := by
      rw [hgrown]
      apply hbooks.contents_keyed.append_row
      intro other hother
      rw [hid]
      exact (hbooks.contents_old other hother).ne
    have hcontent : content ∈ grown.contents := by
      rw [hgrown]
      exact List.mem_append_right _ (List.mem_singleton_self _)
    have hshows : Shows (appended actorId grown content data document) content fun row =>
        { row with currentVersionId := some (appended actorId grown content data document).id } :=
      ⟨fun _ => rfl, rfl, htitle⟩
    refine historyBooks_published hstored hmiddle hkeyed hcontent hshows (fun sourceId hsource => ?_) ?_ ?_
    · rw [hrestored] at hsource
      cases hsource
    · rw [hcontents, hgrown]
    · rw [hversions, hgrown]
  | published actorId content data document hstored move hcontent hmove hrestored _ hcontents
      hversions =>
    exact historyBooks_published hstored h hbooks.contents_keyed hcontent hmove hrestored hcontents hversions

end

end History

/-! ## The service behind its schemas -/

section Service

variable [QualityHash] [TextCase]

/-- `restore_version` asks the block schema about the stored document. -/
def revalidatedRestore (request : Request) (contentId sourceVersionId : Uuid)
    (data : RestoreVersionRequest) (s : Store) : Result (ContentVersion × Store) := do
  let content ← contentOf s contentId
  if content.currentVersionId ≠ some data.expectedCurrentVersionId then
    .error (lockConflictId (some data.expectedCurrentVersionId) content.currentVersionId)
  else do
    let source ← getVersion s contentId sourceVersionId
    let blocks ← validateBlocks source.document
    publishVersion request content
      { title := source.title, blocks := blocks, changeKind := .restore,
        changeNote := data.note, sourceSnapshotHash := source.sourceSnapshotHash,
        restoredFromVersionId := some source.id }
      (moveToVersion request.principal.subjectId)
      "콘텐츠 버전이 복원되어 승인 대상이 변경됨" s

/-- An action whose blocks pass their schema first. -/
def receive (s : Store) : Action → Result Store
  | .createContent request data => do
    let document ← validateBlocks data.document
    perform s (.createContent request { data with document := document })
  | .createVersion request contentId data => do
    let document ← validateBlocks data.document
    perform s (.createVersion request contentId { data with document := document })
  | .restoreVersion request contentId sourceVersionId data =>
    (revalidatedRestore request contentId sourceVersionId data s).map (·.2)
  | .finalizeForReview request job title blocks => do
    let blocks ← validateBlocks blocks
    perform s (.finalizeForReview request job title blocks)
  | action => perform s action

def serve (s : Store) (action : Action) : Store :=
  match receive s action with
  | .ok after => after
  | .error _ => s

theorem serve_of_ok {s after : Store} {action : Action} (h : receive s action = .ok after) :
    serve s action = after := by
  unfold serve
  rw [h]

/-- Every stored document passes the block schema as it is. -/
def Accepted (s : Store) : Prop :=
  ∀ version ∈ s.versions, validateBlocks version.document = .ok version.document

theorem revalidatedRestore_eq {s : Store} (h : Accepted s) (request : Request)
    (contentId sourceVersionId : Uuid) (data : RestoreVersionRequest) :
    revalidatedRestore request contentId sourceVersionId data s =
      restoreVersion request contentId sourceVersionId data s := by
  unfold revalidatedRestore restoreVersion
  cases hcontent : contentOf s contentId with
  | error failure => rfl
  | ok content =>
    simp only [bind, Except.bind]
    split
    · rfl
    · cases hsource : getVersion s contentId sourceVersionId with
      | error failure => rfl
      | ok source =>
        have hmem := (versionOf_some (getVersion_ok hsource)).1
        simp only [h source hmem]

/-- The action reaches the service as `sent`, with the blocks that its schema let in. -/
structure LetsIn (action sent : Action) : Prop where
  blocks : validateBlocks (sentBlocks action) = .ok (sentBlocks sent)
  title : sentTitle sent = sentTitle action

/-- Behind the schemas the service does what it does with validated blocks. -/
theorem admit_perform {s after : Store} (haccepted : Accepted s) {action : Action}
    (h : receive s action = .ok after) : ∃ sent, LetsIn action sent ∧ perform s sent = .ok after := by
  cases action with
  | createContent request data =>
    obtain ⟨document, hdocument, h⟩ := bind_ok h
    exact ⟨.createContent request { data with document := document }, ⟨hdocument, rfl⟩, h⟩
  | createVersion request contentId data =>
    obtain ⟨document, hdocument, h⟩ := bind_ok h
    exact ⟨.createVersion request contentId { data with document := document },
      ⟨hdocument, rfl⟩, h⟩
  | restoreVersion request contentId sourceVersionId data =>
    have hrestore : (revalidatedRestore request contentId sourceVersionId data s).map (·.2) =
        .ok after := h
    rw [revalidatedRestore_eq haccepted] at hrestore
    exact ⟨.restoreVersion request contentId sourceVersionId data, ⟨rfl, rfl⟩, hrestore⟩
  | finalizeForReview request job title blocks =>
    obtain ⟨document, hdocument, h⟩ := bind_ok h
    exact ⟨.finalizeForReview request job title document, ⟨hdocument, rfl⟩, h⟩
  | updateContent request contentId data =>
    exact ⟨.updateContent request contentId data, ⟨rfl, rfl⟩, h⟩
  | softDeleteContent request contentId => exact ⟨.softDeleteContent request contentId, ⟨rfl, rfl⟩, h⟩
  | createQualityConfig request data => exact ⟨.createQualityConfig request data, ⟨rfl, rfl⟩, h⟩
  | createReport request kind data rules => exact ⟨.createReport request kind data rules, ⟨rfl, rfl⟩, h⟩
  | createAssessment request data => exact ⟨.createAssessment request data, ⟨rfl, rfl⟩, h⟩
  | createPolicyOverride request eventId data =>
    exact ⟨.createPolicyOverride request eventId data, ⟨rfl, rfl⟩, h⟩
  | createApprovalRequest request data => exact ⟨.createApprovalRequest request data, ⟨rfl, rfl⟩, h⟩
  | decideApprovalRequest request requestId data =>
    exact ⟨.decideApprovalRequest request requestId data, ⟨rfl, rfl⟩, h⟩
  | invalidateApprovalsAfterEdit request contentId data =>
    exact ⟨.invalidateApprovalsAfterEdit request contentId data, ⟨rfl, rfl⟩, h⟩

theorem serve_step {s : Store} (haccepted : Accepted s) (action : Action) :
    serve s action = s ∨ ∃ sent, LetsIn action sent ∧ serve s action = step s sent := by
  unfold serve
  cases h : receive s action with
  | error failure => exact .inl rfl
  | ok after =>
    obtain ⟨sent, hsent, hperform⟩ := admit_perform haccepted h
    exact .inr ⟨sent, hsent, (step_of_ok hperform).symm⟩

omit [TextCase] in
/-- A version that a step adds holds what the column gives back of the blocks it was made of. -/
theorem mem_versions_step {s : Store} {action : Action} {version : ContentVersion}
    (h : version ∈ (step s action).versions) : version ∈ s.versions ∨
      ∃ blocks, (blocks = sentBlocks action ∨ ∃ source ∈ s.versions, blocks = source.document) ∧
        storedDocument blocks = some version.document ∧
        version.contentHash = QualityHash.document version.title blocks := by
  cases edits_step s action with
  | kept _ hversions => exact .inl (hversions ▸ h)
  | rewritten _ _ _ _ _ _ _ hversions => exact .inl (hversions ▸ h)
  | created _ _ _ _ hversions => exact .inl (hversions ▸ h)
  | begun actorId content data grown document hstored _ _ _ _ hblocks _ _ hversions =>
    rw [hversions] at h
    refine (List.mem_append.mp h).imp_right fun hnew => ?_
    rw [List.mem_singleton.mp hnew]
    exact ⟨data.blocks, .inl hblocks, hstored, rfl⟩
  | published actorId content data document hstored _ _ _ _ hblocks _ hversions =>
    rw [hversions] at h
    refine (List.mem_append.mp h).imp_right fun hnew => ?_
    rw [List.mem_singleton.mp hnew]
    exact ⟨data.blocks, hblocks, hstored, rfl⟩

theorem accepted_step {s : Store} (h : Accepted s) {action : Action}
    (hsent : ∀ block ∈ sentBlocks action, block.blockType ∈ supportedBlockTypes) :
    Accepted (step s action) := by
  intro version hversion
  rcases mem_versions_step hversion with hold | ⟨blocks, hblocks, hstored, _⟩
  · exact h version hold
  · refine validateBlocks_supported (supported_stored hstored ?_)
    rcases hblocks with rfl | ⟨source, hsource, rfl⟩
    · exact hsent
    · exact supported_validated (h source hsource)

/-- Every version has the hash of the title and the document that it shows. -/
def Hashed (s : Store) : Prop :=
  ∀ version ∈ s.versions, version.contentHash = QualityHash.document version.title version.document

omit [TextCase] in
theorem hashed_step {s : Store} (h : Hashed s) (hbooks : HistoryBooks s) {action : Action}
    (hsent : ∀ block ∈ sentBlocks action, Unaltered block) : Hashed (step s action) := by
  intro version hversion
  rcases mem_versions_step hversion with hold | ⟨blocks, hblocks, hstored, hhash⟩
  · exact h version hold
  · have hsame : storedDocument blocks = some blocks := by
      rcases hblocks with rfl | ⟨source, hsource, rfl⟩
      · exact storedDocument_eq_self.mpr hsent
      · exact hbooks.kept source hsource
    obtain rfl := Option.some.inj (hsame.symm.trans hstored)
    exact hhash

/-- What holds of the store after every run of the service. -/
structure ServedBooks (s : Store) : Prop where
  quorum : QuorumBooks s
  versions : VersionBooks s
  histories : HistoryBooks s
  accepted : Accepted s

theorem servedBooks_empty : ServedBooks {} where
  quorum := quorumBooks_empty
  versions := versionBooks_empty
  histories := ⟨fun _ hversion => absurd hversion (List.not_mem_nil),
    fun _ hcontent => absurd hcontent (List.not_mem_nil),
    fun _ hversion => absurd hversion (List.not_mem_nil)⟩
  accepted _ h := by cases h

theorem servedBooks_serve {s : Store} (h : ServedBooks s) (action : Action) :
    ServedBooks (serve s action) := by
  rcases serve_step h.accepted action with heq | ⟨sent, hsent, heq⟩
  · rwa [heq]
  · rw [heq]
    exact ⟨quorumBooks_step s sent h.quorum, versionBooks_step h.versions h.quorum.keyed,
      historyBooks_step h.histories h.versions sent,
      accepted_step h.accepted (supported_validated hsent.blocks)⟩

theorem servedBooks_run (actions : List Action) : ServedBooks (run serve {} actions) :=
  invariant_run serve (I := ServedBooks) (fun _ action h => servedBooks_serve h action)
    servedBooks_empty actions

/-- The request starts from another version than the last one of the history. -/
def Outdated (data : ContentVersionCreate) (history : List ContentVersion) : Prop :=
  data.expectedCurrentVersionId ≠ history.getLast?.map (·.id) ∨
    ∃ version hash, history.getLast? = some version ∧ data.expectedCurrentHash = some hash ∧
      hash ≠ version.contentHash

section

variable {s : Store} (h : ServedBooks s) {content : ContentItem} {data : ContentVersionCreate}

include h

theorem createVersion_outdated {request : Request} (hcontent : content ∈ s.contents)
    (houtdated : Outdated data (versionsOf s content.id)) :
    ∀ result, createVersion request content.id data s ≠ .ok result := by
  intro result hok
  obtain ⟨found, hfound, hok⟩ := bind_ok hok
  obtain ⟨current, hcurrent, _⟩ := bind_ok hok
  obtain ⟨hmem, hid, _⟩ := liveContent_some (contentOf_ok hfound)
  obtain rfl := h.versions.contents_keyed.eq_of_key_eq hmem hcontent hid
  have hlast := (h.histories.linked found hmem).current
  unfold assertCurrentVersion at hcurrent
  split_ifs at hcurrent with hsame
  rw [not_not, hlast] at hsame
  rcases houtdated with hother | ⟨version, hash, hversion, hexpected, hne⟩
  · exact hother hsame.symm
  · rw [hlast, hversion] at hcurrent
    have hin : version ∈ s.versions := (List.mem_filter.mp (List.mem_of_getLast? hversion)).1
    simp only [Option.map_some, h.versions.versions_keyed.find?_eq hin, hexpected,
      Option.any_some] at hcurrent
    rw [if_pos (by simpa using hne)] at hcurrent
    cases hcurrent

theorem serve_outdated (request : Request) (hcontent : content ∈ s.contents)
    (houtdated : Outdated data (versionsOf s content.id)) :
    serve s (.createVersion request content.id data) = s := by
  unfold serve
  cases henrol : receive s (.createVersion request content.id data) with
  | error failure => rfl
  | ok after =>
    obtain ⟨document, _, hperform⟩ := bind_ok henrol
    obtain ⟨result, hcreate, _⟩ := map_ok hperform
    have hstill : Outdated { data with document := document } (versionsOf s content.id) := houtdated
    exact absurd hcreate (createVersion_outdated h hcontent hstill result)

end

/-- A restore makes a version that shows what the restored version shows. -/
theorem revalidatedRestore_same {s after : Store} (h : ServedBooks s) {request : Request}
    {contentId sourceVersionId : Uuid} {data : RestoreVersionRequest} {version : ContentVersion}
    (hok : revalidatedRestore request contentId sourceVersionId data s = .ok (version, after)) :
    ∃ source, s.versionOf contentId sourceVersionId = some source ∧
      version.title = source.title ∧ version.document = source.document ∧
      version.contentHash = QualityHash.document source.title source.document := by
  rw [revalidatedRestore_eq h.accepted] at hok
  obtain ⟨⟨source, hsource, htitle, hstored, hhash⟩, _⟩ :=
    (edits_restoreVersion hok : _ ∧ Edits [] s after)
  have hkept := h.histories.kept source (versionOf_some hsource).1
  exact ⟨source, hsource, htitle, Option.some.inj (hstored.symm.trans hkept), hhash⟩

/-- The versions of a content are one line, and each has the hash of what it shows. -/
structure LinearHistory (history : List ContentVersion) (content : ContentItem) : Prop extends
    LinkedHistory history content where
  hashed : ∀ version ∈ history, version.contentHash = QualityHash.document version.title version.document
  restored_hash : ∀ version ∈ history, ∀ source ∈ history,
    version.restoredFromVersionId = some source.id → version.contentHash = source.contentHash

/-- The versions of every content are one line that ends at its current version, a restore
repeats the version it restores, and an edit that starts from another version than the last
changes nothing. -/
structure ContentHistories (s : Store) : Prop where
  linear : ∀ content ∈ s.contents, LinearHistory (versionsOf s content.id) content
  restores : ∀ request contentId sourceVersionId data version after,
    revalidatedRestore request contentId sourceVersionId data s = .ok (version, after) →
    ∃ source, s.versionOf contentId sourceVersionId = some source ∧
      version.title = source.title ∧ version.document = source.document ∧
      version.contentHash = source.contentHash
  outdated : ∀ request, ∀ content ∈ s.contents, ∀ data, Outdated data (versionsOf s content.id) →
    serve s (.createVersion request content.id data) = s

theorem contentHistories_of_hashed {s : Store} (h : ServedBooks s) (hhashed : Hashed s) :
    ContentHistories s where
  linear content hcontent := by
    have hmem : ∀ version ∈ versionsOf s content.id, version ∈ s.versions :=
      fun version hversion => (List.mem_filter.mp hversion).1
    have hlinked := h.histories.linked content hcontent
    refine ⟨hlinked, fun version hversion => hhashed version (hmem version hversion), ?_⟩
    intro version hversion source hsource hof
    obtain ⟨restored, hrestored, hid, htitle, hdocument⟩ := hlinked.restored version hversion _ hof
    obtain rfl : restored = source :=
      h.versions.versions_keyed.eq_of_key_eq (hmem restored hrestored) (hmem source hsource) hid
    rw [hhashed version (hmem version hversion), hhashed restored (hmem restored hrestored),
      htitle, hdocument]
  restores request contentId sourceVersionId data version after hok := by
    obtain ⟨source, hsource, htitle, hdocument, hhash⟩ := revalidatedRestore_same h hok
    have hstored := hhashed source (versionOf_some hsource).1
    exact ⟨source, hsource, htitle, hdocument, hhash.trans hstored.symm⟩
  outdated request content hcontent data houtdated := serve_outdated h request hcontent houtdated

/-- JSONB gives the JSON of every block that the action brings along back as it was sent. -/
def SendsUnaltered (action : Action) : Prop := ∀ block ∈ sentBlocks action, Unaltered block

theorem servedHashed_serve {s : Store} (h : ServedBooks s ∧ Hashed s) {action : Action}
    (hsends : SendsUnaltered action) : ServedBooks (serve s action) ∧ Hashed (serve s action) := by
  refine ⟨servedBooks_serve h.1 action, ?_⟩
  rcases serve_step h.1.accepted action with heq | ⟨sent, hsent, heq⟩
  · rw [heq]
    exact h.2
  · rw [heq]
    exact hashed_step h.2 h.1.histories ((unaltered_validated hsent.blocks).mp hsends)

theorem hashed_run {actions : List Action} (hsends : ∀ action ∈ actions, SendsUnaltered action) :
    Hashed (run serve {} actions) := by
  have hempty : Hashed {} := fun _ hversion => absurd hversion List.not_mem_nil
  refine (invariant_along serve (I := fun s => ServedBooks s ∧ Hashed s) ?_
    ⟨servedBooks_empty, hempty⟩ (along_of_forall serve (P := SendsUnaltered) hsends)).2
  exact fun s action h hsends => servedHashed_serve h hsends

/-- A version that holds the column's copy of the blocks and the hash of the blocks as sent. -/
def Wrote (title : String) (blocks : List ContentBlockInput) (after : Store) : Prop :=
  ∃ version ∈ after.versions, storedDocument blocks = some version.document ∧
    version.title = title ∧ version.contentHash = QualityHash.document title blocks

omit [TextCase] in
theorem wrote_publish {s after : Store} {request : Request} {content : ContentItem} {data : NewVersion}
    {move : ContentVersion → ContentItem → ContentItem} {reason : String} {version : ContentVersion}
    (h : publishVersion request content data move reason s = .ok (version, after)) :
    Wrote data.title data.blocks after := by
  obtain ⟨document, hstored, rfl, rfl⟩ := publishVersion_ok h
  exact ⟨_, List.mem_append_right _ (List.mem_singleton_self _), hstored, rfl, rfl⟩

omit [TextCase] in
/-- An accepted action with blocks wrote them. -/
theorem wrote_perform {s after : Store} {action : Action} (hsent : sentBlocks action ≠ [])
    (h : perform s action = .ok after) : Wrote (sentTitle action) (sentBlocks action) after := by
  cases action with
  | createContent request data =>
    obtain ⟨⟨content, grown⟩, hcreate, rfl⟩ := map_ok h
    unfold createContent at hcreate
    dsimp only at hcreate
    rw [if_neg (show ¬ data.document = [] from hsent)] at hcreate
    obtain ⟨⟨version, middle⟩, happend, hcreate⟩ := bind_ok hcreate
    obtain ⟨document, hstored, rfl, rfl⟩ := appendVersion_ok happend
    cases hcreate
    exact ⟨_, List.mem_append_right _ (List.mem_singleton_self _), hstored, rfl, rfl⟩
  | createVersion request contentId data =>
    obtain ⟨⟨version, grown⟩, hcreate, rfl⟩ := map_ok h
    obtain ⟨content, newVersion, _, ⟨htitle, hblocks, _⟩, hpublish⟩ := createVersion_ok hcreate
    rw [sentTitle, sentBlocks, ← htitle, ← hblocks]
    exact wrote_publish hpublish
  | finalizeForReview request job title blocks =>
    obtain ⟨⟨version, grown⟩, hfinalize, rfl⟩ := map_ok h
    obtain ⟨content, newVersion, _, ⟨htitle, hblocks, _⟩, hpublish⟩ := finalizeForReview_ok hfinalize
    rw [sentTitle, sentBlocks, ← htitle, ← hblocks]
    exact wrote_publish hpublish
  | _ => exact absurd rfl hsent

/-- The digest tells what is sent from what the column gives back of it. -/
def TellsApart (action : Action) : Prop :=
  ∀ sent kept, validateBlocks (sentBlocks action) = .ok sent → storedDocument sent = some kept →
    QualityHash.document (sentTitle action) kept = QualityHash.document (sentTitle action) sent →
    kept = sent

/-- After an accepted action the hash of its version is that of the stored document only when
the column altered nothing. -/
theorem sendsUnaltered_of_hashed {s after : Store} (h : ServedBooks s) {action : Action}
    (hok : receive s action = .ok after) (happart : TellsApart action) (hhashed : Hashed after) :
    SendsUnaltered action := by
  obtain ⟨sent, hsent, hperform⟩ := admit_perform h.accepted hok
  refine (unaltered_validated hsent.blocks).mpr (storedDocument_eq_self.mp ?_)
  by_cases hnone : sentBlocks sent = []
  · rw [hnone]
    rfl
  · obtain ⟨version, hversion, hstored, htitle, hhash⟩ := wrote_perform hnone hperform
    have hshown := hhashed version hversion
    rw [hhash, htitle, hsent.title] at hshown
    rwa [happart _ _ hsent.blocks hstored hshown.symm] at hstored

theorem ContentHistories.toHashed {s : Store} (h : ContentHistories s) (hbooks : ServedBooks s) :
    Hashed s := by
  intro version hversion
  obtain ⟨content, hcontent, hid⟩ := hbooks.histories.owned version hversion
  refine (h.linear content hcontent).hashed version (List.mem_filter.mpr ⟨hversion, ?_⟩)
  simpa using hid.symm

end Service

section Sample

def largeNumber : Json := "\x7b\"views\":1e+16\x7d"

def largeNumberStored : Json := "\x7b\"views\":10000000000000000\x7d"

/-- JSONB writes a large number out. -/
@[reducible] def sampleJsonb : QualityHash := { sampleHash with
  stored := fun json => some (if json = largeNumber then largeNumberStored else json)
  stored_again := by
    intro sent kept h
    obtain rfl := Option.some.inj h
    by_cases hlarge : sent = largeNumber
    · rw [if_pos hlarge, if_neg (by decide)]
    · rw [if_neg hlarge, if_neg hlarge]
  document := fun title blocks => title ++ String.join (blocks.map (·.payload)) }

@[reducible] def sampleCase : TextCase where
  upper := id
  upper_ascii _ _ := rfl

def createPost (payload : Json) : Action := .createContent sampleRequest
    { channel := "blog", title := "post",
      document := [{ blockKey := 1, blockType := "PARAGRAPH", payload := payload }] }

def sampleEdit : Action := .createVersion sampleRequest 0
    { expectedCurrentVersionId := some 1, expectedCurrentHash := some "post\x7b\x7d",
      title := "second", document := [{ blockKey := 2, blockType := "QUOTE" }] }

def sampleRestore : Action := .restoreVersion sampleRequest 0 1 { expectedCurrentVersionId := 2 }

attribute [local instance] sampleJsonb sampleCase

theorem tellsApart_createPost : TellsApart (createPost largeNumber) := by
  intro sent kept hsent hkept hsame
  obtain rfl := Except.ok.inj hsent
  obtain rfl := Option.some.inj hkept
  exact absurd hsame (by decide +kernel)

end Sample

end BlogOps.Quality
