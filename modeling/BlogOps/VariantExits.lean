import BlogOps.VariantApprovals

/-!
# The exits of repurposed variants

Export reads the latest decision on a variant, delivery the one it is told.
They are open to the same variants as long as no decision takes an approval
back.
-/

namespace BlogOps.Repurpose

open EffectRules KeyedTables TransitionRuns List

variable {variantId : Uuid} {call : ApprovalCall} {t : VariantDesk}

theorem mem_decisionsOn {approvals : List RepurposeApproval} {row : RepurposeApproval} :
    row ∈ decisionsOn approvals variantId ↔ row ∈ approvals ∧ row.variantId = variantId := by
  simp [decisionsOn]

theorem RepurposeApproval.id_eq_of_order {row other : RepurposeApproval}
    (h : row.order = other.order) : row.id = other.id :=
  congrArg (fun p => (ofLex p).2) h

theorem latestApproval_iff {approvals : List RepurposeApproval}
    (hkeyed : Keyed RepurposeApproval.id approvals) (row : RepurposeApproval) :
    latestApproval approvals variantId = some row ↔
      IsLatest approvals row ∧ row.variantId = variantId := by
  constructor
  · intro h
    obtain ⟨hrow, hon⟩ := mem_decisionsOn.mp (argmax_mem h)
    refine ⟨⟨hrow, fun other hother hsame => ?_⟩, hon⟩
    apply le_of_mem_argmax (mem_decisionsOn.mpr ⟨hother, hsame.trans hon⟩) h
  · rintro ⟨⟨hrow, hlatest⟩, hon⟩
    have hmem : row ∈ decisionsOn approvals variantId := mem_decisionsOn.mpr ⟨hrow, hon⟩
    cases hmax : latestApproval approvals variantId with
    | none =>
      rw [argmax_eq_none.mp hmax] at hmem
      cases hmem
    | some best =>
      obtain ⟨hbest, hbestOn⟩ := mem_decisionsOn.mp (argmax_mem hmax)
      have hle : row.order ≤ best.order := le_of_mem_argmax hmem hmax
      have hge : best.order ≤ row.order := hlatest best hbest (hbestOn.trans hon.symm)
      have hid := RepurposeApproval.id_eq_of_order (le_antisymm hge hle)
      rw [hkeyed.eq_of_key_eq hbest hrow hid]

section

variable {approvals : List RepurposeApproval} {row : RepurposeApproval}

/-- A decision made after all others on its variant is the latest. -/
theorem isLatest_new (h : ∀ other ∈ approvals, other.variantId = row.variantId → other.order ≤ row.order) :
    IsLatest (approvals ++ [row]) row := by
  refine ⟨by simp, fun other hother hsame => ?_⟩
  rcases mem_append.mp hother with hold | hnew
  · exact h other hold hsame
  · rw [mem_singleton.mp hnew]

/-- A decision stays the latest when the next one is no later or on another variant. -/
theorem IsLatest.concat {latest : RepurposeApproval} (h : IsLatest approvals latest)
    (hrow : row.variantId = latest.variantId → row.order ≤ latest.order) :
    IsLatest (approvals ++ [row]) latest := by
  refine ⟨mem_append_left _ h.1, fun other hother hsame => ?_⟩
  rcases mem_append.mp hother with hold | hnew
  · exact h.2 other hold hsame
  · rw [mem_singleton.mp hnew] at hsame ⊢
    exact hrow hsame

theorem hasApproval_concat : HasApproval (approvals ++ [row]) variantId ↔
      HasApproval approvals variantId ∨ row.variantId = variantId ∧ row.decision = .approve := by
  simp [HasApproval, or_and_right, exists_or]

end

/-- Every variant with an approval has an approval as its latest decision. -/
def Standing (approvals : List RepurposeApproval) : Prop :=
  ∀ variantId, HasApproval approvals variantId →
    ∃ row, IsLatest approvals row ∧ row.variantId = variantId ∧ row.decision = .approve

/-- What the next decision has to be for every approval to stand. -/
def LeavesStanding (approvals : List RepurposeApproval) (row : RepurposeApproval) : Prop :=
  if row.decision = .approve then
    HasApproval approvals row.variantId ∨
      ∀ other ∈ approvals, other.variantId = row.variantId → other.order < row.order
  else
    HasApproval approvals row.variantId →
      ∃ other ∈ approvals, other.variantId = row.variantId ∧ other.decision = .approve ∧
        row.order < other.order

section Concat

variable {approvals : List RepurposeApproval} {row : RepurposeApproval}

theorem order_lt_of_le (hfresh : ∀ other ∈ approvals, other.id ≠ row.id) {other : RepurposeApproval}
    (hother : other ∈ approvals) (h : other.order ≤ row.order) : other.order < row.order := by
  apply lt_of_le_of_ne h
  intro heq
  exact hfresh other hother (RepurposeApproval.id_eq_of_order heq)

theorem leavesStanding_of_standing (hfresh : ∀ other ∈ approvals, other.id ≠ row.id)
    (h : Standing (approvals ++ [row])) : LeavesStanding approvals row := by
  unfold LeavesStanding
  split
  · rename_i happrove
    by_cases hold : HasApproval approvals row.variantId
    · exact .inl hold
    · right
      obtain ⟨latest, ⟨hmem, hlatest⟩, hon, hdecision⟩ :=
        h row.variantId (hasApproval_concat.mpr (.inr ⟨rfl, happrove⟩))
      have heq : latest = row := by
        rcases mem_append.mp hmem with hin | hnew
        · exact absurd ⟨latest, hin, hon, hdecision⟩ hold
        · exact mem_singleton.mp hnew
      subst heq
      intro other hother hsame
      exact order_lt_of_le hfresh hother (hlatest other (mem_append_left _ hother) hsame)
  · rename_i hagainst
    intro hold
    obtain ⟨latest, ⟨hmem, hlatest⟩, hon, hdecision⟩ :=
      h row.variantId (hasApproval_concat.mpr (.inl hold))
    have hin : latest ∈ approvals := by
      rcases mem_append.mp hmem with hin | hnew
      · exact hin
      · rw [mem_singleton.mp hnew] at hdecision
        exact absurd hdecision hagainst
    refine ⟨latest, hin, hon, hdecision, ?_⟩
    apply lt_of_le_of_ne (hlatest row (by simp) hon.symm)
    intro heq
    exact hfresh latest hin (RepurposeApproval.id_eq_of_order heq.symm)

theorem standing_concat (hold : Standing approvals) (h : LeavesStanding approvals row) :
    Standing (approvals ++ [row]) := by
  intro variantId hhas
  by_cases hon : row.variantId = variantId
  · subst hon
    unfold LeavesStanding at h
    split at h
    · rename_i happrove
      rcases h with happroved | hall
      · obtain ⟨latest, hlatest, hlatestOn, hdecision⟩ := hold row.variantId happroved
        rcases le_total row.order latest.order with hle | hge
        · exact ⟨latest, hlatest.concat fun _ => hle, hlatestOn, hdecision⟩
        · refine ⟨row, isLatest_new fun other hother hsame => ?_, rfl, happrove⟩
          exact (hlatest.2 other hother (hsame.trans hlatestOn.symm)).trans hge
      · exact ⟨row, isLatest_new fun other hother hsame => (hall other hother hsame).le, rfl, happrove⟩
    · rename_i hagainst
      have happroved : HasApproval approvals row.variantId := by
        rcases hasApproval_concat.mp hhas with hin | ⟨-, happrove⟩
        · exact hin
        · exact absurd happrove hagainst
      obtain ⟨other, hother, hotherOn, -, hlt⟩ := h happroved
      obtain ⟨latest, hlatest, hlatestOn, hdecision⟩ := hold row.variantId happroved
      refine ⟨latest, hlatest.concat fun _ => ?_, hlatestOn, hdecision⟩
      exact hlt.le.trans (hlatest.2 other hother (hotherOn.trans hlatestOn.symm))
  · have happroved : HasApproval approvals variantId := by
      rcases hasApproval_concat.mp hhas with hin | ⟨hrow, -⟩
      · exact hin
      · exact absurd hrow hon
    obtain ⟨latest, hlatest, hlatestOn, hdecision⟩ := hold variantId happroved
    refine ⟨latest, hlatest.concat fun hsame => ?_, hlatestOn, hdecision⟩
    exact absurd (hsame.trans hlatestOn) hon

end Concat

structure VariantBooks (desk : VariantDesk) : Prop where
  variants : Keyed RepurposeVariant.id desk.variants
  approvals : Keyed RepurposeApproval.id desk.approvals
  decided : ∀ row ∈ desk.approvals,
    ∃ variant ∈ desk.variants, variant.id = row.variantId ∧ row.variantHash = variant.resultHash

namespace VariantBooks

variable {desk : VariantDesk} {variant : RepurposeVariant}

section

variable (h : VariantBooks desk)

include h

theorem hash_eq (hvariant : variant ∈ desk.variants) {row : RepurposeApproval} (hrow : row ∈ desk.approvals)
    (hon : row.variantId = variant.id) : row.variantHash = variant.resultHash := by
  obtain ⟨found, hfound, hid, hhash⟩ := h.decided row hrow
  rw [h.variants.eq_of_key_eq hfound hvariant (hid.trans hon)] at hhash
  exact hhash

theorem exportAccepts_iff : ExportAccepts desk variant ↔ CurrentlyApproved desk variant := by
  constructor
  · rintro ⟨approval, haccept⟩
    unfold approvedVariant at haccept
    split at haccept
    · cases haccept
    · rename_i latest hlatest
      obtain ⟨_, hrequired, _⟩ := bind_ok haccept
      obtain ⟨hdecision, hhash⟩ := require_ok hrequired
      obtain ⟨hislatest, hon⟩ := (latestApproval_iff h.approvals latest).mp hlatest
      exact ⟨latest, hislatest, hon, hdecision, hhash⟩
  · rintro ⟨row, hlatest, hon, hdecision, hhash⟩
    refine ⟨row, ?_⟩
    unfold approvedVariant
    rw [(latestApproval_iff h.approvals row).mpr ⟨hlatest, hon⟩]
    apply bind_of_ok (require_of ⟨hdecision, hhash⟩ _)

theorem deliveryAccepts_iff (hvariant : variant ∈ desk.variants) :
    DeliveryAccepts desk variant ↔ HasApproval desk.approvals variant.id := by
  constructor
  · rintro ⟨approvalId, approval, haccept⟩
    obtain ⟨found, hfound, hrest⟩ := bind_ok haccept
    obtain ⟨_, hrequired, _⟩ := bind_ok hrest
    obtain ⟨hon, -, hdecision⟩ := require_ok hrequired
    exact ⟨found, (required_ok hfound).1, hon, hdecision⟩
  · rintro ⟨row, hrow, hon, hdecision⟩
    refine ⟨row.id, row, ?_⟩
    unfold namedApproval
    rw [required_of_mem h.approvals hrow, bind_of_ok rfl,
      require_of ⟨hon, h.hash_eq hvariant hrow hon, hdecision⟩]
    rfl

theorem currentlyApproved_iff (hstanding : Standing desk.approvals) (hvariant : variant ∈ desk.variants) :
    CurrentlyApproved desk variant ↔ HasApproval desk.approvals variant.id := by
  constructor
  · rintro ⟨row, ⟨hrow, -⟩, hon, hdecision, -⟩
    exact ⟨row, hrow, hon, hdecision⟩
  · intro hhas
    obtain ⟨row, hlatest, hon, hdecision⟩ := hstanding variant.id hhas
    exact ⟨row, hlatest, hon, hdecision, h.hash_eq hvariant hlatest.1 hon⟩

/-- Both exits are open to the same variants exactly when every approval stands. -/
theorem sameExits_iff : SameExits desk ↔ Standing desk.approvals := by
  constructor
  · intro hsame variantId hhas
    obtain ⟨row, hrow, hon, hdecision⟩ := hhas
    obtain ⟨variant, hvariant, hid, -⟩ := h.decided row hrow
    have hdelivery : DeliveryAccepts desk variant :=
      (h.deliveryAccepts_iff hvariant).mpr ⟨row, hrow, hon.trans (hon.symm.trans hid.symm), hdecision⟩
    obtain ⟨latest, hlatest, hlatestOn, happrove, -⟩ :=
      h.exportAccepts_iff.mp ((hsame variant hvariant).mpr hdelivery)
    exact ⟨latest, hlatest, hlatestOn.trans (hid.trans hon), happrove⟩
  · intro hstanding variant hvariant
    rw [h.exportAccepts_iff, h.deliveryAccepts_iff hvariant, h.currentlyApproved_iff hstanding hvariant]

end

end VariantBooks

/-- The decisions, what they are about, and the calls of the gateways are the same. -/
structure Quiet (s t : VariantDesk) : Prop where
  snapshots : t.snapshots = s.snapshots
  variants : t.variants = s.variants
  approvals : t.approvals = s.approvals
  published : t.published = s.published

instance : IsPreorder VariantDesk Quiet where
  refl _ := ⟨rfl, rfl, rfl, rfl⟩
  trans _ _ _ hst htu := ⟨htu.1.trans hst.1, htu.2.trans hst.2, htu.3.trans hst.3, htu.4.trans hst.4⟩

theorem keeps_insertArtifact (row : RepurposeExportArtifact) (taken : Bool) :
    Keeps Quiet (insertArtifact row taken) :=
  keeps_bind keeps_get fun _ => keeps_bind (keeps_ofExcept _) fun _ =>
    keeps_modify fun _ => ⟨rfl, rfl, rfl, rfl⟩

theorem keeps_insertDelivery (row : RepurposeDeliveryRequest) (taken : Bool) :
    Keeps Quiet (insertDelivery row taken) :=
  keeps_bind keeps_get fun _ => keeps_bind (keeps_ofExcept _) fun _ =>
    keeps_modify fun _ => ⟨rfl, rfl, rfl, rfl⟩

theorem keeps_settleDelivery (row : RepurposeDeliveryRequest) (result : RepurposeDeliveryResult)
    (taken : Bool) : Keeps Quiet (settleDelivery row result taken) :=
  keeps_bind keeps_get fun _ => keeps_bind (keeps_ofExcept _) fun _ =>
    keeps_modify fun _ => ⟨rfl, rfl, rfl, rfl⟩

section Ends

variable [RepurposeHashes]

theorem keeps_exportVariant (call : ExportCall) : Keeps Quiet (exportVariant call) := by
  unfold exportVariant
  split
  · exact keeps_throw _
  · refine keeps_bind keeps_get fun desk => keeps_bind (keeps_ofExcept _) fun variant =>
      keeps_bind (keeps_ofExcept _) fun approval => ?_
    split
    · exact keeps_pure _
    · refine keeps_bind (keeps_ofExcept _) fun stored => ?_
      exact keeps_bind (keeps_insertArtifact _ _) fun _ => keeps_pure _

theorem exportVariant_accepts (call : ExportCall) (desk : VariantDesk) :
    Ends (exportVariant call) desk fun r _ => ∀ row, r = .ok row →
      ∃ variant ∈ desk.variants, variant.id = row.variantId ∧ ExportAccepts desk variant := by
  unfold exportVariant
  split
  · rw [ends_throw]
    intro row hrow
    cases hrow
  · rw [ends_bind, ends_get, continues_ok, ends_bind, ends_ofExcept]
    cases hvariant : required RepurposeVariant.id desk.variants call.variantId "REPURPOSE_VARIANT" with
    | error e =>
      intro row hrow
      cases hrow
    | ok variant =>
      rw [continues_ok, ends_bind, ends_ofExcept]
      have hmem := (required_ok hvariant).1
      cases happroved : approvedVariant desk variant with
      | error e =>
        intro row hrow
        cases hrow
      | ok approval =>
        rw [continues_ok]
        split
        · rename_i existing hexisting
          rw [ends_pure]
          intro row hrow
          cases hrow
          have hkey := find?_some hexisting
          simp only [decide_eq_true_eq] at hkey
          exact ⟨variant, hmem, hkey.1.symm, approval, happroved⟩
        · rw [ends_bind, ends_ofExcept]
          cases ‹ExportUpload → Except Failure StoredExport› (exportUpload variant call.format) with
          | error e =>
            intro row hrow
            cases hrow
          | ok stored =>
            rw [continues_ok]
            refine ends_bind_of_keeps (keeps_insertArtifact _ _) (fun _ _ _ => ?_) fun _ _ _ => ?_
            · rw [ends_pure]
              intro row hrow
              cases hrow
              exact ⟨variant, hmem, rfl, approval, happroved⟩
            · intro row hrow
              cases hrow

/-- A delivery publishes nothing, or one variant that it accepts. -/
inductive Publishes (desk : VariantDesk) (call : DeliveryCall) (t : VariantDesk) : Prop
  | nothing (published : t.published = desk.published)
  | sent (variant : RepurposeVariant) (mem : variant ∈ desk.variants)
      (accepts : DeliveryAccepts desk variant)
      (published : t.published = desk.published ++ [publication call variant])

theorem deliverVariant_ends (call : DeliveryCall) (desk : VariantDesk) :
    Ends (deliverVariant call) desk fun _ t => (t.snapshots = desk.snapshots ∧
      t.variants = desk.variants ∧ t.approvals = desk.approvals) ∧ Publishes desk call t := by
  have hnothing : (desk.snapshots = desk.snapshots ∧ desk.variants = desk.variants ∧
      desk.approvals = desk.approvals) ∧ Publishes desk call desk :=
    ⟨⟨rfl, rfl, rfl⟩, .nothing rfl⟩
  unfold deliverVariant
  rw [ends_bind, ends_get, continues_ok]
  split
  · rw [ends_bind, ends_ofExcept]
    cases requireSameRequest _ _ with
    | error e => exact hnothing
    | ok u => exact hnothing
  · rw [ends_bind, ends_ofExcept]
    cases hvariant : required RepurposeVariant.id desk.variants call.variantId "REPURPOSE_VARIANT" with
    | error e => exact hnothing
    | ok variant =>
      rw [continues_ok, ends_bind, ends_ofExcept]
      cases hnamed : namedApproval desk variant call.data.approvalId with
      | error e => exact hnothing
      | ok approval =>
        rw [continues_ok, ends_bind, ends_ofExcept]
        cases require (call.configured = true) socialUnavailable with
        | error e => exact hnothing
        | ok u =>
          rw [continues_ok]
          refine ends_bind_of_keeps (keeps_insertDelivery _ _) (fun _ inserted hinserted => ?_)
            fun _ t ht => ⟨⟨ht.1, ht.2, ht.3⟩, .nothing ht.published⟩
          -- from here on the gateway has been called
          have hsent : ∀ t, Quiet { inserted with
              published := inserted.published ++ [publication call variant] } t →
              (t.snapshots = desk.snapshots ∧ t.variants = desk.variants ∧
                t.approvals = desk.approvals) ∧ Publishes desk call t := by
            intro t ht
            refine ⟨⟨ht.1.trans hinserted.1, ht.2.trans hinserted.2, ht.3.trans hinserted.3⟩, ?_⟩
            refine .sent variant (required_ok hvariant).1 ⟨_, approval, hnamed⟩ ?_
            rw [ht.published, hinserted.published]
          unfold publish
          rw [ends_bind, ends_modify, continues_ok]
          refine ends_bind_of_keeps (keeps_settleDelivery _ _ _) (fun _ t ht => ?_) fun _ t ht => hsent t ht
          exact hsent t ht

end Ends

theorem approveVariant_recorded {desk : VariantDesk} (h : VariantBooks desk) (hcall : call.Recordable desk) :
    ∃ variant ∈ desk.variants, variant.id = call.variantId ∧ ∃ snapshot,
      approveVariant call desk = .ok (newApproval call variant snapshot)
        { desk with approvals := desk.approvals ++ [newApproval call variant snapshot] } := by
  obtain ⟨⟨variant, hvariant, hid, snapshot, hsnapshot, hsnapshotId⟩, htaken, hfresh⟩ := hcall
  have hfound : required RepurposeVariant.id desk.variants call.variantId "REPURPOSE_VARIANT" =
      .ok variant := by
    rw [← hid]
    exact required_of_mem h.variants hvariant _
  have hlookup : ∃ found, snapshotOf desk variant.snapshotId = .ok found := by
    unfold snapshotOf
    cases hfind : desk.snapshots.find? (fun row => row.id = variant.snapshotId) with
    | none => simpa [hsnapshotId] using find?_eq_none.mp hfind snapshot hsnapshot
    | some found => exact ⟨found, rfl⟩
  obtain ⟨found, hlookup⟩ := hlookup
  refine ⟨variant, hvariant, hid, found, ?_⟩
  unfold approveVariant insertApproval
  rw [bind_run_ok (get_run desk), hfound, bind_run_ok (ofExcept_run_ok variant desk), hlookup,
    bind_run_ok (ofExcept_run_ok found desk)]
  have hrequire : require (call.taken = true ∧ ∀ other ∈ desk.approvals,
      other.id ≠ (newApproval call variant found).id) (.integrity "repurpose_approvals") =
      .ok () := require_of ⟨htaken, hfresh⟩ _
  simp only [bind, EStateM.bind, get_run, hrequire, ofExcept_run_ok, modify_run, pure_run]

theorem recordable_of_ok {desk : VariantDesk} {row : RepurposeApproval}
    (h : approveVariant call desk = .ok row t) : call.Recordable desk := by
  unfold approveVariant insertApproval at h
  obtain ⟨_, _, hget, h⟩ := of_bind_run_ok h
  cases hget
  obtain ⟨variant, hvariant, h⟩ := of_bind_ofExcept_ok h
  obtain ⟨snapshot, hsnapshot, h⟩ := of_bind_ofExcept_ok h
  obtain ⟨_, _, hinsert, -⟩ := of_bind_run_ok h
  obtain ⟨_, _, hget, hinsert⟩ := of_bind_run_ok hinsert
  cases hget
  obtain ⟨_, hrequire, -⟩ := of_bind_ofExcept_ok hinsert
  obtain ⟨htaken, hfresh⟩ := require_ok hrequire
  obtain ⟨hmem, hid⟩ := required_ok hvariant
  refine ⟨⟨variant, hmem, hid, snapshot, ?_⟩, htaken, hfresh⟩
  unfold snapshotOf at hsnapshot
  split at hsnapshot
  · rename_i found hfind
    cases hsnapshot
    exact ⟨mem_of_find?_eq_some hfind, by simpa using find?_some hfind⟩
  · cases hsnapshot

/-- The snapshots, the variants and the decisions are the same. -/
def SameDecisions (s t : VariantDesk) : Prop :=
  t.snapshots = s.snapshots ∧ t.variants = s.variants ∧ t.approvals = s.approvals

theorem VariantBooks.of_same {s : VariantDesk} (h : VariantBooks s) (hsame : SameDecisions s t) :
    VariantBooks t where
  variants := by
    rw [hsame.2.1]
    exact h.variants
  approvals := by
    rw [hsame.2.2]
    exact h.approvals
  decided := by
    rw [hsame.2.1, hsame.2.2]
    exact h.decided

theorem VariantBooks.decide {desk : VariantDesk} (h : VariantBooks desk) {row : RepurposeApproval}
    {variant : RepurposeVariant} (hvariant : variant ∈ desk.variants) (hid : variant.id = row.variantId)
    (hhash : row.variantHash = variant.resultHash) (hfresh : ∀ other ∈ desk.approvals, other.id ≠ row.id) :
    VariantBooks { desk with approvals := desk.approvals ++ [row] } where
  variants := h.variants
  approvals := h.approvals.append_row hfresh
  decided := by
    intro other hother
    rcases mem_append.mp hother with hold | hnew
    · exact h.decided other hold
    · rw [mem_singleton.mp hnew]
      exact ⟨variant, hvariant, hid, hhash⟩

theorem published_approveVariant (call : ApprovalCall) (desk : VariantDesk) :
    Ends (approveVariant call) desk fun _ t => t.published = desk.published := by
  have hkeeps : Keeps (Preserves fun s => s.published = desk.published) (approveVariant call) := by
    unfold approveVariant insertApproval
    refine keeps_bind keeps_get fun _ => ?_
    refine keeps_bind (fun s => (ends_ofExcept _ s _).mpr id) fun variant => ?_
    refine keeps_bind (fun s => (ends_ofExcept _ s _).mpr id) fun snapshot => ?_
    refine keeps_bind (keeps_bind keeps_get fun _ => ?_) fun _ => keeps_pure _
    exact keeps_bind (fun s => (ends_ofExcept _ s _).mpr id) fun _ => keeps_modify fun _ h => h
  exact (hkeeps desk).mono fun _ t h => h rfl

/-- The variants of a workspace on which nothing has been decided yet. -/
structure NewVariantDesk (desk : VariantDesk) : Prop where
  variants : Keyed RepurposeVariant.id desk.variants
  approvals : desk.approvals = []

theorem NewVariantDesk.books {desk : VariantDesk} (h : NewVariantDesk desk) :
    VariantBooks desk ∧ Standing desk.approvals := by
  refine ⟨⟨h.variants, ?_, ?_⟩, ?_⟩
  · rw [h.approvals]
    exact nodup_nil
  · simp [h.approvals]
  · simp [Standing, HasApproval, h.approvals]

section Steps

variable [RepurposeHashes] {desk : VariantDesk}

theorem stepDesk_ok {call : VariantCall} {answer : VariantAnswer}
    (h : call.perform desk = .ok answer t) : stepDesk desk call = t := by
  unfold stepDesk answerCall
  rw [h]

theorem stepDesk_error {call : VariantCall} {e : Failure} (h : call.perform desk = .error e t) :
    stepDesk desk call = { desk with published := t.published } := by
  unfold stepDesk answerCall
  rw [h]

theorem stepDesk_recorded (h : VariantBooks desk) (hcall : call.Recordable desk) :
    ∃ variant ∈ desk.variants, variant.id = call.variantId ∧ ∃ snapshot,
      stepDesk desk (.approveVariant call) =
        { desk with approvals := desk.approvals ++ [newApproval call variant snapshot] } := by
  obtain ⟨variant, hvariant, hid, snapshot, hrun⟩ := approveVariant_recorded h hcall
  exact ⟨variant, hvariant, hid, snapshot, stepDesk_ok (bind_run_ok hrun _)⟩

theorem stepDesk_refused (hcall : ¬ call.Recordable desk) : stepDesk desk (.approveVariant call) = desk := by
  cases hrun : approveVariant call desk with
  | ok row t => exact absurd (recordable_of_ok hrun) hcall
  | error e t =>
    have hpublished : t.published = desk.published := (published_approveVariant call desk).of_error hrun
    rw [stepDesk_error (bind_run_error hrun _), hpublished]

theorem sameDecisions_exportVariant (call : ExportCall) :
    SameDecisions desk (stepDesk desk (.exportVariant call)) ∧
      (stepDesk desk (.exportVariant call)).published = desk.published := by
  cases hrun : exportVariant call desk with
  | ok row t =>
    have hquiet := (keeps_exportVariant call desk).of_ok hrun
    rw [stepDesk_ok (bind_run_ok hrun _)]
    exact ⟨⟨hquiet.1, hquiet.2, hquiet.3⟩, hquiet.4⟩
  | error e t =>
    have hquiet := (keeps_exportVariant call desk).of_error hrun
    rw [stepDesk_error (bind_run_error hrun _)]
    exact ⟨⟨rfl, rfl, rfl⟩, hquiet.4⟩

theorem sameDecisions_deliverVariant (call : DeliveryCall) :
    SameDecisions desk (stepDesk desk (.deliverVariant call)) ∧
      Publishes desk call (stepDesk desk (.deliverVariant call)) := by
  cases hrun : deliverVariant call desk with
  | ok answer t =>
    rw [stepDesk_ok (bind_run_ok hrun _)]
    exact (deliverVariant_ends call desk).of_ok hrun
  | error e t =>
    rw [stepDesk_error (bind_run_error hrun _)]
    refine ⟨⟨rfl, rfl, rfl⟩, ?_⟩
    cases ((deliverVariant_ends call desk).of_error hrun).2 with
    | nothing published => exact .nothing published
    | sent variant mem accepts published => exact .sent variant mem accepts published

theorem books_step (h : VariantBooks desk) (call : VariantCall) : VariantBooks (stepDesk desk call) := by
  cases call with
  | approveVariant call =>
    by_cases hcall : call.Recordable desk
    · obtain ⟨variant, hvariant, hid, snapshot, hstep⟩ := stepDesk_recorded h hcall
      rw [hstep]
      exact h.decide hvariant rfl rfl hcall.2.2
    · rw [stepDesk_refused hcall]
      exact h
  | exportVariant call => exact h.of_same (sameDecisions_exportVariant call).1
  | deliverVariant call => exact h.of_same (sameDecisions_deliverVariant call).1

/-- A call keeps every approval standing exactly when it takes none back. -/
theorem standing_step_iff (h : VariantBooks desk) (hstanding : Standing desk.approvals)
    (call : VariantCall) : Standing (stepDesk desk call).approvals ↔ NothingTakenBack desk call := by
  cases call with
  | approveVariant call =>
    by_cases hcall : call.Recordable desk
    · obtain ⟨variant, hvariant, hid, snapshot, hstep⟩ := stepDesk_recorded h hcall
      rw [hstep]
      have hleaves : call.LeavesApproved desk ↔
          LeavesStanding desk.approvals (newApproval call variant snapshot) := by
        unfold ApprovalCall.LeavesApproved
        rw [← hid]
        exact Iff.rfl
      constructor
      · intro hafter _
        exact hleaves.mpr (leavesStanding_of_standing hcall.2.2 hafter)
      · intro hkept
        exact standing_concat hstanding (hleaves.mp (hkept hcall))
    · rw [stepDesk_refused hcall]
      exact iff_of_true hstanding fun h => absurd h hcall
  | exportVariant call =>
    rw [(sameDecisions_exportVariant call).1.2.2]
    exact iff_of_true hstanding trivial
  | deliverVariant call =>
    rw [(sameDecisions_deliverVariant call).1.2.2]
    exact iff_of_true hstanding trivial

theorem newPublications_of_same {call : VariantCall}
    (h : (stepDesk desk call).published = desk.published) : newPublications desk call = [] := by
  simp [newPublications, h]

theorem publications_approved (h : VariantBooks desk) (hstanding : Standing desk.approvals)
    (call : VariantCall) : ∀ sent ∈ newPublications desk call,
      ∃ variant ∈ desk.variants, variant.id = sent.variantId ∧ CurrentlyApproved desk variant := by
  cases call with
  | approveVariant call =>
    by_cases hcall : call.Recordable desk
    · obtain ⟨variant, -, -, snapshot, hstep⟩ := stepDesk_recorded h hcall
      simp [newPublications, hstep]
    · rw [newPublications_of_same (by rw [stepDesk_refused hcall])]
      simp
  | exportVariant call =>
    rw [newPublications_of_same (sameDecisions_exportVariant call).2]
    simp
  | deliverVariant call =>
    have hpublishes : Publishes desk call (stepDesk desk (.deliverVariant call)) :=
      (sameDecisions_deliverVariant call).2
    cases hpublishes with
    | nothing published =>
      rw [newPublications_of_same published]
      simp
    | sent variant mem accepts published =>
      intro sent hsent
      rw [newPublications, published, drop_left, mem_singleton] at hsent
      refine ⟨variant, mem, by rw [hsent]; rfl, ?_⟩
      exact (h.currentlyApproved_iff hstanding mem).mpr ((h.deliveryAccepts_iff mem).mp accepts)

theorem artifacts_approved (h : VariantBooks desk) (call : VariantCall)
    {row : RepurposeExportArtifact} (hanswer : (answerCall desk call).2 = .ok (.artifact row)) :
    ∃ variant ∈ desk.variants, variant.id = row.variantId ∧ CurrentlyApproved desk variant := by
  unfold answerCall at hanswer
  cases hrun : call.perform desk with
  | error e t =>
    rw [hrun] at hanswer
    cases hanswer
  | ok answer t =>
    rw [hrun] at hanswer
    cases hanswer
    cases call with
    | approveVariant call =>
      obtain ⟨_, _, -, hlast⟩ := of_bind_run_ok hrun
      cases (of_pure_run_ok hlast).1
    | deliverVariant call =>
      obtain ⟨_, _, -, hlast⟩ := of_bind_run_ok hrun
      cases (of_pure_run_ok hlast).1
    | exportVariant call =>
      obtain ⟨found, s, hexport, hlast⟩ := of_bind_run_ok hrun
      cases (of_pure_run_ok hlast).1
      obtain ⟨variant, hvariant, hid, haccepts⟩ :=
        (exportVariant_accepts call desk).of_ok hexport row rfl
      exact ⟨variant, hvariant, hid, h.exportAccepts_iff.mp haccepts⟩

theorem onlyApprovedLeave_iff (h : VariantBooks desk) (hstanding : Standing desk.approvals)
    (call : VariantCall) : OnlyApprovedLeave desk call ↔ NothingTakenBack desk call := by
  have hafter : SameExits (stepDesk desk call) ↔ NothingTakenBack desk call := by
    rw [(books_step h call).sameExits_iff, standing_step_iff h hstanding call]
  constructor
  · intro hleave
    exact hafter.mp hleave.after
  · intro hkept
    exact {
      artifact := fun row hanswer => artifacts_approved h call hanswer
      publication := publications_approved h hstanding call
      before := h.sameExits_iff.mpr hstanding
      after := hafter.mpr hkept }

/-- In a run, only currently approved variants leave exactly when no decision takes an approval
back. -/
theorem only_approved_leave_iff (hnew : NewVariantDesk desk) (calls : List VariantCall) :
    Along stepDesk OnlyApprovedLeave desk calls ↔ Along stepDesk NothingTakenBack desk calls :=
  along_iff_along_of_invariant stepDesk
    (I := fun s => VariantBooks s ∧ Standing s.approvals) (R := fun _ _ => True)
    (fun _ call hs _ => onlyApprovedLeave_iff hs.1 hs.2 call)
    (fun _ call hs _ hkept => ⟨books_step hs.1 call, (standing_step_iff hs.1 hs.2 call).mpr hkept⟩)
    hnew.books (along_of_always stepDesk (fun _ _ => trivial) desk calls)

end Steps

abbrev sampleRepurposeHashes : RepurposeHashes where
  deliveryHash data := data.officialProvider ++ data.destination
  failureHash requestHash exceptionType := requestHash ++ exceptionType
  successHash requestHash externalPostId responseMetadata :=
    requestHash ++ externalPostId ++ responseMetadata
  failureMetadata exceptionType := exceptionType
  uuidText := toString

section Samples

attribute [local instance] sampleRepurposeHashes

def sampleDesk : VariantDesk where
  snapshots := [{ id := 1, approvalPolicySnapshot := "{}" }]
  variants := [{
    id := 7
    snapshotId := 1
    document := "[]"
    plainText := "text"
    sourceContentHash := "source"
    templateContentHash := "template"
    resultHash := "result" }]

def sampleApproval : VariantCall := .approveVariant
  { id := 11, now := 100, subjectId := 3, variantId := 7, decision := .approve, reason := "fine" }

def sampleRejection : VariantCall := .approveVariant
  { id := 12, now := 200, subjectId := 4, variantId := 7, decision := .reject, reason := "wrong" }

def sampleDelivery : VariantCall := .deliverVariant
  { id := 21
    resultId := 22
    subjectId := 3
    variantId := 7
    data := { approvalId := 11, officialProvider := "social", connectionSecretRef := "vault://x",
              destination := "page" }
    idempotencyKey := "key"
    result := .ok { externalPostId := "post", responseMetadata := "{}" } }

def sampleExport : VariantCall := .exportVariant
  { id := 31
    subjectId := 3
    variantId := 7
    format := .txt
    exportStore := some fun upload => .ok
      { objectRef := upload.objectName, objectHash := upload.body, mediaType := upload.mediaType
        sizeBytes := 4 } }

theorem sampleDesk_new : NewVariantDesk sampleDesk where
  variants := nodup_singleton 7
  approvals := rfl

theorem only_approved_leave_sample :
    Along stepDesk OnlyApprovedLeave sampleDesk [sampleApproval, sampleExport, sampleDelivery] := by
  apply (only_approved_leave_iff sampleDesk_new _).mpr
  refine ⟨fun _ => ?_, trivial, trivial, trivial⟩
  exact .inr (by simp [sampleDesk])

/-- A delivery that names the approval publishes the variant after its rejection. -/
theorem rejected_variant_delivered : ¬ Along stepDesk OnlyApprovedLeave sampleDesk
      [sampleApproval, sampleRejection, sampleDelivery] := by
  rintro ⟨-, -, hdelivery, -⟩
  let rejected := stepDesk (stepDesk sampleDesk sampleApproval) sampleRejection
  have hsent : newPublications rejected sampleDelivery ≠ [] := by decide +kernel
  obtain ⟨sent, hmem⟩ := exists_mem_of_ne_nil _ hsent
  obtain ⟨variant, -, -, row, ⟨hrow, hlatest⟩, -, hdecision, -⟩ := hdelivery.publication sent hmem
  have hlater : ∀ row ∈ rejected.approvals, row.decision = .approve →
      ∃ other ∈ rejected.approvals, other.variantId = row.variantId ∧
        ¬ other.order ≤ row.order := by decide +kernel
  obtain ⟨other, hother, hsame, hnot⟩ := hlater row hrow hdecision
  exact hnot (hlatest other hother hsame)

end Samples

end BlogOps.Repurpose
