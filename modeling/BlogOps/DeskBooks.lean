import BlogOps.DeskChanges

/-!
# Books of the planning desk

What every run of the desk keeps: rows have ids of their own, and the current
version of a brief is an older one than the next.
-/

namespace BlogOps.Planning

open List

open Billing (PolicyValue PolicyFields)
open KeyedTables TransitionRuns

/-- Rows with ids of their own, below the next id. -/
structure Numbered {α : Type} (key : α → Uuid) (rows : List α) (nextId : Uuid) : Prop where
  keyed : Keyed key rows
  lt : ∀ row ∈ rows, key row < nextId

structure DeskBooks (s : PlanningDesk) : Prop where
  briefs : BriefBooks s
  entries : Numbered (·.id) s.entries s.nextId

variable {brief : ContentBrief} {s after : PlanningDesk} {α : Type}

section

variable {key : α → Uuid} {rows : List α} {nextId : Uuid} (h : Numbered key rows nextId)

include h

theorem Numbered.later {later : Uuid} (hle : nextId ≤ later) : Numbered key rows later :=
  ⟨h.keyed, fun row hrow => (h.lt row hrow).trans_le hle⟩

theorem Numbered.append {later : Uuid} {row : α} (hnew : nextId ≤ key row) (hlt : key row < later) :
    Numbered key (rows ++ [row]) later := by
  constructor
  · exact h.keyed.append_row fun other hother => ((h.lt other hother).trans_le hnew).ne
  · intro other hother
    rcases mem_append.mp hother with hold | hrow
    · exact ((h.lt other hold).trans_le hnew).trans hlt
    · rw [mem_singleton.mp hrow]
      exact hlt

theorem Numbered.update {k : Uuid} {f : α → α} (hf : ∀ row, key (f row) = key row) :
    Numbered key (updateRow key k f rows) nextId := by
  refine ⟨h.keyed.updateRow fun row _ => hf row, fun row hrow => ?_⟩
  obtain ⟨old, hold, ⟨_, rfl⟩ | ⟨_, rfl⟩⟩ := mem_updateRow hrow
  · rw [hf old]
    exact h.lt old hold
  · exact h.lt row hold

end

theorem BriefBooks.later (h : BriefBooks s) (hbriefs : after.briefs = s.briefs)
    (hnext : s.nextId ≤ after.nextId) : BriefBooks after where
  keyed := by
    rw [hbriefs]
    exact h.keyed
  current brief hbrief versionId hcurrent := by
    rw [hbriefs] at hbrief
    exact (h.current brief hbrief versionId hcurrent).trans_le hnext

/-- The status of a brief changes. -/
theorem BriefBooks.restated (h : BriefBooks s) {status : BriefStatus}
    (hbriefs : after.briefs = updateRow (·.id) brief.id ({ · with status := status }) s.briefs)
    (hnext : s.nextId ≤ after.nextId) : BriefBooks after where
  keyed := by
    rw [hbriefs]
    exact h.keyed.updateRow fun _ _ => rfl
  current row hrow versionId hcurrent := by
    rw [hbriefs] at hrow
    obtain ⟨old, hold, ⟨_, rfl⟩ | ⟨_, rfl⟩⟩ := mem_updateRow hrow
    · exact (h.current old hold versionId hcurrent).trans_le hnext
    · exact (h.current row hold versionId hcurrent).trans_le hnext

theorem deskBooks_empty : DeskBooks {} where
  briefs := ⟨nodup_nil, fun _ h => absurd h not_mem_nil⟩
  entries := ⟨nodup_nil, fun _ h => absurd h not_mem_nil⟩

theorem deskBooks_change (h : DeskBooks s) (hchange : DeskChange s after) : DeskBooks after := by
  cases hchange with
  | kept decisions catalogue nextId hnext =>
    exact ⟨h.briefs.later rfl hnext, h.entries.later hnext⟩
  | placedAlone entry hid _ _ =>
    exact ⟨h.briefs.later rfl (Nat.le_succ _),
      h.entries.append hid.ge (by rw [hid]; exact Nat.lt_succ_self _)⟩
  | placedFor entry brief version hid _ _ =>
    refine ⟨?_, h.entries.append hid.ge (by rw [hid]; exact Nat.lt_succ_self _)⟩
    unfold scheduledBriefs
    split_ifs
    · exact h.briefs.restated rfl (Nat.le_succ _)
    · exact h.briefs.later rfl (Nat.le_succ _)
  | moved entry _ _ _ _ _ => exact ⟨h.briefs.later rfl le_rfl, h.entries.update fun _ => rfl⟩
  | cancelledAlone entry _ _ => exact ⟨h.briefs.later rfl le_rfl, h.entries.update fun _ => rfl⟩
  | cancelledFor entry brief _ _ _ =>
    refine ⟨?_, h.entries.update fun _ => rfl⟩
    unfold releasedBriefs
    split_ifs
    · exact h.briefs.restated rfl le_rfl
    · exact h.briefs.later rfl le_rfl

theorem deskBooks_step [PlanningReaders] (h : DeskBooks s) (action : DeskAction) :
    DeskBooks (deskStep s action) :=
  kept_by_step h.briefs (fun _ _ hbefore hchange => deskBooks_change hbefore hchange) h

def utc : Zone where
  utcOffset := fun _ => 0
  wallOffset := fun _ _ => 0
  utcOffset_lt := fun _ => by decide

def readStage (fields : PolicyFields) : Except String ApprovalStage :=
  match policyGet fields "key" .null, policyGet fields "name" .null,
      policyGet fields "required_approvals" .null with
  | .text key, .text name, .int required =>
    if h : 1 ≤ required.toNat ∧ required.toNat ≤ 20 then
      .ok { key := key, name := name, requiredApprovals := required.toNat,
            required_pos := h.1, required_le := h.2 }
    else .error "ValidationError"
  | _, _, _ => .error "ValidationError"

@[reducible] def sampleReaders : PlanningReaders where
  truthy value := match value with
    | .null => false
    | .bool value => value
    | .int value => value ≠ 0
    | .number _ => true
    | .text value => value ≠ ""
    | .list items => ¬ items.isEmpty
    | .object fields => ¬ fields.isEmpty
  int value := match value with
    | .int value => some value
    | .bool value => some (if value then 1 else 0)
    | _ => none
  zone name := if name = "UTC" then some utc else none
  stage := readStage
  snapshotHash versionNumber payload resolved policy stages :=
    toString versionNumber ++ payload.title ++ payload.rest ++ resolved ++
      policy.generationPolicyHash ++ policy.approvalPolicyHash ++
      String.join (stages.map (·.key))
  normalizeTopic topic := topic
  identityHash identity intent := identity ++ intent

def samplePolicy (approvalPolicy generationPolicy : PolicyFields) : WorkspacePolicySnapshot where
  generationPolicy := generationPolicy
  generationPolicyHash := "generation"
  approvalPolicy := approvalPolicy
  approvalPolicyHash := "approval"
  timezone := "UTC"

def sampleEnv (userId : Uuid) (policy : WorkspacePolicySnapshot) : PlanningEnv where
  principal := ⟨userId, "mfa"⟩
  isActive _ := true
  policy := .ok policy
  resolved := .ok "references"
  lockVersionOf _ := 1

def sampleBrief : BriefCreate where
  payload := { title := "title", approvalStages := [], channel := "blog", keys_unique := nodup_nil }

end BlogOps.Planning
