import BlogOps.KeywordClusters
import Mathlib.Data.List.Forall2
import Mathlib.Data.List.Pairwise

/-!
# Clusters as components

The clusters are the classes of the relation that the similar pairs generate, each with its greatest
candidate in front.
-/

namespace BlogOps.Keywords

open DisjointSets InsertionDicts

section Answers

variable {ε α β : Type} {f : α → Except ε β} {items : List α}
variable {R : α → β → Prop} {answers : List β}

/-- Where every call answers, the answers stand in the order of the calls. -/
theorem mapM_answers (h : ∀ a ∈ items, ∃ b, f a = .ok b ∧ R a b) :
    ∃ answers, items.mapM f = .ok answers ∧ List.Forall₂ R items answers := by
  induction items with
  | nil => exact ⟨[], rfl, .nil⟩
  | cons a items ih =>
    obtain ⟨b, hb, hr⟩ := h a List.mem_cons_self
    obtain ⟨answers, hanswers, hall⟩ := ih fun other hother => h other (List.mem_cons_of_mem _ hother)
    refine ⟨b :: answers, ?_, .cons hr hall⟩
    rw [List.mapM_cons, hb, hanswers]
    rfl

theorem forall₂_mem_right (h : List.Forall₂ R items answers) {b : β} (hb : b ∈ answers) :
    ∃ a ∈ items, R a b := by
  induction h with
  | nil => cases hb
  | cons hab hrest ih =>
    rcases List.mem_cons.1 hb with rfl | hb
    · exact ⟨_, List.mem_cons_self, hab⟩
    · obtain ⟨a, ha, hr⟩ := ih hb
      exact ⟨a, List.mem_cons_of_mem _ ha, hr⟩

theorem forall₂_mem_left (h : List.Forall₂ R items answers) {a : α} (ha : a ∈ items) :
    ∃ b ∈ answers, R a b := by
  induction h with
  | nil => cases ha
  | cons hab hrest ih =>
    rcases List.mem_cons.1 ha with rfl | ha
    · exact ⟨_, List.mem_cons_self, hab⟩
    · obtain ⟨b, hb, hr⟩ := ih ha
      exact ⟨b, List.mem_cons_of_mem _ hb, hr⟩

theorem flatMap_perm {γ : Type} {g : α → List γ} {h : β → List γ}
    (hall : List.Forall₂ (fun a b => (h b).Perm (g a)) items answers) :
    (answers.flatMap h).Perm (items.flatMap g) := by
  induction hall with
  | nil => exact .nil
  | cons hab hrest ih =>
    rw [List.flatMap_cons, List.flatMap_cons]
    exact hab.append ih

end Answers

/-- The text passes `normalize_keyword`. -/
def Normal (texts : KeywordTexts) (candidate : ClusterCandidate) : Prop :=
  ∃ normalized, normalizeKeyword texts candidate.text = .ok normalized

variable {item : ClusterCandidate}

section Pairs

variable {texts : KeywordTexts} {measure : PairMeasure} {useSerp : Bool} {threshold : Rat}
  {working : List ClusterCandidate} {i j : Nat}

theorem mem_indexPairs {size : Nat} : (i, j) ∈ indexPairs size ↔ i < j ∧ j < size := by
  unfold indexPairs
  simp only [List.mem_flatMap, List.mem_range, List.mem_map, List.mem_range'_1, Prod.mk.injEq]
  constructor
  · rintro ⟨left, hleft, right, ⟨hlow, hhigh⟩, rfl, rfl⟩
    omega
  · rintro ⟨hij, hj⟩
    exact ⟨i, by omega, j, ⟨by omega, by omega⟩, rfl, rfl⟩

/-- The candidates of a pair of indices are similar. -/
def SimilarAt (measure : PairMeasure) (useSerp : Bool) (threshold : Rat)
    (working : List ClusterCandidate) (pair : Nat × Nat) : Prop :=
  ∃ left right, working[pair.1]? = some left ∧ working[pair.2]? = some right ∧
    threshold ≤ (measure left right useSerp).similarity

theorem itemAt_ok (h : working[i]? = some item) : itemAt working i = .ok item := by
  unfold itemAt
  rw [h]

theorem itemAt_eq_ok (h : itemAt working i = .ok item) : working[i]? = some item := by
  unfold itemAt at h
  split at h
  · cases h
    assumption
  · cases h

theorem exists_item (h : i < working.length) : ∃ item, working[i]? = some item :=
  ⟨working[i], List.getElem?_eq_getElem h⟩

theorem pairSimilarity_ok {left right : ClusterCandidate} (hl : Normal texts left) (hr : Normal texts right) :
    pairSimilarity texts measure useSerp left right = .ok (measure left right useSerp) := by
  obtain ⟨_, hl⟩ := hl
  obtain ⟨_, hr⟩ := hr
  unfold pairSimilarity
  rw [hl, hr]
  rfl

theorem cachedAt_ok {cache : PairCache} {pair : Nat × Nat} (h : pair ∈ cache.map Prod.fst) :
    ∃ signals, cachedAt cache pair = .ok signals := by
  unfold cachedAt
  cases hfind : cache.find? fun entry => entry.1 = pair with
  | some entry => exact ⟨entry.2, rfl⟩
  | none =>
    obtain ⟨entry, hentry, hkey⟩ := List.mem_map.1 h
    have hnone := List.find?_eq_none.1 hfind entry hentry
    simp [hkey] at hnone

theorem foldlM_scanPair (hnormal : ∀ item ∈ working, Normal texts item) (pairs : List (Nat × Nat))
    (hpairs : ∀ pair ∈ pairs, pair.1 < working.length ∧ pair.2 < working.length) (scan : PairScan) :
    ∃ united cache,
      pairs.foldlM (scanPair (pairSimilarity texts measure useSerp) threshold working) scan =
        .ok ⟨unions scan.forest united, cache⟩ ∧
      (∀ pair, pair ∈ united ↔ pair ∈ pairs ∧ SimilarAt measure useSerp threshold working pair) ∧
      cache.map Prod.fst = scan.cache.map Prod.fst ++ pairs := by
  induction pairs generalizing scan with
  | nil => exact ⟨[], scan.cache, rfl, by simp, by simp⟩
  | cons pair pairs ih =>
    obtain ⟨hleft, hright⟩ := hpairs pair List.mem_cons_self
    obtain ⟨left, hl⟩ := exists_item hleft
    obtain ⟨right, hr⟩ := exists_item hright
    have hstep : scanPair (pairSimilarity texts measure useSerp) threshold working scan pair = .ok {
          forest := if threshold ≤ (measure left right useSerp).similarity
            then union scan.forest pair.1 pair.2 else scan.forest
          cache := scan.cache ++ [(pair, measure left right useSerp)] } := by
      unfold scanPair
      rw [itemAt_ok hl, itemAt_ok hr]
      show ((pairSimilarity texts measure useSerp left right) >>= _) = _
      rw [pairSimilarity_ok (hnormal left (List.mem_of_getElem? hl))
        (hnormal right (List.mem_of_getElem? hr))]
      rfl
    have hsimilar : SimilarAt measure useSerp threshold working pair ↔
        threshold ≤ (measure left right useSerp).similarity := by
      constructor
      · rintro ⟨left', right', hl', hr', hle⟩
        cases hl.symm.trans hl'
        cases hr.symm.trans hr'
        exact hle
      · exact fun hle => ⟨left, right, hl, hr, hle⟩
    have hrest := ih fun other hother => hpairs other (List.mem_cons_of_mem _ hother)
    rw [List.foldlM_cons, hstep]
    by_cases hle : threshold ≤ (measure left right useSerp).similarity
    · rw [if_pos hle]
      obtain ⟨united, cache, hrun, hunited, hcache⟩ := hrest
        ⟨union scan.forest pair.1 pair.2, scan.cache ++ [(pair, measure left right useSerp)]⟩
      refine ⟨pair :: united, cache, hrun, fun other => ?_, by simp [hcache]⟩
      rw [List.mem_cons, List.mem_cons, hunited]
      constructor
      · rintro (rfl | ⟨hmem, hother⟩)
        · exact ⟨.inl rfl, hsimilar.2 hle⟩
        · exact ⟨.inr hmem, hother⟩
      · rintro ⟨rfl | hmem, hother⟩
        · exact .inl rfl
        · exact .inr ⟨hmem, hother⟩
    · rw [if_neg hle]
      obtain ⟨united, cache, hrun, hunited, hcache⟩ := hrest
        ⟨scan.forest, scan.cache ++ [(pair, measure left right useSerp)]⟩
      refine ⟨united, cache, hrun, fun other => ?_, by simp [hcache]⟩
      rw [List.mem_cons, hunited]
      constructor
      · exact fun h => ⟨.inr h.1, h.2⟩
      · rintro ⟨rfl | hmem, hother⟩
        · exact absurd (hsimilar.1 hother) hle
        · exact ⟨hmem, hother⟩

theorem scanPairs_ok (measure : PairMeasure) (useSerp : Bool) (threshold : Rat)
    (hnormal : ∀ item ∈ working, Normal texts item) : ∃ united cache,
      scanPairs (pairSimilarity texts measure useSerp) threshold working =
        .ok ⟨unions (singletons working.length) united, cache⟩ ∧
      (∀ pair, pair ∈ united ↔ pair ∈ indexPairs working.length ∧
        SimilarAt measure useSerp threshold working pair) ∧
      cache.map Prod.fst = indexPairs working.length := by
  have hpairs : ∀ pair ∈ indexPairs working.length,
      pair.1 < working.length ∧ pair.2 < working.length := by
    rintro ⟨i, j⟩ hpair
    have hlt := mem_indexPairs.1 hpair
    exact ⟨by omega, hlt.2⟩
  obtain ⟨united, cache, hrun, hunited, hcache⟩ := foldlM_scanPair hnormal
    (indexPairs working.length) hpairs { forest := singletons working.length }
  exact ⟨united, cache, hrun, hunited, by simpa using hcache⟩

end Pairs

section Groups

variable {p : Forest} {size : Nat}

theorem foldl_groupIndex (hp : Rooted p) {q : Forest} (hq : SameRoots p q) (indexes : List Nat)
    (groups : List (Nat × List Nat)) : (indexes.foldl groupIndex (q, groups)).2 =
      indexes.foldl (fun groups i => appendTo (findRoot p i).1 i groups) groups := by
  induction indexes generalizing q groups with
  | nil => rfl
  | cons index indexes ih =>
    obtain ⟨n, r, hr⟩ := hp index
    have hroot : (findRoot q index).1 = (findRoot p index).1 :=
      (findRoot_eq (hq.roots index r ⟨n, hr⟩)).trans (findRoot_eq ⟨n, hr⟩).symm
    have hnext : SameRoots p (findRoot q index).2 := hq.trans (findRoot_sameRoots (hq.rooted hp) index)
    rw [List.foldl_cons, List.foldl_cons, ← hroot]
    exact ih hnext _

theorem groupIndexes_eq (hp : Rooted p) (size : Nat) :
    groupIndexes p size = groupBy (fun i => (findRoot p i).1) (List.range size) :=
  foldl_groupIndex hp ⟨rfl, fun _ _ h => h⟩ _ _

theorem findRoot_eq_iff (hp : Rooted p) (i j : Nat) :
    (findRoot p i).1 = (findRoot p j).1 ↔ Together p i j := by
  obtain ⟨n, r, hr⟩ := hp i
  obtain ⟨m, s, hs⟩ := hp j
  rw [findRoot_eq ⟨n, hr⟩, findRoot_eq ⟨m, hs⟩]
  exact (HasRoot.together_iff ⟨n, hr⟩ ⟨m, hs⟩).symm

end Groups

section Primary

variable {texts : KeywordTexts} {α : Type}

theorem foldl_later (items : List (PrimaryKey × α)) (best : PrimaryKey × α) :
    (items.foldl later best = best ∨ items.foldl later best ∈ items) ∧ best.1 ≤ (items.foldl later best).1 ∧
      ∀ item ∈ items, item.1 ≤ (items.foldl later best).1 := by
  induction items generalizing best with
  | nil => exact ⟨.inl rfl, le_refl _, by simp⟩
  | cons item items ih =>
    obtain ⟨hmem, hbest, hall⟩ := ih (later best item)
    rw [List.foldl_cons]
    have hstep : best.1 ≤ (later best item).1 ∧ item.1 ≤ (later best item).1 ∧
        (later best item = best ∨ later best item = item) := by
      unfold later
      split
      · next hlt => exact ⟨le_of_lt hlt, le_refl _, .inr rfl⟩
      · next hnot => exact ⟨le_refl _, not_lt.1 hnot, .inl rfl⟩
    obtain ⟨hle, hle', hone⟩ := hstep
    refine ⟨?_, hle.trans hbest, fun other hother => ?_⟩
    · rcases hmem with hmem | hmem
      · rw [hmem]
        rcases hone with hone | hone
        · exact .inl hone
        · exact .inr (List.mem_cons.2 (.inl hone))
      · exact .inr (List.mem_cons_of_mem _ hmem)
    · rcases List.mem_cons.1 hother with rfl | hother
      · exact hle'.trans hbest
      · exact hall other hother

theorem maxByKey_ok {items : List (PrimaryKey × α)} (h : items ≠ []) :
    ∃ best ∈ items, maxByKey items = .ok best.2 ∧ ∀ item ∈ items, item.1 ≤ best.1 := by
  cases items with
  | nil => exact absurd rfl h
  | cons item items =>
    obtain ⟨hmem, hbest, hall⟩ := foldl_later items item
    refine ⟨items.foldl later item, ?_, rfl, fun other hother => ?_⟩
    · rcases hmem with hmem | hmem
      · rw [hmem]
        exact List.mem_cons_self
      · exact List.mem_cons_of_mem _ hmem
    · rcases List.mem_cons.1 hother with rfl | hother
      · exact hbest
      · exact hall other hother

theorem primaryKey_ok (h : Normal texts item) : ∃ key, primaryKey texts item = .ok key := by
  obtain ⟨normalized, h⟩ := h
  unfold primaryKey
  rw [h]
  exact ⟨_, rfl⟩

/-- No candidate of the group has a greater key. -/
def IsPrimary (texts : KeywordTexts) (group : List ClusterCandidate) (primary : ClusterCandidate) : Prop :=
  primary ∈ group ∧ ∀ item ∈ group, ∀ key best, primaryKey texts item = .ok key →
    primaryKey texts primary = .ok best → key ≤ best

theorem primaryOf_ok {group : List ClusterCandidate} (hgroup : group ≠ [])
    (hnormal : ∀ item ∈ group, Normal texts item) :
    ∃ primary, primaryOf texts group = .ok primary ∧ IsPrimary texts group primary := by
  have hkeyed : ∀ item ∈ group, ∃ entry, keyed texts item = .ok entry ∧
      primaryKey texts item = .ok entry.1 ∧ entry.2 = item := by
    intro item hitem
    obtain ⟨key, hkey⟩ := primaryKey_ok (hnormal item hitem)
    refine ⟨(key, item), ?_, hkey, rfl⟩
    unfold keyed
    rw [hkey]
    rfl
  obtain ⟨entries, hentries, hall⟩ := mapM_answers hkeyed
  have hnonempty : entries ≠ [] := by
    rintro rfl
    cases hall
    exact hgroup rfl
  obtain ⟨best, hbest, hmax, hgreatest⟩ := maxByKey_ok hnonempty
  obtain ⟨item, hitem, hbestKey, hbestItem⟩ := forall₂_mem_right hall hbest
  refine ⟨best.2, ?_, ?_, fun other hother key greatest hother' hgreatest' => ?_⟩
  · unfold primaryOf
    rw [hentries]
    exact hmax
  · rw [hbestItem]
    exact hitem
  · obtain ⟨entry, hentry, hentryKey, -⟩ := forall₂_mem_left hall hother
    cases hother'.symm.trans hentryKey
    rw [hbestItem] at hgreatest'
    cases hgreatest'.symm.trans hbestKey
    exact hgreatest entry hentry

end Primary

section Clusters

variable {texts : KeywordTexts} {measure : PairMeasure} {request : ClusterRequest}
  {working : List ClusterCandidate} {cache : PairCache} {indexes : List Nat} {i j : Nat}

/-- The candidates at the indices. -/
def groupAt (working : List ClusterCandidate) (indexes : List Nat) : List ClusterCandidate :=
  indexes.filterMap (working[·]?)

theorem mapM_itemAt (h : ∀ i ∈ indexes, i < working.length) :
    indexes.mapM (itemAt working) = .ok (groupAt working indexes) := by
  induction indexes with
  | nil => rfl
  | cons i indexes ih =>
    obtain ⟨item, hitem⟩ := exists_item (h i List.mem_cons_self)
    have hrest := ih fun j hj => h j (List.mem_cons_of_mem _ hj)
    rw [List.mapM_cons, itemAt_ok hitem, hrest]
    unfold groupAt
    rw [List.filterMap_cons_some hitem]
    rfl

theorem mem_groupAt : item ∈ groupAt working indexes ↔ ∃ i ∈ indexes, working[i]? = some item :=
  List.mem_filterMap

theorem indexOf_ok (h : item ∈ working) : ∃ i, indexOf working item = .ok i ∧ working[i]? = some item := by
  refine ⟨working.idxOf item, if_pos h, ?_⟩
  rw [List.getElem?_eq_getElem (List.idxOf_lt_length_iff.2 h), List.getElem_idxOf]

/-- Two indices of candidates with one id are the same. -/
theorem index_unique (hids : (working.map ClusterCandidate.keywordId).Nodup)
    {left right : ClusterCandidate} (hl : working[i]? = some left) (hr : working[j]? = some right)
    (hid : left.keywordId = right.keywordId) : i = j := by
  have hlt := (List.getElem?_eq_some_iff.1 hl).1
  have hbound : i < (working.map ClusterCandidate.keywordId).length := by simpa using hlt
  refine (List.getElem?_inj hbound hids).1 ?_
  rw [List.getElem?_map, List.getElem?_map, hl, hr, Option.map_some, Option.map_some, hid]

theorem nodup_groupAt (hids : (working.map ClusterCandidate.keywordId).Nodup)
    (hindexes : indexes.Nodup) (hlt : ∀ i ∈ indexes, i < working.length) :
    ((groupAt working indexes).map ClusterCandidate.keywordId).Nodup := by
  induction indexes with
  | nil => exact List.nodup_nil
  | cons i indexes ih =>
    rw [List.nodup_cons] at hindexes
    obtain ⟨item, hitem⟩ := exists_item (hlt i List.mem_cons_self)
    have hgroup : groupAt working (i :: indexes) = item :: groupAt working indexes :=
      List.filterMap_cons_some hitem
    rw [hgroup, List.map_cons, List.nodup_cons]
    refine ⟨fun hmem => ?_, ih hindexes.2 fun j hj => hlt j (List.mem_cons_of_mem _ hj)⟩
    obtain ⟨other, hother, hid⟩ := List.mem_map.1 hmem
    obtain ⟨j, hj, hat⟩ := mem_groupAt.1 hother
    exact hindexes.1 (index_unique hids hat hitem hid ▸ hj)

variable {primary : ClusterCandidate} {primaryIndex : Nat}

theorem clusterMember_ok (hcache : cache.map Prod.fst = indexPairs working.length)
    (hprimary : working[primaryIndex]? = some primary) (hi : i < working.length) :
    ∃ member, clusterMember working cache primary primaryIndex i = .ok member := by
  obtain ⟨item, hitem⟩ := exists_item hi
  have hsignals : ∃ signals, memberSignals cache primary primaryIndex i item = .ok signals := by
    unfold memberSignals
    by_cases hid : item.keywordId = primary.keywordId
    · rw [if_pos hid]
      exact ⟨_, rfl⟩
    · rw [if_neg hid]
      have hne : primaryIndex ≠ i := by
        rintro rfl
        cases hprimary.symm.trans hitem
        exact hid rfl
      have hlt := (List.getElem?_eq_some_iff.1 hprimary).1
      refine cachedAt_ok ?_
      rw [hcache, mem_indexPairs]
      omega
  obtain ⟨signals, hsignals⟩ := hsignals
  unfold clusterMember
  refine ⟨(signals, memberResult primary item signals), ?_⟩
  rw [bind_of_ok (itemAt_ok hitem), bind_of_ok hsignals]
  rfl

theorem clusterMember_eq_ok {member : PairSignals × ClusterMemberResult}
    (h : clusterMember working cache primary primaryIndex i = .ok member) :
    ∃ item, working[i]? = some item ∧ member.2 = memberResult primary item member.1 := by
  obtain ⟨item, hitem, h⟩ := bind_ok h
  obtain ⟨signals, -, h⟩ := bind_ok h
  cases h
  exact ⟨item, itemAt_eq_ok hitem, rfl⟩

theorem map_candidate_members {members : List (PairSignals × ClusterMemberResult)}
    (h : List.Forall₂ (fun i member => clusterMember working cache primary primaryIndex i =
      .ok member) indexes members) :
    (members.map Prod.snd).map ClusterMemberResult.candidate = groupAt working indexes ∧
      ∀ member ∈ members.map Prod.snd,
        (member.isPrimary = true ↔ member.candidate.keywordId = primary.keywordId) := by
  induction h with
  | nil => exact ⟨rfl, by simp⟩
  | cons hmember hrest ih =>
    obtain ⟨item, hitem, heq⟩ := clusterMember_eq_ok hmember
    obtain ⟨hcandidates, hall⟩ := ih
    unfold groupAt at hcandidates ⊢
    constructor
    · rw [List.filterMap_cons_some hitem, List.map_cons, List.map_cons, hcandidates, heq]
      rfl
    · intro member hmem
      rcases List.mem_cons.1 hmem with rfl | hmem
      · rw [heq]
        exact decide_eq_true_iff
      · exact hall member hmem

/-- A cluster has its greatest candidate in front, as the only primary member, and counts its
members. -/
structure ClusterSound (texts : KeywordTexts) (result : ClusterResult) : Prop where
  primary : IsPrimary texts result.candidates result.primary
  front : ∃ first rest, result.members = first :: rest ∧ first.isPrimary = true ∧
    first.candidate = result.primary ∧ ∀ other ∈ rest, other.isPrimary = false
  counted : result.signals.memberCount = result.members.length
  decision : result.decisionRequired = true ↔ 1 < result.members.length

theorem memberKey_lt {a b : ClusterMemberResult} (ha : a.isPrimary = true)
    (hb : b.isPrimary = false) : memberKey a < memberKey b := by
  refine Prod.Lex.toLex_lt_toLex.2 (.inl ?_)
  rw [ha, hb]
  exact Nat.zero_lt_one

theorem primary_front {members : List ClusterMemberResult}
    (hprimary : primary ∈ members.map ClusterMemberResult.candidate)
    (hids : (members.map fun member => member.candidate.keywordId).Nodup)
    (hflag : ∀ member ∈ members, (member.isPrimary = true ↔
      member.candidate.keywordId = primary.keywordId)) : ∃ first rest,
      members.insertionSort (fun a b => memberKey a ≤ memberKey b) = first :: rest ∧
        first.isPrimary = true ∧ first.candidate = primary ∧
        ∀ other ∈ rest, other.isPrimary = false := by
  have hperm := List.perm_insertionSort (fun a b => memberKey a ≤ memberKey b) members
  have htotal : Std.Total fun a b : ClusterMemberResult => memberKey a ≤ memberKey b :=
    ⟨fun a b => le_total _ _⟩
  have htrans : IsTrans ClusterMemberResult fun a b => memberKey a ≤ memberKey b :=
    ⟨fun _ _ _ => le_trans⟩
  have hsorted := List.pairwise_insertionSort (fun a b => memberKey a ≤ memberKey b) members
  generalize members.insertionSort (fun a b => memberKey a ≤ memberKey b) = sorted at hperm hsorted
  obtain ⟨chosen, hchosen, hcandidate⟩ := List.mem_map.1 hprimary
  have hchosenFlag : chosen.isPrimary = true := (hflag chosen hchosen).2 (by rw [hcandidate])
  have hids' : (sorted.map fun member => member.candidate.keywordId).Nodup :=
    (hperm.map _).nodup_iff.2 hids
  cases sorted with
  | nil => exact absurd (hperm.mem_iff.2 hchosen) List.not_mem_nil
  | cons first rest =>
    rw [List.pairwise_cons] at hsorted
    rw [List.map_cons, List.nodup_cons] at hids'
    have hfront : chosen = first := by
      rcases List.mem_cons.1 (hperm.mem_iff.2 hchosen) with heq | hrest
      · exact heq
      · have hle := hsorted.1 chosen hrest
        cases hfirst : first.isPrimary with
        | false => exact absurd hle (not_le.2 (memberKey_lt hchosenFlag hfirst))
        | true =>
          have hid := (hflag first (hperm.mem_iff.1 List.mem_cons_self)).1 hfirst
          refine absurd ?_ hids'.1
          rw [hid, ← hcandidate]
          exact List.mem_map_of_mem hrest
    subst hfront
    refine ⟨chosen, rest, rfl, hchosenFlag, hcandidate, fun other hother => ?_⟩
    refine Bool.eq_false_iff.2 fun htrue => ?_
    have hid := (hflag other (hperm.mem_iff.1 (List.mem_cons_of_mem _ hother))).1 htrue
    refine hids'.1 ?_
    rw [hcandidate, ← hid]
    exact List.mem_map_of_mem hother

theorem clusterGroup_ok (hids : (working.map ClusterCandidate.keywordId).Nodup)
    (hnormal : ∀ item ∈ working, Normal texts item) (hcache : cache.map Prod.fst = indexPairs working.length)
    (hindexes : indexes.Nodup) (hlt : ∀ i ∈ indexes, i < working.length) (hnonempty : indexes ≠ []) :
    ∃ result, clusterGroup texts request working cache indexes = .ok result ∧
      result.candidates.Perm (groupAt working indexes) ∧ ClusterSound texts result := by
  have hgroup : groupAt working indexes ≠ [] := by
    obtain ⟨i, hi⟩ := List.exists_mem_of_ne_nil _ hnonempty
    obtain ⟨item, hitem⟩ := exists_item (hlt i hi)
    exact List.ne_nil_of_mem (mem_groupAt.2 ⟨i, hi, hitem⟩)
  have hsub : ∀ item ∈ groupAt working indexes, item ∈ working := by
    intro item hitem
    obtain ⟨i, -, hi⟩ := mem_groupAt.1 hitem
    exact List.mem_of_getElem? hi
  obtain ⟨primary, hprimary, hgreatest⟩ :=
    primaryOf_ok hgroup fun item hitem => hnormal item (hsub item hitem)
  obtain ⟨primaryIndex, hindex, hat⟩ := indexOf_ok (hsub primary hgreatest.1)
  obtain ⟨members, hmembers, hall⟩ := mapM_answers fun i hi => by
    obtain ⟨member, hmember⟩ := clusterMember_ok hcache hat (hlt i hi)
    exact ⟨member, hmember, hmember⟩
  obtain ⟨hcandidates, hflag⟩ := map_candidate_members hall
  have hgroupIds : ((members.map Prod.snd).map fun member =>
      member.candidate.keywordId).Nodup := by
    have hnodup := nodup_groupAt hids hindexes hlt
    rw [← hcandidates, List.map_map] at hnodup
    exact hnodup
  have hfront := primary_front (hcandidates ▸ hgreatest.1) hgroupIds hflag
  have hperm : (clusterResult request primary (groupAt working indexes) members).candidates.Perm
      (groupAt working indexes) := by
    rw [← hcandidates]
    exact (List.perm_insertionSort _ _).map _
  have hlength : (groupAt working indexes).length =
      (clusterResult request primary (groupAt working indexes) members).members.length := by
    rw [← hperm.length_eq]
    exact List.length_map _
  refine ⟨clusterResult request primary (groupAt working indexes) members, ?_, hperm, ?_⟩
  · unfold clusterGroup
    rw [bind_of_ok (mapM_itemAt hlt), bind_of_ok hprimary, bind_of_ok hindex, bind_of_ok hmembers]
    rfl
  · refine ⟨⟨hperm.mem_iff.2 hgreatest.1, fun item hitem => ?_⟩, hfront, hlength, ?_⟩
    · exact hgreatest.2 item (hperm.mem_iff.1 hitem)
    · rw [← hlength]
      exact decide_eq_true_iff

end Clusters

/-- The earlier candidate of a pair is similar to the later one. -/
def Similar (measure : PairMeasure) (useSerp : Bool) (threshold : Rat)
    (working : List ClusterCandidate) (left right : ClusterCandidate) : Prop :=
  ∃ i j : Nat, i < j ∧ working[i]? = some left ∧ working[j]? = some right ∧
    threshold ≤ (measure left right useSerp).similarity

/-- A chain of similar pairs links the candidates. -/
def Chained (measure : PairMeasure) (useSerp : Bool) (threshold : Rat)
    (working : List ClusterCandidate) : ClusterCandidate → ClusterCandidate → Prop :=
  Relation.EqvGen (Similar measure useSerp threshold working)

structure Components (texts : KeywordTexts) (measure : PairMeasure) (request : ClusterRequest)
    (working : List ClusterCandidate) (results : List ClusterResult) : Prop where
  partition : (results.flatMap ClusterResult.candidates).Perm working
  linked : ∀ a ∈ working, ∀ b ∈ working,
    (∃ result ∈ results, a ∈ result.candidates ∧ b ∈ result.candidates) ↔
      Chained measure request.useSerpWhenLicensed request.similarityThreshold working a b
  sound : ∀ result ∈ results, ClusterSound texts result

section Components

variable {texts : KeywordTexts} {measure : PairMeasure} {request : ClusterRequest}
  {working : List ClusterCandidate} {useSerp : Bool} {threshold : Rat}

theorem eqvGen_map {α β : Type} {R : α → α → Prop} {S : β → β → Prop} (f : α → β)
    (h : ∀ a b, R a b → S (f a) (f b)) {a b : α} (hab : Relation.EqvGen R a b) :
    Relation.EqvGen S (f a) (f b) := by
  induction hab with
  | rel a b hab => exact .rel _ _ (h a b hab)
  | refl a => exact .refl _
  | symm a b _ ih => exact .symm _ _ ih
  | trans a b c _ _ hab hbc => exact .trans _ _ _ hab hbc

section

variable (hids : (working.map ClusterCandidate.keywordId).Nodup) {i : Nat}

include hids

theorem idxOf_eq (h : working[i]? = some item) : working.idxOf item = i := by
  obtain ⟨j, hj, hat⟩ := indexOf_ok (List.mem_of_getElem? h)
  have hidx : working.idxOf item = j := by
    unfold indexOf at hj
    rw [if_pos (List.mem_of_getElem? h)] at hj
    exact Except.ok.inj hj
  rw [hidx]
  exact index_unique hids hat h rfl

theorem chained_iff {united : List (Nat × Nat)}
    (hunited : ∀ pair, pair ∈ united ↔ pair ∈ indexPairs working.length ∧
      SimilarAt measure useSerp threshold working pair)
    {j : Nat} {a b : ClusterCandidate} (ha : working[i]? = some a) (hb : working[j]? = some b) :
    Relation.EqvGen (fun i j => (i, j) ∈ united) i j ↔
      Chained measure useSerp threshold working a b := by
  constructor
  · intro h
    have hmapped := eqvGen_map (fun i => working[i]?.getD a)
      (S := Similar measure useSerp threshold working) (fun i j hij => ?_) h
    · rw [ha, hb] at hmapped
      exact hmapped
    · obtain ⟨hpair, left, right, hleft, hright, hle⟩ := (hunited (i, j)).1 hij
      have hl : working[i]?.getD a = left := by rw [hleft]; rfl
      have hr : working[j]?.getD a = right := by rw [hright]; rfl
      rw [hl, hr]
      exact ⟨i, j, (mem_indexPairs.1 hpair).1, hleft, hright, hle⟩
  · intro h
    have hmapped := eqvGen_map (fun item => working.idxOf item)
      (S := fun i j => (i, j) ∈ united) (fun left right hpair => ?_) h
    · rw [idxOf_eq hids ha, idxOf_eq hids hb] at hmapped
      exact hmapped
    · obtain ⟨i, j, hij, hleft, hright, hle⟩ := hpair
      rw [idxOf_eq hids hleft, idxOf_eq hids hright, hunited, mem_indexPairs]
      exact ⟨⟨hij, (List.getElem?_eq_some_iff.1 hright).1⟩, left, right, hleft, hright, hle⟩

end

theorem groupAt_range (working : List ClusterCandidate) :
    groupAt working (List.range working.length) = working := by
  induction working using List.reverseRecOn with
  | nil => rfl
  | append_singleton working item ih =>
    unfold groupAt at ih ⊢
    rw [List.length_append, List.length_singleton, List.range_succ, List.filterMap_append]
    congr 1
    · refine (List.filterMap_congr fun i hi => ?_).trans ih
      exact List.getElem?_append_left (List.mem_range.1 hi)
    · simp

theorem groupAt_flatMap (groups : List (Nat × List Nat)) :
    groups.flatMap (fun group => groupAt working group.2) =
      groupAt working (groups.flatMap Prod.snd) := by
  unfold groupAt
  rw [List.filterMap_flatMap]

theorem clusterWorking_ok (measure : PairMeasure) (request : ClusterRequest)
    (hids : (working.map ClusterCandidate.keywordId).Nodup) (hnormal : ∀ item ∈ working, Normal texts item) :
    ∃ results, clusterWorking texts measure request working = .ok results ∧
      Components texts measure request working results := by
  obtain ⟨united, cache, hscan, hunited, hcache⟩ :=
    scanPairs_ok measure request.useSerpWhenLicensed request.similarityThreshold hnormal
  have hpairs : ∀ pair ∈ united, pair.1 < working.length ∧ pair.2 < working.length := by
    rintro ⟨i, j⟩ hpair
    have hlt := mem_indexPairs.1 ((hunited (i, j)).1 hpair).1
    exact ⟨by omega, hlt.2⟩
  have hsingles : (singletons working.length).length = working.length := List.length_range
  have hrooted : Rooted (unions (singletons working.length) united) :=
    (unions_spec (wellFormed_singletons _) (by rwa [hsingles])).1.rooted
  have htogether := together_unions hpairs
  generalize unions (singletons working.length) united = forest at hscan hrooted htogether
  -- the groups share out the indices by their roots
  have hgrouped := grouped_groupBy (fun i => (findRoot forest i).1) (List.range working.length)
  have hshared := flatMap_groupBy (fun i => (findRoot forest i).1) (List.range working.length)
  rw [← groupIndexes_eq hrooted] at hgrouped hshared
  obtain ⟨groups, hgroups⟩ : ∃ groups, groups = groupIndexes forest working.length := ⟨_, rfl⟩
  rw [← hgroups] at hgrouped hshared
  have hkeyed : ∀ group ∈ groups, ∀ i, i ∈ group.2 ↔
      i < working.length ∧ (findRoot forest i).1 = group.1 := by
    intro group hgroup i
    rw [(hgrouped.filtered group hgroup).1, List.mem_filter, List.mem_range, decide_eq_true_eq]
  have hspec : ∀ group ∈ groups, ∃ result,
      clusterGroup texts request working cache group.2 = .ok result ∧
        result.candidates.Perm (groupAt working group.2) ∧ ClusterSound texts result := by
    intro group hgroup
    obtain ⟨hfiltered, hnonempty⟩ := hgrouped.filtered group hgroup
    refine clusterGroup_ok hids hnormal hcache ?_ (fun i hi => ?_) hnonempty
    · rw [hfiltered]
      exact List.nodup_range.filter _
    · exact ((hkeyed group hgroup i).1 hi).1
  obtain ⟨results, hresults, hall⟩ := mapM_answers hspec
  have hperm := List.perm_insertionSort (fun a b => resultKey a ≤ resultKey b) results
  refine ⟨results.insertionSort fun a b => resultKey a ≤ resultKey b, ?_, ?_, ?_, ?_⟩
  · unfold clusterWorking
    rw [bind_of_ok hscan]
    dsimp only
    rw [← hgroups, bind_of_ok hresults]
    rfl
  · refine (hperm.flatMap_right _).trans ?_
    have hcandidates := flatMap_perm (g := fun group => groupAt working group.2)
      (h := ClusterResult.candidates) (hall.imp fun group result h => h.1)
    rw [groupAt_flatMap] at hcandidates
    have hindices := (hshared.filterMap (working[·]?)).trans (.of_eq (groupAt_range working))
    exact hcandidates.trans hindices
  · intro a ha b hb
    obtain ⟨i, -, hi⟩ := indexOf_ok ha
    obtain ⟨j, -, hj⟩ := indexOf_ok hb
    rw [← chained_iff hids hunited hi hj, ← htogether, ← findRoot_eq_iff hrooted]
    have hmember : ∀ group ∈ groups, ∀ result : ClusterResult,
        result.candidates.Perm (groupAt working group.2) →
        ∀ {k item}, working[k]? = some item →
          (item ∈ result.candidates ↔ (findRoot forest k).1 = group.1) := by
      intro group hgroup result hcandidates k item hk
      rw [hcandidates.mem_iff, mem_groupAt]
      constructor
      · rintro ⟨l, hl, hat⟩
        rw [← index_unique hids hat hk rfl]
        exact ((hkeyed group hgroup l).1 hl).2
      · exact fun hroot => ⟨k, (hkeyed group hgroup k).2 ⟨(List.getElem?_eq_some_iff.1 hk).1, hroot⟩, hk⟩
    constructor
    · rintro ⟨result, hresult, ha, hb⟩
      obtain ⟨group, hgroup, hcandidates, -⟩ := forall₂_mem_right hall (hperm.mem_iff.1 hresult)
      rw [hmember group hgroup result hcandidates hi] at ha
      rw [hmember group hgroup result hcandidates hj] at hb
      exact ha.trans hb.symm
    · intro hroots
      have hlt := (List.getElem?_eq_some_iff.1 hi).1
      obtain ⟨group, hgroup, hkey⟩ := List.mem_map.1 (hgrouped.keys i (List.mem_range.2 hlt))
      obtain ⟨result, hresult, hcandidates, -⟩ := forall₂_mem_left hall hgroup
      refine ⟨result, hperm.mem_iff.2 hresult, ?_, ?_⟩
      · exact (hmember group hgroup result hcandidates hi).2 hkey.symm
      · exact (hmember group hgroup result hcandidates hj).2 (hroots.symm.trans hkey.symm)
  · intro result hresult
    obtain ⟨group, -, -, hsound⟩ := forall₂_mem_right hall (hperm.mem_iff.1 hresult)
    exact hsound

/-- The candidates that take part. -/
def kept (texts : KeywordTexts) (kind : ClusterKind) (candidates : List ClusterCandidate) :
    List ClusterCandidate :=
  candidates.filter fun item => (keeps texts kind item).toOption = some true

theorem keepKeywords_ok (kind : ClusterKind) {candidates : List ClusterCandidate}
    (hnormal : ∀ item ∈ candidates, Normal texts item) :
    keepKeywords texts kind candidates = .ok (kept texts kind candidates) := by
  induction candidates with
  | nil => rfl
  | cons candidate candidates ih =>
    have hrest := ih fun item hitem => hnormal item (List.mem_cons_of_mem _ hitem)
    have hkeeps : ∃ flag, keeps texts kind candidate = .ok flag := by
      obtain ⟨normalized, hnormalized⟩ := hnormal candidate List.mem_cons_self
      unfold keeps
      split
      · exact ⟨true, rfl⟩
      · unfold questionKeyword
        rw [hnormalized]
        exact ⟨_, rfl⟩
    obtain ⟨flag, hflag⟩ := hkeeps
    have hfilter : kept texts kind (candidate :: candidates) =
        if flag = true then candidate :: kept texts kind candidates
        else kept texts kind candidates := by
      unfold kept
      rw [List.filter_cons, hflag]
      cases flag <;> rfl
    unfold keepKeywords
    rw [bind_of_ok hflag, bind_of_ok hrest, hfilter]
    rfl

theorem clusterKeywords_ok (measure : PairMeasure) (request : ClusterRequest)
    {candidates : List ClusterCandidate} (hlow : 0 ≤ request.similarityThreshold)
    (hhigh : request.similarityThreshold ≤ 1) (hlength : candidates.length ≤ technicalMaxClusterCandidates)
    (hids : (candidates.map ClusterCandidate.keywordId).Nodup)
    (hnormal : ∀ item ∈ candidates, Normal texts item) :
    ∃ results, clusterKeywords texts measure request candidates = .ok results ∧
      Components texts measure request (kept texts request.kind candidates) results := by
  have hsub : (kept texts request.kind candidates).Sublist candidates := List.filter_sublist
  obtain ⟨results, hresults, hcomponents⟩ := clusterWorking_ok measure request
    (hids.sublist (hsub.map _)) fun item hitem => hnormal item (hsub.subset hitem)
  refine ⟨results, ?_, hcomponents⟩
  unfold clusterKeywords
  rw [bind_of_ok (require_of ⟨hlow, hhigh⟩ _), bind_of_ok (require_of hlength _),
    bind_of_ok (keepKeywords_ok request.kind hnormal)]
  exact hresults

/-- A lower threshold links what a higher one links. -/
theorem Chained.lower {lower : Rat} (hle : lower ≤ threshold) {a b : ClusterCandidate}
    (h : Chained measure useSerp threshold working a b) : Chained measure useSerp lower working a b := by
  refine eqvGen_of_imp (fun left right hpair => ?_) h
  obtain ⟨i, j, hij, hleft, hright, hsimilar⟩ := hpair
  exact .rel _ _ ⟨i, j, hij, hleft, hright, hle.trans hsimilar⟩

section

variable {results : List ClusterResult} (hnodup : working.Nodup)
    (h : Components texts measure request working results) {result : ClusterResult}

include hnodup h

/-- A candidate is in one cluster only. -/
theorem Components.unique {other : ClusterResult} (hresult : result ∈ results) (hother : other ∈ results)
    (hitem : item ∈ result.candidates) (hitem' : item ∈ other.candidates) : result = other := by
  by_contra hne
  have hflat := (List.nodup_flatMap.1 (h.partition.nodup_iff.2 hnodup)).2
  have hsymm : Std.Symm (Function.onFun List.Disjoint ClusterResult.candidates) :=
    ⟨fun _ _ hdisjoint => hdisjoint.symm⟩
  have hdisjoint := hflat.forall hresult hother hne
  exact hdisjoint hitem hitem'

/-- The cluster of one member holds all members of the finer cluster. -/
theorem Components.refines {coarser : List ClusterResult} {lower : Rat}
    (h' : Components texts measure { request with similarityThreshold := lower } working coarser)
    (hle : lower ≤ request.similarityThreshold) (hresult : result ∈ results) :
    ∃ wider ∈ coarser, ∀ item ∈ result.candidates, item ∈ wider.candidates := by
  have hworking : ∀ {results : List ClusterResult} {request : ClusterRequest},
      Components texts measure request working results → ∀ result ∈ results,
        ∀ item ∈ result.candidates, item ∈ working := by
    intro results request hall result hresult item hitem
    exact hall.partition.mem_iff.1 (List.mem_flatMap.2 ⟨result, hresult, hitem⟩)
  have hprimary := (h.sound result hresult).primary.1
  have hmem := hworking h result hresult result.primary hprimary
  obtain ⟨wider, hwider, hin⟩ := List.mem_flatMap.1 (h'.partition.mem_iff.2 hmem)
  refine ⟨wider, hwider, fun item hitem => ?_⟩
  have hitemWorking := hworking h result hresult item hitem
  have hchained := (h.linked _ hmem item hitemWorking).1 ⟨result, hresult, hprimary, hitem⟩
  obtain ⟨other, hother, hprimary', hitem'⟩ :=
    (h'.linked _ hmem item hitemWorking).2 (hchained.lower hle)
  rw [h'.unique hnodup hwider hother hin hprimary']
  exact hitem'

end

end Components

/-- For at most 5,000 candidates with distinct ids whose texts can be normalised, the clusters are the
components of the kept candidates, and those for a larger threshold are parts of those for a smaller
one. -/
theorem clusters_are_components (texts : KeywordTexts) (measure : PairMeasure) (request : ClusterRequest)
    {candidates : List ClusterCandidate} (hlow : 0 ≤ request.similarityThreshold)
    (hhigh : request.similarityThreshold ≤ 1) (hlength : candidates.length ≤ technicalMaxClusterCandidates)
    (hids : (candidates.map ClusterCandidate.keywordId).Nodup)
    (hnormal : ∀ item ∈ candidates, Normal texts item) :
    ∃ results, clusterKeywords texts measure request candidates = .ok results ∧
      Components texts measure request (kept texts request.kind candidates) results ∧
      ∀ lower, 0 ≤ lower → lower ≤ request.similarityThreshold →
        ∃ coarser, clusterKeywords texts measure
            { request with similarityThreshold := lower } candidates = .ok coarser ∧
          ∀ result ∈ results, ∃ wider ∈ coarser,
            ∀ item ∈ result.candidates, item ∈ wider.candidates := by
  obtain ⟨results, hresults, hcomponents⟩ :=
    clusterKeywords_ok measure request hlow hhigh hlength hids hnormal
  refine ⟨results, hresults, hcomponents, fun lower hlower hle => ?_⟩
  obtain ⟨coarser, hcoarser, hcomponents'⟩ :=
    clusterKeywords_ok measure { request with similarityThreshold := lower } hlower
      (hle.trans hhigh) hlength hids hnormal
  have hnodup : (kept texts request.kind candidates).Nodup :=
    (List.Nodup.of_map _ hids).sublist List.filter_sublist
  exact ⟨coarser, hcoarser, fun result hresult =>
    hcomponents.refines hnodup hcomponents' hle hresult⟩

/-- Texts that are written in lower case already. -/
def plainKeywordTexts : KeywordTexts where
  nfkc text := text
  casefold text := text

def plainMeasure : PairMeasure := fun left right _ =>
  if left.text = right.text then sameTextSignals left
  else { similarity := 1 / 2, lexical := 1 / 2, semantic := none, intentMatch := true
         serpOverlap := none }

def plainCandidates : List ClusterCandidate := [⟨1, "tea", .unknown, none, none, none, [], false⟩,
    ⟨2, "coffee", .unknown, none, none, none, [], false⟩,
    ⟨3, "tea", .unknown, none, none, none, [], false⟩]

theorem clusters_are_components_sample :
    ∃ results, clusterKeywords plainKeywordTexts plainMeasure {} plainCandidates = .ok results ∧
      Components plainKeywordTexts plainMeasure {}
        (kept plainKeywordTexts .keyword plainCandidates) results := by
  have hnormal : ∀ item ∈ plainCandidates, Normal plainKeywordTexts item := by
    intro item hitem
    simp only [plainCandidates, List.mem_cons, List.not_mem_nil, or_false] at hitem
    rcases hitem with rfl | rfl | rfl
    · exact ⟨"tea", by decide +kernel⟩
    · exact ⟨"coffee", by decide +kernel⟩
    · exact ⟨"tea", by decide +kernel⟩
  have hlow : (0 : Rat) ≤ 72 / 100 := by decide +kernel
  have hhigh : (72 / 100 : Rat) ≤ 1 := by decide +kernel
  obtain ⟨results, hresults, hcomponents, -⟩ := clusters_are_components plainKeywordTexts
    plainMeasure {} hlow hhigh (by decide) (by decide) hnormal
  exact ⟨results, hresults, hcomponents⟩

/-- A blank text raises, and so does a list of more than 5,000 candidates. -/
theorem clusters_refused : clusterKeywords plainKeywordTexts plainMeasure {}
        [⟨1, " ", .unknown, none, none, none, [], false⟩] = .error keywordEmpty ∧
      ∀ candidates : List ClusterCandidate, candidates.length = 5001 →
        clusterKeywords plainKeywordTexts plainMeasure {} candidates =
          .error .validationError := by
  refine ⟨by decide +kernel, fun candidates hlength => ?_⟩
  have hthreshold : (0 : Rat) ≤ 72 / 100 ∧ (72 / 100 : Rat) ≤ 1 := by decide +kernel
  have hmany : ¬candidates.length ≤ technicalMaxClusterCandidates := by
    rw [hlength]
    decide
  unfold clusterKeywords
  rw [bind_of_ok (require_of hthreshold _)]
  unfold require
  rw [if_neg hmany]
  rfl

end BlogOps.Keywords
