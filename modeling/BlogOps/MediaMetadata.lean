import Mathlib.Data.List.Basic
import Mathlib.Data.List.Nodup

/-!
# Private image metadata

The walk that removes the keys of locations, devices and persons from nested metadata, next to what
is private whatever the spelling of the key.
-/

namespace BlogOps.Media

open List

/-- A value that is no mapping, list or tuple; another object is replaced by its text. -/
inductive Scalar where
  | null
  | boolean (value : Bool)
  | number (value : Rat)
  | text (value : String)
  | other (shown : String)
deriving DecidableEq, Repr

def Scalar.sanitized : Scalar → Scalar
  | .other shown => .text shown
  | value => value

/-- The keys of a mapping are the texts of its keys, in order; lists and tuples are sequences. -/
inductive Metadata where
  | mapping (entries : List (String × Metadata))
  | sequence (items : List Metadata)
  | scalar (value : Scalar)

/-- Functions of the Unicode database. -/
structure MetadataTexts where
  casefold : String → String
  lower : String → String
  isAlphanumeric : Char → Bool

def privateMetadataKeys : List String :=
  ["gps", "gps_info", "gps_latitude", "gps_longitude", "location", "serial_number",
    "camera_serial_number", "owner_name", "artist", "copyright_owner_email", "user_comment"]

variable (texts : MetadataTexts)

/-- `key.casefold().replace(" ", "_")`. -/
def normalizedKey (key : String) : String :=
  (texts.casefold key).map fun c => if c = ' ' then '_' else c

def isRemoved (key : String) : Bool := normalizedKey texts key ∈ privateMetadataKeys ||
    "gps_".toList.isPrefixOf (normalizedKey texts key).toList

def nestedPath (path key : String) : String := if path = "" then key else path ++ "." ++ key

def itemPath (path : String) (index : Nat) : String := path ++ "[" ++ toString index ++ "]"

/-- `result[key] = value`. -/
def setKey (key : String) (value : Metadata) : List (String × Metadata) → List (String × Metadata)
  | [] => [(key, value)]
  | (other, old) :: entries =>
    if other = key then (key, value) :: entries else (other, old) :: setKey key value entries

mutual

/-- The sanitised value with the paths that are removed below it. -/
def walk (texts : MetadataTexts) : Metadata → String → Metadata × List String
  | .mapping entries, path =>
    let (result, removed) := walkEntries texts entries path []
    (.mapping result, removed)
  | .sequence items, path =>
    let (result, removed) := walkItems texts items path 0
    (.sequence result, removed)
  | .scalar value, _ => (.scalar value.sanitized, [])

def walkEntries (texts : MetadataTexts) : List (String × Metadata) → String → List (String × Metadata) →
      List (String × Metadata) × List String
  | [], _, result => (result, [])
  | (key, nested) :: entries, path, result =>
    if isRemoved texts key = true then
      let (result, removed) := walkEntries texts entries path result
      (result, nestedPath path key :: removed)
    else
      let (value, inner) := walk texts nested (nestedPath path key)
      let (result, removed) := walkEntries texts entries path (setKey key value result)
      (result, inner ++ removed)

def walkItems (texts : MetadataTexts) : List Metadata → String → Nat → List Metadata × List String
  | [], _, _ => ([], [])
  | item :: items, path, index =>
    let (value, inner) := walk texts item (itemPath path index)
    let (result, removed) := walkItems texts items path (index + 1)
    (value :: result, inner ++ removed)

end

def sanitizeMetadata (metadata : Metadata) : Metadata × List String := walk texts metadata ""

/-- The key without everything that is no letter or digit, in lower case. -/
def bareKey (key : String) : String :=
  texts.lower (String.ofList (key.toList.filter texts.isAlphanumeric))

def privateNames : List String :=
  ["gps", "location", "artist", "ownername", "usercomment", "serialnumber", "cameraserialnumber",
    "copyrightowneremail"]

def isPrivate (key : String) : Bool :=
  bareKey texts key ∈ privateNames || "gps".toList.isPrefixOf (bareKey texts key).toList

mutual

/-- The value without the private keys at any depth. -/
def withoutPrivate (texts : MetadataTexts) : Metadata → Metadata
  | .mapping entries => .mapping (entriesWithoutPrivate texts entries)
  | .sequence items => .sequence (itemsWithoutPrivate texts items)
  | .scalar value => .scalar value.sanitized

def entriesWithoutPrivate (texts : MetadataTexts) : List (String × Metadata) → List (String × Metadata)
  | [] => []
  | (key, nested) :: entries =>
    if isPrivate texts key = true then entriesWithoutPrivate texts entries
    else (key, withoutPrivate texts nested) :: entriesWithoutPrivate texts entries

def itemsWithoutPrivate (texts : MetadataTexts) : List Metadata → List Metadata
  | [] => []
  | item :: items => withoutPrivate texts item :: itemsWithoutPrivate texts items

end

mutual

/-- The paths of the private keys that are not below another one. -/
def privatePaths (texts : MetadataTexts) : Metadata → String → List String
  | .mapping entries, path => entryPaths texts entries path
  | .sequence items, path => itemPaths texts items path 0
  | .scalar _, _ => []

def entryPaths (texts : MetadataTexts) : List (String × Metadata) → String → List String
  | [], _ => []
  | (key, nested) :: entries, path =>
    if isPrivate texts key = true then nestedPath path key :: entryPaths texts entries path
    else privatePaths texts nested (nestedPath path key) ++ entryPaths texts entries path

def itemPaths (texts : MetadataTexts) : List Metadata → String → Nat → List String
  | [], _, _ => []
  | item :: items, path, index =>
    privatePaths texts item (itemPath path index) ++ itemPaths texts items path (index + 1)

end

mutual

/-- No mapping at any depth has a private key. -/
def NoPrivateKey (texts : MetadataTexts) : Metadata → Prop
  | .mapping entries => NoPrivateEntry texts entries
  | .sequence items => NoPrivateItem texts items
  | .scalar _ => True

def NoPrivateEntry (texts : MetadataTexts) : List (String × Metadata) → Prop
  | [] => True
  | (key, nested) :: entries =>
    isPrivate texts key = false ∧ NoPrivateKey texts nested ∧ NoPrivateEntry texts entries

def NoPrivateItem (texts : MetadataTexts) : List Metadata → Prop
  | [] => True
  | item :: items => NoPrivateKey texts item ∧ NoPrivateItem texts items

end

/-- The keys of a mapping that are not private. -/
def keptKeys (entries : List (String × Metadata)) : List String :=
  (entries.map Prod.fst).filter fun key => !isPrivate texts key

mutual

/-- The walk removes exactly the private keys that it meets, and no two keys that stay in one mapping
have the same text. -/
def Recognised (texts : MetadataTexts) : Metadata → Prop
  | .mapping entries => (keptKeys texts entries).Nodup ∧ RecognisedEntries texts entries
  | .sequence items => RecognisedItems texts items
  | .scalar _ => True

def RecognisedEntries (texts : MetadataTexts) : List (String × Metadata) → Prop
  | [] => True
  | (key, nested) :: entries =>
    isRemoved texts key = isPrivate texts key ∧
      (isPrivate texts key = false → Recognised texts nested) ∧ RecognisedEntries texts entries

def RecognisedItems (texts : MetadataTexts) : List Metadata → Prop
  | [] => True
  | item :: items => Recognised texts item ∧ RecognisedItems texts items

end

section Walk

variable {texts : MetadataTexts}

theorem setKey_fresh {key : String} {value : Metadata} {result : List (String × Metadata)}
    (h : key ∉ result.map Prod.fst) : setKey key value result = result ++ [(key, value)] := by
  induction result with
  | nil => rfl
  | cons entry result ih =>
    rw [map_cons, mem_cons, not_or] at h
    obtain ⟨other, old⟩ := entry
    unfold setKey
    rw [if_neg (Ne.symm h.1), ih h.2, cons_append]

theorem keys_setKey (key : String) (value : Metadata) (result : List (String × Metadata)) :
    (setKey key value result).map Prod.fst =
      if key ∈ result.map Prod.fst then result.map Prod.fst
      else result.map Prod.fst ++ [key] := by
  induction result with
  | nil => simp [setKey]
  | cons entry result ih =>
    obtain ⟨other, old⟩ := entry
    unfold setKey
    by_cases hkey : other = key
    · simp [hkey]
    · rw [if_neg hkey, map_cons, ih, map_cons]
      by_cases hmem : key ∈ result.map Prod.fst
      · simp [hmem]
      · rw [if_neg hmem, if_neg, cons_append]
        simp only [mem_cons, not_or]
        exact ⟨Ne.symm hkey, hmem⟩

theorem keys_walkEntries (texts : MetadataTexts) (entries : List (String × Metadata)) (path : String)
    (result : List (String × Metadata)) (hresult : (result.map Prod.fst).Nodup) :
    ((walkEntries texts entries path result).1.map Prod.fst).Nodup ∧
      ∀ key, key ∈ (walkEntries texts entries path result).1.map Prod.fst ↔
        key ∈ result.map Prod.fst ∨ key ∈ entries.map Prod.fst ∧ isRemoved texts key = false := by
  induction entries generalizing result with
  | nil =>
    unfold walkEntries
    exact ⟨hresult, by simp⟩
  | cons entry entries ih =>
    obtain ⟨other, nested⟩ := entry
    unfold walkEntries
    by_cases hremoved : isRemoved texts other = true
    · rw [if_pos hremoved]
      refine ⟨(ih result hresult).1, fun key => ((ih result hresult).2 key).trans ?_⟩
      simp only [map_cons, mem_cons]
      constructor
      · exact fun h => h.imp_right fun h => ⟨.inr h.1, h.2⟩
      · rintro (h | ⟨rfl | h, hkept⟩)
        · exact .inl h
        · exact absurd (hremoved.symm.trans hkept) nofun
        · exact .inr ⟨h, hkept⟩
    · rw [if_neg hremoved]
      have hkept := Bool.eq_false_iff.2 hremoved
      have hkeys := keys_setKey other (walk texts nested (nestedPath path other)).1 result
      have hnodup : ((setKey other (walk texts nested (nestedPath path other)).1
          result).map Prod.fst).Nodup := by
        rw [hkeys]
        split
        · exact hresult
        · next hfresh =>
          rw [nodup_append]
          refine ⟨hresult, nodup_singleton _, fun a ha b hb => ?_⟩
          rw [mem_singleton.1 hb]
          rintro rfl
          exact hfresh ha
      refine ⟨(ih _ hnodup).1, fun key => ((ih _ hnodup).2 key).trans ?_⟩
      rw [hkeys]
      simp only [map_cons, mem_cons]
      by_cases hmem : other ∈ result.map Prod.fst
      · rw [if_pos hmem]
        constructor
        · exact fun h => h.imp_right fun h => ⟨.inr h.1, h.2⟩
        · rintro (h | ⟨rfl | h, hkey⟩)
          · exact .inl h
          · exact .inl hmem
          · exact .inr ⟨h, hkey⟩
      · rw [if_neg hmem, mem_append, mem_singleton]
        constructor
        · rintro ((h | rfl) | ⟨h, hkey⟩)
          · exact .inl h
          · exact .inr ⟨.inl rfl, hkept⟩
          · exact .inr ⟨.inr h, hkey⟩
        · rintro (h | ⟨rfl | h, hkey⟩)
          · exact .inl (.inl h)
          · exact .inl (.inr rfl)
          · exact .inr ⟨h, hkey⟩

theorem keys_entriesWithoutPrivate (entries : List (String × Metadata)) :
    (entriesWithoutPrivate texts entries).map Prod.fst = keptKeys texts entries := by
  induction entries with
  | nil => simp [entriesWithoutPrivate, keptKeys]
  | cons entry entries ih =>
    obtain ⟨key, nested⟩ := entry
    unfold keptKeys at ih
    unfold entriesWithoutPrivate keptKeys
    by_cases hprivate : isPrivate texts key = true
    · simp [hprivate, ih]
    · simp [hprivate, ih]

section

variable {key : String} {nested : Metadata} {entries : List (String × Metadata)}

theorem keptKeys_private (h : isPrivate texts key = true) :
    keptKeys texts ((key, nested) :: entries) = keptKeys texts entries := by
  simp [keptKeys, h]

theorem keptKeys_kept (h : isPrivate texts key = false) :
    keptKeys texts ((key, nested) :: entries) = key :: keptKeys texts entries := by
  simp [keptKeys, h]

end

/-- The keys that follow are new after the first of them, too. -/
theorem fresh_append {key : String} {keys : List String} {result : List (String × Metadata)}
    (hnodup : (key :: keys).Nodup) (hfresh : ∀ other ∈ key :: keys, other ∉ result.map Prod.fst)
    (value : Metadata) : ∀ other ∈ keys, other ∉ (result ++ [(key, value)]).map Prod.fst := by
  intro other hother hmem
  rw [map_append, mem_append] at hmem
  rcases hmem with hmem | hmem
  · exact hfresh other (mem_cons_of_mem _ hother) hmem
  · rw [mem_singleton.1 hmem] at hother
    exact (nodup_cons.1 hnodup).1 hother

mutual

/-- Where the walk removes the private keys, it leaves the value without them, and lists their
paths. -/
theorem walk_of_recognised : ∀ (metadata : Metadata) (path : String), Recognised texts metadata →
    walk texts metadata path = (withoutPrivate texts metadata, privatePaths texts metadata path)
  | .mapping entries, path, h => by
    unfold Recognised at h
    have hentries := walkEntries_of_recognised entries path [] h.2 h.1 nofun
    unfold walk withoutPrivate privatePaths
    rw [hentries]
    rfl
  | .sequence items, path, h => by
    unfold Recognised at h
    have hitems := walkItems_of_recognised items path 0 h
    unfold walk withoutPrivate privatePaths
    rw [hitems]
  | .scalar value, path, h => by
    unfold walk withoutPrivate privatePaths
    rfl

theorem walkEntries_of_recognised : ∀ (entries : List (String × Metadata)) (path : String)
    (result : List (String × Metadata)), RecognisedEntries texts entries →
    (keptKeys texts entries).Nodup → (∀ key ∈ keptKeys texts entries, key ∉ result.map Prod.fst) →
    walkEntries texts entries path result =
      (result ++ entriesWithoutPrivate texts entries, entryPaths texts entries path)
  | [], path, result, h, hnodup, hfresh => by
    unfold walkEntries entriesWithoutPrivate entryPaths
    rw [append_nil]
  | (key, nested) :: entries, path, result, h, hnodup, hfresh => by
    unfold RecognisedEntries at h
    obtain ⟨hagree, hnested, hrest⟩ := h
    unfold walkEntries entriesWithoutPrivate entryPaths
    rw [hagree]
    by_cases hprivate : isPrivate texts key = true
    · rw [keptKeys_private hprivate] at hnodup hfresh
      rw [if_pos hprivate, if_pos hprivate, if_pos hprivate,
        walkEntries_of_recognised entries path result hrest hnodup hfresh]
    · have hkept := Bool.eq_false_iff.2 hprivate
      rw [keptKeys_kept hkept] at hnodup hfresh
      have hset : setKey key (withoutPrivate texts nested) result =
          result ++ [(key, withoutPrivate texts nested)] :=
        setKey_fresh (hfresh key mem_cons_self)
      have hnext := fresh_append hnodup hfresh (withoutPrivate texts nested)
      rw [if_neg hprivate, if_neg hprivate, if_neg hprivate, walk_of_recognised nested _ (hnested hkept)]
      dsimp only
      rw [hset, walkEntries_of_recognised entries path _ hrest hnodup.of_cons hnext, append_assoc]
      rfl

theorem walkItems_of_recognised : ∀ (items : List Metadata) (path : String) (index : Nat),
    RecognisedItems texts items → walkItems texts items path index =
      (itemsWithoutPrivate texts items, itemPaths texts items path index)
  | [], path, index, h => by
    unfold walkItems itemsWithoutPrivate itemPaths
    rfl
  | item :: items, path, index, h => by
    unfold RecognisedItems at h
    unfold walkItems itemsWithoutPrivate itemPaths
    rw [walk_of_recognised item _ h.1, walkItems_of_recognised items path (index + 1) h.2]

end

/-- While the keys that stay are new, the walk only appends to what it has. -/
theorem walkEntries_appends (entries : List (String × Metadata)) (path : String)
    (result : List (String × Metadata))
    (hagree : ∀ key ∈ entries.map Prod.fst, isRemoved texts key = isPrivate texts key)
    (hnodup : (keptKeys texts entries).Nodup)
    (hfresh : ∀ key ∈ keptKeys texts entries, key ∉ result.map Prod.fst) :
    ∃ more, (walkEntries texts entries path result).1 = result ++ more := by
  induction entries generalizing result with
  | nil =>
    unfold walkEntries
    exact ⟨[], (append_nil result).symm⟩
  | cons entry entries ih =>
    obtain ⟨key, nested⟩ := entry
    have hrest : ∀ key ∈ entries.map Prod.fst, isRemoved texts key = isPrivate texts key :=
      fun other hother => hagree other (mem_cons_of_mem _ hother)
    unfold walkEntries
    rw [hagree key mem_cons_self]
    by_cases hprivate : isPrivate texts key = true
    · rw [keptKeys_private hprivate] at hnodup hfresh
      rw [if_pos hprivate]
      exact ih result hrest hnodup hfresh
    · rw [keptKeys_kept (Bool.eq_false_iff.2 hprivate)] at hnodup hfresh
      have hset : setKey key (walk texts nested (nestedPath path key)).1 result =
          result ++ [(key, (walk texts nested (nestedPath path key)).1)] :=
        setKey_fresh (hfresh key mem_cons_self)
      rw [if_neg hprivate]
      dsimp only
      rw [hset]
      obtain ⟨more, hmore⟩ := ih (result ++ [(key, (walk texts nested (nestedPath path key)).1)])
        hrest hnodup.of_cons (fresh_append hnodup hfresh _)
      exact ⟨_, hmore.trans (append_assoc _ _ _)⟩

/-- A mapping without its private keys shows which keys the walk has removed. -/
theorem agree_of_keys {entries : List (String × Metadata)} {path : String}
    (h : (walkEntries texts entries path []).1 = entriesWithoutPrivate texts entries) :
    (keptKeys texts entries).Nodup ∧
      ∀ key ∈ entries.map Prod.fst, isRemoved texts key = isPrivate texts key := by
  obtain ⟨hnodup, hkeys⟩ := keys_walkEntries texts entries path [] nodup_nil
  rw [h, keys_entriesWithoutPrivate] at hnodup hkeys
  refine ⟨hnodup, fun key hkey => ?_⟩
  have hiff := hkeys key
  unfold keptKeys at hiff
  simp only [mem_filter, map_nil, not_mem_nil, false_or] at hiff
  cases hremoved : isRemoved texts key with
  | false =>
    have hkept := (hiff.2 ⟨hkey, hremoved⟩).2
    simpa using hkept.symm
  | true =>
    cases hprivate : isPrivate texts key with
    | true => rfl
    | false =>
      have hkept := (hiff.1 ⟨hkey, by rw [hprivate]; rfl⟩).2
      exact absurd (hremoved.symm.trans hkept) nofun

mutual

theorem recognised_of_walk : ∀ (metadata : Metadata) (path : String),
    (walk texts metadata path).1 = withoutPrivate texts metadata → Recognised texts metadata
  | .mapping entries, path, h => by
    unfold walk withoutPrivate at h
    have hentries : (walkEntries texts entries path []).1 = entriesWithoutPrivate texts entries :=
      Metadata.mapping.inj h
    obtain ⟨hnodup, hagree⟩ := agree_of_keys hentries
    unfold Recognised
    exact ⟨hnodup, recognisedEntries_of_walk entries path [] hagree hnodup nofun hentries⟩
  | .sequence items, path, h => by
    unfold walk withoutPrivate at h
    unfold Recognised
    exact recognisedItems_of_walk items path 0 (Metadata.sequence.inj h)
  | .scalar value, path, h => by
    unfold Recognised
    trivial

theorem recognisedEntries_of_walk : ∀ (entries : List (String × Metadata)) (path : String)
    (result : List (String × Metadata)),
    (∀ key ∈ entries.map Prod.fst, isRemoved texts key = isPrivate texts key) →
    (keptKeys texts entries).Nodup → (∀ key ∈ keptKeys texts entries, key ∉ result.map Prod.fst) →
    (walkEntries texts entries path result).1 = result ++ entriesWithoutPrivate texts entries →
    RecognisedEntries texts entries
  | [], path, result, hagree, hnodup, hfresh, h => by
    unfold RecognisedEntries
    trivial
  | (key, nested) :: entries, path, result, hagree, hnodup, hfresh, h => by
    have hrest : ∀ key ∈ entries.map Prod.fst, isRemoved texts key = isPrivate texts key :=
      fun other hother => hagree other (mem_cons_of_mem _ hother)
    have hhead := hagree key mem_cons_self
    unfold walkEntries entriesWithoutPrivate at h
    unfold RecognisedEntries
    rw [hhead] at h
    by_cases hprivate : isPrivate texts key = true
    · rw [keptKeys_private hprivate] at hnodup hfresh
      rw [if_pos hprivate, if_pos hprivate] at h
      refine ⟨hhead, fun hkept => absurd (hprivate.symm.trans hkept) nofun, ?_⟩
      exact recognisedEntries_of_walk entries path result hrest hnodup hfresh h
    · rw [keptKeys_kept (Bool.eq_false_iff.2 hprivate)] at hnodup hfresh
      have hset : setKey key (walk texts nested (nestedPath path key)).1 result =
          result ++ [(key, (walk texts nested (nestedPath path key)).1)] :=
        setKey_fresh (hfresh key mem_cons_self)
      have hnext := fresh_append hnodup hfresh
      rw [if_neg hprivate, if_neg hprivate] at h
      dsimp only at h
      rw [hset] at h
      obtain ⟨more, hmore⟩ := walkEntries_appends entries path
        (result ++ [(key, (walk texts nested (nestedPath path key)).1)]) hrest hnodup.of_cons (hnext _)
      have hsplit := hmore.symm.trans h
      rw [append_assoc, append_cancel_left_eq, singleton_append,
        List.cons.injEq, Prod.mk.injEq] at hsplit
      obtain ⟨⟨-, hvalue⟩, hmoreEq⟩ := hsplit
      refine ⟨hhead, fun _ => recognised_of_walk nested _ hvalue, ?_⟩
      rw [hmoreEq] at hmore
      exact recognisedEntries_of_walk entries path _ hrest hnodup.of_cons (hnext _) hmore

theorem recognisedItems_of_walk : ∀ (items : List Metadata) (path : String) (index : Nat),
    (walkItems texts items path index).1 = itemsWithoutPrivate texts items →
    RecognisedItems texts items
  | [], path, index, h => by
    unfold RecognisedItems
    trivial
  | item :: items, path, index, h => by
    unfold walkItems itemsWithoutPrivate at h
    unfold RecognisedItems
    dsimp only at h
    rw [List.cons.injEq] at h
    exact ⟨recognised_of_walk item _ h.1, recognisedItems_of_walk items path (index + 1) h.2⟩

end

mutual

theorem noPrivateKey_withoutPrivate : ∀ metadata : Metadata,
    NoPrivateKey texts (withoutPrivate texts metadata)
  | .mapping entries => by
    unfold withoutPrivate NoPrivateKey
    exact noPrivateEntry_withoutPrivate entries
  | .sequence items => by
    unfold withoutPrivate NoPrivateKey
    exact noPrivateItem_withoutPrivate items
  | .scalar value => by
    unfold withoutPrivate NoPrivateKey
    trivial

theorem noPrivateEntry_withoutPrivate : ∀ entries : List (String × Metadata),
    NoPrivateEntry texts (entriesWithoutPrivate texts entries)
  | [] => by
    unfold entriesWithoutPrivate NoPrivateEntry
    trivial
  | (key, nested) :: entries => by
    unfold entriesWithoutPrivate
    by_cases hprivate : isPrivate texts key = true
    · rw [if_pos hprivate]
      exact noPrivateEntry_withoutPrivate entries
    · rw [if_neg hprivate]
      unfold NoPrivateEntry
      exact ⟨Bool.eq_false_iff.2 hprivate, noPrivateKey_withoutPrivate nested,
        noPrivateEntry_withoutPrivate entries⟩

theorem noPrivateItem_withoutPrivate : ∀ items : List Metadata,
    NoPrivateItem texts (itemsWithoutPrivate texts items)
  | [] => by
    unfold itemsWithoutPrivate NoPrivateItem
    trivial
  | item :: items => by
    unfold itemsWithoutPrivate NoPrivateItem
    exact ⟨noPrivateKey_withoutPrivate item, noPrivateItem_withoutPrivate items⟩

end

end Walk

/-- The result has no private key, keeps every other key with its sanitised value, and the removed
list has the path of each removed key once, exactly for metadata whose private keys are all spelled
as the walk knows them. -/
theorem sanitized_iff (texts : MetadataTexts) (metadata : Metadata) :
    NoPrivateKey texts (sanitizeMetadata texts metadata).1 ∧ sanitizeMetadata texts metadata =
        (withoutPrivate texts metadata, privatePaths texts metadata "") ↔
      Recognised texts metadata := by
  constructor
  · rintro ⟨-, h⟩
    exact recognised_of_walk metadata "" (congrArg Prod.fst h)
  · intro h
    have hwalk : sanitizeMetadata texts metadata =
        (withoutPrivate texts metadata, privatePaths texts metadata "") :=
      walk_of_recognised metadata "" h
    rw [hwalk]
    exact ⟨noPrivateKey_withoutPrivate metadata, rfl⟩

section Spelling

variable {texts : MetadataTexts} {key : String}

/-- The letters and digits of a key that the walk removes are those of a private name. -/
theorem isPrivate_of_isRemoved (hascii : ∀ c, c.val < 128 → texts.isAlphanumeric c = c.isAlphanum)
    (hbare : (bareKey texts key).toList =
      (normalizedKey texts key).toList.filter texts.isAlphanumeric)
    (h : isRemoved texts key = true) : isPrivate texts key = true := by
  have hfilter : ∀ name : List Char, name.all (·.val < 128) = true →
      name.filter texts.isAlphanumeric = name.filter Char.isAlphanum := fun name hname =>
    filter_congr fun c hc => hascii c (of_decide_eq_true (all_eq_true.1 hname c hc))
  unfold isPrivate
  rw [Bool.or_eq_true, decide_eq_true_eq]
  rcases Bool.or_eq_true_iff.1 h with hlisted | hprefix
  · have hmem : normalizedKey texts key ∈ privateMetadataKeys := of_decide_eq_true hlisted
    have hnames : ∀ name ∈ privateMetadataKeys, name.toList.all (·.val < 128) = true ∧
        (String.ofList (name.toList.filter Char.isAlphanum) ∈ privateNames ∨
          "gps".toList.isPrefixOf (name.toList.filter Char.isAlphanum) = true) := by
      decide +kernel
    obtain ⟨hplain, hname⟩ := hnames _ hmem
    rw [hfilter _ hplain] at hbare
    rw [← hbare, String.ofList_toList] at hname
    exact hname
  · obtain ⟨rest, hrest⟩ := isPrefixOf_iff_prefix.1 hprefix
    rw [← hrest, filter_append, hfilter _ (by decide +kernel)] at hbare
    right
    exact isPrefixOf_iff_prefix.2 ⟨rest.filter texts.isAlphanumeric, hbare.symm⟩

/-- On a key whose letters and digits stay when its case is folded, the walk fails exactly when the
key is private and neither one of its spellings, with blanks or underscores between the words, nor
begins with one of `gps`. -/
theorem isRemoved_eq_isPrivate_iff
    (hascii : ∀ c, c.val < 128 → texts.isAlphanumeric c = c.isAlphanum)
    (hbare : (bareKey texts key).toList =
      (normalizedKey texts key).toList.filter texts.isAlphanumeric) :
    isRemoved texts key = isPrivate texts key ↔ (isPrivate texts key = true →
      normalizedKey texts key ∈ privateMetadataKeys ∨
        "gps_".toList <+: (normalizedKey texts key).toList) := by
  have hremoved : isRemoved texts key = true ↔ normalizedKey texts key ∈ privateMetadataKeys ∨
      "gps_".toList <+: (normalizedKey texts key).toList := by
    unfold isRemoved
    rw [Bool.or_eq_true, decide_eq_true_eq, isPrefixOf_iff_prefix]
  rw [← hremoved, Bool.eq_iff_iff]
  exact ⟨fun hsame => hsame.2, fun hspelled => ⟨isPrivate_of_isRemoved hascii hbare, hspelled⟩⟩

end Spelling

/-- Upper case letters of ASCII become lower case ones. -/
def asciiTexts : MetadataTexts where
  casefold text := text.map Char.toLower
  lower text := text.map Char.toLower
  isAlphanumeric := Char.isAlphanum

example : Recognised asciiTexts (.mapping [("GPS Latitude", .scalar (.number 37)),
    ("camera", .mapping [("Serial_Number", .scalar (.text "7")), ("model", .scalar (.text "A"))])]) := by
  have hlatitude : isRemoved asciiTexts "GPS Latitude" = isPrivate asciiTexts "GPS Latitude" := by
    decide +kernel
  have hserial : isRemoved asciiTexts "Serial_Number" = isPrivate asciiTexts "Serial_Number" := by
    decide +kernel
  have hcamera : isRemoved asciiTexts "camera" = false ∧ isPrivate asciiTexts "camera" = false := by
    decide +kernel
  have hmodel : isRemoved asciiTexts "model" = false ∧ isPrivate asciiTexts "model" = false := by
    decide +kernel
  simp only [Recognised, RecognisedEntries, keptKeys, hlatitude, hserial, hcamera, hmodel]
  exact ⟨Nodup.filter _ (by decide), trivial, fun _ => trivial, trivial,
    fun _ => ⟨Nodup.filter _ (by decide), trivial, fun _ => trivial, trivial, fun _ => trivial, trivial⟩,
    trivial⟩

/-- The name that EXIF has for the latitude. -/
def exifLatitude : Metadata := .mapping [("GPSLatitude", .scalar (.number 37))]

/-- The walk knows a latitude as `gps_latitude` only. -/
theorem latitude_stays : sanitizeMetadata asciiTexts exifLatitude = (exifLatitude, []) ∧
      ¬(NoPrivateKey asciiTexts (sanitizeMetadata asciiTexts exifLatitude).1 ∧
        sanitizeMetadata asciiTexts exifLatitude =
          (withoutPrivate asciiTexts exifLatitude, privatePaths asciiTexts exifLatitude "")) := by
  have hstays : isRemoved asciiTexts "GPSLatitude" = false := by decide +kernel
  have hprivate : isPrivate asciiTexts "GPSLatitude" = true := by decide +kernel
  have hwalk : sanitizeMetadata asciiTexts exifLatitude = (exifLatitude, []) := by
    simp [sanitizeMetadata, exifLatitude, walk, walkEntries, hstays, setKey, Scalar.sanitized]
  refine ⟨hwalk, fun h => ?_⟩
  have hclean := h.1
  rw [hwalk] at hclean
  simp [exifLatitude, NoPrivateKey, NoPrivateEntry, hprivate] at hclean

end BlogOps.Media
