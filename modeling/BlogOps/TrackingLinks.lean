import BlogOps.OutboundGuards
import Mathlib.Data.List.Induction

/-!
# Tracking links

The query of a destination is read into a dictionary, the tracking parameters are set in it, and
it is written again.
-/

namespace BlogOps.Outbound

open BlogOps.EffectRules List

def keysOf (entries : List (String × String)) : List String := entries.map Prod.fst

/-- The values of a key, in their order. -/
def valuesOf (key : String) (entries : List (String × String)) : List String :=
  (entries.filter (·.1 = key)).map Prod.snd

variable {entries pairs : List (String × String)} {key other value : String}

@[simp] theorem valuesOf_cons (pair : String × String) : valuesOf key (pair :: pairs) =
      if pair.1 = key then pair.2 :: valuesOf key pairs else valuesOf key pairs := by
  unfold valuesOf
  by_cases h : pair.1 = key <;> simp [h]

theorem valuesOf_append (more : List (String × String)) :
    valuesOf key (entries ++ more) = valuesOf key entries ++ valuesOf key more := by
  simp [valuesOf]

theorem valuesOf_eq_nil (h : key ∉ keysOf entries) : valuesOf key entries = [] := by
  simp only [valuesOf, map_eq_nil_iff, filter_eq_nil_iff, decide_eq_true_eq]
  rintro entry hentry rfl
  exact h (mem_map_of_mem hentry)

theorem keysOf_setItem : keysOf (setItem entries key value) =
    if key ∈ keysOf entries then keysOf entries else keysOf entries ++ [key] := by
  have hany : entries.any (·.1 = key) = true ↔ key ∈ keysOf entries := by
    simp [keysOf]
  unfold setItem
  by_cases h : key ∈ keysOf entries
  · rw [if_pos (hany.mpr h), if_pos h]
    simp only [keysOf, map_map]
    refine map_congr_left fun entry _ => ?_
    by_cases heq : entry.1 = key <;> simp [heq]
  · rw [if_neg (hany.not.mpr h), if_neg h]
    simp [keysOf]

theorem nodup_setItem (h : (keysOf entries).Nodup) : (keysOf (setItem entries key value)).Nodup := by
  rw [keysOf_setItem]
  split
  · exact h
  · next hfresh =>
    refine nodup_append.mpr ⟨h, nodup_singleton _, fun old hold last hlast => ?_⟩
    rw [mem_singleton.mp hlast]
    rintro rfl
    exact hfresh hold

theorem valuesOf_map (h : (keysOf entries).Nodup) (hkey : key ∈ keysOf entries) :
    valuesOf other (entries.map fun entry => if entry.1 = key then (key, value) else entry) =
      if other = key then [value] else valuesOf other entries := by
  induction entries with
  | nil => cases hkey
  | cons entry rest ih =>
    obtain ⟨hfresh, hrest⟩ := nodup_cons.mp h
    rw [map_cons, valuesOf_cons, valuesOf_cons]
    by_cases hfirst : entry.1 = key
    · have hsame : (rest.map fun entry => if entry.1 = key then (key, value) else entry) = rest := by
        refine (map_congr_left fun row hrow => if_neg fun heq => ?_).trans (map_id rest)
        exact hfresh (hfirst ▸ heq ▸ mem_map_of_mem hrow)
      rw [hsame, if_pos hfirst, hfirst]
      by_cases hother : other = key
      · subst hother
        rw [if_pos rfl, if_pos rfl, valuesOf_eq_nil (hfirst ▸ hfresh)]
      · rw [if_neg (Ne.symm hother), if_neg hother, if_neg (Ne.symm hother)]
    · rw [if_neg hfirst, ih hrest ((mem_cons.mp hkey).resolve_left (Ne.symm hfirst))]
      by_cases hother : other = key
      · rw [if_pos hother, if_pos hother, if_neg fun heq => hfirst (heq.trans hother)]
      · rw [if_neg hother, if_neg hother]

theorem valuesOf_setItem (h : (keysOf entries).Nodup) : valuesOf other (setItem entries key value) =
      if other = key then [value] else valuesOf other entries := by
  unfold setItem
  by_cases hkey : key ∈ keysOf entries
  · rw [if_pos (by simpa [keysOf] using hkey)]
    exact valuesOf_map h hkey
  · rw [if_neg (by simpa [keysOf] using hkey), valuesOf_append]
    by_cases hother : other = key
    · rw [if_pos hother, valuesOf_eq_nil (hother ▸ hkey)]
      simp [valuesOf, hother]
    · rw [if_neg hother]
      simp [valuesOf, Ne.symm hother]

theorem setItem_of_valuesOf (hvalue : valuesOf key entries = [value]) :
    setItem entries key value = entries := by
  have hkey : key ∈ keysOf entries := by
    by_contra hnone
    rw [valuesOf_eq_nil hnone] at hvalue
    cases hvalue
  unfold setItem
  rw [if_pos (by simpa [keysOf] using hkey)]
  refine (map_congr_left fun entry hentry => ?_).trans (map_id entries)
  by_cases heq : entry.1 = key
  · have hmem : entry.2 ∈ valuesOf key entries :=
      mem_map_of_mem (mem_filter.mpr ⟨hentry, decide_eq_true heq⟩)
    rw [hvalue, mem_singleton] at hmem
    rw [if_pos heq, ← hmem, ← heq]
    rfl
  · rw [if_neg heq]
    rfl

/-- A dictionary keeps the last value of each key. -/
theorem dictOf_spec (pairs : List (String × String)) : (keysOf (dictOf pairs)).Nodup ∧
      ∀ key, valuesOf key (dictOf pairs) = (valuesOf key pairs).getLast?.toList := by
  induction pairs using List.reverseRecOn with
  | nil => exact ⟨nodup_nil, fun key => rfl⟩
  | append_singleton pairs pair ih =>
    have hstep : dictOf (pairs ++ [pair]) = setItem (dictOf pairs) pair.1 pair.2 := by
      simp [dictOf]
    rw [hstep]
    refine ⟨nodup_setItem ih.1, fun key => ?_⟩
    rw [valuesOf_setItem ih.1, ih.2, valuesOf_append]
    by_cases hkey : key = pair.1
    · simp [valuesOf, hkey]
    · simp [valuesOf, hkey, Ne.symm hkey]

theorem dictOf_of_nodup (h : (keysOf pairs).Nodup) : dictOf pairs = pairs := by
  induction pairs using List.reverseRecOn with
  | nil => rfl
  | append_singleton pairs pair ih =>
    rw [keysOf, map_append, nodup_append] at h
    have hstep : dictOf (pairs ++ [pair]) = setItem (dictOf pairs) pair.1 pair.2 := by
      simp [dictOf]
    rw [hstep, ih h.1, setItem, if_neg]
    simp only [any_eq_true, decide_eq_true_eq, not_exists, not_and]
    exact fun entry hentry => h.2.2 entry.1 (mem_map_of_mem hentry) pair.1 (by simp)

/-- A mapping of parameters. -/
structure TrackingParameters where
  entries : List (String × Option String)
  distinct : (entries.map Prod.fst).Nodup

def TrackingParameters.keys (parameters : TrackingParameters) : List String :=
  parameters.entries.map Prod.fst

/-- `query.update(parameters)`. -/
def update (query : List (String × String)) (parameters : List (String × Option String)) :
    List (String × String) :=
  parameters.foldl (fun entries parameter =>
    setItem entries parameter.1 (parameter.2.getD "")) query

/-- The dictionary that the function writes. -/
def mergedQuery (texts : UrlTexts) (parsed : SplitResult) (parameters : TrackingParameters) :
    List (String × String) :=
  update (dictOf (texts.parseQsl parsed.query)) parameters.entries

variable {parameters : List (String × Option String)}

theorem update_spec (h : (keysOf entries).Nodup) (hparameters : (parameters.map Prod.fst).Nodup) :
    (keysOf (update entries parameters)).Nodup ∧ (∀ key ∉ parameters.map Prod.fst,
        valuesOf key (update entries parameters) = valuesOf key entries) ∧
      ∀ parameter ∈ parameters,
        valuesOf parameter.1 (update entries parameters) = [parameter.2.getD ""] := by
  induction parameters generalizing entries with
  | nil => exact ⟨h, fun key _ => rfl, fun parameter hparameter => by cases hparameter⟩
  | cons parameter rest ih =>
    obtain ⟨hfresh, hrest⟩ := nodup_cons.mp hparameters
    obtain ⟨hnodup, hothers, hset⟩ :=
      ih (@nodup_setItem _ parameter.1 (parameter.2.getD "") h) hrest
    refine ⟨hnodup, fun key hkey => ?_, fun later hlater => ?_⟩
    · rw [map_cons, mem_cons, not_or] at hkey
      refine (hothers key hkey.2).trans ?_
      rw [valuesOf_setItem h, if_neg hkey.1]
    · rcases mem_cons.mp hlater with rfl | hlater
      · refine (hothers later.1 hfresh).trans ?_
        rw [valuesOf_setItem h, if_pos rfl]
      · exact hset later hlater

theorem update_same (hset : ∀ parameter ∈ parameters, valuesOf parameter.1 entries = [parameter.2.getD ""]) :
    update entries parameters = entries := by
  induction parameters with
  | nil => rfl
  | cons parameter rest ih =>
    have hfirst := setItem_of_valuesOf (hset parameter mem_cons_self)
    refine (congrArg (update · rest) hfirst).trans ?_
    exact ih fun later hlater => hset later (mem_cons_of_mem _ hlater)

/-- The library reads back what it writes: the query of this result, and its parts. -/
structure ReadsBack (texts : UrlTexts) (parsed : SplitResult) (query : List (String × String)) :
    Prop where
  encoded : texts.parseQsl (texts.urlencode query) = query
  parts : texts.urlsplit (texts.urlunsplit parsed.scheme parsed.netloc parsed.path
    (texts.urlencode query) "") = some { parsed with query := texts.urlencode query, fragment := "" }

/-- The result leads where the destination leads: it differs in the tracking parameters alone, each
of which it has once, and to track it again changes nothing. -/
structure KeepsDestination (texts : UrlTexts) (parsed : SplitResult)
    (parameters : TrackingParameters) (result : String) (split : SplitResult) : Prop where
  splits : texts.urlsplit result = some split
  place : split.scheme = parsed.scheme ∧ split.netloc = parsed.netloc ∧ split.path = parsed.path
  others : ∀ key ∉ parameters.keys,
    valuesOf key (texts.parseQsl split.query) = valuesOf key (texts.parseQsl parsed.query)
  tracked : ∀ parameter ∈ parameters.entries,
    valuesOf parameter.1 (texts.parseQsl split.query) = [parameter.2.getD ""]
  again : safeTrackingDestination texts result parameters.entries = .ok result

variable {texts : UrlTexts} {destination result : String} {parsed : SplitResult}
  {parameters : TrackingParameters}

/-- What the function checks of a destination. -/
structure Trackable (texts : UrlTexts) (parsed : SplitResult) (parameters : TrackingParameters) :
    Prop where
  https : parsed.scheme = "https" ∧ blank parsed.hostname = false ∧
    blank parsed.username = true ∧ blank parsed.password = true
  named : texts.lower (rstripDots (parsed.hostname.getD "")) ≠ "localhost" ∧
    endsWith ".localhost" (texts.lower (rstripDots (parsed.hostname.getD ""))) = false
  literal : literalGlobal (texts.lower (rstripDots (parsed.hostname.getD ""))) = true
  parameters : ∀ parameter ∈ parameters.entries, parameter.1 ≠ "" ∧ parameter.2.isSome = true

theorem safeTrackingDestination_ok (hsplit : texts.urlsplit destination = some parsed)
    (h : safeTrackingDestination texts destination parameters.entries = .ok result) :
    Trackable texts parsed parameters ∧
      result = texts.urlunsplit parsed.scheme parsed.netloc parsed.path
        (texts.urlencode (mergedQuery texts parsed parameters)) "" := by
  obtain ⟨found, hfound, h⟩ := bind_ok h
  rw [splitUrl, hsplit] at hfound
  cases hfound
  obtain ⟨_, hhttps, h⟩ := bind_ok h
  obtain ⟨_, hnamed, h⟩ := bind_ok h
  obtain ⟨_, hliteral, h⟩ := bind_ok h
  obtain ⟨_, hparameters, h⟩ := bind_ok h
  cases h
  exact ⟨⟨require_ok hhttps, require_ok hnamed, require_ok hliteral, require_ok hparameters⟩, rfl⟩

theorem safeTrackingDestination_of (hsplit : texts.urlsplit destination = some parsed)
    (h : Trackable texts parsed parameters) : safeTrackingDestination texts destination parameters.entries =
      .ok (texts.urlunsplit parsed.scheme parsed.netloc parsed.path
        (texts.urlencode (mergedQuery texts parsed parameters)) "") := by
  have hfound : splitUrl texts destination = .ok parsed := by rw [splitUrl, hsplit]
  unfold safeTrackingDestination
  rw [bind_of_ok hfound, bind_of_ok (require_of h.https _)]
  dsimp only
  rw [bind_of_ok (require_of h.named _), bind_of_ok (require_of h.literal _),
    bind_of_ok (require_of h.parameters _)]
  rfl

/-- Of an accepted destination, everything stays but the repetitions of a key that is no tracking
parameter. -/
theorem keeps_destination_iff (hsplit : texts.urlsplit destination = some parsed)
    (h : safeTrackingDestination texts destination parameters.entries = .ok result)
    (hreads : ReadsBack texts parsed (mergedQuery texts parsed parameters)) :
    (∃ split, KeepsDestination texts parsed parameters result split) ↔
      ∀ key ∉ parameters.keys, (valuesOf key (texts.parseQsl parsed.query)).length ≤ 1 := by
  obtain ⟨htrackable, rfl⟩ := safeTrackingDestination_ok hsplit h
  obtain ⟨hnodup, hlast⟩ := dictOf_spec (texts.parseQsl parsed.query)
  obtain ⟨hmerged, hothers, hset⟩ := update_spec hnodup parameters.distinct
  have hlength (values : List String) : values.getLast?.toList = values ↔ values.length ≤ 1 := by
    match values with
    | [] => simp
    | [value] => simp
    | first :: second :: rest =>
      refine iff_of_false (fun heq => ?_) (by simp)
      have hlengths := congrArg List.length heq
      simp [getLast?_eq_some_getLast] at hlengths
  constructor
  · rintro ⟨split, hkeeps⟩ key hkey
    obtain rfl : _ = split := Option.some.inj (hreads.parts.symm.trans hkeeps.splits)
    have hvalues := hkeeps.others key hkey
    rw [hreads.encoded] at hvalues
    rw [← hlength, ← hlast, ← hothers key hkey]
    exact hvalues
  · intro honce
    refine ⟨_, hreads.parts, ⟨rfl, rfl, rfl⟩, fun key hkey => ?_, fun parameter hparameter => ?_, ?_⟩
    · rw [hreads.encoded]
      refine (hothers key hkey).trans ?_
      rw [hlast, hlength]
      exact honce key hkey
    · rw [hreads.encoded]
      exact hset parameter hparameter
    · have hsame : mergedQuery texts
          { parsed with
            query := texts.urlencode (mergedQuery texts parsed parameters), fragment := "" }
          parameters = mergedQuery texts parsed parameters := by
        unfold mergedQuery at hreads ⊢
        rw [hreads.encoded, dictOf_of_nodup hmerged]
        exact update_same hset
      rw [safeTrackingDestination_of hreads.parts
        ⟨htrackable.https, htrackable.named, htrackable.literal, htrackable.parameters⟩, hsame]

def taggedUrl : String := "https://shop.example/p?tag=a&tag=b"
def trackedUrl : String := "https://shop.example/p?tag=b&utm_source=mail"

def shopUrl (query : String) : SplitResult :=
  { scheme := "https", netloc := "shop.example", path := "/p", query := query, fragment := ""
    hostname := some "shop.example" }

def plainUrl : String := "https://shop.example/p?tag=b"

/-- The library functions on the URLs of the sample. -/
def shopTexts : UrlTexts where
  urlsplit url := some (shopUrl (if url = taggedUrl then "tag=a&tag=b"
    else if url = plainUrl then "tag=b" else "tag=b&utm_source=mail"))
  urlunsplit _ _ _ _ _ := trackedUrl
  urljoin _ location := location
  idna := some
  lower value := value
  casefold value := value
  parseQsl query := if query = "tag=a&tag=b" then [("tag", "a"), ("tag", "b")]
    else if query = "tag=b" then [("tag", "b")] else [("tag", "b"), ("utm_source", "mail")]
  urlencode _ := "tag=b&utm_source=mail"

def mailParameters : TrackingParameters := ⟨[("utm_source", some "mail")], by simp⟩

theorem shop_readsBack : ReadsBack shopTexts (shopUrl "tag=b")
    (mergedQuery shopTexts (shopUrl "tag=b") mailParameters) :=
  ⟨by decide +kernel, by decide +kernel⟩

theorem repeated_key_lost :
    safeTrackingDestination shopTexts taggedUrl mailParameters.entries = .ok trackedUrl ∧
      ¬∃ split, KeepsDestination shopTexts (shopUrl "tag=a&tag=b") mailParameters trackedUrl
        split := by
  refine ⟨by decide +kernel, fun ⟨split, hkeeps⟩ => ?_⟩
  have hsplit : shopTexts.urlsplit trackedUrl = some (shopUrl "tag=b&utm_source=mail") := by
    decide +kernel
  obtain rfl : _ = split := Option.some.inj (hsplit.symm.trans hkeeps.splits)
  have hvalues := hkeeps.others "tag" (by decide +kernel)
  revert hvalues
  decide +kernel

/-- A destination without tracking parameters gets them, and keeps its own. -/
theorem tracked_sample : ∃ split,
    KeepsDestination shopTexts (shopUrl "tag=b") mailParameters trackedUrl split := by
  have htracked : safeTrackingDestination shopTexts plainUrl mailParameters.entries =
      .ok trackedUrl := by decide +kernel
  refine (keeps_destination_iff (by decide +kernel) htracked shop_readsBack).mpr fun key hkey => ?_
  have hquery : shopTexts.parseQsl (shopUrl "tag=b").query = [("tag", "b")] := by decide +kernel
  rw [hquery]
  by_cases htag : key = "tag"
  · subst htag
    decide +kernel
  · simp only [valuesOf_cons, if_neg (Ne.symm htag)]
    simp [valuesOf]

end BlogOps.Outbound
