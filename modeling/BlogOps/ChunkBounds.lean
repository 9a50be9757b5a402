import BlogOps.KnowledgeParsing
import Mathlib.Data.List.Chain
import Mathlib.Tactic.Ring

/-!
# Chunks lose nothing and stay in bounds

The loop of `semantic_chunks` packs the pieces of the blocks greedily: the groups of pieces that its
chunks are made of are all the pieces in order, none is too long, and none could take the piece after
it.  The hash of a chunk is taken of its bytes, so the loop ends only for texts that can be encoded.
-/

namespace BlogOps.Knowledge

open List
open PythonText (PyChar PyText joinLines stripText encode ofString)

def joined (pieces : List Piece) : PyText := joinLines (pieces.map Prod.fst)

/-- The text of a chunk before masking. -/
def rawText (pieces : List Piece) : PyText := stripText (joined pieces)

/-- A text without its white space. -/
def visible (text : PyText) : PyText := text.filter fun c => !c.isSpace

/-- The chunk masks the text of the pieces, and names the blocks of the first and of the last. -/
structure Describes (texts : ParsingTexts) (chunk : ChunkDraft) (pieces : List Piece) : Prop where
  text : encode (texts.maskPii (rawText pieces)).1 = some chunk.text
  start : ∃ piece, pieces.head? = some piece ∧ chunk.locator.1 = piece.2
  stop : ∃ piece, pieces.getLast? = some piece ∧ chunk.locator.2 = piece.2

/-- The pieces with the first of the next ones are too long for one chunk. -/
def Overflows (maxCharacters : Nat) (pieces next : List Piece) : Prop :=
  ∀ piece, next.head? = some piece → maxCharacters < (joined (pieces ++ [piece])).length

structure Packed (texts : ParsingTexts) (blocks : List ExtractedBlock) (maxCharacters : Nat)
    (chunks : List ChunkDraft) (groups : List (List Piece)) : Prop where
  described : List.Forall₂ (Describes texts) chunks groups
  numbered : Numbered chunks
  pieces : groups.flatten = blocks.flatMap (piecesOf maxCharacters)
  bounded : ∀ group ∈ groups, (rawText group).length ≤ maxCharacters
  full : groups.IsChain (Overflows maxCharacters)
  complete : groups.flatMap (fun group => visible (rawText group)) =
    blocks.flatMap fun block => visible block.text

/-- The text has no lone surrogate. -/
def Encodable (text : PyText) : Prop := ∀ c ∈ text, c.char?.isSome = true

theorem encode_isSome_iff {text : PyText} : (encode text).isSome = true ↔ Encodable text := by
  unfold encode Encodable
  rw [← all_eq_true]
  split <;> simp_all

section Masking

open PatternMatching Pattern

variable {texts : ParsingTexts} {text : PyText}

theorem scalar_of_inClass {p : Char → Bool} (c : PyChar) (h : inClass p c = true) :
    c.char?.isSome = true := by
  cases c with
  | scalar c => rfl
  | surrogate code => cases h

theorem encodable_ofString (text : String) : Encodable (ofString text) := by
  intro c hc
  obtain ⟨scalar, -, rfl⟩ := mem_map.1 hc
  rfl

theorem within_oneOf (characters : String) : (oneOf characters).Within (·.char?.isSome = true) :=
  scalar_of_inClass

theorem within_emailPattern : (emailPattern texts).Within (·.char?.isSome = true) := by
  have hlabel : (hostLabel texts).Within (·.char?.isSome = true) :=
    ⟨within_oneOf ".", within_atLeast scalar_of_inClass, trivial⟩
  exact ⟨trivial, within_atLeast scalar_of_inClass, within_oneOf "@", within_atLeast scalar_of_inClass,
    hlabel, hlabel, trivial⟩

theorem within_phonePattern : (phonePattern texts).Within (·.char?.isSome = true) := by
  have hprefix : (join [upTo 1 (oneOf "+"), oneOf "8", oneOf "2",
      upTo 1 (oneOf "- ")]).Within (·.char?.isSome = true) :=
    ⟨within_oneOf "+", within_oneOf "8", within_oneOf "2", within_oneOf "- ", trivial⟩
  exact ⟨trivial, hprefix, within_oneOf "0", within_oneOf "1", within_oneOf "016789",
    within_oneOf " -", within_times scalar_of_inClass, scalar_of_inClass, within_oneOf " -",
    within_times scalar_of_inClass, trivial, trivial⟩

theorem within_residentIdPattern : (residentIdPattern texts).Within (·.char?.isSome = true) :=
  ⟨trivial, within_times scalar_of_inClass, within_oneOf " -", within_oneOf "1234",
    within_times scalar_of_inClass, trivial, trivial⟩

/-- The patterns match no lone surrogate, and what they leave has none of its own. -/
theorem encodable_maskPii (texts : ParsingTexts) :
    Encodable (texts.maskPii text).1 ↔ Encodable text := by
  have hone : ∀ characters, Moves (oneOf characters) := fun _ => moves_one
  have hemail : Moves (emailPattern texts) := moves_join (by simp) (hone "@")
  have hphone : Moves (phonePattern texts) := moves_join (by simp) (hone "1")
  have hresident : Moves (residentIdPattern texts) := moves_join (by simp) (hone "1234")
  unfold ParsingTexts.maskPii Encodable
  rw [forall_sub_iff within_residentIdPattern hresident (encodable_ofString _),
    forall_sub_iff within_phonePattern hphone (encodable_ofString _),
    forall_sub_iff within_emailPattern hemail (encodable_ofString _)]

end Masking

theorem encodable_append {a b : PyText} : Encodable (a ++ b) ↔ Encodable a ∧ Encodable b :=
  forall_mem_append

/-- White space can be encoded. -/
theorem encodable_visible {text : PyText} : Encodable (visible text) ↔ Encodable text := by
  constructor
  · intro h c hc
    cases c with
    | scalar c => rfl
    | surrogate code => exact h _ (mem_filter.2 ⟨hc, rfl⟩)
  · exact fun h c hc => h c (mem_filter.1 hc).1

theorem encodable_joinLines {lines : List PyText} (h : ∀ line ∈ lines, Encodable line) :
    Encodable (joinLines lines) := by
  induction lines with
  | nil => exact fun c hc => absurd hc not_mem_nil
  | cons line lines ih =>
    obtain ⟨hline, hlines⟩ := forall_mem_cons.1 h
    cases lines with
    | nil =>
      unfold joinLines
      rwa [intercalate_singleton]
    | cons next lines =>
      have hgap : Encodable (ofString "\n\n") := by
        unfold Encodable
        decide
      unfold joinLines
      rw [intercalate_cons_cons]
      exact encodable_append.2 ⟨encodable_append.2 ⟨hline, hgap⟩, ih hlines⟩

theorem visible_append (a b : PyText) : visible (a ++ b) = visible a ++ visible b := filter_append _ _

theorem filter_dropWhile {α : Type} (p : α → Bool) (l : List α) :
    (l.dropWhile p).filter (fun a => !p a) = l.filter fun a => !p a := by
  induction l with
  | nil => rfl
  | cons a l ih =>
    by_cases h : p a = true
    · simp [h, ih]
    · simp [h]

theorem visible_stripText (text : PyText) : visible (stripText text) = visible text := by
  simp only [visible, stripText, filter_reverse, filter_dropWhile, reverse_reverse]

theorem length_stripText (text : PyText) : (stripText text).length ≤ text.length := by
  have hleft := (text.dropWhile_suffix PyChar.isSpace).length_le
  have hright := ((text.dropWhile PyChar.isSpace).reverse.dropWhile_suffix PyChar.isSpace).length_le
  simp only [stripText, length_reverse] at hright ⊢
  omega

theorem joined_concat {pieces : List Piece} (h : pieces ≠ []) (piece : Piece) :
    joined (pieces ++ [piece]) = joined pieces ++ ofString "\n\n" ++ piece.1 := by
  induction pieces with
  | nil => exact absurd rfl h
  | cons first pieces ih =>
    cases pieces with
    | nil => simp [joined, joinLines]
    | cons next pieces =>
      have hrest := ih (by simp)
      simp only [joined, joinLines, cons_append, map_cons, intercalate_cons_cons,
        append_assoc] at hrest ⊢
      rw [hrest]

theorem length_joined {pieces : List Piece} (h : pieces ≠ []) :
    (joined pieces).length + 2 = ((pieces.map Prod.fst).map List.length).sum +
      pieces.length * 2 := by
  induction pieces using List.reverseRecOn with
  | nil => exact absurd rfl h
  | append_singleton pieces piece ih =>
    cases pieces with
    | nil => simp [joined, joinLines]
    | cons first pieces =>
      have hrest := ih (by simp)
      rw [joined_concat (by simp)]
      simp only [map_append, sum_append, length_append, map_cons, map_nil, sum_cons, sum_nil,
        length_cons, length_nil] at hrest ⊢
      have hgap : (ofString "\n\n").length = 2 := by decide
      omega

theorem visible_joined (pieces : List Piece) :
    visible (joined pieces) = pieces.flatMap fun piece => visible piece.1 := by
  induction pieces using List.reverseRecOn with
  | nil => rfl
  | append_singleton pieces piece ih =>
    cases pieces with
    | nil => simp [joined, joinLines]
    | cons first pieces =>
      have hgap : visible (ofString "\n\n") = [] := by decide
      rw [joined_concat (by simp), visible_append, visible_append, ih, hgap]
      simp

theorem flatMap_slices {α : Type} (l : List α) (m n : Nat) :
    (List.range n).flatMap (fun k => (l.drop (k * m)).take m) = l.take (n * m) := by
  induction n with
  | zero => simp
  | succ n ih =>
    rw [range_succ, flatMap_append, ih, Nat.succ_mul, take_add]
    simp

theorem slices_cover (length : Nat) {m : Nat} (hm : 0 < m) : length ≤ (length + m - 1) / m * m := by
  have hdiv := Nat.div_add_mod (length + m - 1) m
  have hmod := Nat.mod_lt (length + m - 1) hm
  rw [Nat.mul_comm] at hdiv
  omega

theorem length_piece {maxCharacters : Nat} {block : ExtractedBlock} {piece : Piece}
    (h : piece ∈ piecesOf maxCharacters block) : piece.1.length ≤ maxCharacters := by
  obtain ⟨k, -, rfl⟩ := mem_map.1 h
  exact length_take_le _ _

theorem encodable_piece {maxCharacters : Nat} {block : ExtractedBlock} {piece : Piece}
    (hblock : Encodable block.text) (h : piece ∈ piecesOf maxCharacters block) : Encodable piece.1 := by
  obtain ⟨k, -, rfl⟩ := mem_map.1 h
  exact fun c hc => hblock c (mem_of_mem_drop (mem_of_mem_take hc))

theorem visible_pieces {maxCharacters : Nat} (h : 0 < maxCharacters) (block : ExtractedBlock) :
    (piecesOf maxCharacters block).flatMap (fun piece => visible piece.1) = visible block.text := by
  have hslices := flatMap_slices block.text maxCharacters
    ((block.text.length + maxCharacters - 1) / maxCharacters)
  rw [take_of_length_le (slices_cover _ h)] at hslices
  have hvisible := congrArg (List.filter fun c : PyChar => !c.isSpace) hslices
  rw [filter_flatMap] at hvisible
  simpa [piecesOf, visible, flatMap_map] using hvisible

section Loop

variable {texts : ParsingTexts} {maxCharacters : Nat} {b after : ChunkBuffer}
  {groups : List (List Piece)} {group done : List Piece} {piece : Piece}

/-- The chunks are those of the groups, and `group` is in the buffer. -/
structure Packing (texts : ParsingTexts) (maxCharacters : Nat) (b : ChunkBuffer)
    (groups : List (List Piece)) (group done : List Piece) : Prop where
  buffer : b.buffer = group.map Prod.fst
  locators : b.locators = group.map Prod.snd
  described : List.Forall₂ (Describes texts) b.chunks groups
  pieces : groups.flatten ++ group = done
  bounded : ∀ g ∈ groups ++ [group], (joined g).length ≤ maxCharacters
  full : (groups ++ [group]).IsChain (Overflows maxCharacters)
  first : group = [] → groups = []

theorem describes_draftOf {sequence : Nat} {draft : ChunkDraft} (hgroup : group ≠ [])
    (h : draftOf texts sequence (group.map Prod.fst) (group.map Prod.snd) = .ok draft) :
    Describes texts draft group := by
  obtain ⟨-, htext, hlocator⟩ := draftOf_ok h
  refine ⟨htext, ⟨group.head hgroup, head?_eq_some_head hgroup, ?_⟩,
    ⟨group.getLast hgroup, getLast?_eq_some_getLast hgroup, ?_⟩⟩
  · simp [hlocator, head?_eq_some_head hgroup]
  · simp [hlocator, getLast?_eq_some_getLast hgroup]

section

variable (h : Packing texts maxCharacters b groups group done)

include h

theorem Packing.projected (hgroup : group ≠ []) (piece : Piece) :
    b.projected piece.1 = (joined (group ++ [piece])).length := by
  have hlength := length_joined hgroup
  have hgap : (ofString "\n\n").length = 2 := by decide
  rw [joined_concat hgroup]
  simp only [ChunkBuffer.projected, h.buffer, length_append, length_map] at hlength ⊢
  omega

/-- A flush makes a chunk of the group in the buffer. -/
theorem Packing.flushed (hok : b.flush texts = .ok after) : group = [] ∧ after = b ∨
    group ≠ [] ∧ ∃ draft, Describes texts draft group ∧ after = { chunks := b.chunks ++ [draft] } := by
  rcases flush_ok hok with ⟨hbuffer, rfl⟩ | ⟨hbuffer, draft, hdraft, rfl⟩
  · exact .inl ⟨by simpa [h.buffer] using hbuffer, rfl⟩
  · have hgroup : group ≠ [] := by simpa [h.buffer] using hbuffer
    rw [h.buffer, h.locators] at hdraft
    exact .inr ⟨hgroup, draft, describes_draftOf hgroup hdraft, rfl⟩

/-- The first piece of a group, or one more piece that still fits. -/
theorem Packing.add (hfits : (joined (group ++ [piece])).length ≤ maxCharacters) :
    Packing texts maxCharacters (b.add piece) groups (group ++ [piece]) (done ++ [piece]) where
  buffer := by simp [ChunkBuffer.add, h.buffer]
  locators := by simp [ChunkBuffer.add, h.locators]
  described := h.described
  pieces := by rw [← h.pieces, append_assoc]
  bounded := by
    intro g hg
    rcases mem_append.1 hg with hg | hg
    · exact h.bounded g (mem_append_left _ hg)
    · rw [mem_singleton.1 hg]
      exact hfits
  full := by
    have hfull := h.full
    rw [isChain_append] at hfull ⊢
    obtain ⟨hgroups, -, hlast⟩ := hfull
    refine ⟨hgroups, isChain_singleton _, fun g hg next hnext => ?_⟩
    cases Option.some.inj hnext
    by_cases hgroup : group = []
    · rw [h.first hgroup] at hg
      cases hg
    · intro first hfirst
      rw [head?_append_of_ne_nil _ hgroup] at hfirst
      exact hlast g hg group rfl first hfirst
  first := by simp

/-- A full group becomes a chunk, and the piece begins the next one. -/
theorem Packing.flush {draft : ChunkDraft} (hdraft : Describes texts draft group)
    (hover : maxCharacters < (joined (group ++ [piece])).length)
    (hpiece : piece.1.length ≤ maxCharacters) :
    Packing texts maxCharacters (({ chunks := b.chunks ++ [draft] } : ChunkBuffer).add piece)
      (groups ++ [group]) [piece] (done ++ [piece]) := by
  constructor
  · rfl
  · rfl
  · exact rel_append h.described (.cons hdraft .nil)
  · rw [flatten_append, flatten_singleton, h.pieces]
  · intro g hg
    rcases mem_append.1 hg with hg | hg
    · exact h.bounded g hg
    · rw [mem_singleton.1 hg]
      simpa [joined, joinLines] using hpiece
  · rw [isChain_append]
    refine ⟨h.full, isChain_singleton _, fun g hg next hnext first hfirst => ?_⟩
    cases Option.some.inj hnext
    cases Option.some.inj hfirst
    rw [getLast?_concat] at hg
    cases Option.some.inj hg
    exact hover
  · simp

theorem Packing.push (hpiece : piece.1.length ≤ maxCharacters)
    (hok : b.push texts maxCharacters piece = .ok after) : ∃ groups' group',
      Packing texts maxCharacters after groups' group' (done ++ [piece]) := by
  unfold ChunkBuffer.push at hok
  by_cases hgroup : group = []
  · have hbuffer : ¬(b.buffer ≠ [] ∧ maxCharacters < b.projected piece.1) := by
      simp [h.buffer, hgroup]
    rw [if_neg hbuffer] at hok
    cases hok
    refine ⟨groups, _, h.add ?_⟩
    simpa [hgroup, joined, joinLines] using hpiece
  · have hbuffer : b.buffer ≠ [] := by simpa [h.buffer] using hgroup
    rw [h.projected hgroup] at hok
    by_cases hover : maxCharacters < (joined (group ++ [piece])).length
    · rw [if_pos ⟨hbuffer, hover⟩] at hok
      obtain ⟨flushed, hflush, hok⟩ := bind_ok hok
      cases hok
      rcases h.flushed hflush with ⟨hempty, -⟩ | ⟨-, draft, hdraft, rfl⟩
      · exact absurd hempty hgroup
      · exact ⟨_, _, h.flush hdraft hover hpiece⟩
    · rw [if_neg fun hboth => hover hboth.2] at hok
      cases hok
      exact ⟨_, _, h.add (Nat.not_lt.1 hover)⟩

theorem Packing.pushes {pieces : List Piece}
    (hpieces : ∀ piece ∈ pieces, piece.1.length ≤ maxCharacters)
    (hok : pieces.foldlM (ChunkBuffer.push texts maxCharacters) b = .ok after) : ∃ groups' group',
      Packing texts maxCharacters after groups' group' (done ++ pieces) := by
  induction pieces generalizing b groups group done with
  | nil =>
    cases hok
    exact ⟨groups, group, by simpa using h⟩
  | cons piece pieces ih =>
    rw [foldlM_cons] at hok
    obtain ⟨middle, hmiddle, hok⟩ := bind_ok hok
    obtain ⟨groups', group', hnext⟩ := h.push (hpieces piece mem_cons_self) hmiddle
    have hrest := ih hnext (fun other hother => hpieces other (mem_cons_of_mem _ hother)) hok
    rwa [append_assoc] at hrest

/-- The groups when the loop is through. -/
theorem Packing.finish (hok : b.flush texts = .ok after) : ∃ groups',
    List.Forall₂ (Describes texts) after.chunks groups' ∧ groups'.flatten = done ∧
      (∀ g ∈ groups', (joined g).length ≤ maxCharacters) ∧
      groups'.IsChain (Overflows maxCharacters) := by
  rcases h.flushed hok with ⟨hgroup, rfl⟩ | ⟨hgroup, draft, hdraft, rfl⟩
  · have hgroups := h.first hgroup
    subst hgroup hgroups
    exact ⟨[], h.described, h.pieces, fun g hg => absurd hg not_mem_nil, isChain_nil⟩
  · refine ⟨groups ++ [group], rel_append h.described (.cons hdraft .nil), ?_, h.bounded, h.full⟩
    simpa using h.pieces

end

/-- The texts in the buffer can be encoded. -/
def ChunkBuffer.Clean (b : ChunkBuffer) : Prop := ∀ line ∈ b.buffer, Encodable line

theorem flush_total (hclean : b.Clean) : ∃ after, b.flush texts = .ok after ∧ after.Clean := by
  unfold ChunkBuffer.flush
  by_cases hbuffer : b.buffer = []
  · exact ⟨b, if_pos hbuffer, hclean⟩
  · have hraw : Encodable (stripText (joinLines b.buffer)) := by
      rw [← encodable_visible, visible_stripText, encodable_visible]
      exact encodable_joinLines hclean
    obtain ⟨text, htext⟩ := Option.isSome_iff_exists.1 (encode_isSome_iff.2 ((encodable_maskPii texts).2 hraw))
    rw [if_neg hbuffer]
    unfold draftOf
    simp only [htext]
    exact ⟨_, rfl, fun line hline => absurd hline not_mem_nil⟩

theorem push_total (hclean : b.Clean) (hpiece : Encodable piece.1) :
    ∃ after, b.push texts maxCharacters piece = .ok after ∧ after.Clean := by
  have hadd : ∀ {b : ChunkBuffer}, b.Clean → (b.add piece).Clean := fun hb =>
    forall_mem_append.2 ⟨hb, forall_mem_singleton.2 hpiece⟩
  unfold ChunkBuffer.push
  split
  · obtain ⟨flushed, hflush, hflushed⟩ := flush_total hclean
    exact ⟨_, bind_of_ok hflush _, hadd hflushed⟩
  · exact ⟨_, rfl, hadd hclean⟩

theorem pushes_total {pieces : List Piece} (hclean : b.Clean)
    (hpieces : ∀ piece ∈ pieces, Encodable piece.1) :
    ∃ after, pieces.foldlM (ChunkBuffer.push texts maxCharacters) b = .ok after ∧ after.Clean := by
  induction pieces generalizing b with
  | nil => exact ⟨b, rfl, hclean⟩
  | cons piece pieces ih =>
    obtain ⟨hpiece, hrest⟩ := forall_mem_cons.1 hpieces
    obtain ⟨middle, hmiddle, hnext⟩ := push_total hclean hpiece
    obtain ⟨after, hafter, hdone⟩ := ih hnext hrest
    rw [foldlM_cons, bind_of_ok hmiddle]
    exact ⟨after, hafter, hdone⟩

end Loop

section Chunking

variable {texts : ParsingTexts} {blocks : List ExtractedBlock} {maxCharacters : Nat}

/-- Texts that can be encoded are cut into chunks. -/
theorem semanticChunks_total (h : 200 ≤ maxCharacters)
    (hblocks : ∀ block ∈ blocks, Encodable block.text) :
    ∃ chunks, semanticChunks texts blocks maxCharacters = .ok chunks := by
  have hempty : ({} : ChunkBuffer).Clean := fun line hline => absurd hline not_mem_nil
  have hpieces : ∀ piece ∈ blocks.flatMap (piecesOf maxCharacters), Encodable piece.1 := by
    intro piece hpiece
    obtain ⟨block, hblock, hmem⟩ := mem_flatMap.1 hpiece
    exact encodable_piece (hblocks block hblock) hmem
  obtain ⟨filled, hfilled, hclean⟩ : ∃ after, (blocks.flatMap (piecesOf maxCharacters)).foldlM
      (ChunkBuffer.push texts maxCharacters) {} = .ok after ∧ after.Clean :=
    pushes_total hempty hpieces
  obtain ⟨after, hafter, -⟩ := flush_total hclean
  unfold semanticChunks
  rw [require_of h, bind_of_ok rfl, bind_of_ok hfilled, bind_of_ok hafter]
  exact ⟨_, rfl⟩

/-- The chunks are made of groups of all the pieces in order, each within the bound, and none could
have taken the first piece of the next one. -/
theorem packed_of_ok {chunks : List ChunkDraft} (h : 200 ≤ maxCharacters)
    (hok : semanticChunks texts blocks maxCharacters = .ok chunks) :
    ∃ groups, Packed texts blocks maxCharacters chunks groups := by
  have hpositive : 0 < maxCharacters := by omega
  have hstart : Packing texts maxCharacters {} [] [] [] :=
    ⟨rfl, rfl, .nil, rfl, by simp [joined, joinLines], by simp, fun _ => rfl⟩
  have hpieces : ∀ piece ∈ blocks.flatMap (piecesOf maxCharacters),
      piece.1.length ≤ maxCharacters := by
    intro piece hpiece
    obtain ⟨block, -, hmem⟩ := mem_flatMap.1 hpiece
    exact length_piece hmem
  have hnumbered := semanticChunks_numbered hok
  obtain ⟨filled, after, hfilled, hafter, rfl⟩ := semanticChunks_ok hok
  obtain ⟨groups', group', hpacking⟩ := hstart.pushes hpieces hfilled
  obtain ⟨groups, hdescribed, hflatten, hbounded, hfull⟩ := hpacking.finish hafter
  refine ⟨groups, hdescribed, hnumbered, hflatten,
    fun g hg => (length_stripText _).trans (hbounded g hg), hfull, ?_⟩
  have hvisible := congrArg (List.flatMap fun piece : Piece => visible piece.1) hflatten
  simp only [nil_append, flatten_eq_flatMap, flatMap_assoc, id,
    visible_pieces hpositive] at hvisible
  simpa [rawText, visible_stripText, visible_joined] using hvisible

/-- The texts of chunks were encoded, so nothing in the blocks is a lone surrogate. -/
theorem Packed.encodable {chunks : List ChunkDraft} {groups : List (List Piece)}
    (h : Packed texts blocks maxCharacters chunks groups) :
    ∀ block ∈ blocks, Encodable block.text := by
  have hraw : ∀ group ∈ groups, Encodable (rawText group) := by
    have hdescribed : List.Forall₂ (fun group chunk => Encodable (rawText group) ∧
        Describes texts chunk group) groups chunks := by
      refine h.described.flip.imp fun group chunk hdescribes => ⟨?_, hdescribes⟩
      exact (encodable_maskPii texts).1 (encode_isSome_iff.1 (hdescribes.text ▸ rfl))
    exact ((forall₂_and_left _ _).1 hdescribed).1
  intro block hblock
  rw [← encodable_visible]
  intro c hc
  have hmem : c ∈ groups.flatMap fun group => visible (rawText group) := by
    rw [h.complete]
    exact mem_flatMap.2 ⟨block, hblock, hc⟩
  obtain ⟨group, hgroup, hvisible⟩ := mem_flatMap.1 hmem
  exact hraw group hgroup c (mem_filter.1 hvisible).1

end Chunking

/-- The blocks are cut into chunks that lose nothing exactly when no text has a lone surrogate. -/
theorem chunking_loses_nothing_iff (texts : ParsingTexts) (blocks : List ExtractedBlock)
    {maxCharacters : Nat} (h : 200 ≤ maxCharacters) :
    (∃ chunks groups, semanticChunks texts blocks maxCharacters = .ok chunks ∧
      Packed texts blocks maxCharacters chunks groups) ↔ ∀ block ∈ blocks, Encodable block.text := by
  constructor
  · rintro ⟨chunks, groups, -, hpacked⟩
    exact hpacked.encodable
  · intro hblocks
    obtain ⟨chunks, hok⟩ := semanticChunks_total h hblocks
    obtain ⟨groups, hpacked⟩ := packed_of_ok h hok
    exact ⟨chunks, groups, hok, hpacked⟩

def sampleParsing : ParsingTexts := ⟨Char.isAlphanum, Char.isDigit, id, id, id, id, fun _ => none,
  fun _ _ _ => .error .other, fun _ => .error .other, fun _ => .error .other,
  fun _ => .error .other, 0, 0⟩

example : sampleParsing.maskPii (ofString "a@b.com, 010-1234-5678") =
    (ofString "[EMAIL], [PHONE]", true) := by decide +kernel

def sampleBlocks : List ExtractedBlock :=
  [⟨replicate 250 (.scalar 'a'), [("page", .number 1)], "paragraph"⟩,
    ⟨replicate 100 (.scalar 'b'), [("page", .number 2)], "paragraph"⟩,
    ⟨replicate 100 (.scalar 'c'), [("page", .number 3)], "paragraph"⟩]

/-- The first block is sliced, its rest shares a chunk with the second, and the third is alone: the
chunks have 200, 152 and 100 characters. -/
theorem chunking_sample : ∃ chunks groups, semanticChunks sampleParsing sampleBlocks 200 = .ok chunks ∧
    Packed sampleParsing sampleBlocks 200 chunks groups ∧
    chunks.map (·.tokenEstimate) = [66, 50, 33] := by
  have hencodable : ∀ block ∈ sampleBlocks, Encodable block.text := by
    unfold Encodable
    decide +kernel
  have hmaximum : 200 ≤ 200 := le_rfl
  obtain ⟨chunks, groups, hok, hpacked⟩ :=
    (chunking_loses_nothing_iff sampleParsing sampleBlocks hmaximum).2 hencodable
  have hestimates : (semanticChunks sampleParsing sampleBlocks 200).map
      (fun chunks => chunks.map (·.tokenEstimate)) = .ok [66, 50, 33] := by decide +kernel
  rw [hok] at hestimates
  exact ⟨chunks, groups, hok, hpacked, Except.ok.inj hestimates⟩

/-- The block that `_json_blocks` makes of a field whose value is an escaped surrogate. -/
def surrogateBlock : ExtractedBlock := ⟨[.surrogate 0], [("json_path", .text "$.a")], "field"⟩

/-- The block cannot be hashed, and there are no chunks. -/
theorem lone_surrogate_raises :
    semanticChunks sampleParsing [surrogateBlock] = .error .valueError ∧
      ¬∃ chunks groups, semanticChunks sampleParsing [surrogateBlock] = .ok chunks ∧
        Packed sampleParsing [surrogateBlock] 1500 chunks groups := by
  have hraises : semanticChunks sampleParsing [surrogateBlock] = .error .valueError := by
    decide +kernel
  refine ⟨hraises, ?_⟩
  rintro ⟨chunks, groups, hok, -⟩
  rw [hraises] at hok
  cases hok

end BlogOps.Knowledge
