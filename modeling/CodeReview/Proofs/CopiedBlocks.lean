import CodeReview.Proofs.ShiftedWindows
import Mathlib.Data.List.Rotate
import Mathlib.Data.List.Sort

/-!
# Copies of a block

A block of lines that is repeated without anything between has windows of its own size at every
offset, and each of them is a rotation of the block (`windowText_copies`). Lines with code that
differ from each other are told from a trimmed window in their order, so two windows have the same
trimmed text just if their offsets are the same modulo the size (`trim_rotate_eq_iff`). What is left
is to count offsets: a scan reports its blocks by the first windows of digests that occur again
(`repeatedBlocks_eq`), and the windows at one offset modulo the size are `copiesAt` many, one less
for those that straddle two copies (`filter_windowStarts`).
-/

set_option autoImplicit false

namespace CodeReview

open Text

/-! ## Blocks by their first windows -/

section
variable {size : Nat} {lines : List String} {i : Nat}

/-- The lines on which a window with the digest of the one on line `i` starts. -/
def startsLike (size : Nat) (lines : List String) (i : Nat) : List Nat :=
  startsWithDigest size lines (blockDigest (windowText size lines i))

/-- The block of the windows with the digest of the one on line `i`. -/
def blockOn (size : Nat) (lines : List String) (i : Nat) : DuplicateBlock :=
  ⟨blockDigest (windowText size lines i), windowText size lines i,
    (startsLike size lines i).length, startsLike size lines i⟩

/-- The window on line `i` is the first of several with its digest. -/
def OpensBlock (size : Nat) (lines : List String) (i : Nat) : Prop :=
  (startsLike size lines i).head? = some i ∧ 2 ≤ (startsLike size lines i).length

instance : DecidablePred (OpensBlock size lines) := fun i =>
  inferInstanceAs (Decidable ((startsLike size lines i).head? = some i ∧ _))

theorem head?_lines {b : DuplicateBlock} (hb : b ∈ repeatedBlocks size lines) :
    b.lines.head? = some b.firstLine := by
  obtain ⟨-, -, hcount, htwo, -⟩ := block_spec hb
  rw [DuplicateBlock.firstLine]
  cases hl : b.lines with
  | nil =>
    rw [hl] at hcount
    simp only [List.length_nil] at hcount
    omega
  | cons i is => rfl

theorem digest_firstLine {b : DuplicateBlock} (hb : b ∈ repeatedBlocks size lines) :
    blockDigest (windowText size lines b.firstLine) = b.digest := by
  have hmem : b.firstLine ∈ b.lines := List.mem_of_mem_head? (head?_lines hb)
  rw [(block_spec hb).1] at hmem
  exact (mem_startsWithDigest.1 hmem).2

theorem startsLike_firstLine {b : DuplicateBlock} (hb : b ∈ repeatedBlocks size lines) :
    startsLike size lines b.firstLine = b.lines := by
  rw [startsLike, digest_firstLine hb, (block_spec hb).1]

theorem eq_blockOn {b : DuplicateBlock} (hb : b ∈ repeatedBlocks size lines) :
    b = blockOn size lines b.firstLine := by
  obtain ⟨-, -, hcount, -, htext⟩ := block_spec hb
  rw [blockOn, startsLike_firstLine hb, digest_firstLine hb, ← htext, ← hcount]

theorem exists_firstLine_iff : (∃ b ∈ repeatedBlocks size lines, b.firstLine = i) ↔
    i ∈ windowStarts size lines ∧ OpensBlock size lines i := by
  constructor
  · rintro ⟨b, hb, rfl⟩
    obtain ⟨-, -, hcount, htwo, -⟩ := block_spec hb
    have hmem : b.firstLine ∈ b.lines := List.mem_of_mem_head? (head?_lines hb)
    rw [(block_spec hb).1] at hmem
    refine ⟨(mem_startsWithDigest.1 hmem).1, ?_, ?_⟩
    · rw [startsLike_firstLine hb, head?_lines hb]
    · rw [startsLike_firstLine hb, ← hcount]
      exact htwo
  · rintro ⟨-, hhead, htwo⟩
    obtain ⟨b, hb, hdigest⟩ := (exists_block_iff _).2 htwo
    refine ⟨b, hb, Option.some.inj ?_⟩
    rw [← head?_lines hb, (block_spec hb).1, hdigest]
    exact hhead

/-- A scan reports the blocks of the windows that are the first of several, in their order. -/
theorem repeatedBlocks_eq : repeatedBlocks size lines =
    ((windowStarts size lines).filter fun i => OpensBlock size lines i).map
      (blockOn size lines) := by
  have hfirst : (repeatedBlocks size lines).map (·.firstLine) =
      (windowStarts size lines).filter fun i => OpensBlock size lines i := by
    refine (List.pairwise_map.2 blocks_ascending).eq_of_mem_iff
      ((windowStarts_ascending size lines).filter _) fun i => ?_
    rw [List.mem_map, List.mem_filter, decide_eq_true_iff]
    exact exists_firstLine_iff
  rw [← hfirst, List.map_map]
  exact (List.map_id _).symm.trans (List.map_congr_left fun b hb => eq_blockOn hb)

end

/-! ## Rotations -/

/-- Windows with the same digest have the same text, blanks at both ends left out. -/
def DigestsDiffer (size : Nat) (lines : List String) : Prop :=
  ∀ i ∈ windowStarts size lines, ∀ j ∈ windowStarts size lines,
    blockDigest (windowText size lines i) = blockDigest (windowText size lines j) →
      trim (windowText size lines i) = trim (windowText size lines j)

instance (size : Nat) (lines : List String) : Decidable (DigestsDiffer size lines) :=
  inferInstanceAs (Decidable (∀ i ∈ windowStarts size lines, ∀ j ∈ windowStarts size lines, _))

/-- Lines with code that differ from each other, blanks around them left out. -/
structure DistinctCode (block : List String) : Prop where
  row : ∀ l ∈ block, '\n' ∉ l.toList
  code : ∀ l ∈ block, trim l ≠ ""
  nodup : (block.map trim).Nodup

variable {block : List String}

/-- Lines with code are read back from their text, without the blanks around them. -/
theorem trimmedRows_join {ls : List String} (h : ∀ l ∈ ls, '\n' ∉ l.toList ∧ trim l ≠ "") :
    (trimmedRows (join "\n" ls).toList).map String.ofList = ls.map trim := by
  have hrows : ∀ r ∈ ls.map String.toList, '\n' ∉ r ∧ trimChars r ≠ [] := by
    intro r hr
    obtain ⟨l, hl, rfl⟩ := List.mem_map.1 hr
    exact ⟨(h l hl).1, fun hnil => (h l hl).2 (congrArg String.ofList hnil)⟩
  rw [join, String.toList_intercalate, show "\n".toList = ['\n'] from rfl,
    trimmedRows_intercalate_rows hrows, List.map_map, List.map_map]
  rfl

/-- Two rotations have the same trimmed text just if they are the same. -/
theorem trim_rotate_eq_iff (h : DistinctCode block) (hne : block ≠ []) (i j : Nat) :
    trim (join "\n" (block.rotate i)) = trim (join "\n" (block.rotate j)) ↔
      i % block.length = j % block.length := by
  have hrows : ∀ i, (trimmedRows (trim (join "\n" (block.rotate i))).toList).map String.ofList =
      (block.map trim).rotate i := by
    intro i
    rw [trim, String.toList_ofList, trimmedRows_trimChars, ← List.map_rotate]
    exact trimmedRows_join fun l hl =>
      ⟨h.row l (List.mem_rotate.1 hl), h.code l (List.mem_rotate.1 hl)⟩
  constructor
  · intro heq
    have hrotate : (block.map trim).rotate i = (block.map trim).rotate j := by
      rw [← hrows, ← hrows, heq]
    rcases h.nodup.rotate_congr_iff.1 hrotate with hmod | hnil
    · rwa [List.length_map] at hmod
    · exact absurd (List.map_eq_nil_iff.1 hnil) hne
  · intro hmod
    rw [← List.rotate_mod block i, ← List.rotate_mod block j, hmod]

/-! ## Copies -/

/-- A block of lines, repeated without anything between. -/
def copies (k : Nat) (block : List String) : List String := (List.replicate k block).flatten

/-- The number of windows at an offset, in so many copies of a block. -/
def copiesAt (k offset : Nat) : Nat := if offset = 0 then k else k - 1

/-- The block that the windows at an offset make up, if there are so many of them. -/
def rotationBlock (block : List String) (count offset : Nat) : DuplicateBlock :=
  let text := join "\n" (block.rotate offset)
  ⟨blockDigest text, text, count, (List.range count).map fun q => q * block.length + offset + 1⟩

section
variable {k i : Nat}

theorem length_copies : (copies k block).length = k * block.length := by
  simp [copies]

theorem getElem?_copies (hi : i < k * block.length) :
    (copies k block)[i]? = block[i % block.length]? := by
  induction k generalizing i with
  | zero =>
    rw [Nat.zero_mul] at hi
    exact absurd hi (Nat.not_lt_zero i)
  | succ k ih =>
    rw [copies, List.replicate_succ, List.flatten_cons, List.getElem?_append]
    split
    · rename_i hlt
      rw [Nat.mod_eq_of_lt hlt]
    · rename_i hge
      rw [Nat.succ_mul] at hi
      rw [Nat.mod_eq_sub_mod (by omega)]
      exact ih (by omega)

theorem mem_windowStarts_copies : i ∈ windowStarts block.length (copies k block) ↔
    1 ≤ i ∧ i + block.length ≤ k * block.length + 1 := by
  rw [mem_windowStarts_iff, length_copies]

/-- A window of as many lines as the block has is a rotation of the block. -/
theorem windowText_copies (hi : i ∈ windowStarts block.length (copies k block)) :
    windowText block.length (copies k block) i = join "\n" (block.rotate (i - 1)) := by
  rw [mem_windowStarts_copies] at hi
  refine congrArg (join "\n") (List.ext_getElem? fun j => ?_)
  rw [List.getElem?_take, List.getElem?_drop]
  split
  · rename_i hj
    rw [getElem?_copies (by omega), List.getElem?_rotate hj, Nat.add_comm]
  · rename_i hj
    rw [List.getElem?_eq_none (by rw [List.length_rotate]; omega)]

theorem lt_copiesAt_iff {n q r : Nat} (hr : r < n) :
    q < copiesAt k r ↔ q * n + r + n ≤ k * n := by
  rw [copiesAt]
  split
  · rename_i h0
    rw [h0, Nat.add_zero, ← Nat.succ_mul, Nat.mul_le_mul_right_iff (by omega)]
    exact Nat.lt_iff_add_one_le
  · rename_i h0
    constructor
    · intro hq
      have hle : (q + 2) * n ≤ k * n := Nat.mul_le_mul_right n (by omega)
      rw [Nat.add_mul] at hle
      omega
    · intro hle
      have hlt : (q + 1) * n < k * n := by
        rw [Nat.succ_mul]
        omega
      have := Nat.lt_of_mul_lt_mul_right hlt
      omega

/-- The windows at one offset. -/
theorem filter_windowStarts {r : Nat} (hr : r < block.length) :
    ((windowStarts block.length (copies k block)).filter fun j => (j - 1) % block.length = r) =
      (List.range (copiesAt k r)).map fun q => q * block.length + r + 1 := by
  refine ((windowStarts_ascending _ _).filter _).eq_of_mem_iff
    (List.pairwise_map.2 (List.pairwise_lt_range.imp fun {p q} hpq => ?_)) fun j => ?_
  · have := Nat.mul_lt_mul_of_pos_right hpq (Nat.zero_lt_of_lt hr)
    omega
  · rw [List.mem_filter, mem_windowStarts_copies, decide_eq_true_iff, List.mem_map]
    constructor
    · rintro ⟨⟨hpos, hle⟩, hmod⟩
      have hj : (j - 1) / block.length * block.length + r = j - 1 := by
        rw [← hmod]
        exact Nat.div_add_mod' _ _
      refine ⟨(j - 1) / block.length, List.mem_range.2 ((lt_copiesAt_iff hr).2 ?_), ?_⟩ <;> omega
    · rintro ⟨q, hq, rfl⟩
      rw [List.mem_range, lt_copiesAt_iff hr] at hq
      refine ⟨⟨by omega, by omega⟩, ?_⟩
      rw [Nat.add_sub_cancel, Nat.mul_add_mod_self_right, Nat.mod_eq_of_lt hr]

end

section
variable {k i : Nat} (h : DistinctCode block) (hne : block ≠ [])
  (hdigest : DigestsDiffer block.length (copies k block))
include h hne hdigest

/-- The windows with the digest of one window are those at its offset. -/
theorem startsLike_copies (hi : i ∈ windowStarts block.length (copies k block)) :
    startsLike block.length (copies k block) i =
      (List.range (copiesAt k ((i - 1) % block.length))).map fun q =>
        q * block.length + (i - 1) % block.length + 1 := by
  rw [← filter_windowStarts (Nat.mod_lt _ (List.length_pos_of_ne_nil hne))]
  refine List.filter_congr fun j hj => decide_eq_decide.2 ?_
  have htext : blockDigest (windowText block.length (copies k block) j) =
        blockDigest (windowText block.length (copies k block) i) ↔
      trim (windowText block.length (copies k block) j) =
        trim (windowText block.length (copies k block) i) :=
    ⟨hdigest j hj i hi, congrArg Digest.md5⟩
  rw [htext, windowText_copies hj, windowText_copies hi]
  exact trim_rotate_eq_iff h hne _ _

/-- The windows that open a block: those of the first copy that have another one at their offset. -/
theorem opensBlock_copies_iff (hi : i ∈ windowStarts block.length (copies k block)) :
    OpensBlock block.length (copies k block) i ↔
      i ≤ block.length ∧ 2 ≤ copiesAt k (i - 1) := by
  have hpos : 1 ≤ i := (mem_windowStarts_copies.1 hi).1
  rw [OpensBlock, startsLike_copies h hne hdigest hi, List.length_map, List.length_range,
    List.head?_map, List.head?_range]
  constructor
  · rintro ⟨hhead, htwo⟩
    rw [if_neg (by omega), Option.map_some, Option.some.injEq, Nat.zero_mul, Nat.zero_add] at hhead
    have hmod : (i - 1) % block.length = i - 1 := by omega
    have hlt := Nat.mod_lt (i - 1) (List.length_pos_of_ne_nil hne)
    exact ⟨by omega, hmod ▸ htwo⟩
  · rintro ⟨hle, htwo⟩
    rw [Nat.mod_eq_of_lt (show i - 1 < block.length by omega)]
    refine ⟨?_, htwo⟩
    rw [if_neg (by omega), Option.map_some, Nat.zero_mul, Nat.zero_add, Nat.sub_add_cancel hpos]

/-- Copies of a block have one block for each offset with several windows. -/
theorem repeatedBlocks_copies : repeatedBlocks block.length (copies k block) =
    ((List.range block.length).filter fun r => 2 ≤ copiesAt k r).map fun r =>
      rotationBlock block (copiesAt k r) r := by
  have hstart : ∀ r < block.length, 2 ≤ copiesAt k r →
      r + 1 ∈ windowStarts block.length (copies k block) := by
    intro r hr htwo
    have hfits := (lt_copiesAt_iff hr).1 (Nat.lt_of_lt_of_le Nat.zero_lt_two htwo)
    rw [mem_windowStarts_copies]
    omega
  have hopens : ((windowStarts block.length (copies k block)).filter fun i =>
        OpensBlock block.length (copies k block) i) =
      ((List.range block.length).filter fun r => 2 ≤ copiesAt k r).map (· + 1) := by
    refine ((windowStarts_ascending _ _).filter _).eq_of_mem_iff (List.pairwise_map.2
      ((List.pairwise_lt_range.filter _).imp fun hpq => Nat.succ_lt_succ hpq)) fun i => ?_
    rw [List.mem_filter, decide_eq_true_iff, List.mem_map]
    constructor
    · rintro ⟨hi, hopens⟩
      obtain ⟨hle, htwo⟩ := (opensBlock_copies_iff h hne hdigest hi).1 hopens
      have hpos : 1 ≤ i := (mem_windowStarts_copies.1 hi).1
      exact ⟨i - 1, List.mem_filter.2 ⟨List.mem_range.2 (by omega), decide_eq_true htwo⟩,
        Nat.sub_add_cancel hpos⟩
    · rintro ⟨r, hr, rfl⟩
      rw [List.mem_filter, List.mem_range, decide_eq_true_iff] at hr
      have hi := hstart r hr.1 hr.2
      exact ⟨hi, (opensBlock_copies_iff h hne hdigest hi).2 hr⟩
  rw [repeatedBlocks_eq, hopens, List.map_map]
  refine List.map_congr_left fun r hr => ?_
  rw [List.mem_filter, List.mem_range, decide_eq_true_iff] at hr
  have hi := hstart r hr.1 hr.2
  rw [Function.comp_apply, blockOn, windowText_copies hi, startsLike_copies h hne hdigest hi,
    Nat.add_sub_cancel, Nat.mod_eq_of_lt hr.1, List.length_map, List.length_range]
  rfl

/-- The block itself comes first, and the rotations after it. -/
theorem repeatedBlocks_copies_eq_cons (hk : 2 ≤ k) :
    repeatedBlocks block.length (copies k block) = rotationBlock block k 0 ::
      if 3 ≤ k then (List.range' 1 (block.length - 1)).map (rotationBlock block (k - 1)) else [] := by
  have hpos : 0 < block.length := List.length_pos_of_ne_nil hne
  have hrange : List.range block.length = 0 :: List.range' 1 (block.length - 1) := by
    rw [List.range_eq_range', ← Nat.sub_add_cancel hpos, List.range'_succ, Nat.add_sub_cancel]
  have hcount : ∀ r ∈ List.range' 1 (block.length - 1), copiesAt k r = k - 1 := by
    intro r hr
    rw [List.mem_range'_1] at hr
    exact if_neg (by omega)
  rw [repeatedBlocks_copies h hne hdigest, hrange,
    List.filter_cons_of_pos (by simpa [copiesAt] using hk), List.map_cons]
  refine congrArg _ ?_
  split
  · rw [List.filter_eq_self.2 fun r hr => by rw [hcount r hr]; simp; omega]
    exact List.map_congr_left fun r hr => by rw [hcount r hr]
  · rw [List.filter_eq_nil_iff.2 fun r hr => by rw [hcount r hr]; simp; omega, List.map_nil]

end

/-! ## Units -/

/-- **A block and its copies.** Let a unit consist of a block of lines, written several times without
anything between: lines with code that differ from each other, blanks around them left out. In
windows of as many lines, it has one block for the lines themselves, with all copies of them, which
is the first. No other has so many windows: from three copies on there is one for each of the other
offsets, in their order, with the rotation of the lines and one window less; with two copies there is
no other. -/
theorem duplicates_copies (frontEnd : FrontEnd) (text : String) (u : SourceUnit)
    (block : List String) (k : Nat) (hread : SourceUnit.ofText frontEnd text = .ok u)
    (hlines : u.lines = copies k block) (hblock : 1 ≤ block.length) (hk : 2 ≤ k)
    (hcode : ∀ l ∈ block, trim l ≠ "") (hdistinct : (block.map trim).Nodup)
    (hdigest : DigestsDiffer block.length u.lines) :
    ∃ rest, u.duplicates block.length = .ok (⟨blockDigest (join "\n" block), join "\n" block, k,
        (List.range k).map fun q => q * block.length + 1⟩ :: rest) ∧
      (∀ b ∈ rest, b.occurrences ≠ k) ∧
      (3 ≤ k → rest = (List.range' 1 (block.length - 1)).map (rotationBlock block (k - 1))) ∧
      (k = 2 → rest = []) := by
  have hrow : ∀ l ∈ block, '\n' ∉ l.toList := by
    intro l hl
    refine newline_not_mem_line (s := text) ?_
    rw [← SourceUnit.lines_of_ofText hread, hlines, copies, List.mem_flatten]
    exact ⟨block, List.mem_replicate.2 ⟨by omega, rfl⟩, hl⟩
  rw [hlines] at hdigest
  have hblocks := repeatedBlocks_copies_eq_cons ⟨hrow, hcode, hdistinct⟩
    (List.ne_nil_of_length_pos hblock) hdigest hk
  refine ⟨if 3 ≤ k then (List.range' 1 (block.length - 1)).map (rotationBlock block (k - 1)) else [],
    ?_, fun b hb => ?_, fun h3 => if_pos h3, fun h2 => if_neg (by omega)⟩
  · rw [u.duplicates_of_pos hblock, hlines, hblocks, rotationBlock, List.rotate_zero]
  · split at hb
    · obtain ⟨r, -, rfl⟩ := List.mem_map.1 hb
      exact Nat.ne_of_lt (show k - 1 < k by omega)
    · exact absurd hb List.not_mem_nil

/-- Two statements that are written three times. -/
theorem duplicates_copies_of_pair :
    ∃ u, SourceUnit.ofText .python "a = 1\nb = 2\na = 1\nb = 2\na = 1\nb = 2\n" = .ok u ∧
      ∃ rest, u.duplicates 2 = .ok (⟨blockDigest "a = 1\nb = 2", "a = 1\nb = 2", 3, [1, 3, 5]⟩ ::
        rest) ∧ rest = [rotationBlock ["a = 1", "b = 2"] 2 1] := by
  generalize htext : "a = 1\nb = 2\na = 1\nb = 2\na = 1\nb = 2\n" = text
  have hread : SourceUnit.ofText .python text =
      .ok ⟨"Python", lines text, Python.outline (Python.parse text.toList)⟩ := by
    subst htext
    exact Python.ofText_eq_ok _ [⟨0, 0⟩, ⟨1, 0⟩, ⟨2, 0⟩, ⟨3, 0⟩, ⟨4, 0⟩, ⟨5, 0⟩]
      (by decide +kernel) (by decide) (by decide +kernel) (by decide +kernel) (by decide +kernel)
  have hlines : lines text = copies 3 ["a = 1", "b = 2"] := by
    subst htext
    decide +kernel
  have hdigest : DigestsDiffer 2 (copies 3 ["a = 1", "b = 2"]) := by decide +kernel
  obtain ⟨rest, hok, -, hrest, -⟩ := duplicates_copies .python text _ ["a = 1", "b = 2"] 3 hread
    hlines (by decide) (by decide) (by decide +kernel) (by decide +kernel) (hlines ▸ hdigest)
  exact ⟨_, hread, rest, hok, hrest (by decide)⟩

end CodeReview
