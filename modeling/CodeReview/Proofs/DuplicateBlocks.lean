import CodeReview.Duplicates
import Mathlib.Data.List.Perm.Subperm

/-!
# Duplicate blocks are the repeated digests

A scan keeps an array of groups and a table of where the group of each digest stands. `Sound s ws`
says what that comes to after the windows `ws`: the table knows the place of every digest seen, each
group holds exactly the windows with its digest, and the first windows of the groups stand in the
order of `ws`. One step keeps it (`Sound.add`), so a whole scan has it (`sound_scan`), and
`duplicates_blocks` reads the blocks off it.
-/

set_option autoImplicit false

namespace CodeReview

/-! ## Windows -/

/-- The text of the window that starts on line `i`. -/
def windowText (size : Nat) (lines : List String) (i : Nat) : String :=
  Text.join "\n" ((lines.drop (i - 1)).take size)

/-- The lines on which a window starts. -/
def windowStarts (size : Nat) (lines : List String) : List Nat :=
  List.range' 1 (lines.length + 1 - size)

/-- The window that starts on line `i`. -/
def windowOn (size : Nat) (lines : List String) (i : Nat) : Window :=
  ⟨i, windowText size lines i, blockDigest (windowText size lines i)⟩

/-- The lines on which a window with the given digest starts. -/
def startsWithDigest (size : Nat) (lines : List String) (d : String) : List Nat :=
  (windowStarts size lines).filter fun i => blockDigest (windowText size lines i) = d

theorem windowsFrom_eq (size left k : Nat) (lines : List String) :
    windowsFrom size left (k + 1) (lines.drop k) =
      (List.range' (k + 1) left).map (windowOn size lines) := by
  induction left generalizing k with
  | zero => rfl
  | succ left ih =>
    rw [windowsFrom, List.range'_succ, List.map_cons, List.tail_drop, ih]
    rfl

theorem windows_eq (size : Nat) (lines : List String) :
    windows size lines = (windowStarts size lines).map (windowOn size lines) :=
  windowsFrom_eq size _ 0 lines

theorem lines_with_digest (size : Nat) (lines : List String) (d : String) :
    ((windows size lines).filter fun w => w.digest = d).map (·.line) =
      startsWithDigest size lines d := by
  rw [windows_eq, List.filter_map, List.map_map]
  exact List.map_id _

theorem windowStarts_ascending (size : Nat) (lines : List String) :
    (windowStarts size lines).Pairwise (· < ·) := List.pairwise_lt_range'

/-! ## Groups -/

namespace WindowGroup

/-- A group holds exactly the windows with its digest, in their order. -/
structure Holds (g : WindowGroup) (ws : List Window) : Prop where
  first : (ws.filter fun w => w.digest = g.first.digest).head? = some g.first
  count : g.count = g.lines.length
  lines : g.lines.reverse = (ws.filter fun w => w.digest = g.first.digest).map (·.line)

variable {g : WindowGroup} {ws : List Window} {w : Window}

theorem holds_single (h : ∀ v ∈ ws, v.digest ≠ w.digest) : (single w).Holds (ws ++ [w]) := by
  have hnil : ws.filter (fun v => v.digest = w.digest) = [] := by
    simpa [List.filter_eq_nil_iff] using h
  have hall : (ws ++ [w]).filter (fun v => v.digest = w.digest) = [w] := by
    simp [List.filter_append, hnil]
  exact ⟨by rw [single, hall]; rfl, rfl, by rw [single, hall]; rfl⟩

/-- A window with another digest leaves a group as it is. -/
theorem Holds.skip (h : g.Holds ws) (hne : w.digest ≠ g.first.digest) : g.Holds (ws ++ [w]) := by
  have hsame : (ws ++ [w]).filter (fun v => v.digest = g.first.digest) =
      ws.filter fun v => v.digest = g.first.digest := by
    simp [List.filter_append, hne]
  exact ⟨by rw [hsame, h.first], h.count, by rw [hsame, h.lines]⟩

/-- A window with the digest of a group goes to its end. -/
theorem Holds.extend (h : g.Holds ws) (he : w.digest = g.first.digest) :
    (g.extend w.line).Holds (ws ++ [w]) := by
  have hmore : (ws ++ [w]).filter (fun v => v.digest = g.first.digest) =
      (ws.filter fun v => v.digest = g.first.digest) ++ [w] := by
    simp [List.filter_append, he]
  refine ⟨?_, ?_, ?_⟩
  · rw [WindowGroup.extend, hmore, List.head?_append, h.first]
    rfl
  · rw [WindowGroup.extend, h.count, List.length_cons]
  · rw [WindowGroup.extend, hmore, List.map_append, ← h.lines, List.reverse_cons]
    rfl

end WindowGroup

/-! ## Scans -/

namespace WindowScan

/-- What a scan knows after some windows (module doc). -/
structure Sound (s : WindowScan) (ws : List Window) : Prop where
  place : ∀ d k, s.places[d]? = some k ↔
    ∃ g : WindowGroup, s.groups[k]? = some g ∧ g.first.digest = d
  group : ∀ (k : Nat) (g : WindowGroup), s.groups[k]? = some g → g.Holds ws
  seen : ∀ w ∈ ws, ∃ k, s.places[w.digest]? = some k
  order : (s.groups.toList.map (·.first)).Sublist ws

theorem sound_start : start.Sound [] :=
  ⟨by simp [start], by simp [start], by simp, by simp [start]⟩

variable {s : WindowScan} {ws : List Window}

theorem Sound.digest_inj (h : s.Sound ws) {j k : Nat} {f g : WindowGroup}
    (hf : s.groups[j]? = some f) (hg : s.groups[k]? = some g)
    (he : f.first.digest = g.first.digest) : j = k := by
  have h1 := (h.place g.first.digest j).2 ⟨f, hf, he⟩
  have h2 := (h.place g.first.digest k).2 ⟨g, hg, rfl⟩
  rw [h1] at h2
  exact Option.some.inj h2

theorem Sound.add_seen (h : s.Sound ws) {w : Window} {k : Nat}
    (hk : s.places[w.digest]? = some k) : (s.add w).Sound (ws ++ [w]) := by
  obtain ⟨g, hg, hd⟩ := (h.place w.digest k).1 hk
  have hadd : s.add w = { s with groups := s.groups.modify k (.extend w.line) } := by
    simp only [add, hk]
  have hget : ∀ j, (s.groups.modify k (.extend w.line))[j]? =
      if k = j then (s.groups[j]?).map (.extend w.line) else s.groups[j]? :=
    fun j => Array.getElem?_modify
  rw [hadd]
  refine ⟨fun d j => ?_, fun j f hf => ?_, fun v hv => ?_, ?_⟩
  · rw [h.place d j, hget]
    split
    · simp [WindowGroup.extend]
    · rfl
  · simp only [hget] at hf
    split at hf
    · rename_i hkj
      subst hkj
      rw [hg] at hf
      cases hf
      exact (h.group k g hg).extend hd.symm
    · rename_i hkj
      exact (h.group j f hf).skip fun he => hkj (h.digest_inj hg hf (hd.trans he))
  · rcases List.mem_append.1 hv with hv | hv
    · exact h.seen v hv
    · obtain rfl := List.mem_singleton.1 hv
      exact ⟨k, hk⟩
  · have hfirst : (s.groups.modify k (.extend w.line)).toList.map (·.first) =
        s.groups.toList.map (·.first) := by
      refine List.ext_getElem? fun j => ?_
      rw [List.getElem?_map, List.getElem?_map, Array.getElem?_toList, Array.getElem?_toList, hget]
      split
      · simp [WindowGroup.extend, Function.comp_def]
      · rfl
    rw [hfirst]
    exact h.order.trans (List.sublist_append_left ws [w])

theorem Sound.add_unseen (h : s.Sound ws) {w : Window} (hn : s.places[w.digest]? = none) :
    (s.add w).Sound (ws ++ [w]) := by
  have hadd : s.add w =
      ⟨s.groups.push (.single w), s.places.insert w.digest s.groups.size⟩ := by
    simp only [add, hn]
  have hnew : ∀ v ∈ ws, v.digest ≠ w.digest := by
    intro v hv he
    obtain ⟨k, hk⟩ := h.seen v hv
    rw [he, hn] at hk
    cases hk
  have hold : ∀ (k : Nat) (g : WindowGroup), s.groups[k]? = some g → g.first.digest ≠ w.digest := by
    intro k g hg he
    rw [(h.place w.digest k).2 ⟨g, hg, he⟩] at hn
    cases hn
  rw [hadd]
  refine ⟨fun d k => ?_, fun k g hg => ?_, fun v hv => ?_, ?_⟩
  · rw [Std.HashMap.getElem?_insert, Array.getElem?_push]
    by_cases hd : w.digest = d
    · subst hd
      by_cases hk : k = s.groups.size
      · simp [hk, WindowGroup.single]
      · simp only [beq_self_eq_true, ↓reduceIte, hk, Option.some.injEq, Ne.symm hk, false_iff,
          not_exists, not_and]
        exact hold k
    · rw [if_neg (by simpa using hd), h.place d k]
      by_cases hk : k = s.groups.size
      · simp [hk, WindowGroup.single, hd]
      · simp [hk]
  · rw [Array.getElem?_push] at hg
    split at hg
    · cases hg
      exact WindowGroup.holds_single hnew
    · exact (h.group k g hg).skip (hold k g hg).symm
  · rcases List.mem_append.1 hv with hv | hv
    · obtain ⟨k, hk⟩ := h.seen v hv
      refine ⟨k, ?_⟩
      rw [Std.HashMap.getElem?_insert, if_neg (by simpa using (hnew v hv).symm), hk]
    · obtain rfl := List.mem_singleton.1 hv
      exact ⟨s.groups.size, by simp⟩
  · rw [Array.toList_push, List.map_append]
    exact h.order.append (List.Sublist.refl [w])

/-- Taking a window into account keeps a scan sound. -/
theorem Sound.add (h : s.Sound ws) (w : Window) : (s.add w).Sound (ws ++ [w]) := by
  cases hk : s.places[w.digest]? with
  | some k => exact h.add_seen hk
  | none => exact h.add_unseen hk

theorem Sound.foldl (h : s.Sound ws) (ws' : List Window) :
    (ws'.foldl WindowScan.add s).Sound (ws ++ ws') := by
  induction ws' generalizing s ws with
  | nil => simpa using h
  | cons w ws' ih =>
    have := ih (h.add w)
    rwa [List.append_assoc, List.singleton_append] at this

theorem sound_scan (ws : List Window) : (ws.foldl WindowScan.add start).Sound ws :=
  sound_start.foldl ws

/-- A block is that of a group with several windows. -/
theorem mem_blocks {b : DuplicateBlock} :
    b ∈ s.blocks ↔ ∃ g ∈ s.groups.toList, 1 < g.count ∧ g.block = b := by
  simp only [blocks, List.mem_map, List.mem_filter, decide_eq_true_eq, and_assoc]

end WindowScan

/-! ## Blocks -/

section
variable (size : Nat) (lines : List String)

/-- The scan of all windows. -/
def scanOf : WindowScan := (windows size lines).foldl WindowScan.add WindowScan.start

variable {size lines}

theorem scanOf_sound : (scanOf size lines).Sound (windows size lines) :=
  WindowScan.sound_scan _

theorem holds_of_mem {g : WindowGroup} (hg : g ∈ (scanOf size lines).groups.toList) :
    g.Holds (windows size lines) := by
  obtain ⟨k, hk⟩ := List.mem_iff_getElem?.1 hg
  exact scanOf_sound.group k g (by rwa [Array.getElem?_toList] at hk)

theorem first_mem {g : WindowGroup} (hg : g ∈ (scanOf size lines).groups.toList) :
    g.first ∈ windows size lines :=
  (List.mem_filter.1 (List.mem_of_mem_head? (holds_of_mem hg).first)).1

theorem block_lines {g : WindowGroup} (hg : g ∈ (scanOf size lines).groups.toList) :
    g.block.lines = startsWithDigest size lines g.first.digest := by
  rw [← lines_with_digest, ← (holds_of_mem hg).lines]
  rfl

theorem block_firstLine {g : WindowGroup} (hg : g ∈ (scanOf size lines).groups.toList) :
    g.block.firstLine = g.first.line := by
  have hh := holds_of_mem hg
  rw [DuplicateBlock.firstLine, WindowGroup.block, hh.lines, List.headD_eq_head?_getD,
    List.head?_map, hh.first]
  rfl

theorem window_of_mem {w : Window} (hw : w ∈ windows size lines) :
    w.line ∈ windowStarts size lines ∧ w = windowOn size lines w.line := by
  rw [windows_eq] at hw
  obtain ⟨i, hi, rfl⟩ := List.mem_map.1 hw
  exact ⟨hi, rfl⟩

/-- The text of a block is that of a window. -/
theorem exists_windowText {b : DuplicateBlock} (hb : b ∈ repeatedBlocks size lines) :
    ∃ i ∈ windowStarts size lines, b.text = windowText size lines i := by
  obtain ⟨g, hg, -, rfl⟩ := WindowScan.mem_blocks.1 hb
  obtain ⟨hmem, hwindow⟩ := window_of_mem (first_mem hg)
  exact ⟨g.first.line, hmem, congrArg Window.text hwindow⟩

/-- What every block says of itself. -/
theorem block_spec {b : DuplicateBlock} (hb : b ∈ repeatedBlocks size lines) :
    b.lines = startsWithDigest size lines b.digest ∧ b.lines.Pairwise (· < ·) ∧
      b.occurrences = b.lines.length ∧ 2 ≤ b.occurrences ∧
      b.text = windowText size lines b.firstLine := by
  obtain ⟨g, hg, hc, rfl⟩ := WindowScan.mem_blocks.1 hb
  have hlines : g.block.lines = startsWithDigest size lines g.block.digest := block_lines hg
  refine ⟨hlines, ?_, ?_, hc, ?_⟩
  · rw [hlines]
    exact (windowStarts_ascending size lines).filter _
  · rw [WindowGroup.block, (holds_of_mem hg).count, List.length_reverse]
  · rw [block_firstLine hg]
    exact congrArg Window.text (window_of_mem (first_mem hg)).2

theorem mem_startsWithDigest {d : String} {i : Nat} :
    i ∈ startsWithDigest size lines d ↔
      i ∈ windowStarts size lines ∧ blockDigest (windowText size lines i) = d := by
  simp [startsWithDigest]

/-- A digest has a block iff at least two windows have it. -/
theorem exists_block_iff (d : String) :
    (∃ b ∈ repeatedBlocks size lines, b.digest = d) ↔
      2 ≤ (startsWithDigest size lines d).length := by
  constructor
  · rintro ⟨b, hb, rfl⟩
    obtain ⟨hl, -, ho, h2, -⟩ := block_spec hb
    rwa [← hl, ← ho]
  · intro h
    obtain ⟨i, hi⟩ := List.exists_mem_of_length_pos (Nat.lt_of_lt_of_le Nat.zero_lt_two h)
    obtain ⟨hi, hd⟩ := mem_startsWithDigest.1 hi
    have hw : windowOn size lines i ∈ windows size lines := by
      rw [windows_eq]
      exact List.mem_map_of_mem hi
    obtain ⟨k, hk⟩ := scanOf_sound.seen _ hw
    obtain ⟨g, hg, hgd⟩ := (scanOf_sound.place _ k).1 hk
    have hgm : g ∈ (scanOf size lines).groups.toList :=
      List.mem_of_getElem? (by rwa [Array.getElem?_toList])
    have hgd' : g.first.digest = d := hgd.trans hd
    refine ⟨g.block, WindowScan.mem_blocks.2 ⟨g, hgm, ?_, rfl⟩, hgd'⟩
    rw [(holds_of_mem hgm).count, ← List.length_reverse]
    change 1 < g.block.lines.length
    rw [block_lines hgm, hgd']
    exact h

/-- Blocks stand in the order of their first lines. -/
theorem blocks_ascending :
    (repeatedBlocks size lines).Pairwise fun b c => b.firstLine < c.firstLine := by
  have hlines : ((windows size lines).map (·.line)).Pairwise (· < ·) := by
    rw [windows_eq, List.map_map]
    exact (List.map_id _).symm ▸ windowStarts_ascending size lines
  have hfirst := hlines.sublist (scanOf_sound.order.map (·.line))
  rw [List.map_map, List.pairwise_map] at hfirst
  refine List.pairwise_map.2 ((hfirst.imp_of_mem fun hf hg h => ?_).filter _)
  rw [block_firstLine hf, block_firstLine hg]
  exact h

/-- Different blocks have different digests, as they would have the same lines otherwise. -/
theorem blocks_digest_ne :
    (repeatedBlocks size lines).Pairwise fun b c => b.digest ≠ c.digest := by
  refine blocks_ascending.imp_of_mem fun {b c} hb hc hlt he => ?_
  have hl : b.lines = c.lines := by rw [(block_spec hb).1, (block_spec hc).1, he]
  rw [DuplicateBlock.firstLine, DuplicateBlock.firstLine, hl] at hlt
  exact Nat.lt_irrefl _ hlt

/-- No line starts windows of two blocks. -/
theorem blocks_disjoint :
    (repeatedBlocks size lines).Pairwise fun b c => ∀ i ∈ b.lines, i ∉ c.lines := by
  refine blocks_digest_ne.imp_of_mem fun {b c} hb hc hne i hib hic => hne ?_
  rw [(block_spec hb).1] at hib
  rw [(block_spec hc).1] at hic
  rw [← (mem_startsWithDigest.1 hib).2, (mem_startsWithDigest.1 hic).2]

/-- Windows with the same text, blanks at both ends left out, are in one block. -/
theorem exists_common_block {i j : Nat} (hi : i ∈ windowStarts size lines)
    (hj : j ∈ windowStarts size lines) (hne : i ≠ j)
    (ht : Text.trim (windowText size lines i) = Text.trim (windowText size lines j)) :
    ∃ b ∈ repeatedBlocks size lines, i ∈ b.lines ∧ j ∈ b.lines := by
  have hi' : i ∈ startsWithDigest size lines (blockDigest (windowText size lines i)) :=
    mem_startsWithDigest.2 ⟨hi, rfl⟩
  have hj' : j ∈ startsWithDigest size lines (blockDigest (windowText size lines i)) :=
    mem_startsWithDigest.2 ⟨hj, by rw [blockDigest, blockDigest, ht]⟩
  have h2 : 2 ≤ (startsWithDigest size lines (blockDigest (windowText size lines i))).length := by
    have hpair : [i, j].Nodup := by simp [hne]
    have hsub : [i, j] ⊆ startsWithDigest size lines (blockDigest (windowText size lines i)) := by
      simp [hi', hj']
    exact (List.subperm_of_subset hpair hsub).length_le
  obtain ⟨b, hb, hd⟩ := (exists_block_iff _).2 h2
  have hl := (block_spec hb).1
  rw [hd] at hl
  exact ⟨b, hb, hl ▸ hi', hl ▸ hj'⟩

end

/-- **Duplicate blocks are the repeated digests.** There is one block for each digest that several
windows have, and no other. A block lists all lines on which a window with its digest starts and
has the text of the first of them; blocks stand in the order of their first lines. So windows with
the same trimmed text share a block, and no line belongs to two. -/
theorem duplicates_blocks (u : SourceUnit) (size : Nat) (hsize : 1 ≤ size) :
    (∃ blocks, u.duplicates size = .ok blocks ∧
      (∀ d, (∃ b ∈ blocks, b.digest = d) ↔ 2 ≤ (startsWithDigest size u.lines d).length) ∧
      (blocks.map (·.digest)).Nodup ∧
      (∀ b ∈ blocks, b.lines = startsWithDigest size u.lines b.digest ∧
        b.lines.Pairwise (· < ·) ∧ b.occurrences = b.lines.length ∧
        b.text = windowText size u.lines b.firstLine) ∧
      blocks.Pairwise (fun b c => b.firstLine < c.firstLine) ∧
      (∀ i ∈ windowStarts size u.lines, ∀ j ∈ windowStarts size u.lines, i ≠ j →
        Text.trim (windowText size u.lines i) = Text.trim (windowText size u.lines j) →
        ∃ b ∈ blocks, i ∈ b.lines ∧ j ∈ b.lines) ∧
      blocks.Pairwise (fun b c => ∀ i ∈ b.lines, i ∉ c.lines) ∧
      (u.lines.length < size → blocks = [])) ∧
    u.duplicates 0 = .error (.setting .emptyWindow) ∧
    (ReviewError.setting .emptyWindow).message =
      "Invalid configuration: minimum duplicate block length must be at least 1" := by
  refine ⟨⟨repeatedBlocks size u.lines, ?_, exists_block_iff, ?_, fun b hb => ?_, blocks_ascending,
    fun i hi j hj => exists_common_block hi hj, blocks_disjoint, fun hlt => ?_⟩, rfl, rfl⟩
  · rw [SourceUnit.duplicates, checkWindow, if_neg (by omega)]
    rfl
  · exact List.pairwise_map.2 blocks_digest_ne
  · obtain ⟨hl, hp, ho, -, ht⟩ := block_spec hb
    exact ⟨hl, hp, ho, ht⟩
  · have hnil : windows size u.lines = [] := by
      rw [windows_eq, windowStarts, Nat.sub_eq_zero_of_le (by omega)]
      rfl
    rw [repeatedBlocks, hnil]
    rfl

theorem duplicates_blocks_of_copy :
    let u : SourceUnit := ⟨"Python", ["a = 1", "b = 2", "", "  a = 1", "b = 2", " "], default⟩
    1 ≤ 2 ∧ ∃ blocks, u.duplicates 2 = .ok blocks ∧ ∃ b ∈ blocks, 1 ∈ b.lines ∧ 4 ∈ b.lines := by
  intro u
  obtain ⟨⟨blocks, hok, -, -, -, -, hcopy, -⟩, -⟩ := duplicates_blocks u 2 (by decide)
  exact ⟨by decide, blocks, hok, hcopy 1 (by decide) 4 (by decide) (by decide) (by cbv)⟩

end CodeReview
