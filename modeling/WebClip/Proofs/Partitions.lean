import Mathlib.Algebra.Order.Floor.Div
import WebClip.Proofs.Chunks
/-!
# One way to cut

A positive limit leaves one way of cutting a text or a list: as many full parts as there can be, and what is over
as the last one. So parts that are of these sizes are got back by cutting what they make up together.
-/

namespace WebClip

/-- Parts of which each is full but the last, which is not empty and at most full. -/
structure IsCut {β : Type} (size : β → Nat) (n : Nat) (parts : List β) : Prop where
  full : ∀ part ∈ parts.dropLast, size part = n
  last : ∀ part ∈ parts.getLast?, 0 < size part ∧ size part ≤ n

/-- A cutting into parts of a limit: there are as many as are needed, none is empty, they make up what was cut, and
no other parts of these sizes do. -/
structure CutsExactly {α β : Type} (cut : α → Except Fault (List β)) (join : List β → α) (length : α → Nat)
    (size : β → Nat) (n : Nat) : Prop where
  cuts : ∀ whole, ∃ parts, cut whole = .ok parts ∧ parts.length = length whole ⌈/⌉ n ∧ join parts = whole ∧
    (∀ part ∈ parts, 0 < size part) ∧ IsCut size n parts
  recovers : ∀ parts, IsCut size n parts → cut (join parts) = .ok parts

variable {α β : Type} {n : Nat} {size : β → Nat}

theorem isCut_singleton {part : β} : IsCut size n [part] ↔ 0 < size part ∧ size part ≤ n := by
  constructor
  · intro h
    exact h.last part rfl
  · intro h
    refine ⟨fun _ hmem => (List.not_mem_nil hmem).elim, fun _ hmem => ?_⟩
    obtain rfl := Option.some.inj hmem
    exact h

theorem isCut_cons_cons {part next : β} {rest : List β} :
    IsCut size n (part :: next :: rest) ↔ size part = n ∧ IsCut size n (next :: rest) := by
  constructor
  · intro h
    refine ⟨h.full part (by simp), fun p hp => h.full p ?_, fun p hp => h.last p ?_⟩
    · exact List.mem_cons_of_mem part hp
    · rwa [List.getLast?_cons_cons]
  · rintro ⟨hpart, h⟩
    refine ⟨fun p hp => ?_, fun p hp => h.last p ?_⟩
    · rw [List.dropLast_cons_cons] at hp
      rcases List.mem_cons.1 hp with rfl | hp
      · exact hpart
      · exact h.full p hp
    · rwa [List.getLast?_cons_cons] at hp

/-- Parts are a cut where every one that another follows is full, and none is empty or too large. -/
theorem isCut_of_isChain {parts : List β} (hchain : parts.IsChain fun part _ => size part = n)
    (hsize : ∀ part ∈ parts, 0 < size part ∧ size part ≤ n) : IsCut size n parts := by
  induction parts with
  | nil => exact ⟨nofun, nofun⟩
  | cons part rest ih =>
    cases rest with
    | nil => exact isCut_singleton.2 (hsize part List.mem_cons_self)
    | cons next rest =>
      obtain ⟨hpart, hrest⟩ := List.isChain_cons_cons.1 hchain
      exact isCut_cons_cons.2 ⟨hpart, ih hrest fun p hp => hsize p (List.mem_cons_of_mem part hp)⟩

theorem isCut_map {γ : Type} {f : γ → β} {parts : List γ} :
    IsCut size n (parts.map f) ↔ IsCut (fun part => size (f part)) n parts := by
  induction parts with
  | nil => exact ⟨fun _ => ⟨nofun, nofun⟩, fun _ => ⟨nofun, nofun⟩⟩
  | cons part rest ih =>
    cases rest with
    | nil => rw [List.map_singleton, isCut_singleton, isCut_singleton]
    | cons next rest => rw [List.map_cons, List.map_cons, isCut_cons_cons, isCut_cons_cons, ← List.map_cons, ih]

/-! ## Lists -/

theorem isCut_chunks (hn : 0 < n) (xs : List α) : IsCut List.length n (chunks n xs) :=
  isCut_of_isChain (isChain_chunks hn xs) fun _ hc =>
    ⟨List.length_pos_iff.2 (ne_nil_of_mem_chunks hc), length_le_of_mem_chunks hn hc⟩

theorem length_chunks (hn : 0 < n) (xs : List α) : (chunks n xs).length = xs.length ⌈/⌉ n := by
  rw [Nat.ceilDiv_eq_add_pred_div]
  fun_induction chunks n xs with
  | case1 => rw [List.length_nil, List.length_nil, Nat.zero_add, Nat.div_eq_of_lt (by omega)]
  | case2 x rest ih =>
    have hone : rest.length + 1 + n - 1 = rest.length + n := by omega
    rw [List.length_cons, List.length_cons, ih, List.length_drop, hone, Nat.add_div_right _ hn]
    by_cases hleft : n - 1 ≤ rest.length
    · have hsame : rest.length - (n - 1) + n - 1 = rest.length := by omega
      rw [hsame]
    -- nothing is left for another chunk
    · rw [Nat.div_eq_of_lt (by omega), Nat.div_eq_of_lt (by omega)]

theorem chunks_of_le {part : List α} (hpos : 0 < part.length) (hle : part.length ≤ n) : chunks n part = [part] := by
  obtain ⟨x, rest, rfl⟩ := List.exists_cons_of_length_pos hpos
  have hrest : rest.length ≤ n - 1 := by
    rw [List.length_cons] at hle
    omega
  rw [chunks_cons, List.take_of_length_le hrest, List.drop_of_length_le hrest, chunks_nil]

theorem chunks_append (hn : 0 < n) {part : List α} (hlen : part.length = n) (xs : List α) :
    chunks n (part ++ xs) = part :: chunks n xs := by
  obtain ⟨x, rest, rfl⟩ := List.exists_cons_of_length_pos (hlen ▸ hn)
  have hrest : rest.length = n - 1 := by
    rw [List.length_cons] at hlen
    omega
  rw [List.cons_append, chunks_cons, ← hrest, List.take_left, List.drop_left]

/-- Cutting what parts make up gives the parts back. -/
theorem chunks_flatten (hn : 0 < n) {parts : List (List α)} (h : IsCut List.length n parts) :
    chunks n parts.flatten = parts := by
  induction parts with
  | nil => exact chunks_nil n
  | cons part rest ih =>
    cases rest with
    | nil =>
      obtain ⟨hpos, hle⟩ := isCut_singleton.1 h
      rw [List.flatten_singleton, chunks_of_le hpos hle]
    | cons next rest =>
      obtain ⟨hpart, hrest⟩ := isCut_cons_cons.1 h
      rw [List.flatten_cons, chunks_append hn hpart, ih hrest]

/-! ## Texts -/

theorem join_cutText (n : Nat) (s : String) : String.join (cutText n s) = s := by
  rw [← String.toList_inj, String.toList_join, flatMap_cutText]

theorem cutText_join (hn : 0 < n) {parts : List String} (h : IsCut String.length n parts) :
    cutText n (String.join parts) = parts := by
  have hlists : IsCut List.length n (parts.map String.toList) := isCut_map.2 h
  rw [cutText, String.toList_join, List.flatMap_def, chunks_flatten hn hlists, List.map_map]
  exact (List.map_congr_left fun _ _ => String.ofList_toList).trans (List.map_id parts)

/-! ## Both -/

/-- A positive limit cuts every text, and every list of blocks, in the one way there is. -/
theorem cut_exactly (limit : Int) (h : 0 < limit) :
    CutsExactly (splitText limit) String.join String.length String.length limit.toNat ∧
      ∀ α : Type, CutsExactly (planBatches (α := α) limit) List.flatten List.length List.length limit.toNat := by
  have hn : 0 < limit.toNat := by omega
  have hsplit (s : String) : splitText limit s = .ok (cutText limit.toNat s) := if_neg (by omega)
  have hplan {α : Type} (xs : List α) : planBatches limit xs = .ok (chunks limit.toNat xs) := by
    rw [planBatches, if_neg (by omega), if_neg (by omega)]
  refine ⟨⟨fun s => ⟨_, hsplit s, ?_, join_cutText _ s, ?_, ?_⟩, fun parts hparts => ?_⟩, fun α =>
    ⟨fun xs => ⟨_, hplan xs, length_chunks hn xs, flatten_chunks _ xs, ?_, isCut_chunks hn xs⟩, fun parts hparts => ?_⟩⟩
  · rw [cutText, List.length_map, length_chunks hn, String.length_toList]
  · exact fun part hpart => (length_of_mem_cutText hn hpart).1
  · exact isCut_of_isChain (isChain_cutText hn s) fun _ hpart => length_of_mem_cutText hn hpart
  · rw [hsplit, cutText_join hn hparts]
  · exact fun part hpart => List.length_pos_iff.2 (ne_nil_of_mem_chunks hpart)
  · rw [hplan, chunks_flatten hn hparts]

/-- Two full parts and a short one are what their text is cut into, and a full batch and a short one what their
blocks are. -/
theorem threeParts_cut :
    (0 : Int) < 2 ∧ splitText 2 "abcde" = .ok ["ab", "cd", "e"] ∧ planBatches 2 [1, 2, 3] = .ok [[1, 2], [3]] := by
  obtain ⟨htexts, hlists⟩ := cut_exactly 2 (by decide)
  have hparts : IsCut String.length 2 ["ab", "cd", "e"] := ⟨by decide, by decide⟩
  have hbatches : IsCut List.length 2 [[1, 2], [3]] := ⟨by decide, by decide⟩
  exact ⟨by decide, htexts.recovers _ hparts, (hlists Nat).recovers _ hbatches⟩

end WebClip
