import Scanout.I2c.Phase
import Mathlib.Algebra.GroupWithZero.Nat
import Mathlib.Data.List.Forall2

/-!
The buffers of phases, and the chunks that a number of bytes is cut into. Later phases find what the
earlier ones left of the bytes that arrived (`Phase.buffers_append`). All chunks but the last are
full (`chunkSizes_cons`), there are as many as it takes, and cutting bytes into consecutive pieces
neither loses nor adds any.
-/

set_option autoImplicit false
set_option relaxedAutoImplicit false

namespace Scanout.I2c

/-- What matches two lists in a row falls into what matches each. -/
theorem forall₂_append_left {α β : Type} {relation : α → β → Prop} {early late : List α}
    {values : List β} (hvalues : List.Forall₂ relation (early ++ late) values) :
    ∃ first second, values = first ++ second ∧ List.Forall₂ relation early first ∧
      List.Forall₂ relation late second := by
  refine ⟨values.take early.length, values.drop early.length,
    (List.take_append_drop _ _).symm, ?_, ?_⟩
  · exact (List.forall₂_take_append values early late hvalues.flip).flip
  · exact (List.forall₂_drop_append values early late hvalues.flip).flip

namespace Phase

/-- How many bytes the phases read. -/
def asked : List Phase → Nat
  | [] => 0
  | write _ :: rest => asked rest
  | read length :: rest => length + asked rest

theorem asked_cons (phase : Phase) (rest : List Phase) :
    asked (phase :: rest) = asked [phase] + asked rest := by
  cases phase <;> simp [asked]

theorem asked_reads (counts : List Nat) : asked (counts.map read) = counts.sum := by
  induction counts with
  | nil => rfl
  | cons count rest ih => rw [List.map_cons, asked, ih, List.sum_cons]

/-- Later phases find what the earlier ones left. -/
theorem buffers_append (early late : List Phase) (received : List UInt8) :
    buffers (early ++ late) received =
      buffers early received ++ buffers late (received.drop (asked early)) := by
  induction early generalizing received with
  | nil => rfl
  | cons phase rest ih =>
    cases phase with
    | write bytes => exact ih received
    | read length => simp [buffers, asked, ih]

/-- The buffer of a read behind other phases. -/
theorem buffers_append_read (before after : List Phase) (length : Nat) (received : List UInt8) :
    buffers (before ++ .read length :: after) received =
      buffers before received ++ fill length (received.drop (asked before)) ::
        buffers after (received.drop (asked before + length)) := by
  rw [buffers_append, buffers, List.drop_drop]

theorem fill_append {length : Nat} {early : List UInt8} (hlength : early.length = length)
    (late : List UInt8) : fill length (early ++ late) = early := by
  subst hlength
  simp [fill, List.rightpad]

theorem flatten_buffers_length (phases : List Phase) (received : List UInt8) :
    (buffers phases received).flatten.length = asked phases := by
  induction phases generalizing received with
  | nil => rfl
  | cons phase rest ih =>
    cases phase with
    | write bytes => exact ih received
    | read length =>
      rw [buffers, List.flatten_cons, List.length_append, fill_length, ih, asked]

end Phase

theorem chunkSizes_zero (chunk : Nat) : chunkSizes chunk 0 = [] := by
  simp [chunkSizes]

/-- The first chunk is full, or all there is; the others are those of what it leaves. -/
theorem chunkSizes_cons {chunk count : Nat} (hchunk : 0 < chunk) (hcount : 0 < count) :
    chunkSizes chunk count = min chunk count :: chunkSizes chunk (count - chunk) := by
  rcases Nat.lt_or_ge count chunk with hshort | hfull
  · rw [Nat.sub_eq_zero_of_le (Nat.le_of_lt hshort), chunkSizes_zero, chunkSizes,
      Nat.div_eq_of_lt hshort, Nat.mod_eq_of_lt hshort, if_neg (Nat.ne_of_gt hcount),
      Nat.min_eq_right (Nat.le_of_lt hshort)]
    rfl
  · rw [chunkSizes, chunkSizes, Nat.div_eq_sub_div hchunk hfull, Nat.mod_eq_sub_mod hfull,
      List.replicate_succ, Nat.min_eq_left hfull, List.cons_append]

/-- What holds of no bytes, and of some if it holds of those behind their first chunk, holds of any
number of bytes. -/
theorem chunk_induction {chunk : Nat} (hchunk : 0 < chunk) {motive : Nat → Prop}
    (zero : motive 0) (next : ∀ count, 0 < count → motive (count - chunk) → motive count)
    (count : Nat) : motive count := by
  induction count using Nat.strongRecOn with
  | ind count ih =>
    rcases Nat.eq_zero_or_pos count with rfl | hcount
    · exact zero
    · exact next count hcount (ih _ (Nat.sub_lt hcount hchunk))

/-- How many chunks it takes. -/
def chunkCount (chunk count : Nat) : Nat :=
  (count + chunk - 1) / chunk

theorem chunkCount_zero {chunk : Nat} (hchunk : 0 < chunk) : chunkCount chunk 0 = 0 := by
  rw [chunkCount]
  exact Nat.div_eq_of_lt (by omega)

theorem chunkCount_cons {chunk count : Nat} (hchunk : 0 < chunk) (hcount : 0 < count) :
    chunkCount chunk count = chunkCount chunk (count - chunk) + 1 := by
  rcases Nat.lt_or_ge count chunk with hshort | hfull
  · rw [Nat.sub_eq_zero_of_le (Nat.le_of_lt hshort), chunkCount_zero hchunk, chunkCount,
      Nat.div_eq_sub_div hchunk (by omega), Nat.div_eq_of_lt (by omega)]
  · rw [chunkCount, chunkCount, Nat.div_eq_sub_div hchunk (by omega)]
    congr 2
    omega

theorem length_chunkSizes {chunk : Nat} (hchunk : 0 < chunk) (count : Nat) :
    (chunkSizes chunk count).length = chunkCount chunk count := by
  induction count using chunk_induction hchunk with
  | zero => rw [chunkSizes_zero, chunkCount_zero hchunk]; rfl
  | next count hcount ih =>
    rw [chunkSizes_cons hchunk hcount, chunkCount_cons hchunk hcount, List.length_cons, ih]

theorem le_of_mem_chunkSizes {chunk : Nat} (hchunk : 0 < chunk) (count : Nat) :
    ∀ size ∈ chunkSizes chunk count, size ≤ chunk := by
  induction count using chunk_induction hchunk with
  | zero => simp [chunkSizes_zero]
  | next count hcount ih =>
    rw [chunkSizes_cons hchunk hcount, List.forall_mem_cons]
    exact ⟨Nat.min_le_left _ _, ih⟩

/-- Nothing is lost or added where bytes are cut up. -/
theorem chunkSizes_total (chunk count : Nat) :
    (chunkSizes chunk count).foldr (· + ·) 0 = count := by
  have hfull (chunks rest : Nat) :
      (List.replicate chunks chunk).foldr (· + ·) rest = chunks * chunk + rest := by
    induction chunks with
    | zero => simp
    | succ chunks ih => rw [List.replicate_succ, List.foldr_cons, ih, Nat.succ_mul]; omega
  have hcount := Nat.div_add_mod' count chunk
  rw [chunkSizes, List.foldr_append, hfull]
  split
  · rename_i hnone
    rwa [hnone] at hcount
  · exact hcount

theorem length_cut (sizes : List Nat) (bytes : List UInt8) :
    (cut sizes bytes).length = sizes.length := by
  induction sizes generalizing bytes with
  | nil => rfl
  | cons size sizes ih => rw [cut, List.length_cons, ih, List.length_cons]

theorem flatten_cut {sizes : List Nat} {bytes : List UInt8} (hall : bytes.length ≤ sizes.sum) :
    (cut sizes bytes).flatten = bytes := by
  induction sizes generalizing bytes with
  | nil => exact (List.eq_nil_of_length_eq_zero (Nat.le_zero.mp hall)).symm
  | cons size sizes ih =>
    rw [List.sum_cons] at hall
    rw [cut, List.flatten_cons, ih (by rw [List.length_drop]; omega), List.take_append_drop]

/-- No piece is longer than the longest size. -/
theorem length_le_of_mem_cut {sizes : List Nat} {bound : Nat}
    (hsizes : ∀ size ∈ sizes, size ≤ bound) (bytes : List UInt8) :
    ∀ piece ∈ cut sizes bytes, piece.length ≤ bound := by
  induction sizes generalizing bytes with
  | nil => simp [cut]
  | cons size sizes ih =>
    rw [List.forall_mem_cons] at hsizes
    rw [cut, List.forall_mem_cons, List.length_take]
    exact ⟨Nat.le_trans (Nat.min_le_left _ _) hsizes.1, ih hsizes.2 _⟩

end Scanout.I2c
