import Mathlib.Data.List.Basic

/-!
# Cutting a stream into frames and a message into pieces

A stream is read through a window that may hold less than a frame, a frame and more, or
nothing. A peek tells how long the first frame is without looking behind it.

* `IsFrame` — what the peek must say about a frame and about its prefixes
* `peek_stream` — a window on a stream of frames shows the next one or asks for more
* `pieces`, `withLast` — a message in pieces of bounded length, the last one marked
-/

namespace ArStack.Lib

variable {α : Type*}

/-! ## Frames -/

/-- What the head of a window says. -/
inductive Peek where
  | needMore
  | ready (length : Nat)
  | invalid
  deriving DecidableEq

/-- The peek knows the frame by its own octets alone, and waits until it has all of them. -/
structure IsFrame (peek : List α → Peek) (frame : List α) : Prop where
  ready : ∀ rest, peek (frame ++ rest) = .ready frame.length
  wait : ∀ window rest, window ++ rest = frame → rest ≠ [] → peek window = .needMore

/-- **A window on a stream of frames.** -/
theorem peek_stream {peek : List α → Peek} (hempty : peek [] = .needMore)
    {frames : List (List α)} (hframes : ∀ frame ∈ frames, IsFrame peek frame)
    {window rest : List α} (h : window ++ rest = frames.flatten) :
    (peek window = .needMore ∧ (rest = [] → frames = [])) ∨
      ∃ frame frames' window', frames = frame :: frames' ∧ window = frame ++ window' ∧
        peek window = .ready frame.length ∧ window' ++ rest = frames'.flatten := by
  cases frames with
  | nil =>
    obtain ⟨rfl, -⟩ := List.append_eq_nil_iff.mp h
    exact Or.inl ⟨hempty, fun _ => rfl⟩
  | cons frame frames =>
    obtain ⟨hready, hwait⟩ := hframes frame List.mem_cons_self
    rw [List.flatten_cons] at h
    rcases List.append_eq_append_iff.mp h with ⟨missing, hframe, hrest⟩ | ⟨window', rfl, hrest⟩
    · by_cases hmissing : missing = []
      · -- the window ends with the frame
        subst hmissing
        rw [List.append_nil] at hframe
        refine Or.inr ⟨frame, frames, [], rfl, by rw [List.append_nil, hframe], ?_, hrest⟩
        rw [← hframe]
        simpa using hready []
      · refine Or.inl ⟨hwait window missing hframe.symm hmissing, fun hnil => ?_⟩
        rw [hnil] at hrest
        exact absurd (List.append_eq_nil_iff.mp hrest.symm).1 hmissing
    · exact Or.inr ⟨frame, frames, window', rfl, rfl, hready window', hrest.symm⟩

/-! ## Pieces -/

/-- A message in pieces of `size`, of which the last may be shorter; the empty message is one
piece. -/
def pieces (size : Nat) (message : List α) : List (List α) :=
  if _h : size = 0 ∨ message.length ≤ size then [message]
  else message.take size :: pieces size (message.drop size)
termination_by message.length
decreasing_by
  rw [List.length_drop]
  omega

theorem pieces_of_le {size : Nat} {message : List α} (h : message.length ≤ size) :
    pieces size message = [message] := by
  rw [pieces, dif_pos (Or.inr h)]

theorem pieces_of_lt {size : Nat} {message : List α} (hsize : size ≠ 0)
    (h : size < message.length) :
    pieces size message = message.take size :: pieces size (message.drop size) := by
  rw [pieces, dif_neg (by omega)]

theorem pieces_ne_nil (size : Nat) (message : List α) : pieces size message ≠ [] := by
  rw [pieces]
  split <;> exact nofun

/-- The induction over the pieces of a message. -/
theorem pieces_induction {motive : List α → Prop} {size : Nat} (hsize : size ≠ 0)
    (last : ∀ message, message.length ≤ size → motive message)
    (more : ∀ message, size < message.length → motive (message.drop size) → motive message)
    (message : List α) : motive message := by
  induction hlength : message.length using Nat.strongRecOn generalizing message with
  | ind n ih =>
    by_cases h : message.length ≤ size
    · exact last message h
    · refine more message (by omega) (ih _ ?_ _ rfl)
      rw [List.length_drop]
      omega

/-- **The pieces make up the message.** -/
theorem flatten_pieces {size : Nat} (hsize : size ≠ 0) (message : List α) :
    (pieces size message).flatten = message := by
  induction message using pieces_induction hsize with
  | last message h => simp [pieces_of_le h]
  | more message h ih =>
    rw [pieces_of_lt hsize h, List.flatten_cons, ih, List.take_append_drop]

theorem length_pieces {size : Nat} (hsize : size ≠ 0) (message : List α) :
    (pieces size message).length =
      if message.length = 0 then 1 else 1 + (message.length - 1) / size := by
  induction message using pieces_induction hsize with
  | last message h =>
    rw [pieces_of_le h, List.length_singleton]
    split
    · rfl
    · rw [Nat.div_eq_of_lt (by omega)]
  | more message h ih =>
    rw [pieces_of_lt hsize h, List.length_cons, ih, List.length_drop, if_neg (by omega),
      if_neg (by omega)]
    have hdiv : (message.length - 1) / size = (message.length - size - 1) / size + 1 := by
      rw [← Nat.add_div_right _ (Nat.pos_of_ne_zero hsize)]
      congr 1
      omega
    omega

/-- The elements of a list, each with whether it is the last one. -/
def withLast : List α → List (Bool × α)
  | [] => []
  | [a] => [(true, a)]
  | a :: b :: l => (false, a) :: withLast (b :: l)

theorem withLast_cons {l : List α} (a : α) (h : l ≠ []) :
    withLast (a :: l) = (false, a) :: withLast l := by
  cases l with
  | nil => exact absurd rfl h
  | cons b l => rfl

@[simp] theorem map_snd_withLast (l : List α) : (withLast l).map Prod.snd = l := by
  induction l with
  | nil => rfl
  | cons a l ih =>
    by_cases h : l = []
    · subst h
      rfl
    · rw [withLast_cons a h, List.map_cons, ih]

@[simp] theorem length_withLast (l : List α) : (withLast l).length = l.length := by
  have hmap : ((withLast l).map Prod.snd).length = (withLast l).length := List.length_map _
  rw [← hmap, map_snd_withLast]

/-- Only the last element is marked. -/
theorem fst_getElem_withLast (l : List α) (i : Nat) (hi : i < (withLast l).length) :
    (withLast l)[i].1 = decide (i + 1 = l.length) := by
  induction l generalizing i with
  | nil => simp at hi
  | cons a l ih =>
    by_cases h : l = []
    · subst h
      have : i = 0 := by simpa [withLast] using hi
      subst this
      rfl
    · have hpos : 0 < l.length := List.length_pos_iff.mpr h
      simp only [withLast_cons a h]
      cases i with
      | zero =>
        rw [List.getElem_cons_zero, List.length_cons]
        simp
        omega
      | succ i =>
        simp only [withLast_cons a h, List.length_cons, Nat.add_lt_add_iff_right] at hi
        rw [List.getElem_cons_succ, ih i hi, List.length_cons]
        simp

end ArStack.Lib
