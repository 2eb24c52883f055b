import Mathlib.Data.List.Induction

/-!
# Marks that are joined

Events mark keys with bits; what is kept of them is one mask for each key.

* `marks` — the joined marks of a key
* `marks_concat` — one more event
* `and_marks` — no bit of an event is lost
* `marks_filter` — the events of some keys only
-/

namespace ArStack.Lib

variable {ε κ : Type*} [DecidableEq κ] {key : ε → κ} {mark : ε → UInt8}

/-- The marks of the events with key `k`, joined. -/
def marks (key : ε → κ) (mark : ε → UInt8) (events : List ε) (k : κ) : UInt8 :=
  events.foldl (fun mask event => if key event = k then mask ||| mark event else mask) 0

@[simp] theorem marks_nil (k : κ) : marks key mark [] k = 0 := rfl

@[simp] theorem marks_concat (events : List ε) (event : ε) (k : κ) :
    marks key mark (events ++ [event]) k =
      if key event = k then marks key mark events k ||| mark event
      else marks key mark events k := by
  simp only [marks, List.foldl_append, List.foldl_cons, List.foldl_nil]

theorem or_and_self_right (mask bit : UInt8) : (mask ||| bit) &&& bit = bit := by
  rw [← UInt8.toBitVec_inj]
  simp only [UInt8.toBitVec_and, UInt8.toBitVec_or]
  ext k hk
  simpa using fun hbit => .inr hbit

theorem or_and_of_and {mask bit : UInt8} (other : UInt8) (h : mask &&& bit = bit) :
    (mask ||| other) &&& bit = bit := by
  have hbits := congrArg UInt8.toBitVec h
  rw [← UInt8.toBitVec_inj]
  simp only [UInt8.toBitVec_and, UInt8.toBitVec_or] at hbits ⊢
  rw [BitVec.and_or_distrib_right, hbits]
  ext k hk
  simp

/-- **No bit of an event is lost.** -/
theorem and_marks {events : List ε} {event : ε} (h : event ∈ events) :
    marks key mark events (key event) &&& mark event = mark event := by
  induction events using List.reverseRecOn with
  | nil => simp at h
  | append_singleton events last ih =>
    rw [marks_concat]
    rcases List.mem_append.mp h with h | h
    · split
      · exact or_and_of_and _ (ih h)
      · exact ih h
    · obtain rfl : event = last := by simpa using h
      rw [if_pos rfl]
      exact or_and_self_right _ _

/-- The events of the keys that satisfy `p`. -/
theorem marks_filter (p : κ → Bool) (events : List ε) (k : κ) :
    marks key mark (events.filter fun event => p (key event)) k =
      if p k then marks key mark events k else 0 := by
  induction events using List.reverseRecOn with
  | nil => simp
  | append_singleton events last ih =>
    rw [List.filter_append, marks_concat]
    cases hp : p (key last) with
    | true =>
      simp only [List.filter_cons, hp, if_true, List.filter_nil, marks_concat, ih]
      by_cases hk : key last = k
      · subst hk
        simp [hp]
      · simp [hk]
    | false =>
      simp only [List.filter_cons, hp, Bool.false_eq_true, if_false, List.filter_nil,
        List.append_nil, ih]
      by_cases hk : key last = k
      · subst hk
        simp [hp]
      · simp [hk]

end ArStack.Lib
