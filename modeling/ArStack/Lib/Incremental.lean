import Mathlib.Data.List.Basic

/-!
# Reading a stream chunk by chunk

A reader takes items out of what it holds, one after the other, until there is none or it
fails. Chunks are added one at a time, and after each one all items are taken.

* `takeAll`, `feed` — the reader's two loops, and `Outcome`, what they give
* `Stable` — an item, or a failure, is the same whatever follows
* `readAll_append`, `feed_flatten` — how a stream is cut does not matter
* `takeAll_view`, `feed_view` — a reader whose state shows as a window
* `EachChunk` — what holds whenever a chunk is added
-/

namespace ArStack.Lib

/-- The items, and the state after them or the failure. -/
structure Outcome (ε β σ : Type*) where
  items : List β
  state : Except ε σ

namespace Outcome

variable {ε β σ τ : Type*}

def andThen (first : Outcome ε β σ) (next : σ → Outcome ε β τ) : Outcome ε β τ :=
  match first.state with
  | .error e => { items := first.items, state := .error e }
  | .ok s => { items := first.items ++ (next s).items, state := (next s).state }

def map (f : σ → τ) (outcome : Outcome ε β σ) : Outcome ε β τ :=
  { items := outcome.items, state := outcome.state.map f }

def prepend (item : β) (outcome : Outcome ε β σ) : Outcome ε β σ :=
  { outcome with items := item :: outcome.items }

theorem prepend_andThen (item : β) (outcome : Outcome ε β σ) (next : σ → Outcome ε β τ) :
    (outcome.prepend item).andThen next = (outcome.andThen next).prepend item := by
  obtain ⟨items, state⟩ := outcome
  cases state <;> rfl

/-- Nothing has been taken. -/
theorem andThen_of_nil (s : σ) (next : σ → Outcome ε β τ) :
    ({ items := [], state := .ok s } : Outcome ε β σ).andThen next = next s := rfl

end Outcome

section Loops

variable {ε β σ γ : Type*}

/-- Items are taken until there is none. -/
def takeAll (pop : σ → Except ε (Option (β × σ))) : Nat → σ → Outcome ε β σ
  | 0, s => { items := [], state := .ok s }
  | fuel + 1, s =>
    match pop s with
    | .error e => { items := [], state := .error e }
    | .ok none => { items := [], state := .ok s }
    | .ok (some (item, s)) => (takeAll pop fuel s).prepend item

/-- After every chunk all items are taken; `size` bounds how many there can be. -/
def feed (pop : σ → Except ε (Option (β × σ))) (append : σ → γ → Except ε σ) (size : σ → Nat)
    (s : σ) : List γ → Outcome ε β σ
  | [] => { items := [], state := .ok s }
  | chunk :: chunks =>
    match append s chunk with
    | .error e => { items := [], state := .error e }
    | .ok s => (takeAll pop (size s + 1) s).andThen fun s => feed pop append size s chunks

end Loops

/-- Every chunk that the reader comes to satisfies `P` in the state that it meets. -/
def EachChunk {ε β σ γ : Type*} (pop : σ → Except ε (Option (β × σ)))
    (append : σ → γ → Except ε σ) (size : σ → Nat) (P : σ → γ → Prop) (s : σ) : List γ → Prop
  | [] => True
  | chunk :: chunks =>
    P s chunk ∧ ∀ s', append s chunk = .ok s' →
      ∀ s'', (takeAll pop (size s' + 1) s').state = .ok s'' →
        EachChunk pop append size P s'' chunks

/-! ## Windows on a stream -/

section Windows

variable {α ε β : Type*} {next : List α → Except ε (Option (β × List α))}

/-- An item is taken from the front, and what follows does not matter. -/
structure Stable (next : List α → Except ε (Option (β × List α))) : Prop where
  shorter : ∀ {window item rest}, next window = .ok (some (item, rest)) →
    rest.length < window.length
  item : ∀ {window item rest}, next window = .ok (some (item, rest)) →
    ∀ more, next (window ++ more) = .ok (some (item, rest ++ more))
  fails : ∀ {window e}, next window = .error e → ∀ more, next (window ++ more) = .error e

/-- All items of a window. -/
def readAll (next : List α → Except ε (Option (β × List α))) (window : List α) :
    Outcome ε β (List α) :=
  takeAll next (window.length + 1) window

/-- Enough fuel is enough. -/
theorem takeAll_eq_readAll (hstable : Stable next) {fuel : Nat} {window : List α}
    (h : window.length < fuel) : takeAll next fuel window = readAll next window := by
  induction fuel using Nat.strongRecOn generalizing window with
  | ind fuel ih =>
    obtain _ | fuel := fuel
    · omega
    rw [readAll, takeAll, takeAll]
    cases hnext : next window with
    | error e => rfl
    | ok taken =>
      cases taken with
      | none => rfl
      | some taken =>
        obtain ⟨item, rest⟩ := taken
        have hlt := hstable.shorter hnext
        dsimp only
        rw [ih fuel (Nat.lt_succ_self fuel) (by omega)]
        rcases Nat.lt_or_ge window.length fuel with hless | hmore
        · rw [ih window.length (by omega) hlt]
        · obtain rfl : window.length = fuel := by omega
          rw [ih window.length (Nat.lt_succ_self _) hlt]

/-- The window shows the next item. -/
theorem readAll_of_item (hstable : Stable next) {window rest : List α} {item : β}
    (h : next window = .ok (some (item, rest))) :
    readAll next window = (readAll next rest).prepend item := by
  have hlt := hstable.shorter h
  rw [readAll, takeAll, h]
  exact congrArg (Outcome.prepend item) (takeAll_eq_readAll hstable hlt)

theorem readAll_of_none {window : List α} (h : next window = .ok none) :
    readAll next window = { items := [], state := .ok window } := by
  rw [readAll, takeAll, h]

theorem readAll_of_error {window : List α} {e : ε} (h : next window = .error e) :
    readAll next window = { items := [], state := .error e } := by
  rw [readAll, takeAll, h]

/-- **A window that grows.** -/
theorem readAll_append (hstable : Stable next) (window more : List α) :
    readAll next (window ++ more) =
      (readAll next window).andThen fun rest => readAll next (rest ++ more) := by
  induction hlength : window.length using Nat.strongRecOn generalizing window with
  | ind n ih =>
    cases hnext : next window with
    | error e => rw [readAll_of_error hnext, readAll_of_error (hstable.fails hnext more)]; rfl
    | ok taken =>
      cases taken with
      | none => rw [readAll_of_none hnext, Outcome.andThen_of_nil]
      | some taken =>
        obtain ⟨item, rest⟩ := taken
        rw [readAll_of_item hstable hnext, readAll_of_item hstable (hstable.item hnext more),
          ih rest.length (hlength ▸ hstable.shorter hnext) rest rfl, Outcome.prepend_andThen]

/-- What is left has no item. -/
theorem next_of_readAll (hstable : Stable next) {window rest : List α}
    (h : (readAll next window).state = .ok rest) : next rest = .ok none := by
  induction hlength : window.length using Nat.strongRecOn generalizing window with
  | ind n ih =>
    cases hnext : next window with
    | error e =>
      rw [readAll_of_error hnext] at h
      cases h
    | ok taken =>
      cases taken with
      | none =>
        rw [readAll_of_none hnext] at h
        cases h
        exact hnext
      | some taken =>
        obtain ⟨item, rest'⟩ := taken
        rw [readAll_of_item hstable hnext] at h
        exact ih rest'.length (hlength ▸ hstable.shorter hnext) h rfl

/-- The reader that holds the window itself. -/
def feedWindow (next : List α → Except ε (Option (β × List α))) (window : List α)
    (chunks : List (List α)) : Outcome ε β (List α) :=
  feed next (fun window chunk => .ok (window ++ chunk)) List.length window chunks

/-- **How the stream is cut does not matter.** -/
theorem feed_flatten (hstable : Stable next) {window : List α} (h : next window = .ok none)
    (chunks : List (List α)) :
    feedWindow next window chunks = readAll next (window ++ chunks.flatten) := by
  induction chunks generalizing window with
  | nil => rw [List.flatten_nil, List.append_nil, readAll_of_none h]; rfl
  | cons chunk chunks ih =>
    rw [List.flatten_cons, ← List.append_assoc, readAll_append hstable]
    show (readAll next (window ++ chunk)).andThen (feedWindow next · chunks) = _
    cases hread : readAll next (window ++ chunk) with
    | mk items state =>
      cases state with
      | error e => rfl
      | ok rest =>
        have hstate : (readAll next (window ++ chunk)).state = .ok rest := by rw [hread]
        have hrest := next_of_readAll hstable hstate
        simp only [Outcome.andThen, ih hrest]

end Windows

/-! ## Readers with a state -/

section Views

variable {ε β σ α : Type*} {pop : σ → Except ε (Option (β × σ))}
  {next : List α → Except ε (Option (β × List α))} {view : σ → List α} {Inv : σ → Prop}

/-- The state takes items as its window shows them. -/
structure Shows (pop : σ → Except ε (Option (β × σ)))
    (next : List α → Except ε (Option (β × List α))) (view : σ → List α) (Inv : σ → Prop) :
    Prop where
  same : ∀ {s}, Inv s → (pop s).map (Option.map (Prod.map id view)) = next (view s)
  keeps : ∀ {s item s'}, Inv s → pop s = .ok (some (item, s')) → Inv s'

theorem takeAll_view (hshows : Shows pop next view Inv) {s : σ} (h : Inv s) (fuel : Nat) :
    (takeAll pop fuel s).map view = takeAll next fuel (view s) := by
  induction fuel generalizing s with
  | zero => rfl
  | succ fuel ih =>
    rw [takeAll, takeAll, ← hshows.same h]
    cases hpop : pop s with
    | error e => rfl
    | ok taken =>
      cases taken with
      | none => rfl
      | some taken =>
        obtain ⟨item, s'⟩ := taken
        exact congrArg (Outcome.prepend item) (ih (hshows.keeps h hpop))

theorem takeAll_keeps (hshows : Shows pop next view Inv) {s s' : σ} (h : Inv s) {fuel : Nat}
    (htake : (takeAll pop fuel s).state = .ok s') : Inv s' := by
  induction fuel generalizing s with
  | zero =>
    cases htake
    exact h
  | succ fuel ih =>
    rw [takeAll] at htake
    split at htake
    · cases htake
    · cases htake
      exact h
    · rename_i item s'' hpop
      exact ih (hshows.keeps h hpop) htake

variable {append : σ → List α → Except ε σ} {size : σ → Nat}

/-- **A reader that accepts its chunks reads as its window does.** -/
theorem feed_view (hshows : Shows pop next view Inv) (hsize : ∀ s, size s = (view s).length)
    {Ok : σ → List α → Prop} (happend : ∀ {s chunk}, Inv s → Ok s chunk →
      ∃ s', append s chunk = .ok s' ∧ Inv s' ∧ view s' = view s ++ chunk)
    {s : σ} (h : Inv s) {chunks : List (List α)}
    (hok : EachChunk pop append size Ok s chunks) :
    (feed pop append size s chunks).map view = feedWindow next (view s) chunks := by
  induction chunks generalizing s with
  | nil => rfl
  | cons chunk chunks ih =>
    obtain ⟨hchunk, hrest⟩ := hok
    obtain ⟨s', hs', hinv, hview⟩ := happend h hchunk
    have hwindow : feedWindow next (view s) (chunk :: chunks) =
        (takeAll next ((view s').length + 1) (view s')).andThen (feedWindow next · chunks) := by
      rw [hview]
      rfl
    rw [hwindow, ← takeAll_view hshows hinv, feed, hs', ← hsize]
    dsimp only
    cases htake : takeAll pop (size s' + 1) s' with
    | mk items state =>
      cases state with
      | error e => rfl
      | ok s'' =>
        have hstate : (takeAll pop (size s' + 1) s').state = .ok s'' := by rw [htake]
        have hfeed := ih (takeAll_keeps hshows hinv hstate) (hrest s' hs' s'' hstate)
        change ({ items := items ++ (feed pop append size s'' chunks).items,
                  state := (feed pop append size s'' chunks).state.map view } : Outcome ε β (List α)) =
          { items := items ++ (feedWindow next (view s'') chunks).items,
            state := (feedWindow next (view s'') chunks).state }
        rw [← hfeed]
        rfl

theorem eachChunk_iff (hshows : Shows pop next view Inv) {P Q : σ → List α → Prop}
    (happend : ∀ {s chunk s'}, Inv s → append s chunk = .ok s' → Inv s')
    (hiff : ∀ {s chunk}, Inv s → (P s chunk ↔ Q s chunk)) {s : σ} (h : Inv s)
    (chunks : List (List α)) :
    EachChunk pop append size P s chunks ↔ EachChunk pop append size Q s chunks := by
  induction chunks generalizing s with
  | nil => exact Iff.rfl
  | cons chunk chunks ih =>
    refine and_congr (hiff h) (forall_congr' fun s' => forall_congr' fun hs' =>
      forall_congr' fun s'' => forall_congr' fun hs'' => ih ?_)
    exact takeAll_keeps hshows (happend h hs') hs''

end Views

end ArStack.Lib
